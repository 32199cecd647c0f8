import RelayGateway.Sha256
import RelayGateway.Signing.Request

/-! # Signature keys

A signature is known by the digest of what it depends on: the session, the supplier, the application
and the payload, each preceded by its length so that no byte can move from one field into the next.
-/
namespace RelayGateway

def lengthPrefixed (field : Bytes) : Bytes := Bytes.ofWord field.length ++ field

def signatureInput (sessionId supplier appAddress payload : Bytes) : Bytes :=
  lengthPrefixed sessionId ++ lengthPrefixed supplier ++ lengthPrefixed appAddress ++
    lengthPrefixed payload

structure SignatureKey where
  digest : Bytes
deriving DecidableEq, Inhabited

namespace SignatureKey

def of (sessionId supplier appAddress : String) (payload : Bytes) : SignatureKey :=
  ⟨Sha256.digest (signatureInput (Bytes.ofString sessionId) (Bytes.ofString supplier)
    (Bytes.ofString appAddress) payload)⟩

def ofRequest (r : RelayRequest) (app : Application) : SignatureKey :=
  of r.header.sessionId r.supplier app.address r.payload

def hex (k : SignatureKey) : String := Bytes.hex k.digest

def brief (k : SignatureKey) : String :=
  "SignatureKey(" ++ String.ofList ((Bytes.hexChars k.digest).take 12) ++ ")"

end SignatureKey
end RelayGateway
