import RelayGateway.Json.Record
import RelayGateway.Relay.Error
import RelayGateway.Text.Occurs

/-! # Classification of relay errors

Every relay error is of one kind, and every kind recommends one sanction. Errors that carry a free
message are judged by the phrases in it; the kinds are tried in order of precedence.
-/
namespace RelayGateway

inductive EndpointErrorKind where
  | timeout
  | connectionFailed
  | invalidPayload
  | maxedOut
  | misconfigured
  | internal
deriving DecidableEq, Inhabited

/-- A penalty recommended for an endpoint; `unrecognized` stands for every name that is not known. -/
inductive SanctionType where
  | unspecified
  | doNotSanction
  | session
  | permanent
  | unrecognized
deriving DecidableEq, Inhabited

namespace SanctionType

def name : SanctionType → String
  | unspecified => "unspecified"
  | doNotSanction => "do_not_sanction"
  | session => "session"
  | permanent => "permanent"
  | unrecognized => "unrecognized"

def ofName (s : String) : SanctionType :=
  ([unspecified, doNotSanction, session, permanent].find? (fun t => t.name = s)).getD unrecognized

def ofJson? (j : Json) : Option SanctionType := j.variant?.map ofName

def toJson (t : SanctionType) : Json := .string t.name

theorem ofName_name (t : SanctionType) : ofName t.name = t := by cases t <;> rfl

end SanctionType

namespace EndpointErrorKind

def all : List EndpointErrorKind :=
  [timeout, connectionFailed, invalidPayload, maxedOut, misconfigured, internal]

def name : EndpointErrorKind → String
  | timeout => "timeout"
  | connectionFailed => "connection_failed"
  | invalidPayload => "invalid_payload"
  | maxedOut => "maxed_out"
  | misconfigured => "misconfigured"
  | internal => "internal"

def ofName? (s : String) : Option EndpointErrorKind := all.find? (fun k => k.name = s)

def ofJson? (j : Json) : Option EndpointErrorKind := j.variant?.bind ofName?

def toJson (k : EndpointErrorKind) : Json := .string k.name

/-- Faults of the endpoint are sanctioned for the session, internal errors not at all. -/
def recommendedSanction : EndpointErrorKind → SanctionType
  | internal => .unspecified
  | _ => .session

theorem recommendedSanction_eq_session_iff {kind : EndpointErrorKind} :
    kind.recommendedSanction = .session ↔ kind ≠ .internal := by
  cases kind <;> simp [recommendedSanction]

theorem ofName?_name (k : EndpointErrorKind) : ofName? k.name = some k := by cases k <;> rfl

end EndpointErrorKind

/-- The phrases that tell a kind, in order of precedence. Each entry of a list is a set of phrases
that must all occur. -/
def tellingPhrases : List (EndpointErrorKind × List (List String)) := [
  (.maxedOut, [["evidence is sealed"], ["codespace: pocketcore", "code: 90"], ["maxed out"],
    ["rate limit"]]),
  (.misconfigured, [["service not configured"], ["unsupported service"], ["chain not supported"]]),
  (.timeout, [["context deadline exceeded"], ["i/o timeout"], ["timed out"],
    ["dial tcp", "timeout"]]),
  (.connectionFailed, [["connection refused"], ["connection reset"], ["no route to host"],
    ["network is unreachable"], ["broken pipe"], ["dial tcp: lookup"], ["no such host"], ["tls: "],
    ["certificate"]]),
  (.invalidPayload, [["malformed http"], ["invalid status"], ["non json response"],
    ["unexpected eof"], ["contentlength"]])]

def tells (text : List Char) (phrases : List (List String)) : Bool :=
  phrases.any fun all => all.all (Text.mentions text)

def classifyMessage (message : String) : Option EndpointErrorKind :=
  (tellingPhrases.find? fun e => tells (Text.lower message) e.2).map Prod.fst

def TransportError.kind : TransportError → EndpointErrorKind
  | timeout => .timeout
  | connection reason => (classifyMessage reason).getD .connectionFailed
  | httpStatus status body =>
    (classifyMessage body).getD (if status = 429 then .maxedOut else .invalidPayload)
  | invalidUrl _ => .misconfigured
  | request reason => (classifyMessage (request reason).message).getD .internal

namespace RelayError

def kind : RelayError → EndpointErrorKind
  | timeout => .timeout
  | transport cause => cause.kind
  | validation _ .timeout => .timeout
  | validation _ (.invalidRelayResponse reason) => (classifyMessage reason).getD .invalidPayload
  | validation endpoint cause =>
    (classifyMessage (validation endpoint cause).message).getD .internal
  | _ => .internal

def sanction (e : RelayError) : SanctionType := e.kind.recommendedSanction

end RelayError
end RelayGateway
