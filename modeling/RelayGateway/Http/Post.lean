import RelayGateway.Bytes
import RelayGateway.Config
import RelayGateway.Failure
import RelayGateway.Text.Utf8
import RelayGateway.Url.Target

/-! # Posting over HTTP

A post carries a body to a URL and brings the body of the reply back. Replies outside of the 200s are
failures that keep the beginning of their body; every other failure is told in a few words that give
away neither URLs nor headers. Redirects are not followed and nothing is sent twice.
-/
namespace RelayGateway

structure HttpTransport where
  userAgent : String

structure HttpRequest where
  target : String
  contentType : String
  userAgent : String
  body : Bytes
deriving DecidableEq, Inhabited

/-- Whether the body of a reply arrives as far as it was announced. -/
inductive BodyEnding where
  | complete
  | cutOff
  | stalled
deriving DecidableEq, Inhabited

structure HttpReply where
  status : Nat
  body : Bytes
  ending : BodyEnding
deriving DecidableEq, Inhabited

inductive HttpPeer where
  /-- No connection can be made. -/
  | unreachable
  /-- It reads the request and hangs up. -/
  | hangsUp
  /-- It reads the request and says nothing. -/
  | silent
  | replies (reply : HttpReply)
deriving DecidableEq, Inhabited

def isHeaderValue (s : String) : Bool :=
  s.toList.all fun c => c = '\t' || (' ' ≤ c && c ≠ '\x7f')

def HttpRequest.line (r : HttpRequest) : String := "POST " ++ r.target ++ " HTTP/1.1"

namespace HttpReply

def isBodiless (r : HttpReply) : Bool := [101, 204, 304].contains r.status

def isSuccess (r : HttpReply) : Bool := 200 ≤ r.status && r.status < 300

/-- A reply that announces another one. -/
def isInterim (r : HttpReply) : Bool := 100 ≤ r.status && r.status < 200 && r.status ≠ 101

def body? (r : HttpReply) : Option Bytes :=
  if r.isBodiless then some []
  else
    match r.ending with
    | .complete => some r.body
    | _ => none

/-- At most 256 bytes of the text of a failed reply are kept. -/
def failureText (text : String) : String :=
  if text.utf8ByteSize ≤ 256 then text
  else String.ofList (Text.fitting 256 text.toList) ++ "... (truncated)"

/-- Waiting for what never comes ends with the time for the request. -/
def broken (stalled : Bool) (reason : String) : TransportError :=
  if stalled then .timeout else .request reason

def result (r : HttpReply) : Except TransportError Bytes :=
  if r.status < 100 ∨ 999 < r.status then .error (.request "request failed")
  else if r.isInterim then .error (broken (r.ending = .stalled && r.body = []) "request failed")
  else if r.isSuccess then
    match r.body? with
    | some body => .ok body
    | none => .error (broken (r.ending = .stalled) "response decode error")
  else .error (.httpStatus r.status (failureText (Text.lossy (r.body?.getD []))))

end HttpReply

namespace HttpTransport

def ofConfig? (c : TransportConfig) : Except TransportError HttpTransport :=
  if isHeaderValue c.userAgent then .ok ⟨c.userAgent⟩
  else .error (.request "HTTP client build failed: builder error")

def headerText (s : String) : String :=
  let isBlank (c : Char) : Bool := c = ' ' || c = '\t'
  String.ofList (((s.toList.dropWhile isBlank).reverse.dropWhile isBlank).reverse)

def request (t : HttpTransport) (url : String) (body : Bytes) : HttpRequest :=
  ⟨Url.target url, "application/json", headerText t.userAgent, body⟩

def maxUrlLength : Nat := 65534

/-- Whether something can be sent to a URL: not to every host that a URL may have. -/
def canReach (url : Url) (text : String) : Bool :=
  let origin := Url.originChars url
  ["http", "https"].contains url.scheme &&
    !(origin.any fun c => ['"', '\x60', '\x7b', '\x7d'].contains c) &&
    origin.length + (Url.target text).length + (Url.fragment text).length ≤ maxUrlLength

def refusal? (url : String) : Option TransportError :=
  match Url.parse url with
  | .error e => some (.invalidUrl (url ++ ": " ++ e.message))
  | .ok parsed => if canReach parsed url then none else some (.request "network error")

def post (peer : HttpPeer) (url : String) : Except TransportError Bytes :=
  match refusal? url with
  | some e => .error e
  | none =>
    match peer with
    | .unreachable => .error (.connection "connection refused or unreachable")
    | .hangsUp => .error (.request "request failed")
    | .silent => .error .timeout
    | .replies reply => reply.result

def received? (t : HttpTransport) (peer : HttpPeer) (url : String) (body : Bytes) :
    Option HttpRequest :=
  match refusal? url, peer with
  | some _, _ => none
  | none, .unreachable => none
  | none, _ => some (t.request url body)

end HttpTransport
end RelayGateway
