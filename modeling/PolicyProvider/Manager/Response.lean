import PolicyProvider.Manager.Fault
/-!
# Response — what came back for a request

A response either answers the request or tells why it does not. `RemoteError` names the reasons that callers tell
apart; a body is looked at only after the status.
-/
namespace PolicyProvider

/-- Why an address is none. -/
inductive AddressError where
  | emptyHost
  | invalidPort
  | forbiddenHost
  | forbiddenCharacter
  | invalidIpv4
  | invalidIpv6
  | relative
deriving DecidableEq

def AddressError.message : AddressError → String
  | .emptyHost => "empty host"
  | .invalidPort => "invalid port number"
  | .forbiddenHost => "invalid international domain name"
  | .forbiddenCharacter => "invalid domain character"
  | .invalidIpv4 => "invalid IPv4 address"
  | .invalidIpv6 => "invalid IPv6 address"
  | .relative => "relative URL without a base"

/-- Why a request had no success. -/
inductive RemoteError where
  /-- No answer, or one that broke off. -/
  | transport (reason : String)
  /-- There is no manager at the address. -/
  | address (e : AddressError)
  /-- The object does not exist. -/
  | notFound (text : String)
  /-- The manager refused. -/
  | refused (status : Nat) (text : String) (fault : Option Fault)
  /-- The answer makes no sense. -/
  | unreadable (reason : String)
  /-- The credentials were not accepted. -/
  | unauthorized (status : Nat)
  /-- Too many requests. -/
  | rateLimited
  /-- The manager is not available. -/
  | unavailable

namespace RemoteError

def message : RemoteError → String
  | .transport reason => "HTTP request failed: " ++ reason
  | .address e => "Invalid endpoint URL: " ++ e.message
  | .notFound text => "Object not found: " ++ text
  | .refused status text _ => "API returned error (HTTP " ++ toString status ++ "): " ++ text
  | .unreadable reason => "Failed to parse response: " ++ reason
  | .unauthorized status => "Authentication failed (HTTP " ++ toString status ++ ")"
  | .rateLimited => "Too many requests, rate limited"
  | .unavailable => "Service unavailable, retry later"

def isNotFound : RemoteError → Bool
  | .notFound _ => true
  | _ => false

end RemoteError

/-- The body of a response: all of it, or broken off on the way. -/
inductive Body where
  | complete (bytes : List UInt8)
  | broken
deriving DecidableEq

/-- What came back for a request. -/
structure Response where
  status : Nat
  body : Body
deriving DecidableEq

namespace Response

/-- Whether the request had success. -/
def isSuccess (r : Response) : Bool := decide (200 ≤ r.status) && decide (r.status < 300)

def text? (r : Response) : Option String :=
  match r.body with
  | .complete bytes => some (Utf8.decodeLossy bytes)
  | .broken => none

/-- **The error of a status that is no success**; its message is the fault's, or else the text itself. -/
def errorOf (status : Nat) (text : String) : RemoteError :=
  let fault := Fault.parse? text.toList
  let shown := (fault.bind Fault.fullMessage?).getD text
  if status = 404 then .notFound shown
  else if status = 401 ∨ status = 403 then .unauthorized status
  else if status = 429 then .rateLimited
  else if status = 503 then .unavailable
  else .refused status shown fault

/-- **The content of an answer.** The body has to arrive whatever the status says. -/
def content {α : Type} (read : Json.Tree → Option α) (r : Response) : Except RemoteError α :=
  match r.text? with
  | none => .error (.transport "the body broke off")
  | some text =>
    if r.isSuccess then
      match (Json.parse? text.toList).bind read with
      | some a => .ok a
      | none => .error (.unreadable "Failed to parse response: unexpected content")
    else .error (errorOf r.status text)

/-- **The acknowledgement of an answer**, whose body matters only if it is no success. -/
def acknowledgement (r : Response) : Except RemoteError Unit :=
  if r.isSuccess then .ok () else .error (errorOf r.status (r.text?.getD "Unknown error"))

end Response
end PolicyProvider
