import PolicyProvider.Manager.Address
import PolicyProvider.Manager.Query
import PolicyProvider.Number.Duration
import PolicyProvider.Text.Base64
/-!
# Client — requests to a manager

A client knows the address and the credentials. What carries a request to the manager and an answer back is a
`Transport`: `Script` answers from a list and keeps what it was asked, and `unreachable` never gets through.
-/
namespace PolicyProvider

structure ConnectionSettings where
  host : String
  username : String
  password : String
  allowUnverifiedTls : Bool
  timeout : Duration
deriving DecidableEq

/-- A way to a manager. -/
structure Client where
  baseUrl : String
  username : String
  password : String
deriving DecidableEq

inductive Method where
  | get
  | post
deriving DecidableEq

def Method.word : Method → String
  | .get => "GET"
  | .post => "POST"

structure Request where
  method : Method
  url : String
  authorization : String
  body : Option String := none
deriving DecidableEq

def Request.contentType? (r : Request) : Option String := r.body.map fun _ => "application/json"

/-- **What carries requests**: the answer to a request, or why there is none. -/
structure Transport (σ : Type) where
  exchange : Request → σ → Except String Response × σ

namespace Transport

/-- A transport that never gets through. -/
def unreachable : Transport Unit where
  exchange _ s := (.error "error sending request", s)

end Transport

inductive Reply where
  /-- An answer. -/
  | answer (r : Response)
  /-- The connection is closed without one. -/
  | dropped
deriving DecidableEq

/-- Prepared replies, and the requests made so far. -/
structure Script where
  replies : List Reply
  requests : List Request := []

namespace Script

/-- The body that a status lets through. -/
def delivered (r : Response) : Response :=
  if r.status = 204 ∨ r.status = 304 then { r with body := .complete [] } else r

/-- The answer when no reply is left. -/
def exhausted : Response := ⟨500, .complete (Utf8.encode "no scripted response")⟩

/-- **Answers from a script**, reply by reply. -/
def transport : Transport Script where
  exchange request s :=
    let requests := s.requests ++ [request]
    match s.replies with
    | [] => (.ok exhausted, ⟨[], requests⟩)
    | .answer r :: rest => (.ok (delivered r), ⟨rest, requests⟩)
    | .dropped :: rest => (.error "connection closed before the answer", ⟨rest, requests⟩)

end Script

namespace Client

def withoutTrailingSlashes (s : String) : String :=
  String.ofList ((s.toList.reverse.dropWhile (· == '/')).reverse)

def namesScheme (host : List Char) : Bool :=
  match host with
  | [] => false
  | c :: rest => (c == ':' && rest.take 2 == ['/', '/']) || namesScheme rest

/-- **The client for a connection.** A host without a scheme is reached over TLS. -/
def connect (s : ConnectionSettings) : Except RemoteError Client :=
  let host := if namesScheme s.host.toList then s.host else "https://" ++ s.host
  match Address.normalized host with
  | .error e => .error (.address e)
  | .ok url => .ok ⟨withoutTrailingSlashes url, s.username, s.password⟩

/-- A client on one line; the password is not shown. -/
def text (c : Client) : String :=
  "Client \x7b base_url: " ++ quoted c.baseUrl ++ ", username: " ++ quoted c.username ++ ", .. \x7d"

/-- The credentials as a request carries them. -/
def authorization (c : Client) : String :=
  "Basic " ++ String.ofList (Base64.encode (Utf8.encode (c.username ++ ":" ++ c.password)))

def url (c : Client) (path : String) (query : QueryParams) : String := c.baseUrl ++ path ++ query.text

variable {σ : Type}

/-- **Gets what is at a path.** -/
def get {α : Type} (c : Client) (t : Transport σ) (read : Json.Tree → Option α) (path : String) (query : QueryParams)
    (s : σ) : Except RemoteError α × σ :=
  match t.exchange { method := .get, url := c.url path query, authorization := c.authorization } s with
  | (.ok r, s) => (r.content read, s)
  | (.error reason, s) => (.error (.transport reason), s)

/-- **Posts a body to a path.** -/
def post (c : Client) (t : Transport σ) (path : String) (query : QueryParams) (body : Json.Tree) (s : σ) :
    Except RemoteError Unit × σ :=
  let request : Request :=
    { method := .post, url := c.url path query, authorization := c.authorization,
      body := some (String.ofList body.written) }
  match t.exchange request s with
  | (.ok r, s) => (r.acknowledgement, s)
  | (.error reason, s) => (.error (.transport reason), s)

end Client
end PolicyProvider
