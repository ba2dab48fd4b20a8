import PolicyProvider.Manager.Host
/-!
# Address — where a manager is reached

An address is an absolute URL. `Address.normalized` reads one as browsers do: blanks around it and line breaks inside
are dropped, the scheme and host are put into lower case, dot segments of the path are resolved, the scheme's own port
is left out, and characters that may not stand as themselves are percent-encoded.
-/
namespace PolicyProvider
namespace Address

/-- The three kinds of schemes: those with hosts and ports of their own, files, and all others. -/
inductive SchemeKind where
  | hosted
  | file
  | other
deriving DecidableEq

def kindOf (scheme : String) : SchemeKind :=
  if scheme ∈ ["http", "https", "ws", "wss", "ftp"] then .hosted
  else if scheme = "file" then .file else .other

/-- The port that a scheme has when none is given. -/
def ownPort? (scheme : String) : Option Nat :=
  if scheme = "http" ∨ scheme = "ws" then some 80
  else if scheme = "https" ∨ scheme = "wss" then some 443
  else if scheme = "ftp" then some 21 else none

/-- A text encoded character by character where `reserved` says so; controls and characters past ASCII always are. -/
def encoded (reserved : List Char) (text : List Char) : List Char :=
  text.flatMap fun c =>
    if c.toNat < 32 ∨ 126 < c.toNat ∨ c ∈ reserved then (Utf8.encodeChar c).flatMap Percent.encodeByte else [c]

/-- What is encoded in a fragment. -/
def fragmentReserved : List Char := [' ', '"', '<', '>', '\x60']

/-- What is encoded in a path. -/
def pathReserved : List Char := fragmentReserved ++ ['#', '?', '{', '}']

/-- What is encoded in a user name or password. -/
def userReserved : List Char := pathReserved ++ ['/', ':', ';', '=', '@', '[', '\\', ']', '^', '|']

/-- What is encoded in a query. -/
def queryReserved (kind : SchemeKind) : List Char :=
  [' ', '"', '#', '<', '>'] ++ if kind = .other then [] else ['\'']

/-- Whether a character ends the authority. -/
def endsAuthority (kind : SchemeKind) (c : Char) : Bool :=
  c == '/' || c == '?' || c == '#' || (c == '\\' && kind != .other)

/-- The scheme in lower case, and what follows its colon. -/
def scheme? (text : List Char) : Option (String × List Char) :=
  let isMark (c : Char) := c.isAlphanum || c == '+' || c == '-' || c == '.'
  match text.takeWhile isMark, text.dropWhile isMark with
  | c :: name, ':' :: rest => if c.isAlpha then some (String.ofList ((c :: name).map Char.toLower), rest) else none
  | _, _ => none

/-- An authority split at its last at-sign: the user part, if there is one, and the host part. -/
def splitUser (authority : List Char) : Option (List Char) × List Char :=
  let after := (authority.reverse.takeWhile (· != '@')).reverse
  if after.length < authority.length then (some (authority.take (authority.length - after.length - 1)), after)
  else (none, authority)

/-- The user part of an address, encoded; an empty password leaves no colon, and an empty user part no sign. -/
def userText (user : List Char) : List Char :=
  let name := user.takeWhile (· != ':')
  let password := (user.dropWhile (· != ':')).drop 1
  if name.isEmpty ∧ password.isEmpty then []
  else encoded userReserved name ++ (if password.isEmpty then [] else ':' :: encoded userReserved password) ++ ['@']

/-- The host part split at the colon before its port; colons inside brackets do not count. -/
def splitPort : (inside : Bool) → List Char → List Char × Option (List Char)
  | _, [] => ([], none)
  | inside, c :: rest =>
    if c = ':' ∧ !inside then ([], some rest)
    else
      let (host, port) := splitPort (if c = '[' then true else if c = ']' then false else inside) rest
      (c :: host, port)

/-- The number of a port, if one is given and it is not the scheme's own. -/
def portNumber (scheme : String) (text : List Char) : Except AddressError (Option Nat) :=
  if text.isEmpty then .ok none
  else if !text.all Char.isDigit then .error .invalidPort
  else
    let n := text.foldl (fun n c => 10 * n + (c.toNat - 48)) 0
    if 65535 < n then .error .invalidPort
    else .ok (if ownPort? scheme = some n then none else some n)

/-- The host of an address whose scheme is none of the known ones, which is not a domain name. -/
def opaqueHost (text : List Char) : Except AddressError String :=
  match text with
  | '[' :: _ => Host.bracketed? text
  | _ =>
    if text.any (fun c => c.toNat = 0 || " #/:<>?@[\\]^|".toList.contains c) then .error .forbiddenCharacter
    else .ok (String.ofList (encoded [] text))

/-- The host of a file, which may be left out and is this machine if it is named so. -/
def fileHost (text : List Char) : Except AddressError String :=
  if text.isEmpty then .ok ""
  else (Host.known text).map fun h => if h = "localhost" then "" else h

/-- A path segment that stands for the directory itself. -/
def isDot (segment : String) : Bool := segment.map Char.toLower ∈ [".", "%2e"]

/-- A path segment that stands for the directory above. -/
def isDoubleDot (segment : String) : Bool := segment.map Char.toLower ∈ ["..", ".%2e", "%2e.", "%2e%2e"]

/-- A drive: a letter with a colon or a bar. -/
def isDrive : List Char → Bool
  | [c, d] => c.isAlpha && (d == ':' || d == '|')
  | _ => false

/-- A segment that reads as a drive as far as its first backslash. -/
def startsWithDrive (segment : String) : Bool :=
  isDrive (segment.toList.takeWhile (· != '\\'))

/-- The segments left when the last one is given up; a drive stays, whatever the scheme. -/
def parents (done : List String) : List String :=
  match done with
  | [] => []
  | last :: before => if startsWithDrive last then last :: before else before

/-- A line break or tab, which an address leaves out. -/
def isBreak (c : Char) : Bool := c == '\t' || c == '\n' || c == '\r'

def pathPart (text : List Char) : String := String.ofList (encoded pathReserved (text.filter (!isBreak ·)))

/-- A path as far as it has been walked: its segments, latest first, and whether a drive at its start leaves no room for
a host. -/
structure Walk where
  done : List String := []
  dropsHost : Bool := false

/-- A step into a segment. A drive at the start of a file's path always has a colon; if a break cuts it off from the
rest of its segment, it is a segment of its own and the host stays. -/
def Walk.into (kind : SchemeKind) (w : Walk) (segment : List Char) : Walk :=
  let shown := pathPart segment
  if kind = .file ∧ w.done.isEmpty then
    match segment with
    | drive :: ':' :: c :: d :: rest =>
      if drive.isAlpha && isBreak c then { w with done := [pathPart (d :: rest), String.ofList [drive, ':']] }
      else { w with done := [shown] }
    | _ =>
      if isDrive shown.toList then ⟨[String.ofList (shown.toList.take 1 ++ [':'])], true⟩ else
        { w with done := [shown] }
  else { w with done := shown :: w.done }

/-- A step to a segment that stands for a directory; one at the end of a path leaves an empty segment. -/
def Walk.toDirectory (w : Walk) (done : List String) (isLast : Bool) : Walk :=
  { w with done := if isLast then "" :: done else done }

/-- **A walk along segments**, the dot ones resolved. -/
def Walk.along (kind : SchemeKind) (w : Walk) : List (List Char) → Walk
  | [] => w
  | segment :: rest =>
    if isDoubleDot (pathPart segment) then (w.toDirectory (parents w.done) rest.isEmpty).along kind rest
    else if isDot (pathPart segment) then (w.toDirectory w.done rest.isEmpty).along kind rest
    else (w.into kind segment).along kind rest

/-- The walk along what follows the first slash of a path. -/
def walk (kind : SchemeKind) (text : List Char) : Walk := Walk.along kind {} (Host.splitAt '/' text)

/-- The segments of what follows the first slash of a path. -/
def segments (kind : SchemeKind) (text : List Char) : List String := (walk kind text).done.reverse

def pathText (segments : List String) : String := "/" ++ "/".intercalate segments

def slashed (text : List Char) : List Char := text.map fun c => if c = '\\' then '/' else c

/-- A path that starts with a slash, or is empty where that is allowed. -/
def path (kind : SchemeKind) (text : List Char) : String :=
  match if kind = .other then text else slashed text with
  | [] => if kind = .other then "" else "/"
  | '/' :: body => pathText (segments kind body)
  | body => pathText (segments kind body)

/-- The query and fragment at the end of an address, encoded. -/
def tailText (kind : SchemeKind) (text : List Char) : String :=
  let beforeFragment := text.takeWhile (· != '#')
  let fragment := (text.dropWhile (· != '#')).drop 1
  let query := beforeFragment.drop 1
  String.ofList ((if beforeFragment.isEmpty then [] else '?' :: encoded (queryReserved kind) query)
    ++ (if beforeFragment.length < text.length then '#' :: encoded fragmentReserved fragment else []))

def endsPath (c : Char) : Bool := c == '?' || c == '#'

/-- What follows the host of an address: path, query and fragment. -/
def location (kind : SchemeKind) (text : List Char) : String :=
  path kind (text.takeWhile (!endsPath ·)) ++ tailText kind (text.dropWhile (!endsPath ·))

/-- An address with user, host and port, from its authority on. A port ends at a backslash even where a host does
not. A host may be left out only where the scheme is none of the known ones, and not beside a user or a port; an
at-sign alone has to end the address. -/
def fromAuthority (scheme : String) (text : List Char) : Except AddressError String := do
  let kind := kindOf scheme
  let rest := text.dropWhile (!endsAuthority kind ·)
  let (user, hostAndPort) := splitUser (text.takeWhile (!endsAuthority kind ·))
  let (hostText, portText) := splitPort false hostAndPort
  let userShown := (user.map userText).getD []
  if user == some [] && hostAndPort.isEmpty && !rest.isEmpty then throw .emptyHost
  let h ← if kind = .other then opaqueHost hostText else Host.known hostText
  if h.isEmpty && (portText.isSome || !userShown.isEmpty) then throw .emptyHost
  let p ← portNumber scheme ((portText.getD []).takeWhile (· != '\\'))
  let portShown := match p with
    | some n => ":" ++ toString n
    | none => ""
  pure (scheme ++ "://" ++ String.ofList userShown ++ h ++ portShown
    ++ location kind ((portText.getD []).dropWhile (· != '\\') ++ rest))

/-- A text without its breaks, but for one after each drive. -/
def withDriveBreaks (text : List Char) : List Char :=
  let endsInDrive : List Char → Bool
    | ':' :: c :: _ => c.isAlpha
    | _ => false
  (text.foldl (fun done c => if isBreak c && !endsInDrive done then done else c :: done) []).reverse

/-- The host of a file and what its segments are made of: the host stands after two slashes, unless a drive does. The
slash after a host that is left out counts as an empty segment. -/
def fileParts (text : List Char) : Except AddressError (String × List Char) :=
  match text with
  | '/' :: '/' :: rest =>
    let authority := (rest.takeWhile (· != '/')).filter (!isBreak ·)
    let body := rest.dropWhile (· != '/')
    if isDrive authority then .ok ("", rest)
    else (fileHost authority).map fun h => (h, if h.isEmpty then body else body.drop 1)
  | '/' :: body => .ok ("", body)
  | body => .ok ("", body)

/-- The address of a file, from what follows the scheme, its breaks after drives included. A path that starts with a
drive leaves the host out, and empty segments at the start of a path are dropped. -/
def file (text : List Char) : Except AddressError String :=
  (fileParts (slashed (text.takeWhile (!endsPath ·)))).map fun (h, body) =>
    let w := walk .file body
    "file://" ++ (if w.dropsHost then "" else h) ++ pathText (w.done.reverse.dropWhile (·.isEmpty))
      ++ tailText .file ((text.dropWhile (!endsPath ·)).filter (!isBreak ·))

/-- A path without an authority before it: a dot keeps two slashes at its start from being read as one. -/
def lonePath (segments : List String) : String :=
  (if 1 < segments.length ∧ segments.head? = some "" then "/." else "") ++ pathText segments

/-- An address without an authority, whose path is left as it is unless it starts with a slash. -/
def withoutAuthority (scheme : String) (text : List Char) : String :=
  let shown := match text.takeWhile (!endsPath ·) with
    | '/' :: body => lonePath (segments .other body)
    | body => String.ofList (encoded [] body)
  scheme ++ ":" ++ shown ++ tailText .other (text.dropWhile (!endsPath ·))

/-- **The normal form of an address**, or why it is none. -/
def normalized (s : String) : Except AddressError String :=
  let isPad (c : Char) := decide (c.toNat ≤ 32)
  let trimmed := (((s.toList.dropWhile isPad).reverse).dropWhile isPad).reverse
  let text := trimmed.filter (!isBreak ·)
  match scheme? text with
  | none => .error .relative
  | some (scheme, rest) =>
    match kindOf scheme with
    | .hosted => fromAuthority scheme (rest.dropWhile fun c => c == '/' || c == '\\')
    | .file => file (withDriveBreaks ((trimmed.dropWhile (· != ':')).drop 1))
    | .other => match rest with
      | '/' :: '/' :: body => fromAuthority scheme body
      | _ => .ok (withoutAuthority scheme rest)

end Address
end PolicyProvider
