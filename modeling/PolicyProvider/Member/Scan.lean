import PolicyProvider.Member.Collection
/-!
# Scan — looking for a member page by page

A scan starts without a cursor and follows the cursor of each page. It ends with the first page that lists the member,
with an empty result, with a page that has no further cursor, or with a cursor it has followed before.
-/
namespace PolicyProvider

/-- A scan under way: what it looks for, the cursor it asks for next, and those it has followed. -/
structure Scan where
  topology : Topology
  source : String
  key : String
  member : String
  cursor : Option String := none
  followed : List String := []
deriving DecidableEq

/-- Where a scan stands after a page. -/
inductive ScanVerdict where
  | settled (present : Bool)
  | further (next : Scan)
deriving DecidableEq

namespace Scan

def query (s : Scan) : MemberQuery :=
  { key := s.key, source := s.source, paging := { cursor := s.cursor } }

/-- **What a page settles.** -/
def read (s : Scan) (page : PageView) : ScanVerdict :=
  if page.resultCount = some 0 then .settled false
  else if page.lists s.key s.member then .settled true
  else match page.cursor with
    | none => .settled false
    | some next =>
      if next = "" ∨ next ∈ s.followed then .settled false
      else .further { s with cursor := some next, followed := next :: s.followed }

/-- **What an answer to a listing settles.** A collection that does not exist has no members; every other failure ends
the scan. -/
def answered (K : MemberKind) (s : Scan) : Except RemoteError (K.Page s.topology) → Except MemberError ScanVerdict
  | .error e => if e.isNotFound then .ok (.settled false) else .error (.remote e)
  | .ok page => match K.view s.topology page with
    | .error e => .error (.conversion e)
    | .ok view => .ok (s.read view)

end Scan
end PolicyProvider
