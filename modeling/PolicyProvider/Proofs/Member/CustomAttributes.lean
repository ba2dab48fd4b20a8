import PolicyProvider.Proofs.Member.Scan
import PolicyProvider.Proofs.Member.Script
import PolicyProvider.Proofs.Policy.Mirror
/-!
# CustomAttributes — pages and patches of either manager

A page shows the same whichever manager it comes from (`shown_listed`), and it shows the members that it has
(`lists_view_iff`).  A patch is written the same whichever manager it goes to.  The conversions between the two sides
never fail.
-/
namespace PolicyProvider
namespace CustomAttributes

/-- **The patch of either manager**: none fails, and both are written as the record is. -/
theorem patch_eq_ok (t : Topology) (key value : String) :
    ∃ patch, kind.patch t key value = .ok patch ∧ patchTree t patch = (record key value).toTree := by
  cases t with
  | localManager => exact ⟨record key value, rfl, rfl⟩
  | globalManager => exact ⟨toGlobal (record key value), mirror.convert_there _, rfl⟩

def seen (m : Except String Response) : Except RemoteError PageView :=
  (listed LocalPolicy.ProfilePage.ofTree? m).map localView

theorem content_map {α β : Type} {read : Json.Tree → Option α} {read' : Json.Tree → Option β} {f : α → β}
    (h : ∀ t, read' t = (read t).map f) (r : Response) : r.content read' = (r.content read).map f := by
  unfold Response.content
  cases r.text? with
  | none => rfl
  | some text =>
    simp only
    split
    · cases Json.parse? text.toList with
      | none => rfl
      | some tree =>
        rw [Option.bind_some, Option.bind_some, h tree]
        cases read tree <;> rfl
    · rfl

theorem listed_map {α β : Type} {read : Json.Tree → Option α} {read' : Json.Tree → Option β} {f : α → β}
    (h : ∀ t, read' t = (read t).map f) (m : Except String Response) : listed read' m = (listed read m).map f := by
  cases m with
  | error reason => rfl
  | ok r => exact content_map h r

def pageOf : (t : Topology) → LocalPolicy.ProfilePage → kind.Page t
  | .localManager => id
  | .globalManager => ProfilePage.toGlobal

theorem readPage_eq (t : Topology) (tree : Json.Tree) :
    readPage t tree = (LocalPolicy.ProfilePage.ofTree? tree).map (pageOf t) := by
  cases t with
  | localManager => exact (Option.map_id_apply ..).symm
  | globalManager => exact ProfilePage.ofTree?_toGlobal tree

theorem view_global (page : GlobalPolicy.ProfilePage) :
    kind.view .globalManager page = .ok (localView (ProfilePage.toLocal page)) :=
  congrArg (Except.map localView) (ProfilePage.mirror.convert_back page)

theorem view_pageOf (t : Topology) (page : LocalPolicy.ProfilePage) :
    kind.view t (pageOf t page) = .ok (localView page) := by
  cases t with
  | localManager => rfl
  | globalManager =>
    have hback : ProfilePage.toLocal (ProfilePage.toGlobal page) = page := ProfilePage.mirror.back_there page
    exact (view_global _).trans (congrArg (fun p => Except.ok (localView p)) hback)

/-- **That a page has a member under a key**: a group of one of its profiles has the key, and the member as a value. -/
def Holds : (t : Topology) → kind.Page t → (key member : String) → Prop
  | .localManager, (page : LocalPolicy.ProfilePage), key, member =>
    ∃ profile ∈ page.results, ∃ group ∈ profile.attributes, group.key = some key ∧ member ∈ group.value
  | .globalManager, (page : GlobalPolicy.ProfilePage), key, member =>
    ∃ profile ∈ page.results, ∃ group ∈ profile.attributes, group.key = some key ∧ member ∈ group.value

/-- **A page shows the members that it has.** -/
theorem lists_view_iff {t : Topology} {page : kind.Page t} {view : PageView} (h : kind.view t page = .ok view)
    (key member : String) : view.lists key member = true ↔ Holds t page key member := by
  cases t with
  | localManager =>
    cases h
    exact LocalPolicy.ProfilePage.lists_iff page key member
  | globalManager =>
    cases (view_global page).symm.trans h
    refine (LocalPolicy.ProfilePage.lists_iff (ProfilePage.toLocal page) key member).trans ?_
    simp only [ProfilePage.toLocal, ContextProfile.toLocal, Attributes.toLocal, List.mem_map, exists_exists_and_eq_and,
      Holds]

/-- **A page shows the same on either side.** -/
theorem shown_listed (t : Topology) (m : Except String Response) :
    shown kind t (listed (readPage t) m) = (seen m).mapError .remote := by
  rw [listed_map (readPage_eq t)]
  unfold seen
  cases listed LocalPolicy.ProfilePage.ofTree? m with
  | error e => rfl
  | ok page =>
    change (kind.view t (pageOf t page)).mapError MemberError.conversion = _
    rw [view_pageOf]
    rfl

theorem answered_listed (s : Scan) (m : Except String Response) :
    s.answered kind (listed (readPage s.topology) m) = Scan.judged s ((seen m).mapError .remote) := by
  rw [Scan.answered_eq, shown_listed]

theorem judged_missing (s : Scan) {e : RemoteError} (he : e.isNotFound = true) :
    s.judged ((Except.error e).mapError .remote) = .ok (.settled false) :=
  if_pos he

theorem judged_failed (s : Scan) {e : RemoteError} (he : ¬ e.isNotFound = true) :
    s.judged ((Except.error e).mapError .remote) = .error (.remote e) :=
  if_neg he

theorem judged_page (s : Scan) (view : PageView) :
    s.judged ((.ok view : Except RemoteError PageView).mapError .remote) = .ok (s.read view) :=
  rfl

theorem resumed_listed {α : Type} (s : Scan) (next : Except MemberError Bool → Program kind α)
    (m : Except String Response) :
    Program.resumed s next (listed (readPage s.topology) m) = match seen m with
      | .error e => if e.isNotFound then next (.ok false) else next (.error (.remote e))
      | .ok page => match s.read page with
        | .settled present => next (.ok present)
        | .further onward => .scan onward next := by
  unfold Program.resumed
  rw [answered_listed]
  cases seen m with
  | error e =>
    by_cases he : e.isNotFound = true
    · rw [judged_missing s he]
      exact (if_pos he).symm
    · rw [judged_failed s he]
      exact (if_neg he).symm
  | ok page =>
    simp only [judged_page]
    cases s.read page <;> rfl

end CustomAttributes
end PolicyProvider
