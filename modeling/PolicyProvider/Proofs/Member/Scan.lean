import PolicyProvider.Member.Scan
/-!
# Scan — what a listing shows, and what a scan makes of it

What meets a scan is a page to look at or an error (`shown`), and that alone decides how the scan goes on (`judged`).
Of a page it makes one of four things (`Scan.Reading`): it counts as empty, it lists the member, it is the last one, or
it leads on to a cursor that was not followed before.
-/
namespace PolicyProvider

def MemberError.saysMissing : MemberError → Bool
  | .remote e => e.isNotFound
  | _ => false

/-- Where a page leads: its cursor, unless that is empty. -/
def PageView.next? (page : PageView) : Option String :=
  page.cursor.filter (· ≠ "")

theorem PageView.next?_eq_some {page : PageView} {next : String} :
    page.next? = some next ↔ page.cursor = some next ∧ next ≠ "" := by
  unfold next?
  rw [Option.filter_eq_some_iff, decide_eq_true_eq]

def shown (K : MemberKind) (t : Topology) : Except RemoteError (K.Page t) → Except MemberError PageView
  | .error e => .error (.remote e)
  | .ok page => (K.view t page).mapError .conversion

namespace Scan

def judged (s : Scan) : Except MemberError PageView → Except MemberError ScanVerdict
  | .error e => if e.saysMissing then .ok (.settled false) else .error e
  | .ok page => .ok (s.read page)

theorem answered_eq (K : MemberKind) (s : Scan) (answer : Except RemoteError (K.Page s.topology)) :
    s.answered K answer = judged s (shown K s.topology answer) := by
  cases answer with
  | error e => rfl
  | ok page =>
    simp only [answered, shown]
    cases K.view s.topology page <;> rfl

/-- **All that a scan can make of a page.** -/
inductive Reading (s : Scan) (page : PageView) : ScanVerdict → Prop
  | empty (hcount : page.resultCount = some 0) : Reading s page (.settled false)
  | present (hcount : page.resultCount ≠ some 0) (hlists : page.lists s.key s.member = true) :
      Reading s page (.settled true)
  | last (hcount : page.resultCount ≠ some 0) (hlists : page.lists s.key s.member = false)
      (hnext : ∀ next, page.next? = some next → next ∈ s.followed) : Reading s page (.settled false)
  | further {next : String} (hcount : page.resultCount ≠ some 0) (hlists : page.lists s.key s.member = false)
      (hnext : page.next? = some next) (hnew : next ∉ s.followed) :
      Reading s page (.further { s with cursor := some next, followed := next :: s.followed })

theorem reading (s : Scan) (page : PageView) : Reading s page (s.read page) := by
  unfold read
  by_cases hcount : page.resultCount = some 0
  · rw [if_pos hcount]
    exact .empty hcount
  rw [if_neg hcount]
  by_cases hlists : page.lists s.key s.member = true
  · rw [if_pos hlists]
    exact .present hcount hlists
  rw [if_neg hlists]
  have hlists := eq_false_of_ne_true hlists
  cases hcursor : page.cursor with
  | none =>
    refine .last hcount hlists fun next hnext => ?_
    rw [PageView.next?_eq_some, hcursor] at hnext
    cases hnext.1
  | some cursor =>
    simp only
    by_cases hend : cursor = "" ∨ cursor ∈ s.followed
    · rw [if_pos hend]
      refine .last hcount hlists fun next hnext => ?_
      rw [PageView.next?_eq_some, hcursor] at hnext
      obtain ⟨rfl, hne⟩ := hnext.imp_left Option.some.inj
      exact hend.resolve_left hne
    · obtain ⟨hne, hnew⟩ := not_or.1 hend
      rw [if_neg hend]
      exact .further hcount hlists (PageView.next?_eq_some.2 ⟨hcursor, hne⟩) hnew

theorem Reading.read_eq {s : Scan} {page : PageView} {verdict : ScanVerdict} (h : Reading s page verdict) :
    s.read page = verdict := by
  unfold read
  cases h with
  | empty hcount => rw [if_pos hcount]
  | present hcount hlists => rw [if_neg hcount, if_pos hlists]
  | last hcount hlists hnext =>
    rw [if_neg hcount, hlists, if_neg Bool.false_ne_true]
    cases hcursor : page.cursor with
    | none => rfl
    | some cursor =>
      have hend : cursor = "" ∨ cursor ∈ s.followed := Decidable.or_iff_not_imp_left.2 fun hne =>
        hnext cursor (PageView.next?_eq_some.2 ⟨hcursor, hne⟩)
      exact if_pos hend
  | further hcount hlists hnext hnew =>
    obtain ⟨hcursor, hne⟩ := PageView.next?_eq_some.1 hnext
    rw [if_neg hcount, hlists, if_neg Bool.false_ne_true, hcursor]
    exact if_neg (not_or.2 ⟨hne, hnew⟩)

/-- **A scan makes exactly that of a page.** -/
theorem reading_iff {s : Scan} {page : PageView} {verdict : ScanVerdict} :
    Reading s page verdict ↔ s.read page = verdict := by
  constructor
  · exact Reading.read_eq
  · rintro rfl
    exact s.reading page

theorem eq_of_judged_further {s onward : Scan} {sight : Except MemberError PageView}
    (h : judged s sight = .ok (.further onward)) :
    ∃ page next, sight = .ok page ∧ page.next? = some next ∧ next ∉ s.followed ∧
      onward = { s with cursor := some next, followed := next :: s.followed } := by
  cases sight with
  | error e =>
    rw [judged] at h
    split at h <;> cases h
  | ok page =>
    have hread : Reading s page (.further onward) := reading_iff.2 (Except.ok.inj h)
    cases hread with
    | further hcount hlists hnext hnew => exact ⟨page, _, rfl, hnext, hnew, rfl⟩

end Scan
end PolicyProvider
