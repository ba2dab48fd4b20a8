import PolicyProvider.Proofs.InMemory.Store
import PolicyProvider.Proofs.Member.Cursors
/-!
# Calls — one call to a collection in memory, however it was told to answer

A listing leaves all but the queries as it was, and shows nothing but members of its key and cursors of a finite set
(`shown_list`, `confined`).  A change is carried out or refused (`mutate_of_rejecting`, `mutate_of_accepting`).  So a
scan ends in every collection, with its lists as they were, and finds nothing that they do not hold (`find_ends`).
-/
namespace PolicyProvider
namespace InMemory

open Program (Runs)

namespace Collection

/-! ## Listings -/

theorem list_snd (c : Collection) (t : Topology) (q : MemberQuery) : (server.list t q c).2 = c.asked t [q] := by
  change (c.list t q).2 = _
  unfold list
  cases c.listError? <;> cases t <;> rfl

theorem shown_list {c : Collection} {t : Topology} {q : MemberQuery} {view : PageView}
    (h : shown kind t (server.list t q c).1 = .ok view) :
    view.cursor = (c.page q).cursor ∧ view.lists = (c.page q).view.lists := by
  change shown kind t (c.list t q).1 = .ok view at h
  unfold list at h
  cases hfailed : c.listError? with
  | some e =>
    rw [hfailed] at h
    cases h
  | none =>
    rw [hfailed] at h
    change (viewOf t (c.served (c.page q) t)).mapError MemberError.conversion = .ok view at h
    cases t with
    | localManager =>
      cases h
      exact ⟨rfl, rfl⟩
    | globalManager =>
      unfold viewOf served localized at h
      simp only at h
      split at h
      · cases h
        exact ⟨rfl, rfl⟩
      · cases h

theorem mem_of_lists {c : Collection} {q : MemberQuery} {key member : String}
    (h : (c.page q).view.lists key member = true) : q.key = key ∧ member ∈ c.membersOf key := by
  change (q.key == key && (c.page q).members.any (· == member)) = true at h
  obtain ⟨hkey, hmember⟩ := Bool.and_eq_true_iff.1 h
  obtain rfl := eq_of_beq hkey
  rw [List.any_beq', List.contains_eq_mem, decide_eq_true_eq] at hmember
  exact ⟨rfl, List.mem_of_mem_take (List.mem_of_mem_drop hmember)⟩

def cursorsOf (c : Collection) (key : String) : Finset String :=
  (Finset.range (c.membersOf key).length).image toString ∪ c.cursorCycle.toFinset

theorem card_cursorsOf_le (c : Collection) (key : String) :
    (c.cursorsOf key).card ≤ (c.membersOf key).length + c.cursorCycle.length := by
  refine Nat.le_trans (Finset.card_union_le _ _) (Nat.add_le_add ?_ (List.toFinset_card_le _))
  exact Nat.le_trans Finset.card_image_le (Nat.le_of_eq (Finset.card_range _))

theorem cursor_page_mem {c : Collection} {q : MemberQuery} {next : String} (h : (c.page q).cursor = some next) :
    next ∈ c.cursorsOf q.key := by
  unfold page at h
  simp only at h
  generalize min (c.offset (c.membersOf q.key).length q.paging.cursor +
    c.pageSize.getD (max (c.membersOf q.key).length 1)) (c.membersOf q.key).length = stop at h
  split at h
  · refine Finset.mem_union_right _ (List.mem_toFinset.2 ?_)
    unfold nextInCycle at h
    exact List.mem_of_getElem? h
  · split at h
    · rename_i hstop
      cases h
      exact Finset.mem_union_left _ (Finset.mem_image.2 ⟨stop, Finset.mem_range.2 hstop, rfl⟩)
    · cases h

/-- **The listings of a key lead to finitely many cursors.** -/
theorem confined (c : Collection) (t : Topology) (key : String) :
    Confined server t key (fun st => ∃ qs, st = c.asked t qs) (c.cursorsOf key) := by
  refine ⟨?_, ?_⟩
  · rintro q _ - ⟨qs, rfl⟩
    exact ⟨qs ++ [q], by rw [list_snd, asked_asked]⟩
  · rintro q _ view next rfl ⟨qs, rfl⟩ hshown hnext
    have hcursor := (PageView.next?_eq_some.1 hnext).1
    rw [(shown_list hshown).1] at hcursor
    have hmem := cursor_page_mem hcursor
    have hsame : (c.asked t qs).cursorsOf q.key = c.cursorsOf q.key := by
      unfold cursorsOf
      rw [membersOf_asked]
      cases t <;> rfl
    rwa [hsame] at hmem

/-- **A scan ends**, with the lists as they were; what it finds is in them, and if it fails a listing did. -/
theorem find_ends (c : Collection) (t : Topology) (key member : String) :
    ∃ log r qs, Runs server (.scan (Lifecycle.scanFor kind t key member) .done) c log r (c.asked t qs) ∧
      log.length ≤ (c.membersOf key).length + c.cursorCycle.length + 1 ∧
      (r = .ok true → member ∈ c.membersOf key) ∧ ∀ e, r = .error e → e.ofListing = true := by
  have hstart : ∃ qs, c = c.asked t qs := ⟨[], (c.asked_nil t).symm⟩
  have hnone : ∀ x ∈ ([] : List String), x ∈ c.cursorsOf key := fun _ hx => absurd hx List.not_mem_nil
  obtain ⟨log, r, st', hrun, hlen, ⟨qs, rfl⟩, hscouted⟩ := (c.confined t key).scan_ends
    (s := Lifecycle.scanFor kind t key member) rfl rfl List.nodup_nil hnone hstart
  have hcard := c.card_cursorsOf_le key
  refine ⟨log, r, qs, hrun, ?_, fun hr => ?_, hscouted.failed⟩
  · change log.length + 0 ≤ _ at hlen
    omega
  · obtain ⟨q, st, view, hq, ⟨rs, rfl⟩, hshown, hlists⟩ := hscouted.present hr
    rw [(shown_list hshown).2] at hlists
    have hmem := (mem_of_lists hlists).2
    rwa [membersOf_asked] at hmem

/-! ## Changes -/

def unaltered (c : Collection) (t : Topology) (action : PatchAction) (id : MemberId) : Collection :=
  { c.counted t with mutations := c.mutations ++ [⟨id.key, [id.member], action, t⟩] }

theorem membersOf_unaltered (c : Collection) (t : Topology) (action : PatchAction) (id : MemberId) :
    (c.unaltered t action id).membersOf = c.membersOf := by
  cases t <;> rfl

theorem mutate_of_rejecting {c : Collection} (h : c.failure = some .mutateRejected) (t : Topology)
    (action : PatchAction) (id : MemberId) :
    ∃ e, server.mutate t action (⟨id.key, [id.member]⟩ : Patch) c = (.error e, c.unaltered t action id) := by
  refine ⟨.refused 400 "Invalid value" none, ?_⟩
  change c.mutate t action ⟨id.key, [id.member]⟩ = _
  unfold mutate
  rw [if_pos h]
  rfl

theorem mutate_of_accepting {c : Collection} (h : c.failure ≠ some .mutateRejected) (t : Topology)
    (action : PatchAction) (id : MemberId) :
    server.mutate t action (⟨id.key, [id.member]⟩ : Patch) c = (.ok (), c.altered t action id) := by
  change c.mutate t action ⟨id.key, [id.member]⟩ = _
  unfold mutate
  rw [if_neg h]
  cases t <;> rfl

theorem membersOf_mutate (c : Collection) (t : Topology) (action : PatchAction) (p : Patch) :
    (c.mutate t action p).2.membersOf = if c.failure = some .mutateRejected then c.membersOf
      else Function.update c.membersOf p.key (changed action (c.membersOf p.key) p.members) := by
  unfold mutate
  by_cases hreject : c.failure = some .mutateRejected
  · rw [if_pos hreject, if_pos hreject]
    cases t <;> rfl
  · rw [if_neg hreject, if_neg hreject]
    funext key
    unfold membersOf
    simp only
    by_cases hkey : key = p.key
    · subst hkey
      rw [Entries.get?_put_self, Function.update_self]
      rfl
    · rw [Entries.get?_put_of_ne hkey, Function.update_of_ne hkey]

/-! ## How a collection is told to answer -/

/-- The size of its pages, the circle of its cursors, and how it fails. -/
def setting (c : Collection) : Option Nat × List String × Option Failure := (c.pageSize, c.cursorCycle, c.failure)

theorem setting_asked (c : Collection) (t : Topology) (qs : List MemberQuery) : (c.asked t qs).setting = c.setting := by
  cases t <;> rfl

theorem setting_mutate (c : Collection) (t : Topology) (action : PatchAction) (p : Patch) :
    (c.mutate t action p).2.setting = c.setting := by
  unfold mutate
  by_cases hreject : c.failure = some .mutateRejected
  · rw [if_pos hreject]
    cases t <;> rfl
  · rw [if_neg hreject]
    cases t <;> rfl

end Collection
end InMemory
end PolicyProvider
