import PolicyProvider.Proofs.InMemory.Store
/-!
# Slices — how a member is looked up does not depend on the size of pages

The slices that a scan reads are cut from the list one behind the other, so put together they are its start
(`flatten_slices`).  Whatever the size of pages, a scan answers whether the list holds the member (`find_by_slices`);
the size decides how many listings it takes.
-/
namespace PolicyProvider
namespace InMemory

open Program (Runs)

namespace Collection

theorem flatten_slices (size count : Nat) (values : List String) :
    (slices size count values).flatten = values.take (count * size) := by
  induction count generalizing values with
  | zero => simp [slices]
  | succ count ih =>
    have hsum : (count + 1) * size = size + count * size := by
      rw [Nat.succ_mul, Nat.add_comm]
    rw [slices_succ, List.flatten_cons, ih, hsum, List.take_add]

variable {c : Collection}

theorem lookups_room_of_unsized (h : c.pageSize = none) (member : String) (values : List String) :
    lookups (c.room values.length) member values = 1 := by
  have hroom : c.room values.length = max values.length 1 := by
    rw [room, h, Option.getD_none]
  rw [hroom]
  have hle : values.length ≤ max values.length 1 := Nat.le_max_left _ _
  by_cases hin : member ∈ values
  · apply lookups_of_mem_take
    rwa [List.take_of_length_le hle]
  · exact lookups_of_length_le (Nat.le_max_right _ _) hle hin

theorem room_of_sized {size : Nat} (h : c.pageSize = some size) (total : Nat) : c.room total = size := by
  rw [room, h, Option.getD_some]

/-- **Whether a member is found does not depend on the size of pages**, nor on the manager that is asked, as long as the
list of its key does not outgrow a word: it is found if the list holds it.  A member that is found takes a listing for
every full page before it and one more; one that is not found takes a listing for every page, and an empty list takes
one.  The pages that the listings are answered with are the slices of the list, one behind the other, so they are the
start of the list without a gap or a repetition. -/
theorem find_by_slices (h : c.Paged) {key : String} (hfits : (c.membersOf key).length < Digit.wordLimit) (t : Topology)
    (member : String) :
    ∃ log after, Runs server (Lifecycle.find kind t key member).run c log
      (.ok (decide (member ∈ c.membersOf key))) after ∧
      c.perform (Lifecycle.find kind t key member) = (some (.ok (decide (member ∈ c.membersOf key))), after) ∧
      (c.pageSize = none → log.length = 1) ∧
      (∀ size, c.pageSize = some size →
        (member ∈ c.membersOf key → log.length = (c.membersOf key).idxOf member / size + 1) ∧
        (member ∉ c.membersOf key → log.length = max 1 (((c.membersOf key).length + size - 1) / size))) ∧
      log.map pageMembers? = (slices (c.room (c.membersOf key).length) log.length (c.membersOf key)).map some ∧
      (slices (c.room (c.membersOf key).length) log.length (c.membersOf key)).flatten =
        (c.membersOf key).take (log.length * c.room (c.membersOf key).length) := by
  obtain ⟨log, qs, hrun, hlog, hqs, hpages⟩ := find_runs h hfits t member
  have hcalls : log.length = lookups (c.room (c.membersOf key).length) member (c.membersOf key) := hlog.trans hqs
  have hbound : log.length ≤ c.callBound := by
    have hle := lookups_le (h.room_pos (c.membersOf key).length) member (c.membersOf key)
    have hmost := c.length_membersOf_le key
    omega
  refine ⟨log, c.asked t qs, hrun, ?_, ?_, ?_, hpages, flatten_slices _ _ _⟩
  · have hends := hrun.run_of_le hbound
    unfold perform
    change ((Program.run server c.callBound (.scan (Lifecycle.scanFor kind t key member) .done) c).1.result?,
      (Program.run server c.callBound (.scan (Lifecycle.scanFor kind t key member) .done) c).2) = _
    rw [hends]
    rfl
  · intro hunsized
    rw [hcalls, lookups_room_of_unsized hunsized]
  · intro size hsize
    rw [hcalls, room_of_sized hsize, lookups]
    constructor
    · intro hin
      rw [if_pos hin]
    · intro hout
      rw [if_neg hout]

def twoPages : Collection :=
  { pageSize := some 2, failure := some .mutateRejected, members := [("CUSTOM_URL", ["a", "b", "a", "c"])] }

/-- Behind the last full page there is no further one to ask for. -/
theorem find_by_slices_on_two_pages :
    ∃ log after, Runs server (Lifecycle.find kind .globalManager "CUSTOM_URL" "d").run twoPages log (.ok false) after ∧
      log.map pageMembers? = [some ["a", "b"], some ["a", "c"]] := by
  have hpaged : twoPages.Paged := ⟨rfl, by decide, rfl, by decide⟩
  have hfits : (twoPages.membersOf "CUSTOM_URL").length < Digit.wordLimit := by
    rw [Digit.wordLimit_eq]
    decide
  obtain ⟨log, after, hrun, -, -, hcalls, hpages, -⟩ := find_by_slices hpaged hfits .globalManager "d"
  have hlength : log.length = 2 := (hcalls 2 rfl).2 (by decide)
  rw [hlength] at hpages
  exact ⟨log, after, hrun, hpages⟩

end Collection
end InMemory
end PolicyProvider
