import Mathlib.Data.List.Basic
import PolicyProvider.Member.InMemory
import PolicyProvider.Proofs.Json.Numeral
import PolicyProvider.Proofs.Member.Run
import PolicyProvider.Proofs.Member.Scan
/-!
# Paging — a scan of a collection in memory reads the list of a key from its start

A page that a cursor leads to is the slice at the position the cursor names, on either side (`page_at`, `view_served`).
So a scan goes through the list slice by slice (`scan_runs`): it finds a member exactly if the list has it, after
as many listings as it takes to come to the slice with the first copy, each of them answered with the slice behind the
one before, and leaves everything but its queries as it was.
-/
namespace PolicyProvider
namespace InMemory

open Program (Runs)

/-- A collection that serves its lists page by page: listings neither fail nor are garbled, cursors do not go round, and
no page is without room. -/
structure Collection.Paged (c : Collection) : Prop where
  listed : c.listError? = none
  compatible : c.failure ≠ some .incompatibleGlobalPage
  straight : c.cursorCycle = []
  sized : c.pageSize ≠ some 0

namespace Collection

def room (c : Collection) (total : Nat) : Nat := c.pageSize.getD (max total 1)

def asked (c : Collection) : Topology → List MemberQuery → Collection
  | .localManager, qs => { c with queries := c.queries ++ qs, localCalls := c.localCalls + qs.length }
  | .globalManager, qs => { c with queries := c.queries ++ qs, globalCalls := c.globalCalls + qs.length }

@[simp] theorem mutations_asked (c : Collection) (t : Topology) (qs : List MemberQuery) :
    (c.asked t qs).mutations = c.mutations := by cases t <;> rfl

@[simp] theorem membersOf_asked (c : Collection) (t : Topology) (qs : List MemberQuery) (key : String) :
    (c.asked t qs).membersOf key = c.membersOf key := by cases t <;> rfl

@[simp] theorem room_asked (c : Collection) (t : Topology) (qs : List MemberQuery) (total : Nat) :
    (c.asked t qs).room total = c.room total := by cases t <;> rfl

theorem asked_nil (c : Collection) (t : Topology) : c.asked t [] = c := by
  cases t <;> simp [asked]

theorem asked_asked (c : Collection) (t : Topology) (qs rs : List MemberQuery) :
    (c.asked t qs).asked t rs = c.asked t (qs ++ rs) := by
  cases t <;> simp [asked, Nat.add_assoc]

theorem Paged.asked {c : Collection} (h : c.Paged) (t : Topology) (qs : List MemberQuery) : (c.asked t qs).Paged := by
  cases t <;> exact ⟨h.listed, h.compatible, h.straight, h.sized⟩

theorem Paged.room_pos {c : Collection} (h : c.Paged) (total : Nat) : 0 < c.room total := by
  have hs := h.sized
  unfold room
  cases hp : c.pageSize with
  | none => exact Nat.le_max_right total 1
  | some n =>
    rw [hp] at hs
    exact Nat.pos_of_ne_zero fun hn => hs (congrArg some hn)

theorem list_eq {c : Collection} (h : c.Paged) (t : Topology) (q : MemberQuery) :
    server.list t q c = (.ok (c.served (c.page q) t), c.asked t [q]) := by
  change c.list t q = _
  unfold list
  rw [h.listed]
  cases t <;> rfl

theorem view_served {c : Collection} (h : c.Paged) (p : Page) (t : Topology) :
    viewOf t (c.served p t) = .ok p.view := by
  cases t with
  | localManager => rfl
  | globalManager =>
    have hcount : count? (p.resultCount.map fun n => .number (.whole n.toInt)) = some p.resultCount := by
      cases p.resultCount with
      | none => rfl
      | some n => simp only [Option.map_some, count?, Json.Number.toInt64?_toInt]
    unfold served viewOf localized
    simp only [if_neg h.compatible, hcount]
    rfl

theorem page_at {c : Collection} (h : c.Paged) {q : MemberQuery} {o : Nat} (ho : o ≤ (c.membersOf q.key).length)
    (hoff : c.offset (c.membersOf q.key).length q.paging.cursor = o) :
    c.page q = {
      key := q.key
      members := ((c.membersOf q.key).drop o).take (c.room (c.membersOf q.key).length)
      resultCount := some (Int64.ofNat (c.membersOf q.key).length)
      cursor := if o + c.room (c.membersOf q.key).length < (c.membersOf q.key).length then
        some (toString (o + c.room (c.membersOf q.key).length)) else none } := by
  unfold page
  simp only [hoff, h.straight, List.isEmpty_nil, Bool.not_true, Bool.false_eq_true, if_false]
  rw [← room]
  generalize c.room (c.membersOf q.key).length = size
  generalize c.membersOf q.key = values at ho
  have hslice : (values.take (min (o + size) values.length)).drop (min o (min (o + size) values.length)) =
      (values.drop o).take size := by
    rw [Nat.min_eq_left (by omega), List.drop_take, List.take_eq_take_iff, List.length_drop]
    omega
  rw [hslice]
  by_cases hmore : o + size < values.length
  · rw [Nat.min_eq_left (Nat.le_of_lt hmore)]
  · rw [Nat.min_eq_right (Nat.le_of_not_lt hmore), if_neg (Nat.lt_irrefl _), if_neg hmore]

/-! ## How many pages a scan reads -/

/-- **How many listings it takes to look for a member in a list**: up to the slice with its first copy, or all of
them; an empty list takes one. -/
def lookups (size : Nat) (member : String) (rest : List String) : Nat :=
  if member ∈ rest then rest.idxOf member / size + 1 else max 1 ((rest.length + size - 1) / size)

theorem mem_drop_iff {size : Nat} {member : String} {rest : List String} (h : member ∉ rest.take size) :
    member ∈ rest ↔ member ∈ rest.drop size := by
  conv_lhs => rw [← List.take_append_drop size rest]
  rw [List.mem_append, or_iff_right h]

theorem lookups_of_mem_take {size : Nat} {member : String} {rest : List String} (h : member ∈ rest.take size) :
    lookups size member rest = 1 := by
  have hidx : rest.idxOf member < size := by
    have hlt := List.idxOf_lt_length_of_mem h
    have heq : (rest.take size ++ rest.drop size).idxOf member = (rest.take size).idxOf member :=
      List.idxOf_append_of_mem h
    rw [List.take_append_drop] at heq
    rw [List.length_take] at hlt
    omega
  rw [lookups, if_pos (List.mem_of_mem_take h), Nat.div_eq_of_lt hidx]

theorem lookups_of_length_le {size : Nat} {member : String} {rest : List String} (hsize : 0 < size)
    (hlen : rest.length ≤ size) (h : member ∉ rest) : lookups size member rest = 1 := by
  have hdiv : (rest.length + size - 1) / size < 2 := (Nat.div_lt_iff_lt_mul hsize).2 (by omega)
  rw [lookups, if_neg h]
  omega

theorem lookups_drop {size : Nat} {member : String} {rest : List String} (hsize : 0 < size)
    (hlen : size < rest.length) (h : member ∉ rest.take size) :
    lookups size member rest = lookups size member (rest.drop size) + 1 := by
  have hmem := mem_drop_iff h
  unfold lookups
  by_cases hin : member ∈ rest
  · have hidx : rest.idxOf member = (rest.drop size).idxOf member + size := by
      conv_lhs => rw [← List.take_append_drop size rest]
      rw [List.idxOf_append_of_notMem h, List.length_take, Nat.min_eq_left (Nat.le_of_lt hlen), Nat.add_comm]
    rw [if_pos hin, if_pos (hmem.1 hin), hidx, Nat.add_div_right _ hsize]
  · have hstep : (rest.length + size - 1) / size = (rest.length - 1) / size + 1 := by
      rw [← Nat.add_div_right _ hsize]
      congr 1
      omega
    have hrest : rest.length - size + size - 1 = rest.length - 1 := by omega
    have hpos : 1 ≤ (rest.length - 1) / size := (Nat.one_le_div_iff hsize).2 (by omega)
    rw [if_neg hin, if_neg (mt hmem.2 hin), List.length_drop, hrest, hstep]
    omega

theorem lookups_pos (size : Nat) (member : String) (rest : List String) : 0 < lookups size member rest := by
  unfold lookups
  split
  · exact Nat.succ_pos _
  · exact Nat.lt_of_lt_of_le Nat.one_pos (Nat.le_max_left _ _)

theorem lookups_le {size : Nat} (hsize : 0 < size) (member : String) (rest : List String) :
    lookups size member rest ≤ rest.length + 1 := by
  unfold lookups
  by_cases h : member ∈ rest
  · have hidx := List.idxOf_lt_length_of_mem h
    have hdiv := Nat.div_le_self (rest.idxOf member) size
    rw [if_pos h]
    omega
  · have hdiv : (rest.length + size - 1) / size < rest.length + 1 := by
      rw [Nat.div_lt_iff_lt_mul hsize, Nat.succ_mul]
      have := Nat.le_mul_of_pos_right rest.length hsize
      omega
    rw [if_neg h]
    omega

/-! ## The slices of a list -/

/-- **The first slices of a list**, each starting where the one before it ends. -/
def slices (size count : Nat) (values : List String) : List (List String) :=
  (List.range count).map fun j => (values.drop (j * size)).take size

theorem slices_one (size : Nat) (values : List String) : slices size 1 values = [values.take size] := by
  simp [slices]

theorem slices_succ (size count : Nat) (values : List String) :
    slices size (count + 1) values = values.take size :: slices size count (values.drop size) := by
  have hnext : ∀ j, (values.drop size).drop (j * size) = values.drop ((j + 1) * size) := by
    intro j
    rw [List.drop_drop, Nat.add_comm, ← Nat.succ_mul]
  simp [slices, List.range_succ_eq_map, hnext]

def membersOn : (t : Topology) → PageOf t → List String
  | .localManager, p => Page.members p
  | .globalManager, p => GlobalPage.members p

/-- The members that a call was answered with, if it was answered with a page. -/
def pageMembers? : Call kind → Option (List String)
  | .listing t _ (.ok page) => some (membersOn t page)
  | _ => none

/-! ## A scan, slice by slice -/

theorem count_eq_zero {n : Nat} (hn : n < Digit.wordLimit) : some (Int64.ofNat n) = some 0 ↔ n = 0 := by
  constructor
  · intro h
    have hbits : (Int64.ofNat n).toBitVec.toNat = (0 : Int64).toBitVec.toNat := by rw [Option.some.inj h]
    have hmod : n % 18446744073709551616 = 0 := by simpa using hbits
    rw [Digit.wordLimit_eq] at hn
    rwa [Nat.mod_eq_of_lt hn] at hmod
  · rintro rfl
    rfl

theorem read_slice {s : Scan} {values : List String} {o size : Nat} (hfits : values.length < Digit.wordLimit)
    (hnew : o + size < values.length → toString (o + size) ∉ s.followed) :
    s.read (Page.view ⟨s.key, (values.drop o).take size, some (Int64.ofNat values.length),
      if o + size < values.length then some (toString (o + size)) else none⟩) =
      if s.member ∈ (values.drop o).take size then .settled true
      else if o + size < values.length then
        .further { s with
          cursor := some (toString (o + size))
          followed := toString (o + size) :: s.followed }
      else .settled false := by
  have hlists : (s.key == s.key && ((values.drop o).take size).any (· == s.member)) =
      decide (s.member ∈ (values.drop o).take size) := by
    rw [beq_self_eq_true, Bool.true_and, List.any_beq', List.contains_eq_mem]
  by_cases hempty : values.length = 0
  · have hnil := List.eq_nil_of_length_eq_zero hempty
    subst hnil
    rw [if_neg (by simp), if_neg (by simp)]
    exact Scan.Reading.read_eq (.empty rfl)
  have hcount : some (Int64.ofNat values.length) ≠ some 0 := mt (count_eq_zero hfits).1 hempty
  by_cases hin : s.member ∈ (values.drop o).take size
  · rw [if_pos hin]
    rw [decide_eq_true hin] at hlists
    exact Scan.Reading.read_eq (.present hcount hlists)
  rw [if_neg hin]
  rw [decide_eq_false hin] at hlists
  by_cases hmore : o + size < values.length
  · rw [if_pos hmore, if_pos hmore]
    refine Scan.Reading.read_eq (.further hcount hlists ?_ (hnew hmore))
    exact PageView.next?_eq_some.2 ⟨rfl, Digit.toString_ne_empty (o + size)⟩
  · rw [if_neg hmore, if_neg hmore]
    exact Scan.Reading.read_eq (.last hcount hlists fun next hnext => nomatch (PageView.next?_eq_some.1 hnext).1)

/-- The scan whose next listing is for the slice at a position, having followed cursors up to it. -/
structure At (c : Collection) (s : Scan) (o : Nat) : Prop where
  fits : (c.membersOf s.key).length < Digit.wordLimit
  within : o ≤ (c.membersOf s.key).length
  offset : c.offset (c.membersOf s.key).length s.cursor = o
  followed : ∀ x ∈ s.followed, ∃ p ≤ o, x = toString p

theorem At.not_followed {c : Collection} {s : Scan} {o next : Nat} (hs : At c s o) (hlt : o < next)
    (hnext : next < (c.membersOf s.key).length) : toString next ∉ s.followed := by
  intro hmem
  obtain ⟨p, hp, heq⟩ := hs.followed _ hmem
  have hfits := hs.fits
  have hword := Digit.word?_toString next (by omega)
  rw [heq, Digit.word?_toString p (by omega)] at hword
  have := Option.some.inj hword
  omega

theorem At.further {c : Collection} (h : c.Paged) {s : Scan} {o next : Nat} (hs : At c s o) (hlt : o < next)
    (hnext : next < (c.membersOf s.key).length) (t : Topology) (qs : List MemberQuery) :
    At (c.asked t qs) { s with cursor := some (toString next), followed := toString next :: s.followed } next := by
  have hfits := hs.fits
  refine ⟨?_, ?_, ?_, fun x hx => ?_⟩
  · rw [membersOf_asked]
    exact hfits
  · rw [membersOf_asked]
    exact Nat.le_of_lt hnext
  · have hword := Digit.word?_toString next (by omega)
    have hcycle := (h.asked t qs).straight
    simp only [Collection.offset, hcycle, List.isEmpty_nil, if_true, position?, hword, Option.getD_some]
  · rcases List.mem_cons.1 hx with rfl | hx
    · exact ⟨next, Nat.le_refl next, rfl⟩
    · obtain ⟨p, hp, heq⟩ := hs.followed x hx
      exact ⟨p, by omega, heq⟩

/-- **What a scan makes of the slice at a position.** -/
theorem answered_at {c : Collection} (h : c.Paged) {s : Scan} {o : Nat} (hs : At c s o) :
    s.answered kind (server.list s.topology s.query c).1 = .ok (
      if s.member ∈ ((c.membersOf s.key).drop o).take (c.room (c.membersOf s.key).length) then .settled true
      else if o + c.room (c.membersOf s.key).length < (c.membersOf s.key).length then
        .further { s with
          cursor := some (toString (o + c.room (c.membersOf s.key).length))
          followed := toString (o + c.room (c.membersOf s.key).length) :: s.followed }
      else .settled false) := by
  have hroom := h.room_pos (c.membersOf s.key).length
  have hview := view_served h (c.page s.query) s.topology
  rw [list_eq h]
  rw [Scan.answered_eq]
  change s.judged ((viewOf s.topology (c.served (c.page s.query) s.topology)).mapError .conversion) = _
  rw [hview, @page_at c h s.query o hs.within hs.offset]
  refine congrArg Except.ok (read_slice hs.fits fun hmore => hs.not_followed ?_ hmore)
  exact Nat.lt_add_of_pos_right hroom

theorem pageMembers?_at {c : Collection} (h : c.Paged) {s : Scan} {o : Nat} (hs : At c s o) :
    pageMembers? (.listing s.topology s.query (server.list s.topology s.query c).1) =
      some (((c.membersOf s.key).drop o).take (c.room (c.membersOf s.key).length)) := by
  have hserved : ∀ (t : Topology) (p : Page), membersOn t (c.served p t) = p.members := by
    intro t p
    cases t <;> rfl
  rw [list_eq h]
  change some (membersOn s.topology (c.served (c.page s.query) s.topology)) = _
  rw [hserved, @page_at c h s.query o hs.within hs.offset]
  rfl

/-- **A scan from a position on finds what the rest of the list holds**, in as many listings as that takes, each
answered with the next slice. -/
theorem scan_runs {c : Collection} (h : c.Paged) {s : Scan} {o : Nat} (hs : At c s o) :
    ∃ log qs, Runs server (.scan s .done) c log (.ok (decide (s.member ∈ (c.membersOf s.key).drop o)))
        (c.asked s.topology qs) ∧ log.length = qs.length ∧
      qs.length = lookups (c.room (c.membersOf s.key).length) s.member ((c.membersOf s.key).drop o) ∧
      log.map pageMembers? =
        (slices (c.room (c.membersOf s.key).length) log.length ((c.membersOf s.key).drop o)).map some := by
  induction hleft : (c.membersOf s.key).length - o using Nat.strongRecOn generalizing c s o with
  | ind left ih =>
    have hroom := h.room_pos (c.membersOf s.key).length
    have hans := answered_at h hs
    have hstate : (server.list s.topology s.query c).2 = c.asked s.topology [s.query] := by rw [list_eq h]
    have hpage := pageMembers?_at h hs
    have hsingle : [Call.listing s.topology s.query (server.list s.topology s.query c).1].map pageMembers? =
        (slices (c.room (c.membersOf s.key).length) 1 ((c.membersOf s.key).drop o)).map some := by
      rw [List.map_singleton, hpage, slices_one, List.map_singleton]
    by_cases hin : s.member ∈ ((c.membersOf s.key).drop o).take (c.room (c.membersOf s.key).length)
    · rw [if_pos hin] at hans
      have hrun := Runs.settled hans
      rw [hstate] at hrun
      rw [decide_eq_true (List.mem_of_mem_take hin), lookups_of_mem_take hin]
      exact ⟨_, _, hrun, rfl, rfl, hsingle⟩
    rw [if_neg hin] at hans
    by_cases hmore : o + c.room (c.membersOf s.key).length < (c.membersOf s.key).length
    · -- the slice is full and there is more behind it
      rw [if_pos hmore] at hans
      have hnext := hs.further h (Nat.lt_add_of_pos_right hroom) hmore s.topology [s.query]
      have hless : ((c.asked s.topology [s.query]).membersOf s.key).length - (o + c.room (c.membersOf s.key).length) <
          left := by
        rw [membersOf_asked]
        omega
      obtain ⟨log, qs, hrun, hlog, hqs, hpages⟩ := ih _ hless (h.asked s.topology [s.query]) hnext rfl
      simp only [membersOf_asked, asked_asked, room_asked] at hrun hqs hpages
      have hdrop : ((c.membersOf s.key).drop o).drop (c.room (c.membersOf s.key).length) =
          (c.membersOf s.key).drop (o + c.room (c.membersOf s.key).length) := List.drop_drop
      have hmem := mem_drop_iff hin
      rw [hdrop] at hmem
      have hlong : c.room (c.membersOf s.key).length < ((c.membersOf s.key).drop o).length := by
        rw [List.length_drop]
        omega
      rw [← hstate] at hrun
      have hwhole := Runs.further hans hrun
      rw [decide_eq_decide.2 hmem, lookups_drop hroom hlong hin, hdrop]
      refine ⟨_, [s.query] ++ qs, hwhole, ?_, ?_, ?_⟩
      · rw [List.length_cons, hlog, List.length_append, List.length_singleton, Nat.add_comm]
      · rw [List.length_append, hqs, List.length_singleton, Nat.add_comm]
      · rw [List.map_cons, hpage, hpages, List.length_cons, slices_succ, List.map_cons, hdrop]
    · -- the slice is the rest of the list
      rw [if_neg hmore] at hans
      have hlast : ((c.membersOf s.key).drop o).length ≤ c.room (c.membersOf s.key).length := by
        rw [List.length_drop]
        omega
      rw [List.take_of_length_le hlast] at hin
      have hrun := Runs.settled hans
      rw [hstate] at hrun
      rw [decide_eq_false hin, lookups_of_length_le hroom hlast hin]
      exact ⟨_, _, hrun, rfl, rfl, hsingle⟩

theorem at_start {c : Collection} {key : String} (hfits : (c.membersOf key).length < Digit.wordLimit) (t : Topology)
    (member : String) : At c (Lifecycle.scanFor kind t key member) 0 :=
  ⟨hfits, Nat.zero_le _, rfl, fun _ hx => absurd hx List.not_mem_nil⟩

/-- **A scan finds exactly what the list of the key holds.** -/
theorem find_runs {c : Collection} (h : c.Paged) {key : String} (hfits : (c.membersOf key).length < Digit.wordLimit)
    (t : Topology) (member : String) :
    ∃ log qs, Runs server (.scan (Lifecycle.scanFor kind t key member) .done) c log
        (.ok (decide (member ∈ c.membersOf key))) (c.asked t qs) ∧ log.length = qs.length ∧
      qs.length = lookups (c.room (c.membersOf key).length) member (c.membersOf key) ∧
      log.map pageMembers? = (slices (c.room (c.membersOf key).length) log.length (c.membersOf key)).map some :=
  scan_runs h (at_start hfits t member)

end Collection
end InMemory
end PolicyProvider
