import Mathlib.Data.Fintype.Card
import PolicyProvider.Proofs.InMemory.Store
import PolicyProvider.Proofs.Member.Interleaving
/-!
# Growth — members that are created at the same time

While members are only added, the list of a key grows at its end.  A scan under way stands at a position of the list
(`Standing`), and what lies at and behind that position is never lost: not when another member is added, and not when
the scan goes on (`Looking.grow`, `Looking.step`).  So a creation finds the member it has added, however many others run
at the same time, and no creation's member is lost (`creations_grow`).
-/
namespace PolicyProvider
namespace InMemory

open Program (interleave)
open Collection (At)

/-! ## A scan of a list that grows -/

/-- **A scan that stands at a position of the list of its key**: it has followed cursors up to there.  This does not
depend on how long the list is by now. -/
structure Standing (c : Collection) (s : Scan) (o : Nat) : Prop where
  cursor : s.cursor = none ∧ o = 0 ∨ s.cursor = some (toString o)
  within : o ≤ (c.membersOf s.key).length
  followed : ∀ x ∈ s.followed, ∃ p ≤ o, x = toString p

/-- **A program that looks for a member**, after so many calls: it is under way, or has told what it found.  `sure` says
that the member was there when it began, so that it is still to be found. -/
inductive Looking {α : Type} (c : Collection) (key member : String) (f : Except MemberError Bool → α) (sure : Prop)
    (calls : Nat) : Program kind α → Prop
  | onward {s : Scan} {o : Nat} (hkey : s.key = key) (hmember : s.member = member) (h : Standing c s o)
      (hsure : sure → member ∈ (c.membersOf key).drop o) (hcalls : calls ≤ o + 1) :
      Looking c key member f sure calls (.scan s fun r => .done (f r))
  | ended {present : Bool} (hsure : sure → present = true) : Looking c key member f sure calls (.done (f (.ok present)))

variable {c c' : Collection} {α : Type} {key member : String} {f : Except MemberError Bool → α} {sure : Prop}
  {calls : Nat} {p : Program kind α}

theorem Standing.start (c : Collection) (t : Topology) (key member : String) :
    Standing c (Lifecycle.scanFor kind t key member) 0 :=
  ⟨.inl ⟨rfl, rfl⟩, Nat.zero_le _, fun _ hx => absurd hx List.not_mem_nil⟩

theorem Standing.at (h : c.Sound) {s : Scan} {o : Nat} (hs : Standing c s o)
    (hfits : (c.membersOf s.key).length < Digit.wordLimit) : At c s o := by
  refine ⟨hfits, hs.within, ?_, hs.followed⟩
  have hlen := hs.within
  rcases hs.cursor with ⟨hcursor, rfl⟩ | hcursor
  · rw [hcursor]
    rfl
  · have hword := Digit.word?_toString o (by omega)
    simp only [hcursor, Collection.offset, h.straight, List.isEmpty_nil, if_true, Collection.position?, hword,
      Option.getD_some]

theorem Standing.further {s : Scan} {o next : Nat} (hs : Standing c s o) (hlt : o < next)
    (hnext : next ≤ (c.membersOf s.key).length) :
    Standing c { s with cursor := some (toString next), followed := toString next :: s.followed } next := by
  refine ⟨.inr rfl, hnext, fun x hx => ?_⟩
  rcases List.mem_cons.1 hx with rfl | hx
  · exact ⟨next, Nat.le_refl next, rfl⟩
  · obtain ⟨p, hp, heq⟩ := hs.followed x hx
    exact ⟨p, by omega, heq⟩

/-- **What is added behind a list does not disturb those who look for a member of it.** -/
theorem Looking.grow (h : Looking c key member f sure calls p) (hgrow : ∀ k, c.membersOf k <+: c'.membersOf k) :
    Looking c' key member f sure calls p := by
  cases h with
  | ended hsure => exact .ended hsure
  | @onward s o hkey hmember h hsure hcalls =>
    refine .onward hkey hmember ⟨h.cursor, ?_, h.followed⟩ (fun hs => ?_) hcalls
    · exact Nat.le_trans h.within (hgrow s.key).length_le
    · obtain ⟨more, hmore⟩ := hgrow key
      have hlen := h.within
      rw [hkey] at hlen
      rw [← hmore, List.drop_append_of_le_length hlen]
      exact List.mem_append_left _ (hsure hs)

/-- **One call of a program that looks for a member** brings it on or to its end, and does nothing but ask. -/
theorem Looking.step (h : c.Sound) (hfits : (c.membersOf key).length < Digit.wordLimit)
    (hp : Looking c key member f sure calls p) :
    Looking c key member f sure (calls + 1) (p.step Collection.server c).1 ∧
      ∃ t qs, (p.step Collection.server c).2 = c.asked t qs := by
  cases hp with
  | ended hsure => exact ⟨.ended hsure, .localManager, [], (c.asked_nil _).symm⟩
  | @onward s o hkey hmember hs hsure hcalls =>
    subst hkey hmember
    have hroom := h.paged.room_pos (c.membersOf s.key).length
    have hans := Collection.answered_at h.paged (hs.at h hfits)
    rw [Program.step_scan]
    rw [Collection.list_eq h.paged] at hans ⊢
    refine ⟨?_, s.topology, [s.query], rfl⟩
    unfold Program.resumed
    rw [hans]
    by_cases hin : s.member ∈ ((c.membersOf s.key).drop o).take (c.room (c.membersOf s.key).length)
    · rw [if_pos hin]
      exact .ended fun _ => rfl
    rw [if_neg hin]
    by_cases hmore : o + c.room (c.membersOf s.key).length < (c.membersOf s.key).length
    · rw [if_pos hmore]
      have hnext := hs.further (Nat.lt_add_of_pos_right hroom) (Nat.le_of_lt hmore)
      refine .onward rfl rfl hnext (fun hyes => ?_) (by omega)
      rw [← List.drop_drop]
      exact (Collection.mem_drop_iff hin).1 (hsure hyes)
    · -- the slice is the rest of the list, so the member would be in it
      rw [if_neg hmore]
      refine .ended fun hyes => absurd ?_ hin
      rw [List.take_of_length_le (by rw [List.length_drop]; omega)]
      exact hsure hyes

theorem Looking.ends (h : Looking c key member f sure calls p) (hcalls : (c.membersOf key).length + 1 < calls) :
    ∃ a, p = .done a := by
  cases h with
  | ended => exact ⟨_, rfl⟩
  | onward hkey _ h _ hle =>
    subst hkey
    have hlen := h.within
    omega

/-! ## Operations that do not delete -/

/-- How far an operation has come after so many calls.  A creation makes its change first, and all it does from then on
is to look for the member it has added. -/
inductive Stage (c : Collection) (t : Topology) : Operation → Nat → Program kind (Except MemberError Answer) → Prop
  | waiting {key member : String} {id : MemberId} (hid : Lifecycle.encode kind key member = .ok id) :
      Stage c t (.create key member) 0 ((Operation.create key member).action kind t).run
  | added {key member : String} {id : MemberId} {calls : Nat} {p : Program kind (Except MemberError Answer)}
      (hid : Lifecycle.encode kind key member = .ok id)
      (h : Looking c id.key id.member (fun r => (Lifecycle.found kind id r).map .member) True (calls + 1) p) :
      Stage c t (.create key member) (calls + 1) p
  | looking {op : Operation} {calls : Nat} {id : MemberId} {f : Except MemberError Bool → Except MemberError Answer}
      {p : Program kind (Except MemberError Answer)} (hop : ∀ key member, op ≠ .create key member)
      (h : Looking c id.key id.member f False calls p) : Stage c t op calls p
  | refused {op : Operation} {calls : Nat} {e : MemberError} (hop : ∀ key member, op ≠ .create key member) :
      Stage c t op calls (.done (.error e))

variable {t : Topology} {op : Operation}

theorem Stage.start (c : Collection) (t : Topology) (hdelete : ∀ id, op ≠ .delete id)
    (hcreate : ∀ key member, op = .create key member → key ∈ kind.allowedKeys ∧ member ≠ "") :
    Stage c t op 0 (op.action kind t).run := by
  cases htarget : op.target kind with
  | error e =>
    rw [Operation.run_refused kind t htarget]
    refine .refused fun key member hop => ?_
    subst hop
    obtain ⟨hk, hm⟩ := hcreate key member rfl
    rw [Operation.target, encode_eq, Store.created, dif_pos hk, dif_neg hm] at htarget
    cases htarget
  | ok id =>
    cases op with
    | create key member => exact .waiting htarget
    | delete text => exact absurd rfl (hdelete text)
    | _ =>
      obtain ⟨f, hrun⟩ := Operation.run_looks kind t rfl htarget
      rw [hrun]
      exact .looking (fun _ _ h => nomatch h) (.onward rfl rfl (.start c t id.key id.member) False.elim (Nat.zero_le _))

theorem Stage.grow {p : Program kind (Except MemberError Answer)} (h : Stage c t op calls p)
    (hgrow : ∀ k, c.membersOf k <+: c'.membersOf k) : Stage c' t op calls p := by
  cases h with
  | waiting hid => exact .waiting hid
  | added hid h => exact .added hid (h.grow hgrow)
  | looking hop h => exact .looking hop (h.grow hgrow)
  | refused hop => exact .refused hop

theorem prefix_asked (c : Collection) (t : Topology) (qs : List MemberQuery) (key : String) :
    c.membersOf key <+: (c.asked t qs).membersOf key := by
  rw [Collection.membersOf_asked]

inductive Moved (c : Collection) (t : Topology) : Operation → Nat → Collection → Prop
  | added {key member : String} {id : MemberId} (hid : Lifecycle.encode kind key member = .ok id) :
      Moved c t (.create key member) 0 (c.altered t .add id)
  | asked {op : Operation} {calls : Nat} (hcalls : ∀ key member, op = .create key member → 0 < calls) (t' : Topology)
      (qs : List MemberQuery) : Moved c t op calls (c.asked t' qs)

theorem Moved.grow (h : Moved c t op calls c') (key : String) : c.membersOf key <+: c'.membersOf key := by
  cases h with
  | @added _ _ id hid =>
    rw [Collection.membersOf_altered]
    by_cases hkey : key = id.key
    · subst hkey
      rw [Function.update_self]
      exact List.prefix_append _ _
    · rw [Function.update_of_ne hkey]
  | asked => exact prefix_asked c _ _ key

/-- **One call of an operation** brings it to its next stage. -/
theorem Stage.step (h : c.Sound) (hfits : ∀ key, (c.membersOf key).length < Digit.wordLimit)
    {p : Program kind (Except MemberError Answer)} (hp : Stage c t op calls p) :
    Moved c t op calls (p.step Collection.server c).2 ∧
      Stage (p.step Collection.server c).2 t op (calls + 1) (p.step Collection.server c).1 := by
  cases hp with
  | @waiting key member id hid =>
    have hrun := Operation.run_create kind t key member
    rw [hid] at hrun
    obtain ⟨rfl, rfl⟩ := Lifecycle.encode_eq_ok hid
    have hstep : ((Operation.create id.key id.member).action kind t).run.step Collection.server c =
        (.scan (Lifecycle.scanFor kind t id.key id.member) fun r => .done ((Lifecycle.found kind id r).map .member),
          c.altered t .add id) := by
      rw [hrun]
      refine (Program.step_mutate (K := kind) t .add (⟨id.key, [id.member]⟩ : Patch) _ c).trans ?_
      rw [Collection.mutate_eq h]
    rw [hstep]
    refine ⟨.added hid, .added hid (.onward rfl rfl (.start _ t id.key id.member) (fun _ => ?_) (Nat.le_refl _))⟩
    rw [Collection.membersOf_altered, Function.update_self]
    exact List.mem_append_right _ (List.mem_singleton_self _)
  | @added _ _ id n _ hid hlook =>
    obtain ⟨hnext, t', qs, hasked⟩ := hlook.step h (hfits id.key)
    rw [hasked]
    refine ⟨.asked (fun _ _ _ => Nat.succ_pos n) t' qs, .added hid (hnext.grow (prefix_asked c t' qs))⟩
  | @looking _ _ id _ _ hop hlook =>
    obtain ⟨hnext, t', qs, hasked⟩ := hlook.step h (hfits id.key)
    rw [hasked]
    refine ⟨.asked (fun k m heq => absurd heq (hop k m)) t' qs, .looking hop (hnext.grow (prefix_asked c t' qs))⟩
  | refused hop =>
    have hasked : Moved c t op calls (c.asked t []) := .asked (fun k m heq => absurd heq (hop k m)) t []
    rw [Collection.asked_nil] at hasked
    exact ⟨hasked, .refused hop⟩

theorem Stage.answer {key member : String} {answer : Except MemberError Answer}
    (h : Stage c t (.create key member) calls (.done answer)) :
    0 < calls ∧ ∃ id : MemberId, id.key = key ∧ id.member = member ∧ answer = .ok (.member ⟨id, .present⟩) := by
  generalize hop : Operation.create key member = op at h
  generalize hp : Program.done answer = p at h
  cases h with
  | waiting hid =>
    rw [Operation.run_create, hid] at hp
    cases hp
  | @added _ _ id n _ hid h =>
    cases hop
    cases h with
    | onward => cases hp
    | @ended present hsure =>
      cases hp
      rw [hsure trivial]
      obtain ⟨hkey, hmember⟩ := Lifecycle.encode_eq_ok hid
      exact ⟨Nat.succ_pos n, id, hkey, hmember, rfl⟩
  | looking hne h => exact absurd hop.symm (hne key member)
  | refused hne => exact absurd hop.symm (hne key member)

theorem Stage.ends {p : Program kind (Except MemberError Answer)} (h : Stage c t op calls p)
    (hcalls : ∀ key, (c.membersOf key).length + 1 < calls) : ∃ answer, p = .done answer := by
  cases h with
  | waiting hid => exact absurd (hcalls "") (Nat.not_lt_zero _)
  | added hid h => exact h.ends (hcalls _)
  | looking hop h => exact h.ends (hcalls _)
  | refused hop => exact ⟨_, rfl⟩

/-! ## All of them together -/

def addedUnder (key : String) : Topology × Operation → Option String
  | (_, .create k member) => if k = key then some member else none
  | _ => none

def addition : Topology × Operation → Option Mutation
  | (t, .create key member) => some ⟨key, [member], .add, t⟩
  | _ => none

variable {ι : Type} {ops : ι → Topology × Operation} {order : List ι} {i : ι}

/-- **A collection that has grown by the members of some operations**, in their order. -/
structure Grown (c : Collection) (ops : ι → Topology × Operation) (order : List ι) (c' : Collection) : Prop where
  sound : c'.Sound
  members : ∀ key, c'.membersOf key = c.membersOf key ++ order.filterMap fun i => addedUnder key (ops i)
  mutations : c'.mutations = c.mutations ++ order.filterMap fun i => addition (ops i)

theorem Grown.asked (h : Grown c ops order c') (t : Topology) (qs : List MemberQuery) :
    Grown c ops order (c'.asked t qs) := by
  refine ⟨h.sound.asked t qs, fun key => ?_, ?_⟩
  · rw [Collection.membersOf_asked]
    exact h.members key
  · rw [Collection.mutations_asked]
    exact h.mutations

theorem Grown.idle (h : Grown c ops order c') (hop : ∀ key member, (ops i).2 ≠ .create key member) :
    Grown c ops (order ++ [i]) c' := by
  have hnone : (∀ key, addedUnder key (ops i) = none) ∧ addition (ops i) = none := by
    generalize ops i = job at hop
    obtain ⟨t, op⟩ := job
    cases op with
    | create key member => exact absurd rfl (hop key member)
    | _ => exact ⟨fun _ => rfl, rfl⟩
  refine ⟨h.sound, fun key => ?_, ?_⟩
  · simp only [h.members, List.filterMap_append, List.filterMap_cons, hnone.1, List.filterMap_nil, List.append_nil]
  · simp only [h.mutations, List.filterMap_append, List.filterMap_cons, hnone.2, List.filterMap_nil, List.append_nil]

theorem Grown.added (h : Grown c ops order c') {t : Topology} {id : MemberId}
    (hop : ops i = (t, .create id.key id.member)) : Grown c ops (order ++ [i]) (c'.altered t .add id) := by
  refine ⟨h.sound.altered t .add id, fun key => ?_, ?_⟩
  · rw [Collection.membersOf_altered, List.filterMap_append, ← List.append_assoc, ← h.members]
    by_cases hkey : key = id.key
    · subst hkey
      simp only [Function.update_self, List.filterMap_cons, hop, addedUnder, if_true, List.filterMap_nil]
      rfl
    · simp only [Function.update_of_ne hkey, List.filterMap_cons, hop, addedUnder, if_neg (Ne.symm hkey),
        List.filterMap_nil, List.append_nil]
  · simp only [Collection.mutations_altered, h.mutations, List.filterMap_append, List.append_assoc, List.filterMap_cons,
      hop, addition, List.filterMap_nil]

theorem Grown.length_le (h : Grown c ops order c') (key : String) :
    (c'.membersOf key).length ≤ (c.membersOf key).length + order.length := by
  rw [h.members, List.length_append]
  exact Nat.add_le_add_left (List.length_filterMap_le _ _) _

variable [DecidableEq ι]

theorem Grown.moved {now : Collection} {turns : List ι} (h : Grown c ops turns.eraseDups now)
    (hmoved : Moved now (ops i).1 (ops i).2 (turns.count i) c') : Grown c ops (turns ++ [i]).eraseDups c' := by
  generalize hjob : ops i = job at hmoved
  obtain ⟨t, op⟩ := job
  generalize hcount : turns.count i = calls at hmoved
  cases hmoved with
  | added hid =>
    obtain ⟨rfl, rfl⟩ := Lifecycle.encode_eq_ok hid
    rw [Program.eraseDups_concat_of_not_mem (List.count_eq_zero.1 hcount)]
    exact h.added hjob
  | asked hcalls t' qs =>
    by_cases hi : i ∈ turns
    · rw [Program.eraseDups_concat_of_mem hi]
      exact h.asked t' qs
    · rw [Program.eraseDups_concat_of_not_mem hi]
      refine (h.idle fun key member hop => ?_).asked t' qs
      rw [hjob] at hop
      have hpos := hcalls key member hop
      rw [← hcount, List.count_eq_zero.2 hi] at hpos
      exact absurd hpos (Nat.lt_irrefl 0)

variable [Fintype ι]

/-- **After any turns** the collection has grown by the creations that have begun, in the order in which they did, and
every operation is in the stage that its turns have brought it to. -/
theorem stages (h : c.Sound) (hfits : ∀ key, (c.membersOf key).length + Fintype.card ι < Digit.wordLimit)
    (hdelete : ∀ i id, (ops i).2 ≠ .delete id)
    (hcreate : ∀ i key member, (ops i).2 = .create key member → key ∈ kind.allowedKeys ∧ member ≠ "") (turns : List ι) :
    Grown c ops turns.eraseDups
        (interleave Collection.server turns (fun i => ((ops i).2.action kind (ops i).1).run) c).2 ∧
      ∀ i, Stage (interleave Collection.server turns (fun i => ((ops i).2.action kind (ops i).1).run) c).2 (ops i).1
        (ops i).2 (turns.count i)
        ((interleave Collection.server turns (fun i => ((ops i).2.action kind (ops i).1).run) c).1 i) := by
  induction turns using List.reverseRecOn with
  | nil =>
    refine ⟨⟨h, fun key => (List.append_nil _).symm, (List.append_nil _).symm⟩, fun i => ?_⟩
    exact .start c _ (hdelete i) (hcreate i)
  | append_singleton turns i ih =>
    rw [Program.interleave_concat]
    generalize interleave Collection.server turns (fun i => ((ops i).2.action kind (ops i).1).run) c = r at ih
    obtain ⟨ps, now⟩ := r
    obtain ⟨hgrown, hstages⟩ := ih
    simp only at hgrown hstages
    -- no operation is twice in the order, so no list has grown by more than there are operations
    have hnow : ∀ key, (now.membersOf key).length < Digit.wordLimit := fun key => by
      have hlen := hgrown.length_le key
      have horder := (Program.nodup_eraseDups turns).length_le_card
      have hkey := hfits key
      omega
    obtain ⟨hmoved, hnext⟩ := (hstages i).step hgrown.sound hnow
    refine ⟨hgrown.moved hmoved, fun j => ?_⟩
    simp only
    by_cases hj : j = i
    · subst hj
      rw [Function.update_self, List.count_append, List.count_singleton_self]
      exact hnext
    · rw [Function.update_of_ne hj, List.count_append, List.count_singleton, if_neg (by simpa using Ne.symm hj)]
      exact (hstages j).grow hmoved.grow

/-- **Creations at the same time neither fail nor lose anything**, in a collection in memory that answers, however their
calls and those of others that do not delete follow each other, as long as no list outgrows a word.  At any time the
list of a key is the one it began with and, behind it, the members of those creations under that key that have had a
turn, one copy for each, in the order of their first turns; and this is the order in which the collection was asked to
add them.  A creation that has ended has had a turn, and says that its member is present.  Every operation ends, at the
latest when it has had a turn for each member that a list can come to hold and a few more. -/
theorem creations_grow {c : Collection} (h : c.Sound) {ι : Type} [DecidableEq ι] [Fintype ι]
    (ops : ι → Topology × Operation) (hdelete : ∀ i id, (ops i).2 ≠ .delete id)
    (hcreate : ∀ i key member, (ops i).2 = .create key member → key ∈ kind.allowedKeys ∧ member ≠ "")
    (hfits : ∀ key, (c.membersOf key).length + Fintype.card ι < Digit.wordLimit) (turns : List ι) :
    let r := interleave Collection.server turns (fun i => ((ops i).2.action kind (ops i).1).run) c
    (∀ key, r.2.membersOf key = c.membersOf key ++ turns.eraseDups.filterMap fun i => addedUnder key (ops i)) ∧
      r.2.mutations = c.mutations ++ turns.eraseDups.filterMap (fun i => addition (ops i)) ∧
      (∀ i key member answer, (ops i).2 = .create key member → r.1 i = .done answer →
        i ∈ turns ∧ ∃ id : MemberId, id.key = key ∧ id.member = member ∧ answer = .ok (.member ⟨id, .present⟩)) ∧
      ∀ i, c.callBound + Fintype.card ι ≤ turns.count i → ∃ answer, r.1 i = .done answer := by
  intro r
  obtain ⟨hgrown, hstages⟩ := stages h hfits hdelete hcreate turns
  refine ⟨hgrown.members, hgrown.mutations, fun i key member answer hop hdone => ?_, fun i hcount => ?_⟩
  · have hstage := hstages i
    rw [hop, show _ = Program.done answer from hdone] at hstage
    obtain ⟨hcalls, hid⟩ := hstage.answer
    exact ⟨List.count_pos_iff.1 hcalls, hid⟩
  · refine (hstages i).ends fun key => ?_
    have hlen := hgrown.length_le key
    have horder := (Program.nodup_eraseDups turns).length_le_card
    have hbound := c.length_membersOf_le key
    omega

def trio : Fin 3 → Topology × Operation
  | 0 => (.localManager, .create "DOMAIN_NAME" "u")
  | 1 => (.globalManager, .create "DOMAIN_NAME" "v")
  | 2 => (.localManager, .read "DOMAIN_NAME~z")

/-- The creation that begins first has its member first, even if the other one ends before it. -/
theorem creations_grow_on_trio :
    (interleave Collection.server [1, 0, 2, 0, 0, 0, 0, 2, 1, 1] (fun i => ((trio i).2.action kind (trio i).1).run)
      twofold).2.membersOf "DOMAIN_NAME" = ["x~y", "z", "x~y", "v", "u"] := by
  have hfits : ∀ key, (twofold.membersOf key).length + Fintype.card (Fin 3) < Digit.wordLimit := fun key => by
    have hlen : (twofold.membersOf key).length ≤ 3 :=
      Nat.le_of_add_le_add_right (b := 4) (twofold.length_membersOf_le key)
    rw [Fintype.card_fin, Digit.wordLimit_eq]
    omega
  have hdelete : ∀ i id, (trio i).2 ≠ .delete id := by
    intro i id h
    match i with
    | 0 => cases h
    | 1 => cases h
    | 2 => cases h
  have hcreate : ∀ i key member, (trio i).2 = .create key member → key ∈ kind.allowedKeys ∧ member ≠ "" := by
    intro i key member h
    match i with
    | 0 =>
      cases h
      decide
    | 1 =>
      cases h
      decide
    | 2 => cases h
  have hlists := (creations_grow (c := twofold) ⟨rfl, rfl, by decide⟩ trio hdelete hcreate hfits
    [1, 0, 2, 0, 0, 0, 0, 2, 1, 1]).1 "DOMAIN_NAME"
  exact hlists.trans (by decide)

end InMemory
end PolicyProvider
