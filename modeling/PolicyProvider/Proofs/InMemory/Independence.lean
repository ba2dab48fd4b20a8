import PolicyProvider.Proofs.InMemory.Effect
import PolicyProvider.Proofs.Member.Interleaving
/-!
# Independence — operations on different keys do not interfere

A program calls for some keys only (`Touches`): it sees nothing of the lists of the others (`AgreeOn.step`) and leaves
them alone (`Touches.keeps`).  So programs that call for different keys, taking turns, are each where they would be
alone after as many calls (`interleave_alone`), and sequences of operations on different keys answer and leave what they
would alone (`sequences_independent`).
-/
namespace PolicyProvider
namespace InMemory

open Program (Runs interleave)

/-- **A program that calls for some keys only.** -/
inductive Touches {α : Type} (A : String → Prop) : Program kind α → Prop
  | done (a : α) : Touches A (.done a)
  | scan {s : Scan} {next : Except MemberError Bool → Program kind α} (hkey : A s.key) (h : ∀ r, Touches A (next r)) :
      Touches A (.scan s next)
  | mutate {t : Topology} {action : PatchAction} {patch : Patch} {next : Except RemoteError Unit → Program kind α}
      (hkey : A patch.key) (h : ∀ r, Touches A (next r)) : Touches A (.mutate t action patch next)

/-- **Collections that are alike for some keys**: they are told to answer in the same way, and hold the same lists. -/
structure AgreeOn (B : String → Prop) (c c' : Collection) : Prop where
  setting : c'.setting = c.setting
  members : ∀ key, B key → c'.membersOf key = c.membersOf key

variable {α β : Type} {A B : String → Prop} {c c' c'' : Collection} {p : Program kind α}

/-! ## Programs and their keys -/

theorem Touches.mono (h : Touches A p) (hsub : ∀ key, A key → B key) : Touches B p := by
  induction h with
  | done a => exact .done a
  | scan hkey _ ih => exact .scan (hsub _ hkey) ih
  | mutate hkey _ ih => exact .mutate (hsub _ hkey) ih

theorem Touches.bind {f : α → Program kind β} (h : Touches A p) (hf : ∀ a, Touches A (f a)) :
    Touches A (Program.bind p f) := by
  induction h with
  | done a => exact hf a
  | scan hkey _ ih => exact .scan hkey ih
  | mutate hkey _ ih => exact .mutate hkey ih

theorem Touches.map (h : Touches A p) (f : α → β) : Touches A (Program.map f p) :=
  h.bind fun a => .done (f a)

theorem Touches.resumed {s : Scan} {next : Except MemberError Bool → Program kind α} (hkey : A s.key)
    (h : ∀ r, Touches A (next r)) (answer : Except RemoteError (kind.Page s.topology)) :
    Touches A (Program.resumed s next answer) := by
  have hans := s.answered_eq kind answer
  unfold Program.resumed
  generalize s.answered kind answer = verdict at hans
  rcases verdict with e | present | onward
  · exact h _
  · exact h _
  · refine .scan ?_ h
    -- a scan that goes on is for the same key
    cases hshown : shown kind s.topology answer with
    | error e =>
      rw [hshown, Scan.judged] at hans
      split at hans <;> cases hans
    | ok view =>
      have hread := s.reading view
      rw [hshown, Scan.judged] at hans
      rw [← Except.ok.inj hans] at hread
      cases hread with
      | further => exact hkey

theorem Touches.step (h : Touches A p) (c : Collection) : Touches A (p.step Collection.server c).1 := by
  cases h with
  | done a => exact .done a
  | scan hkey h =>
    rw [Program.step_scan]
    exact .resumed hkey h _
  | mutate hkey h => exact h _

theorem Touches.run (h : Touches A p) (calls : Nat) (c : Collection) :
    Touches A (p.run Collection.server calls c).1 := by
  induction calls generalizing p c with
  | zero => exact h
  | succ calls ih => exact ih (h.step c) _

/-! ## Collections that are alike for some keys -/

theorem AgreeOn.refl (B : String → Prop) (c : Collection) : AgreeOn B c c := ⟨rfl, fun _ _ => rfl⟩

theorem AgreeOn.trans (h : AgreeOn B c c') (h' : AgreeOn B c' c'') : AgreeOn B c c'' :=
  ⟨h'.setting.trans h.setting, fun key hkey => (h'.members key hkey).trans (h.members key hkey)⟩

theorem AgreeOn.mono (h : AgreeOn B c c') (hsub : ∀ key, A key → B key) : AgreeOn A c c' :=
  ⟨h.setting, fun key hkey => h.members key (hsub key hkey)⟩

theorem AgreeOn.failure (h : AgreeOn B c c') : c'.failure = c.failure := congrArg (·.2.2) h.setting

theorem AgreeOn.list (h : AgreeOn B c c') {q : MemberQuery} (hq : B q.key) (t : Topology) :
    (c'.list t q).1 = (c.list t q).1 := by
  have hfailure := h.failure
  have hsize : c'.pageSize = c.pageSize := congrArg (·.1) h.setting
  have hcycle : c'.cursorCycle = c.cursorCycle := congrArg (·.2.1) h.setting
  have hpage : c'.page q = c.page q := by
    unfold Collection.page Collection.offset Collection.nextInCycle
    rw [h.members q.key hq, hsize, hcycle]
  have hserved : c'.served (c.page q) t = c.served (c.page q) t := by
    cases t with
    | localManager => rfl
    | globalManager =>
      unfold Collection.served
      rw [hfailure]
  unfold Collection.list Collection.listError?
  rw [hfailure, hpage, hserved]
  split <;> rfl

theorem AgreeOn.mutate (h : AgreeOn B c c') (t : Topology) (action : PatchAction) (patch : Patch) :
    (c'.mutate t action patch).1 = (c.mutate t action patch).1 ∧
      (B patch.key → AgreeOn B (c.mutate t action patch).2 (c'.mutate t action patch).2) := by
  refine ⟨?_, fun hkey => ⟨?_, fun key hB => ?_⟩⟩
  · unfold Collection.mutate
    rw [h.failure]
    split <;> rfl
  · rw [Collection.setting_mutate, Collection.setting_mutate, h.setting]
  · rw [Collection.membersOf_mutate, Collection.membersOf_mutate, h.failure]
    split
    · exact h.members key hB
    · rw [h.members patch.key hkey]
      by_cases heq : key = patch.key
      · rw [heq, Function.update_self, Function.update_self]
      · rw [Function.update_of_ne heq, Function.update_of_ne heq]
        exact h.members key hB

/-- **A program sees nothing but the lists of its keys.** -/
theorem AgreeOn.step (h : AgreeOn B c c') (hp : Touches B p) :
    (p.step Collection.server c').1 = (p.step Collection.server c).1 ∧
      AgreeOn B (p.step Collection.server c).2 (p.step Collection.server c').2 := by
  cases hp with
  | done a => exact ⟨rfl, h⟩
  | @scan s next hkey hnext =>
    rw [Program.step_scan, Program.step_scan, Collection.list_snd, Collection.list_snd]
    refine ⟨congrArg (Program.resumed s next) (h.list hkey s.topology), ?_, fun key hB => ?_⟩
    · rw [Collection.setting_asked, Collection.setting_asked, h.setting]
    · rw [Collection.membersOf_asked, Collection.membersOf_asked]
      exact h.members key hB
  | @mutate t action patch next hkey hnext =>
    obtain ⟨hanswer, hagree⟩ := h.mutate t action patch
    exact ⟨congrArg next hanswer, hagree hkey⟩

/-- **A program leaves the lists of all other keys alone.** -/
theorem Touches.keeps (h : Touches A p) (c : Collection) :
    AgreeOn (fun key => ¬ A key) c (p.step Collection.server c).2 := by
  cases h with
  | done a => exact .refl _ c
  | @scan s next hkey hnext =>
    rw [Program.step_scan, Collection.list_snd]
    exact ⟨c.setting_asked _ _, fun key _ => c.membersOf_asked _ _ key⟩
  | @mutate t action patch next hkey hnext =>
    refine ⟨c.setting_mutate t action patch, fun key hother => ?_⟩
    change (c.mutate t action patch).2.membersOf key = _
    rw [Collection.membersOf_mutate]
    split
    · rfl
    · rw [Function.update_of_ne]
      rintro rfl
      exact hother hkey

/-! ## Programs that take turns -/

variable {ι : Type} [DecidableEq ι]

/-- **Programs that call for different keys do not interfere**: each is where it would be alone after as many calls, and
so are all lists that no other program calls for. -/
theorem interleave_alone {ps : ι → Program kind α} {keys : ι → String → Prop} (htouches : ∀ i, Touches (keys i) (ps i))
    (hapart : ∀ i j, i ≠ j → ∀ key, keys i key → ¬ keys j key) (c : Collection) (turns : List ι) (i : ι) :
    (interleave Collection.server turns ps c).1 i = ((ps i).run Collection.server (turns.count i) c).1 ∧
      AgreeOn (fun key => ∀ j, j ≠ i → ¬ keys j key) ((ps i).run Collection.server (turns.count i) c).2
        (interleave Collection.server turns ps c).2 := by
  induction turns using List.reverseRecOn generalizing i with
  | nil => exact ⟨rfl, .refl _ c⟩
  | append_singleton turns j ih =>
    obtain ⟨hleft, hagree⟩ := ih i
    rw [Program.interleave_concat]
    simp only
    by_cases hij : i = j
    · -- its own turn: it sees its own lists, which are those it would see alone
      subst hij
      have hown : Touches (fun key => ∀ j, j ≠ i → ¬ keys j key) ((ps i).run Collection.server (turns.count i) c).1 :=
        ((htouches i).run _ c).mono fun key hkey j hj => hapart i j (Ne.symm hj) key hkey
      rw [List.count_append, List.count_singleton_self, Program.run_succ, Function.update_self, hleft]
      exact hagree.step hown
    · -- the turn of another, which leaves its lists alone
      have hother : Touches (keys j) ((interleave Collection.server turns ps c).1 j) := by
        rw [(ih j).1]
        exact (htouches j).run _ c
      rw [List.count_append, List.count_singleton, if_neg (by simpa using Ne.symm hij), Nat.add_zero,
        Function.update_of_ne hij]
      exact ⟨hleft, hagree.trans ((hother.keeps _).mono fun key hkey => hkey j (Ne.symm hij))⟩

/-! ## Sequences of operations -/

/-- **Operations one after the other, as one program** that ends with all their answers. -/
def sequence : List (Topology × Operation) → Program kind (List (Except MemberError Answer))
  | [] => .done []
  | op :: ops => Program.bind (op.2.action kind op.1).run fun answer => Program.map (answer :: ·) (sequence ops)

def Named (ops : List (Topology × Operation)) (key : String) : Prop :=
  ∃ op ∈ ops, ∃ member, op.2.Names kind key member

theorem touches_lookup {s : Scan} {f : Except MemberError Bool → α} (hkey : A s.key) :
    Touches A (.scan s fun r => .done (f r)) :=
  .scan hkey fun r => .done (f r)

theorem touches_operation (t : Topology) (op : Operation) :
    Touches (fun key => ∃ member, op.Names kind key member) (op.action kind t).run := by
  cases htarget : op.target kind with
  | error e =>
    rw [Operation.run_refused kind t htarget]
    exact .done _
  | ok id =>
    have hnames : ∃ member, op.Names kind id.key member :=
      ⟨id.member, (Operation.names_iff fun _ hk => Store.allowed_key hk).2 ⟨id, htarget, rfl, rfl⟩⟩
    cases op with
    | create key member =>
      rw [Operation.run_create, show Lifecycle.encode kind key member = .ok id from htarget]
      obtain ⟨rfl, rfl⟩ := Lifecycle.encode_eq_ok htarget
      refine .mutate hnames fun r => ?_
      cases r with
      | error e => exact .done _
      | ok u => exact touches_lookup hnames
    | delete text =>
      rw [Operation.run_delete, show Lifecycle.decode kind text = .ok id from htarget]
      refine .scan hnames fun r => ?_
      rcases r with e | _ | _
      · exact .done _
      · exact .done _
      · refine .mutate hnames fun r => ?_
        cases r <;> exact .done _
    | _ =>
      obtain ⟨f, hrun⟩ := Operation.run_looks kind t rfl htarget
      rw [hrun]
      exact touches_lookup hnames

theorem touches_sequence (ops : List (Topology × Operation)) : Touches (Named ops) (sequence ops) := by
  induction ops with
  | nil => exact .done _
  | cons op ops ih =>
    have hfirst : Touches (Named (op :: ops)) (op.2.action kind op.1).run :=
      (touches_operation op.1 op.2).mono fun key h => ⟨op, List.mem_cons_self .., h⟩
    have hrest : Touches (Named (op :: ops)) (sequence ops) :=
      ih.mono fun key ⟨op', hmem, h⟩ => ⟨op', List.mem_cons_of_mem op hmem, h⟩
    exact hfirst.bind fun answer => hrest.map _

theorem sequence_ends (c : Collection) (ops : List (Topology × Operation)) :
    ∃ log answers after, Runs Collection.server (sequence ops) c log answers after ∧ answers.length = ops.length := by
  induction ops generalizing c with
  | nil => exact ⟨[], [], c, .done _ _, rfl⟩
  | cons op ops ih =>
    obtain ⟨log, answer, mid, hfirst, -, -⟩ := c.affects op.1 op.2
    obtain ⟨log', answers, after, hrest, hlen⟩ := ih mid
    refine ⟨log ++ log', answer :: answers, after, ?_, congrArg Nat.succ hlen⟩
    exact hfirst.bind (Program.runs_map.2 ⟨answers, hrest, rfl⟩)

/-- **Sequences of operations on different keys do not interfere**, in any collection in memory, whatever it holds and
however it answers or fails, and however their calls follow each other.  Each of them ends when it runs alone, with an
answer for every operation.  Taking turns with the others, it is at any time where it would be alone after as many
calls; so it ends after as many, with the same answers, and then the lists of its keys, and all others that no other
sequence names, are those it alone leaves. -/
theorem sequences_independent (c : Collection) {ι : Type} [DecidableEq ι] (ops : ι → List (Topology × Operation))
    (hapart : ∀ i j, i ≠ j → ∀ key, Named (ops i) key → ¬ Named (ops j) key) (i : ι) :
    ∃ log answers alone, Runs Collection.server (sequence (ops i)) c log answers alone ∧
      answers.length = (ops i).length ∧ ∀ turns : List ι,
        let r := interleave Collection.server turns (fun i => sequence (ops i)) c
        r.1 i = ((sequence (ops i)).run Collection.server (turns.count i) c).1 ∧
          (log.length ≤ turns.count i → r.1 i = .done answers) ∧
          ∀ found, r.1 i = .done found → found = answers ∧
            ∀ key, (∀ j, j ≠ i → ¬ Named (ops j) key) → r.2.membersOf key = alone.membersOf key := by
  obtain ⟨log, answers, alone, hrun, hlen⟩ := sequence_ends c (ops i)
  refine ⟨log, answers, alone, hrun, hlen, fun turns => ?_⟩
  obtain ⟨hleft, hagree⟩ := interleave_alone (fun j => touches_sequence (ops j)) hapart c turns i
  refine ⟨hleft, fun hcount => ?_, fun found hfound => ?_⟩
  · rw [hleft, hrun.run_of_le hcount]
  · rw [hleft] at hfound
    obtain ⟨log', -, hrun'⟩ := Program.runs_of_run (turns.count i) _ c (Prod.ext hfound rfl)
    obtain ⟨-, rfl, hsame⟩ := hrun'.unique hrun
    refine ⟨rfl, fun key hkey => (hagree.members key hkey).trans ?_⟩
    exact congrArg (Collection.membersOf · key) hsame

def pair : Bool → List (Topology × Operation)
  | false => [(.globalManager, .delete "DOMAIN_NAME~x~y"), (.localManager, .create "DOMAIN_NAME" "v")]
  | true => [(.localManager, .create "CUSTOM_URL" "u")]

theorem named_pair_false {key : String} (h : Named (pair false) key) : key = "DOMAIN_NAME" := by
  obtain ⟨op, hop, member, hk, -, hid⟩ := h
  rcases List.mem_cons.1 hop with rfl | hop
  · have hkey : key = "DOMAIN_NAME" ∨ key = "CUSTOM_URL" := by simpa [kind] using hk
    rcases hkey with rfl | rfl
    · rfl
    · have hfirst := congrArg (fun s : String => s.toList.head?) hid
      simp at hfirst
  · obtain rfl := List.mem_singleton.1 hop
    exact hid.1.symm

theorem sequences_independent_on_pair : ∃ log answers alone,
    Runs Collection.server (sequence (pair false)) twofold log answers alone ∧
      (interleave Collection.server [false, true, false, false, true, false, false, false, false]
        (fun i => sequence (pair i)) twofold).2.membersOf "DOMAIN_NAME" = alone.membersOf "DOMAIN_NAME" := by
  have hdone : ((interleave Collection.server [false, true, false, false, true, false, false, false, false]
      (fun i => sequence (pair i)) twofold).1 false).result?.isSome = true := by
    decide +kernel
  have htrue : ∀ key, Named (pair true) key → key = "CUSTOM_URL" := by
    rintro key ⟨op, hop, member, -, -, hid⟩
    obtain rfl := List.mem_singleton.1 hop
    exact hid.1.symm
  have hapart : ∀ i j, i ≠ j → ∀ key, Named (pair i) key → ¬ Named (pair j) key := by
    intro i j hij key hi hj
    match i, j with
    | false, false => exact hij rfl
    | true, true => exact hij rfl
    | false, true =>
      rw [named_pair_false hi] at hj
      exact absurd (htrue _ hj) (by decide)
    | true, false =>
      rw [named_pair_false hj] at hi
      exact absurd (htrue _ hi) (by decide)
  obtain ⟨log, answers, alone, hrun, -, hturns⟩ := sequences_independent twofold pair hapart false
  refine ⟨log, answers, alone, hrun, ?_⟩
  obtain ⟨-, -, hlists⟩ := hturns [false, true, false, false, true, false, false, false, false]
  obtain ⟨found, hfound⟩ := Option.isSome_iff_exists.1 hdone
  refine (hlists found (Program.result?_eq_some.1 hfound)).2 "DOMAIN_NAME" fun j hj hnamed => ?_
  match j with
  | false => exact hj rfl
  | true => exact absurd (htrue _ hnamed) (by decide)

end InMemory
end PolicyProvider
