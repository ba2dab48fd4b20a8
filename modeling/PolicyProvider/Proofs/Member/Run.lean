import PolicyProvider.Member.Lifecycle
/-!
# Run — whole runs of programs, with the calls they make

`Program.Runs` relates a program and the state of a collection to the calls it makes, the result it ends with and the
state it leaves.  It is what `Program.run` computes, given enough calls (`runs_iff_run`); there is at most one
(`Runs.unique`), and a program followed by another runs one after the other (`runs_bind`).
-/
namespace PolicyProvider

inductive Call (K : MemberKind) where
  | listing (t : Topology) (q : MemberQuery) (answer : Except RemoteError (K.Page t))
  | change (t : Topology) (action : PatchAction) (patch : K.Patch t) (answer : Except RemoteError Unit)

namespace Program

variable {K : MemberKind} {α β σ : Type}

/-- What is left of a scanning program once a listing is answered. -/
def resumed (s : Scan) (next : Except MemberError Bool → Program K α)
    (answer : Except RemoteError (K.Page s.topology)) : Program K α :=
  match s.answered K answer with
  | .error e => next (.error e)
  | .ok (.settled present) => next (.ok present)
  | .ok (.further s) => .scan s next

/-- **The whole run of a program**: the calls it makes, in order, the result it ends with, and the state it leaves. -/
inductive Runs (server : CollectionServer K σ) : Program K α → σ → List (Call K) → α → σ → Prop
  | done (a : α) (st : σ) : Runs server (.done a) st [] a st
  | scan {s : Scan} {next : Except MemberError Bool → Program K α} {st st' : σ} {log : List (Call K)} {a : α}
      (rest : Runs server (resumed s next (server.list s.topology s.query st).1)
        (server.list s.topology s.query st).2 log a st') :
      Runs server (.scan s next) st (.listing s.topology s.query (server.list s.topology s.query st).1 :: log) a st'
  | mutate {t : Topology} {action : PatchAction} {patch : K.Patch t} {next : Except RemoteError Unit → Program K α}
      {st st' : σ} {log : List (Call K)} {a : α}
      (rest : Runs server (next (server.mutate t action patch st).1) (server.mutate t action patch st).2 log a st') :
      Runs server (.mutate t action patch next) st (.change t action patch (server.mutate t action patch st).1 :: log)
        a st'

variable {server : CollectionServer K σ}

theorem step_scan (s : Scan) (next : Except MemberError Bool → Program K α) (st : σ) :
    step server (.scan s next) st =
      (resumed s next (server.list s.topology s.query st).1, (server.list s.topology s.query st).2) := by
  unfold step resumed
  simp only
  generalize Scan.answered K s (server.list s.topology s.query st).1 = verdict
  rcases verdict with e | present | further <;> rfl

theorem step_mutate (t : Topology) (action : PatchAction) (patch : K.Patch t)
    (next : Except RemoteError Unit → Program K α) (st : σ) :
    step server (.mutate t action patch next) st =
      (next (server.mutate t action patch st).1, (server.mutate t action patch st).2) := rfl

theorem result?_eq_some {p : Program K α} {a : α} : p.result? = some a ↔ p = .done a := by
  cases p <;> simp [result?]

/-! ## Runs and bounded runs -/

theorem run_done (a : α) (st : σ) : ∀ calls : Nat, run server calls (.done a) st = (.done a, st)
  | 0 => rfl
  | calls + 1 => run_done a st calls

theorem run_add (m n : Nat) (p : Program K α) (st : σ) :
    run server (m + n) p st = run server n (run server m p st).1 (run server m p st).2 := by
  induction m generalizing p st with
  | zero => rw [Nat.zero_add]; rfl
  | succ m ih => rw [Nat.succ_add]; exact ih _ _

theorem Runs.run {p : Program K α} {st st' : σ} {log : List (Call K)} {a : α} (h : Runs server p st log a st') :
    p.run server log.length st = (.done a, st') := by
  induction h with
  | done a st => rfl
  | scan rest ih =>
    rw [List.length_cons, Program.run, step_scan]
    exact ih
  | mutate rest ih =>
    rw [List.length_cons, Program.run]
    exact ih

theorem Runs.run_of_le {p : Program K α} {st st' : σ} {log : List (Call K)} {a : α} (h : Runs server p st log a st')
    {calls : Nat} (hle : log.length ≤ calls) : p.run server calls st = (.done a, st') := by
  obtain ⟨more, rfl⟩ := Nat.exists_eq_add_of_le hle
  rw [run_add, h.run, run_done]

theorem runs_of_run : ∀ (calls : Nat) (p : Program K α) (st : σ) {a : α} {st' : σ},
    p.run server calls st = (.done a, st') → ∃ log, log.length ≤ calls ∧ Runs server p st log a st'
  | 0, p, st, a, st', h => by
    cases h
    exact ⟨[], Nat.le_refl 0, .done a st⟩
  | calls + 1, .done a, st, b, st', h => by
    rw [run_done] at h
    cases h
    exact ⟨[], Nat.zero_le _, .done a st⟩
  | calls + 1, .scan s next, st, a, st', h => by
    rw [Program.run, step_scan] at h
    obtain ⟨log, hle, rest⟩ := runs_of_run calls _ _ h
    exact ⟨_ :: log, Nat.succ_le_succ hle, .scan rest⟩
  | calls + 1, .mutate t action patch next, st, a, st', h => by
    obtain ⟨log, hle, rest⟩ := runs_of_run calls _ _ h
    exact ⟨_ :: log, Nat.succ_le_succ hle, .mutate rest⟩

/-- **A program ends in a run exactly when enough calls bring it to its end.** -/
theorem runs_iff_run {p : Program K α} {st st' : σ} {a : α} :
    (∃ log, Runs server p st log a st') ↔ ∃ calls, p.run server calls st = (.done a, st') := by
  constructor
  · rintro ⟨log, h⟩
    exact ⟨log.length, h.run⟩
  · rintro ⟨calls, h⟩
    obtain ⟨log, -, hr⟩ := runs_of_run calls p st h
    exact ⟨log, hr⟩

theorem Runs.unique {p : Program K α} {st st₁ st₂ : σ} {log₁ log₂ : List (Call K)} {a₁ a₂ : α}
    (h₁ : Runs server p st log₁ a₁ st₁) (h₂ : Runs server p st log₂ a₂ st₂) : log₁ = log₂ ∧ a₁ = a₂ ∧ st₁ = st₂ := by
  induction h₁ generalizing log₂ with
  | done a st => cases h₂; exact ⟨rfl, rfl, rfl⟩
  | scan rest ih =>
    cases h₂ with
    | scan rest' =>
      obtain ⟨rfl, rfl, rfl⟩ := ih rest'
      exact ⟨rfl, rfl, rfl⟩
  | mutate rest ih =>
    cases h₂ with
    | mutate rest' =>
      obtain ⟨rfl, rfl, rfl⟩ := ih rest'
      exact ⟨rfl, rfl, rfl⟩

theorem Runs.scan_of {s : Scan} {next : Except MemberError Bool → Program K α} {st mid st' : σ} {log : List (Call K)}
    {a : α} {answer : Except RemoteError (K.Page s.topology)}
    (hlist : server.list s.topology s.query st = (answer, mid))
    (rest : Runs server (resumed s next answer) mid log a st') :
    Runs server (.scan s next) st (.listing s.topology s.query answer :: log) a st' := by
  have hanswer : (server.list s.topology s.query st).1 = answer := by rw [hlist]
  have hmid : (server.list s.topology s.query st).2 = mid := by rw [hlist]
  subst hanswer hmid
  exact .scan rest

theorem Runs.mutate_of {t : Topology} {action : PatchAction} {patch : K.Patch t}
    {next : Except RemoteError Unit → Program K α} {st mid st' : σ} {log : List (Call K)} {a : α}
    {answer : Except RemoteError Unit} (hmutate : server.mutate t action patch st = (answer, mid))
    (rest : Runs server (next answer) mid log a st') :
    Runs server (.mutate t action patch next) st (.change t action patch answer :: log) a st' := by
  have hanswer : (server.mutate t action patch st).1 = answer := by rw [hmutate]
  have hmid : (server.mutate t action patch st).2 = mid := by rw [hmutate]
  subst hanswer hmid
  exact .mutate rest

/-! ## Programs one after the other -/

theorem bind_resumed (s : Scan) (next : Except MemberError Bool → Program K α) (f : α → Program K β)
    (answer : Except RemoteError (K.Page s.topology)) :
    bind (resumed s next answer) f = resumed s (fun r => bind (next r) f) answer := by
  unfold resumed
  split <;> rfl

theorem Runs.bind {p : Program K α} {f : α → Program K β} {st mid st' : σ} {log log' : List (Call K)} {a : α} {b : β}
    (h : Runs server p st log a mid) (h' : Runs server (f a) mid log' b st') :
    Runs server (Program.bind p f) st (log ++ log') b st' := by
  induction h with
  | done a st => exact h'
  | scan rest ih => exact .scan (by rw [← bind_resumed]; exact ih h')
  | mutate rest ih => exact .mutate (ih h')

/-- **A program followed by another runs one after the other.** -/
theorem runs_bind {p : Program K α} {f : α → Program K β} {st st' : σ} {log : List (Call K)} {b : β} :
    Runs server (bind p f) st log b st' ↔
      ∃ log₁ a mid log₂, Runs server p st log₁ a mid ∧ Runs server (f a) mid log₂ b st' ∧ log = log₁ ++ log₂ := by
  constructor
  · intro h
    -- a scan may go on as itself, so the induction is on the run and not on the program
    generalize hq : bind p f = q at h
    induction h generalizing p with
    | done b st =>
      cases p with
      | done a =>
        have hf : f a = .done b := hq
        exact ⟨[], a, st, [], .done a st, by rw [hf]; exact .done b st, rfl⟩
      | scan s next => cases hq
      | mutate t action patch next => cases hq
    | scan rest ih =>
      cases p with
      | done a =>
        have hf : f a = .scan _ _ := hq
        exact ⟨[], a, _, _, .done a _, by rw [hf]; exact .scan rest, rfl⟩
      | scan s next =>
        cases hq
        obtain ⟨log₁, a, mid, log₂, h₁, h₂, rfl⟩ := ih (bind_resumed _ next f _)
        exact ⟨_, a, mid, log₂, .scan h₁, h₂, rfl⟩
      | mutate t action patch next => cases hq
    | mutate rest ih =>
      cases p with
      | done a =>
        have hf : f a = .mutate _ _ _ _ := hq
        exact ⟨[], a, _, _, .done a _, by rw [hf]; exact .mutate rest, rfl⟩
      | scan s next => cases hq
      | mutate t action patch next =>
        cases hq
        obtain ⟨log₁, a, mid, log₂, h₁, h₂, rfl⟩ := ih rfl
        exact ⟨_, a, mid, log₂, .mutate h₁, h₂, rfl⟩
  · rintro ⟨log₁, a, mid, log₂, h₁, h₂, rfl⟩
    exact h₁.bind h₂

theorem runs_done {a b : α} {st st' : σ} {log : List (Call K)} :
    Runs server (.done a) st log b st' ↔ log = [] ∧ b = a ∧ st' = st := by
  constructor
  · rintro ⟨⟩
    exact ⟨rfl, rfl, rfl⟩
  · rintro ⟨rfl, rfl, rfl⟩
    exact .done _ _

theorem runs_map {p : Program K α} {f : α → β} {st st' : σ} {log : List (Call K)} {b : β} :
    Runs server (map f p) st log b st' ↔ ∃ a, Runs server p st log a st' ∧ b = f a := by
  unfold map
  rw [runs_bind]
  constructor
  · rintro ⟨log₁, a, mid, log₂, h₁, h₂, rfl⟩
    obtain ⟨rfl, rfl, rfl⟩ := runs_done.1 h₂
    exact ⟨a, by rwa [List.append_nil], rfl⟩
  · rintro ⟨a, h, rfl⟩
    exact ⟨log, a, st', [], h, .done _ _, (List.append_nil log).symm⟩

theorem runs_scan {s : Scan} {next : Except MemberError Bool → Program K α} {st st' : σ} {log : List (Call K)} {a : α} :
    Runs server (.scan s next) st log a st' ↔
      ∃ log₁ r mid log₂, Runs server (.scan s .done) st log₁ r mid ∧ Runs server (next r) mid log₂ a st' ∧
        log = log₁ ++ log₂ :=
  runs_bind (p := .scan s .done) (f := next)

/-- **A scan to its end**: the first answer settles it, ends it with an error, or leads on. -/
theorem runs_scan_done {s : Scan} {st st' : σ} {log : List (Call K)} {r : Except MemberError Bool} :
    Runs server (.scan s .done) st log r st' ↔
      ∃ rest, log = .listing s.topology s.query (server.list s.topology s.query st).1 :: rest ∧
        match s.answered K (server.list s.topology s.query st).1 with
        | .error e => rest = [] ∧ r = .error e ∧ st' = (server.list s.topology s.query st).2
        | .ok (.settled present) => rest = [] ∧ r = .ok present ∧ st' = (server.list s.topology s.query st).2
        | .ok (.further s') => Runs server (.scan s' .done) (server.list s.topology s.query st).2 rest r st' := by
  have hres : ∀ rest, Runs server (resumed s .done (server.list s.topology s.query st).1)
      (server.list s.topology s.query st).2 rest r st' ↔
        match s.answered K (server.list s.topology s.query st).1 with
        | .error e => rest = [] ∧ r = .error e ∧ st' = (server.list s.topology s.query st).2
        | .ok (.settled present) => rest = [] ∧ r = .ok present ∧ st' = (server.list s.topology s.query st).2
        | .ok (.further s') => Runs server (.scan s' .done) (server.list s.topology s.query st).2 rest r st' := by
    intro rest
    rw [resumed]
    rcases s.answered K (server.list s.topology s.query st).1 with e | present | further
    · exact runs_done
    · exact runs_done
    · exact Iff.rfl
  constructor
  · rintro ⟨⟩
    rename_i rest h
    exact ⟨rest, rfl, (hres rest).1 h⟩
  · rintro ⟨rest, rfl, h⟩
    exact .scan ((hres rest).2 h)

theorem Runs.settled {s : Scan} {st : σ} {present : Bool}
    (h : s.answered K (server.list s.topology s.query st).1 = .ok (.settled present)) :
    Runs server (.scan s .done) st [.listing s.topology s.query (server.list s.topology s.query st).1] (.ok present)
      (server.list s.topology s.query st).2 := by
  rw [runs_scan_done, h]
  exact ⟨[], rfl, rfl, rfl, rfl⟩

theorem Runs.failed {s : Scan} {st : σ} {e : MemberError}
    (h : s.answered K (server.list s.topology s.query st).1 = .error e) :
    Runs server (.scan s .done) st [.listing s.topology s.query (server.list s.topology s.query st).1] (.error e)
      (server.list s.topology s.query st).2 := by
  rw [runs_scan_done, h]
  exact ⟨[], rfl, rfl, rfl, rfl⟩

theorem Runs.further {s s' : Scan} {st st' : σ} {log : List (Call K)} {r : Except MemberError Bool}
    (h : s.answered K (server.list s.topology s.query st).1 = .ok (.further s'))
    (rest : Runs server (.scan s' .done) (server.list s.topology s.query st).2 log r st') :
    Runs server (.scan s .done) st
      (.listing s.topology s.query (server.list s.topology s.query st).1 :: log) r st' := by
  rw [runs_scan_done, h]
  exact ⟨log, rfl, rest⟩

theorem runs_mutate {t : Topology} {action : PatchAction} {patch : K.Patch t}
    {next : Except RemoteError Unit → Program K α} {st st' : σ} {log : List (Call K)} {a : α} :
    Runs server (.mutate t action patch next) st log a st' ↔
      ∃ rest, Runs server (next (server.mutate t action patch st).1) (server.mutate t action patch st).2 rest a st' ∧
        log = .change t action patch (server.mutate t action patch st).1 :: rest := by
  constructor
  · rintro ⟨⟩
    rename_i log rest
    exact ⟨log, rest, rfl⟩
  · rintro ⟨rest, h, rfl⟩
    exact .mutate h

end Program
end PolicyProvider
