import PolicyProvider.Proofs.Member.Chain
import PolicyProvider.Proofs.Member.Cursors
/-!
# Asking — what the listings of a scan ask for

The first listing of a scan asks for no cursor, and each further one for another cursor that a page led to
(`Confined.asks`).  So a scan makes at most one listing more than there are cursors, whatever the collection answers
(`find_ends_within`).
-/
namespace PolicyProvider

open Program (Runs)

variable {K : MemberKind} {σ : Type} {server : CollectionServer K σ} {t : Topology} {key : String} {I : σ → Prop}
  {cursors : Finset String}

def Call.asked? : Call K → Option (Topology × MemberQuery)
  | .listing t q _ => some (t, q)
  | .change .. => none

/-- **That calls are the listings of a scan**: the first one asks for the cursor that the scan is at, and the others for
further cursors, each of them new and asked for once. -/
structure Scan.Asks (s : Scan) (log : List (Call K)) (further : List String) : Prop where
  asked : log.map Call.asked? =
    (s.cursor :: further.map some).map fun cursor => some (s.topology, { s with cursor := cursor }.query)
  nodup : further.Nodup
  fresh : ∀ cursor ∈ further, cursor ≠ "" ∧ cursor ∉ s.followed

theorem Scan.Asks.length_eq {s : Scan} {log : List (Call K)} {further : List String} (h : s.Asks log further) :
    log.length = further.length + 1 := by
  simpa using congrArg List.length h.asked

theorem Scan.asks_single (s : Scan) (answer : Except RemoteError (K.Page s.topology)) :
    s.Asks [Call.listing s.topology s.query answer] [] :=
  ⟨rfl, List.nodup_nil, fun _ h => absurd h List.not_mem_nil⟩

theorem Scan.Asks.further {s : Scan} {next : String} {log : List (Call K)} {further : List String}
    (answer : Except RemoteError (K.Page s.topology)) (hne : next ≠ "") (hnew : next ∉ s.followed)
    (h : ({ s with cursor := some next, followed := next :: s.followed } : Scan).Asks log further) :
    s.Asks (Call.listing s.topology s.query answer :: log) (next :: further) := by
  refine ⟨?_, List.nodup_cons.2 ⟨fun hmem => ?_, h.nodup⟩, fun cursor hcursor => ?_⟩
  · rw [List.map_cons, h.asked]
    rfl
  · exact (h.fresh next hmem).2 (List.mem_cons_self ..)
  · rcases List.mem_cons.1 hcursor with rfl | hcursor
    · exact ⟨hne, hnew⟩
    · obtain ⟨hne, hfresh⟩ := h.fresh cursor hcursor
      exact ⟨hne, fun hmem => hfresh (List.mem_cons_of_mem _ hmem)⟩

/-- **The listings of a scan that came to its end**, which asks for no other cursors than pages led it to. -/
theorem Confined.asks (h : Confined server t key I cursors) {s : Scan} (ht : s.topology = t) (hkey : s.key = key)
    {st st' : σ} {log : List (Call K)} {r : Except MemberError Bool} (hst : I st)
    (hrun : Runs server (.scan s .done) st log r st') :
    ∃ further, s.Asks log further ∧ ∀ cursor ∈ further, cursor ∈ cursors := by
  induction log generalizing s st with
  | nil =>
    obtain ⟨rest, hlog, -⟩ := Program.runs_scan_done.1 hrun
    cases hlog
  | cons call log ih =>
    obtain ⟨rest, hlog, hrest⟩ := Program.runs_scan_done.1 hrun
    obtain ⟨rfl, rfl⟩ := List.cons.inj hlog
    generalize hans : s.answered K (server.list s.topology s.query st).1 = verdict at hrest
    match verdict with
    | .error e =>
      obtain ⟨rfl, -⟩ := hrest
      exact ⟨[], s.asks_single _, fun _ h => absurd h List.not_mem_nil⟩
    | .ok (.settled present) =>
      obtain ⟨rfl, -⟩ := hrest
      exact ⟨[], s.asks_single _, fun _ h => absurd h List.not_mem_nil⟩
    | .ok (.further onward) =>
      rw [Scan.answered_eq] at hans
      obtain ⟨view, next, hshown, hnext, hnew, rfl⟩ := Scan.eq_of_judged_further hans
      subst ht hkey
      have hmem : next ∈ cursors := h.led s.query st view next rfl hst hshown hnext
      obtain ⟨further, hasks, hin⟩ := ih (s := { s with cursor := some next, followed := next :: s.followed }) rfl rfl
        (h.kept s.query st rfl hst) hrest
      refine ⟨next :: further, hasks.further _ (PageView.next?_eq_some.1 hnext).2 hnew, fun cursor hcursor => ?_⟩
      rcases List.mem_cons.1 hcursor with rfl | hcursor
      · exact hmem
      · exact hin cursor hcursor

/-- The states that listings of a key lead a collection to. -/
inductive Led (server : CollectionServer K σ) (t : Topology) (key : String) (st : σ) : σ → Prop
  | start : Led server t key st st
  | listing {mid : σ} (q : MemberQuery) (hkey : q.key = key) (h : Led server t key st mid) :
      Led server t key st (server.list t q mid).2

/-- **A scan ends within one listing more than there are cursors.**  The collection may answer as it likes, by all that
it was asked before, as long as the pages that it answers listings of the key with lead to cursors of a finite set.
Then the scan ends.  It makes listings only, at most one more than there are cursors; the first one carries no cursor,
and each further one carries a cursor that none before it did. -/
theorem find_ends_within {key member : String} {st : σ}
    (hled : ∀ mid, Led server t key st mid → ∀ q view next, q.key = key →
      shown K t (server.list t q mid).1 = .ok view → view.next? = some next → next ∈ cursors) :
    ∃ log r st', ∃ further : List String, Runs server (Lifecycle.find K t key member).run st log r st' ∧
      Program.run server (cursors.card + 1) (Lifecycle.find K t key member).run st = (.done r, st') ∧
      log.length ≤ cursors.card + 1 ∧
      log.map Call.asked? = (none :: further.map some).map (fun cursor => some (t, Chain.listing K key cursor)) ∧
      further.Nodup ∧ ∀ cursor ∈ further, cursor ∈ cursors := by
  have hconfined : Confined server t key (Led server t key st) cursors :=
    ⟨fun q mid hkey hmid => .listing q hkey hmid, fun q mid view next hkey hmid => hled mid hmid q view next hkey⟩
  have hnone : ∀ x ∈ ([] : List String), x ∈ cursors := fun _ hx => absurd hx List.not_mem_nil
  obtain ⟨log, r, st', hrun, -⟩ := hconfined.scan_ends (s := Lifecycle.scanFor K t key member) rfl rfl List.nodup_nil
    hnone .start
  obtain ⟨further, hasks, hin⟩ := hconfined.asks (s := Lifecycle.scanFor K t key member) rfl rfl .start hrun
  have hfew : log.length ≤ cursors.card + 1 := by
    rw [hasks.length_eq]
    exact Nat.succ_le_succ (length_le_card hasks.nodup hin)
  exact ⟨log, r, st', further, hrun, hrun.run_of_le hfew, hfew, hasks.asked, hasks.nodup, hin⟩

/-- A collection that leads to `A` and to `B` in turn, whatever cursor it is asked for. -/
def fickle : CollectionServer InMemory.kind Nat where
  list
    | .localManager, _, n =>
      (.ok (⟨"DOMAIN_NAME", ["a"], none, some (if n % 2 = 0 then "A" else "B")⟩ : InMemory.Page), n + 1)
    | .globalManager, _, n => (.error .unavailable, n + 1)
  mutate _ _ _ n := (.ok (), n)

theorem find_ends_within_on_fickle : ∃ log r st',
    Runs fickle (Lifecycle.find InMemory.kind .localManager "DOMAIN_NAME" "z").run 0 log r st' ∧ log.length ≤ 3 := by
  have hled : ∀ mid, Led fickle .localManager "DOMAIN_NAME" 0 mid → ∀ q view next, q.key = "DOMAIN_NAME" →
      shown InMemory.kind .localManager (fickle.list .localManager q mid).1 = .ok view → view.next? = some next →
      next ∈ ({"A", "B"} : Finset String) := by
    intro mid _ q view next _ hshown hnext
    have hcursor := (PageView.next?_eq_some.1 hnext).1
    obtain rfl := Except.ok.inj hshown
    cases Option.some.inj hcursor
    by_cases heven : mid % 2 = 0 <;> simp [heven]
  obtain ⟨log, r, st', further, hrun, -, hfew, -⟩ :=
    @find_ends_within InMemory.kind Nat fickle .localManager {"A", "B"} "DOMAIN_NAME" "z" 0 hled
  exact ⟨log, r, st', hrun, hfew⟩

/-- Two listings are not enough for it. -/
example : (Program.run fickle 2 (Lifecycle.find InMemory.kind .localManager "DOMAIN_NAME" "z").run 0).1.result? =
    none :=
  rfl

end PolicyProvider
