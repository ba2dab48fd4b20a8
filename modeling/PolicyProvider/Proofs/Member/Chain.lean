import Mathlib.Data.Finset.Card
import Mathlib.Data.Set.Finite.Basic
import PolicyProvider.Member.InMemory
import PolicyProvider.Proofs.Member.Run
import PolicyProvider.Proofs.Member.Scan
/-!
# Chain — a scan sees what the whole chain of pages shows

A collection that answers by the cursor alone has a chain of pages: the first one, the one its cursor leads to, and so
on, possibly for ever.  A scan stops at a cursor it has followed before; from there on the chain only repeats itself
(`page?_of_repeat`), so the scan's result is the chain's (`find_exact`).
-/
namespace PolicyProvider

/-- What a collection that answers by the cursor alone shows for each cursor. -/
abbrev Chain := Option String → Except MemberError PageView

namespace Chain

/-- **The cursor of the page at a place in the chain**, if the chain goes so far: none for the first page, and for a
further one the cursor of the page before. -/
def cursor? (f : Chain) : Nat → Option (Option String)
  | 0 => some none
  | n + 1 => match cursor? f n with
    | none => none
    | some cursor => match f cursor with
      | .error _ => none
      | .ok page => page.next?.map some

def page? (f : Chain) (n : Nat) : Option (Except MemberError PageView) := (cursor? f n).map f

/-- A page of the chain that is not counted as empty. -/
def Counted (f : Chain) (n : Nat) (page : PageView) : Prop :=
  page? f n = some (.ok page) ∧ page.resultCount ≠ some 0

/-- **The chain reveals the member**: one of its pages lists it, and neither that one nor any before it is counted as
empty. -/
def Reveals (f : Chain) (key member : String) : Prop :=
  ∃ n page, Counted f n page ∧ page.lists key member = true ∧ ∀ i < n, ∃ earlier, Counted f i earlier

/-- **The chain breaks off** with an error other than that nothing is there, after pages that neither list the member
nor are counted as empty. -/
def Breaks (f : Chain) (key member : String) (e : MemberError) : Prop :=
  ∃ n, page? f n = some (.error e) ∧ e.saysMissing = false ∧
    ∀ i < n, ∃ earlier, Counted f i earlier ∧ earlier.lists key member = false

def Passed (f : Chain) (key member : String) (n : Nat) : Prop :=
  ∃ page, Counted f n page ∧ page.lists key member = false

variable {f : Chain} {key member : String}

theorem page?_of_cursor? {n : Nat} {cursor : Option String} (h : cursor? f n = some cursor) :
    page? f n = some (f cursor) := by
  rw [page?, h, Option.map_some]

theorem cursor?_succ {n : Nat} {cursor : Option String} {page : PageView} (h : cursor? f n = some cursor)
    (hp : f cursor = .ok page) : cursor? f (n + 1) = page.next?.map some := by
  simp only [cursor?, h, hp]

theorem cursor?_none_add {n : Nat} (h : cursor? f n = none) : ∀ k, cursor? f (n + k) = none
  | 0 => h
  | k + 1 => by
    have ih := cursor?_none_add h k
    rw [← Nat.add_assoc]
    simp only [cursor?, ih]

/-- **From a repeated cursor on the chain repeats itself.** -/
theorem cursor?_add_of_repeat {i n : Nat} (h : cursor? f i = cursor? f n) :
    ∀ k, cursor? f (i + k) = cursor? f (n + k)
  | 0 => h
  | k + 1 => by
    have ih := cursor?_add_of_repeat h k
    rw [← Nat.add_assoc, ← Nat.add_assoc]
    simp only [cursor?, ih]

theorem page?_of_repeat {i n : Nat} (hin : i < n) (h : cursor? f i = cursor? f n) :
    ∀ m, ∃ j < n, page? f m = page? f j := by
  intro m
  induction m using Nat.strongRecOn with
  | ind m ih =>
    by_cases hm : m < n
    · exact ⟨m, hm, rfl⟩
    · obtain ⟨k, rfl⟩ := Nat.exists_eq_add_of_le (Nat.le_of_not_lt hm)
      obtain ⟨j, hj, hjp⟩ := ih (i + k) (by omega)
      refine ⟨j, hj, ?_⟩
      rw [← hjp, page?, page?, cursor?_add_of_repeat h k]

theorem counted_inj {n : Nat} {p q : PageView} (hp : Counted f n p) (hq : Counted f n q) : p = q := by
  have h := hp.1.symm.trans hq.1
  simpa using h

theorem Passed.not_lists {n : Nat} (h : Passed f key member n) {page : PageView} (hp : Counted f n page) :
    page.lists key member = false := by
  obtain ⟨q, hq, hl⟩ := h
  rw [counted_inj hp hq]
  exact hl

theorem Passed.not_error {n : Nat} (h : Passed f key member n) (e : MemberError) :
    page? f n ≠ some (.error e) := by
  obtain ⟨q, hq, -⟩ := h
  rw [hq.1]
  simp

/-! ## What settles the chain -/

theorem silent_of_passed (h : ∀ m, page? f m = none ∨ Passed f key member m) :
    ¬ Reveals f key member ∧ ∀ e, ¬ Breaks f key member e := by
  constructor
  · rintro ⟨n, page, hc, hl, -⟩
    rcases h n with hn | hn
    · rw [hc.1] at hn
      cases hn
    · rw [hn.not_lists hc] at hl
      cases hl
  · rintro e ⟨n, hn, -, -⟩
    rcases h n with hp | hp
    · rw [hn] at hp
      cases hp
    · exact hp.not_error e hn

theorem not_reveals_of_uncounted {n : Nat} (hpass : ∀ i < n, Passed f key member i) (hn : ∀ page, ¬ Counted f n page) :
    ¬ Reveals f key member := by
  rintro ⟨m, page, hc, hl, hbefore⟩
  rcases Nat.lt_trichotomy m n with hm | rfl | hm
  · rw [(hpass m hm).not_lists hc] at hl
    cases hl
  · exact hn page hc
  · obtain ⟨earlier, he⟩ := hbefore n hm
    exact hn earlier he

theorem breaks_of_uncounted {n : Nat} (hpass : ∀ i < n, Passed f key member i) (hn : ∀ page, ¬ Counted f n page)
    (e : MemberError) : Breaks f key member e ↔ page? f n = some (.error e) ∧ e.saysMissing = false := by
  constructor
  · rintro ⟨m, hm, hs, hbefore⟩
    rcases Nat.lt_trichotomy m n with hlt | rfl | hlt
    · exact absurd hm ((hpass m hlt).not_error e)
    · exact ⟨hm, hs⟩
    · obtain ⟨earlier, he, -⟩ := hbefore n hlt
      exact absurd he (hn earlier)
  · rintro ⟨hm, hs⟩
    exact ⟨n, hm, hs, hpass⟩

theorem not_breaks_of_lists {n : Nat} {page : PageView} (hpass : ∀ i < n, Passed f key member i)
    (hn : Counted f n page) (hl : page.lists key member = true) (e : MemberError) : ¬ Breaks f key member e := by
  rintro ⟨m, hm, -, hbefore⟩
  rcases Nat.lt_trichotomy m n with hlt | rfl | hlt
  · exact (hpass m hlt).not_error e hm
  · rw [hn.1] at hm
    cases hm
  · obtain ⟨earlier, he, hle⟩ := hbefore n hlt
    rw [counted_inj he hn, hl] at hle
    cases hle

/-! ## A scan along the chain -/

/-- What a result of a scan has to be for the chain: whether the member is revealed, or where the chain breaks off. -/
structure Settles (f : Chain) (key member : String) (r : Except MemberError Bool) : Prop where
  present : r = .ok true ↔ Reveals f key member
  failed : ∀ e, r = .error e ↔ Breaks f key member e

structure Reached (f : Chain) (s : Scan) (n : Nat) : Prop where
  cursor : cursor? f n = some s.cursor
  passed : ∀ i < n, Passed f s.key s.member i
  followed : ∀ c, c ∈ s.followed ↔ ∃ i < n, cursor? f (i + 1) = some (some c)
  distinct : ∀ j ≤ n, ∀ i < j, cursor? f i ≠ cursor? f j

theorem Reached.all_passed {s : Scan} {n : Nat} (h : Reached f s n) (hn : Passed f s.key s.member n) :
    ∀ i ≤ n, Passed f s.key s.member i := fun i hi => by
  rcases Nat.lt_or_eq_of_le hi with hlt | rfl
  · exact h.passed i hlt
  · exact hn

theorem settles_false (h : ¬ Reveals f key member ∧ ∀ e, ¬ Breaks f key member e) : Settles f key member (.ok false) :=
  ⟨⟨fun he => (by cases he), fun hv => absurd hv h.1⟩, fun e => ⟨fun he => (by cases he), fun hb => absurd hb (h.2 e)⟩⟩

theorem silent_of_end {n : Nat} (hpass : ∀ i ≤ n, Passed f key member i) (hend : cursor? f (n + 1) = none) :
    ¬ Reveals f key member ∧ ∀ e, ¬ Breaks f key member e := by
  refine silent_of_passed fun m => ?_
  by_cases hm : m ≤ n
  · exact Or.inr (hpass m hm)
  · obtain ⟨k, rfl⟩ := Nat.exists_eq_add_of_le (Nat.succ_le_of_lt (Nat.lt_of_not_le hm))
    exact Or.inl (by rw [page?, cursor?_none_add hend]; rfl)

/-- **A chain that comes back to a cursor** behind pages that are gone past is silent: the rest repeats them. -/
theorem silent_of_repeat {i n : Nat} (hpass : ∀ i ≤ n, Passed f key member i) (hin : i ≤ n)
    (h : cursor? f i = cursor? f (n + 1)) : ¬ Reveals f key member ∧ ∀ e, ¬ Breaks f key member e := by
  refine silent_of_passed fun m => ?_
  obtain ⟨j, hj, hjp⟩ := page?_of_repeat (Nat.lt_succ_of_le hin) h m
  obtain ⟨page, ⟨hp, hc⟩, hl⟩ := hpass j (Nat.le_of_lt_succ hj)
  exact Or.inr ⟨page, ⟨hjp.trans hp, hc⟩, hl⟩

theorem Reached.further {s : Scan} {n : Nat} {c : String} (h : Reached f s n)
    (hpass : ∀ i < n + 1, Passed f s.key s.member i) (hnext : cursor? f (n + 1) = some (some c))
    (hc : c ∉ s.followed) : Reached f { s with cursor := some c, followed := c :: s.followed } (n + 1) := by
  refine ⟨hnext, hpass, fun c' => ?_, fun j hj i hi => ?_⟩
  · rw [List.mem_cons, h.followed c']
    constructor
    · rintro (rfl | ⟨i, hi, hci⟩)
      · exact ⟨n, Nat.lt_succ_self n, hnext⟩
      · exact ⟨i, Nat.lt_succ_of_lt hi, hci⟩
    · rintro ⟨i, hi, hci⟩
      rcases Nat.lt_or_eq_of_le (Nat.le_of_lt_succ hi) with hlt | rfl
      · exact Or.inr ⟨i, hlt, hci⟩
      · rw [hnext] at hci
        exact Or.inl (by simpa using hci.symm)
  · rcases Nat.lt_or_eq_of_le hj with hlt | rfl
    · exact h.distinct j (Nat.le_of_lt_succ hlt) i hi
    · rw [hnext]
      cases i with
      | zero => simp [cursor?]
      | succ i => exact fun hci => hc ((h.followed c).2 ⟨i, Nat.lt_of_succ_lt_succ hi, hci⟩)

theorem Reached.settles_of_uncounted {s : Scan} {n : Nat} (h : Reached f s n) (hn : ∀ page, ¬ Counted f n page)
    (hmissing : ∀ e, page? f n = some (.error e) → e.saysMissing = true) : Settles f s.key s.member (.ok false) := by
  refine settles_false ⟨not_reveals_of_uncounted h.passed hn, fun e hb => ?_⟩
  obtain ⟨he, hs⟩ := (breaks_of_uncounted h.passed hn e).1 hb
  rw [hmissing e he] at hs
  cases hs

theorem Reached.settles_of_error {s : Scan} {n : Nat} (h : Reached f s n) {e : MemberError}
    (hpage : page? f n = some (.error e)) (hs : e.saysMissing = false) : Settles f s.key s.member (.error e) := by
  have hun : ∀ page, ¬ Counted f n page := by
    intro page hc
    rw [hc.1] at hpage
    cases hpage
  refine ⟨⟨fun he => (by cases he), fun hv => absurd hv (not_reveals_of_uncounted h.passed hun)⟩, fun e' => ?_⟩
  rw [breaks_of_uncounted h.passed hun, hpage]
  constructor
  · rintro ⟨⟩
    exact ⟨rfl, hs⟩
  · rintro ⟨he, -⟩
    cases he
    rfl

theorem Reached.settles_of_present {s : Scan} {n : Nat} (h : Reached f s n) {page : PageView} (hn : Counted f n page)
    (hlists : page.lists s.key s.member = true) : Settles f s.key s.member (.ok true) := by
  refine ⟨⟨fun _ => ⟨n, page, hn, hlists, fun i hi => ?_⟩, fun _ => rfl⟩, fun e => ⟨fun he => (by cases he), fun hb =>
    absurd hb (not_breaks_of_lists h.passed hn hlists e)⟩⟩
  obtain ⟨earlier, he, -⟩ := h.passed i hi
  exact ⟨earlier, he⟩

theorem Reached.settles_of_last {s : Scan} {n : Nat} (h : Reached f s n) {page : PageView} (hf : f s.cursor = .ok page)
    (hn : Passed f s.key s.member n) (hlast : ∀ next, page.next? = some next → next ∈ s.followed) :
    Settles f s.key s.member (.ok false) := by
  have hpass := h.all_passed hn
  have hnext := cursor?_succ h.cursor hf
  refine settles_false ?_
  cases hp : page.next? with
  | none =>
    rw [hp] at hnext
    exact silent_of_end hpass hnext
  | some c =>
    -- a cursor followed before is that of an earlier place, and from there the chain is known
    rw [hp] at hnext
    obtain ⟨i, hi, hci⟩ := (h.followed c).1 (hlast c hp)
    exact silent_of_repeat hpass (Nat.succ_le_of_lt hi) (hci.trans hnext.symm)

/-- **One page of a scan**: it settles what the chain does, or leads on to a page not asked for before. -/
theorem judged_of_reached {s : Scan} {n : Nat} (h : Reached f s n) :
    (∃ b, s.judged (f s.cursor) = .ok (.settled b) ∧ Settles f s.key s.member (.ok b)) ∨
    (∃ e, s.judged (f s.cursor) = .error e ∧ Settles f s.key s.member (.error e)) ∨
    (∃ c, s.judged (f s.cursor) = .ok (.further { s with cursor := some c, followed := c :: s.followed }) ∧
      Reached f { s with cursor := some c, followed := c :: s.followed } (n + 1)) := by
  have hpage := page?_of_cursor? h.cursor
  cases hf : f s.cursor with
  | error e =>
    rw [hf] at hpage
    cases hs : e.saysMissing with
    | true =>
      refine Or.inl ⟨false, by simp [Scan.judged, hs], h.settles_of_uncounted (fun page hc => ?_) fun e' he => ?_⟩
      · rw [hc.1] at hpage
        cases hpage
      · rw [hpage] at he
        cases he
        exact hs
    | false => exact Or.inr (Or.inl ⟨e, by simp [Scan.judged, hs], h.settles_of_error hpage hs⟩)
  | ok page =>
    rw [hf] at hpage
    have hjudged : s.judged (.ok page) = .ok (s.read page) := rfl
    have hread := s.reading page
    rw [hjudged]
    generalize s.read page = verdict at hread ⊢
    cases hread with
    | empty hcount =>
      refine Or.inl ⟨false, rfl, h.settles_of_uncounted (fun p hp => ?_) fun e he => ?_⟩
      · have hsame := hp.1.symm.trans hpage
        cases hsame
        exact hp.2 hcount
      · rw [hpage] at he
        cases he
    | present hcount hlists => exact Or.inl ⟨true, rfl, h.settles_of_present ⟨hpage, hcount⟩ hlists⟩
    | last hcount hlists hlast =>
      exact Or.inl ⟨false, rfl, h.settles_of_last hf ⟨page, ⟨hpage, hcount⟩, hlists⟩ hlast⟩
    | @further c hcount hlists hp hnew =>
      have hpass := h.all_passed ⟨page, ⟨hpage, hcount⟩, hlists⟩
      have hnext := cursor?_succ h.cursor hf
      rw [hp] at hnext
      exact Or.inr (Or.inr ⟨c, rfl, h.further (fun i hi => hpass i (Nat.le_of_lt_succ hi)) hnext hnew⟩)

/-! ## The scan to its end -/

variable {K : MemberKind} {t : Topology} {σ : Type}

def listing (K : MemberKind) (key : String) (cursor : Option String) : MemberQuery :=
  { key, source := K.source, paging := { cursor } }

/-- What a collection that answers by the cursor alone shows. -/
def ofAnswers (K : MemberKind) (t : Topology) (answer : Option String → Except RemoteError (K.Page t)) : Chain :=
  fun cursor => shown K t (answer cursor)

theorem Reached.lt_card {s : Scan} {n : Nat} (h : Reached f s n) {cursors : Finset (Option String)}
    (hall : ∀ i c, cursor? f i = some c → c ∈ cursors) : n < cursors.card := by
  have hsome : ∀ i ≤ n, ∃ c, cursor? f i = some c := fun i hi => by
    cases hi' : cursor? f i with
    | some c => exact ⟨c, rfl⟩
    | none =>
      obtain ⟨k, rfl⟩ := Nat.exists_eq_add_of_le hi
      have := h.cursor
      rw [cursor?_none_add hi' k] at this
      cases this
  have hle : (Finset.range (n + 1)).card ≤ cursors.card := by
    refine Finset.card_le_card_of_injOn (fun i => (cursor? f i).getD none) (fun i hi => ?_) (fun i hi j hj hij => ?_)
    · obtain ⟨c, hc⟩ := hsome i (Nat.le_of_lt_succ (Finset.mem_range.1 hi))
      simp only [hc, Option.getD_some]
      exact hall i c hc
    · have hi' := Nat.le_of_lt_succ (Finset.mem_range.1 hi)
      have hj' := Nat.le_of_lt_succ (Finset.mem_range.1 hj)
      obtain ⟨a, ha⟩ := hsome i hi'
      obtain ⟨b, hb⟩ := hsome j hj'
      simp only [ha, hb, Option.getD_some] at hij
      rcases Nat.lt_trichotomy i j with hlt | heq | hlt
      · exact absurd (by rw [ha, hb, hij]) (h.distinct j hj' i hlt)
      · exact heq
      · exact absurd (by rw [ha, hb, hij]) (h.distinct i hi' j hlt)
  rw [Finset.card_range] at hle
  exact hle

/-- **A scan that has reached a page of the chain comes to an end**, settles what the chain does, and asks for the pages
of the chain, each once. -/
theorem scan_runs {key member : String} {server : CollectionServer K σ}
    {answer : Option String → Except RemoteError (K.Page t)}
    (hfix : ∀ cursor st, (server.list t (listing K key cursor) st).1 = answer cursor) {cursors : Finset (Option String)}
    (hall : ∀ i c, cursor? (ofAnswers K t answer) i = some c → c ∈ cursors) :
    ∀ (left : Nat) (cursor : Option String) (followed : List String) (n : Nat) (st : σ), cursors.card ≤ n + left →
      Reached (ofAnswers K t answer) ⟨t, K.source, key, member, cursor, followed⟩ n →
      ∃ log r st', Program.Runs server (.scan ⟨t, K.source, key, member, cursor, followed⟩ .done) st log r st' ∧
        Settles (ofAnswers K t answer) key member r ∧
        (∀ i (hi : i < log.length), ∃ c, cursor? (ofAnswers K t answer) (n + i) = some c ∧
          log[i] = .listing t (listing K key c) (answer c)) ∧
        ∀ j < n + log.length, ∀ i < j, cursor? (ofAnswers K t answer) i ≠ cursor? (ofAnswers K t answer) j
  | 0, cursor, followed, n, st, hleft, h => absurd (h.lt_card hall) (by omega)
  | left + 1, cursor, followed, n, st, hleft, h => by
    have hcall : Call.listing t (listing K key cursor) (server.list t (listing K key cursor) st).1 =
        .listing t (listing K key cursor) (answer cursor) := by rw [hfix]
    have hans : Scan.answered K ⟨t, K.source, key, member, cursor, followed⟩
        (server.list t (listing K key cursor) st).1 =
          Scan.judged ⟨t, K.source, key, member, cursor, followed⟩ (ofAnswers K t answer cursor) := by
      rw [Scan.answered_eq]
      exact congrArg (fun a => Scan.judged _ (shown K t a)) (hfix cursor st)
    have hone : ∀ i (hi : i < 1), ∃ c, cursor? (ofAnswers K t answer) (n + i) = some c ∧
        [Call.listing t (listing K key cursor) (server.list t (listing K key cursor) st).1][i] =
          .listing t (listing K key c) (answer c) := by
      intro i hi
      obtain rfl : i = 0 := by omega
      exact ⟨cursor, h.cursor, hcall⟩
    have hdist : ∀ j < n + 1, ∀ i < j, cursor? (ofAnswers K t answer) i ≠ cursor? (ofAnswers K t answer) j :=
      fun j hj => h.distinct j (Nat.le_of_lt_succ hj)
    rcases judged_of_reached h with ⟨b, hj, hset⟩ | ⟨e, hj, hset⟩ | ⟨c, hj, hnext⟩
    · exact ⟨_, .ok b, _, .settled (hans.trans hj), hset, hone, hdist⟩
    · exact ⟨_, .error e, _, .failed (hans.trans hj), hset, hone, hdist⟩
    · obtain ⟨log, r, st', hrun, hset, hlog, hd⟩ :=
        scan_runs hfix hall left (some c) (c :: followed) (n + 1) _ (by omega) hnext
      refine ⟨_, r, st', .further (hans.trans hj) hrun, hset, fun i hi => ?_, fun j hjl => hd j ?_⟩
      · cases i with
        | zero => exact hone 0 Nat.one_pos
        | succ i =>
          obtain ⟨c', hc', hentry⟩ := hlog i (Nat.lt_of_succ_lt_succ hi)
          exact ⟨c', by rwa [Nat.add_right_comm, Nat.add_assoc] at hc', hentry⟩
      · rw [List.length_cons] at hjl
        omega

/-- **A scan is exact for a collection that answers by the cursor alone**, with pages and errors as it likes, if the
chain of its pages asks for finitely many cursors.  It comes to an end; it finds the member exactly if the unbounded
chain reveals it, fails exactly with the error the chain breaks off with, and finds nothing otherwise.  Every listing it
sends is for the same key and source, with nothing but the cursor of its place in the chain, and none is sent twice. -/
theorem find_exact {key member : String} {server : CollectionServer K σ}
    {answer : Option String → Except RemoteError (K.Page t)}
    (hfix : ∀ cursor st, (server.list t (listing K key cursor) st).1 = answer cursor)
    (hfin : {c | ∃ i, cursor? (ofAnswers K t answer) i = some c}.Finite) (st : σ) :
    ∃ log r st', Program.Runs server (Lifecycle.find K t key member).run st log r st' ∧
      (r = .ok true ↔ Reveals (ofAnswers K t answer) key member) ∧
      (∀ e, r = .error e ↔ Breaks (ofAnswers K t answer) key member e) ∧
      (r = .ok false ↔
        ¬ Reveals (ofAnswers K t answer) key member ∧ ∀ e, ¬ Breaks (ofAnswers K t answer) key member e) ∧
      (∀ i (hi : i < log.length), ∃ c, cursor? (ofAnswers K t answer) i = some c ∧
        log[i] = .listing t (listing K key c) (answer c)) ∧
      ∀ j < log.length, ∀ i < j, cursor? (ofAnswers K t answer) i ≠ cursor? (ofAnswers K t answer) j := by
  have hall : ∀ i c, cursor? (ofAnswers K t answer) i = some c → c ∈ hfin.toFinset := fun i c hc =>
    hfin.mem_toFinset.2 ⟨i, hc⟩
  have hstart : Reached (ofAnswers K t answer) (Lifecycle.scanFor K t key member) 0 :=
    ⟨rfl, fun i hi => absurd hi (Nat.not_lt_zero i), fun c => ⟨fun hc => absurd hc List.not_mem_nil,
      fun ⟨i, hi, _⟩ => absurd hi (Nat.not_lt_zero i)⟩,
        fun j hj i hi => absurd (Nat.lt_of_lt_of_le hi hj) (Nat.not_lt_zero i)⟩
  obtain ⟨log, r, st', hrun, hset, hlog, hd⟩ :=
    scan_runs hfix hall hfin.toFinset.card none [] 0 st (Nat.le_add_left _ _) hstart
  refine ⟨log, r, st', hrun, hset.present, hset.failed, ?_, fun i hi => ?_, fun j hj => hd j (by omega)⟩
  · rw [← hset.present]
    simp only [← hset.failed]
    cases r with
    | error e => simp
    | ok b => cases b <;> simp
  · obtain ⟨c, hc, hentry⟩ := hlog i hi
    exact ⟨c, by rwa [Nat.zero_add] at hc, hentry⟩

def circle : Option String → Except RemoteError (InMemory.kind.Page .localManager)
  | some "A" => .ok (⟨"DOMAIN_NAME", ["a"], none, some "B"⟩ : InMemory.Page)
  | some "B" => .ok (⟨"DOMAIN_NAME", ["b"], some 3, some "A"⟩ : InMemory.Page)
  | _ => .ok (⟨"DOMAIN_NAME", ["c"], some 3, some "A"⟩ : InMemory.Page)

/-- A collection that answers by the circle and counts what it is asked. -/
def circular : CollectionServer InMemory.kind Nat where
  list
    | .localManager, q, n => (circle q.paging.cursor, n + 1)
    | .globalManager, _, n => (.error .unavailable, n + 1)
  mutate _ _ _ n := (.ok (), n)

theorem circle_cursor? (i : Nat) : cursor? (ofAnswers InMemory.kind .localManager circle) i = some none ∨
    cursor? (ofAnswers InMemory.kind .localManager circle) i = some (some "A") ∨
    cursor? (ofAnswers InMemory.kind .localManager circle) i = some (some "B") := by
  induction i with
  | zero => exact Or.inl rfl
  | succ i ih =>
    rcases ih with h | h | h
    · exact Or.inr (Or.inl (by simp only [cursor?, h]; rfl))
    · exact Or.inr (Or.inr (by simp only [cursor?, h]; rfl))
    · exact Or.inr (Or.inl (by simp only [cursor?, h]; rfl))

theorem find_exact_on_circle : ∃ log st', Program.Runs circular
    (Lifecycle.find InMemory.kind .localManager "DOMAIN_NAME" "b").run 0 log (.ok true) st' := by
  have hfin : {c | ∃ i, cursor? (ofAnswers InMemory.kind .localManager circle) i = some c}.Finite := by
    refine Set.Finite.subset (Set.toFinite {none, some "A", some "B"}) fun c hc => ?_
    obtain ⟨i, hi⟩ := hc
    rcases circle_cursor? i with h | h | h <;> rw [hi] at h <;> cases h <;> simp
  obtain ⟨log, r, st', hrun, hpresent, -⟩ :=
    @find_exact InMemory.kind .localManager Nat "DOMAIN_NAME" "b" circular circle (fun _ _ => rfl) hfin 0
  have hrev : Reveals (ofAnswers InMemory.kind .localManager circle) "DOMAIN_NAME" "b" := by
    refine ⟨2, _, ⟨rfl, by decide⟩, by decide, fun i hi => ?_⟩
    match i, hi with
    | 0, _ => exact ⟨_, rfl, by decide⟩
    | 1, _ => exact ⟨_, rfl, by decide⟩
  obtain rfl := hpresent.2 hrev
  exact ⟨log, st', hrun⟩

end Chain
end PolicyProvider
