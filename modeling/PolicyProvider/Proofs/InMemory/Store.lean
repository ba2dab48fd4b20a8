import Mathlib.Logic.Function.Basic
import PolicyProvider.Proofs.Entries
import PolicyProvider.Proofs.InMemory.Paging
import PolicyProvider.Proofs.Member.Naming
import PolicyProvider.Proofs.Member.Operation
/-!
# Store — a collection in memory is a list of members for every key

`Store.perform` says what an operation answers and does by the lists alone: no pages, cursors, patches or ids in it.
An operation on a collection that answers does just that (`conduct_eq`), and so does a whole session of them
(`session_refines`).
-/
namespace PolicyProvider
namespace InMemory

open Program (Runs)

/-- What an operation did: its answer, the changes it asked for, and whether it made any call. -/
structure Report where
  answer : Except MemberError Answer
  changes : List Mutation
  called : Bool

def session {σ ρ : Type} (perform : σ → Topology → Operation → ρ × σ) : σ → List (Topology × Operation) → List ρ × σ
  | s, [] => ([], s)
  | s, (t, op) :: ops =>
    let r := perform s t op
    let rest := session perform r.2 ops
    (r.1 :: rest.1, rest.2)

/-! ## The lists alone -/

abbrev Store := String → List String

namespace Store

theorem allowed_key {key : String} (h : key ∈ kind.allowedKeys) : key ≠ "" ∧ idSeparator ∉ key.toList := by
  have hkey : key = "DOMAIN_NAME" ∨ key = "CUSTOM_URL" := by simpa [kind] using h
  rcases hkey with rfl | rfl <;> decide

def refusedKey (key : String) : MemberError :=
  .validation "key" ("expected key to be one of [\"DOMAIN_NAME\", \"CUSTOM_URL\"], got " ++ key)

def named (key member : String) (hk : key ∈ kind.allowedKeys) (hm : member ≠ "") : MemberId :=
  ⟨key, member, (allowed_key hk).1, (allowed_key hk).2, hm⟩

/-- The member that a creation is about: the key is checked before the member. -/
def created (key member : String) : Except MemberError MemberId :=
  if hk : key ∈ kind.allowedKeys then
    if hm : member = "" then .error (.malformedId (.emptyPart (key ++ "~") "attribute"))
    else .ok (named key member hk hm)
  else .error (refusedKey key)

def identified (id : String) : Except MemberError MemberId :=
  let key := String.ofList (id.toList.takeWhile (· ≠ '~'))
  let member := String.ofList ((id.toList.dropWhile (· ≠ '~')).drop 1)
  if '~' ∉ id.toList then .error (.malformedId (.missingSeparator id))
  else if key = "" then .error (.malformedId (.emptyPart id "key"))
  else if hm : member = "" then .error (.malformedId (.emptyPart id "attribute"))
  else if hk : key ∈ kind.allowedKeys then .ok (named key member hk hm)
  else .error (refusedKey key)

def requested : Operation → Except MemberError MemberId
  | .create key member => created key member
  | .read id | .isPresent id | .delete id | .adopt id => identified id

def accepted (s : Store) (t : Topology) (id : MemberId) : Operation → Report × Store
  | .create _ _ =>
    (⟨.ok (.member ⟨id, .present⟩), [⟨id.key, [id.member], .add, t⟩], true⟩,
      Function.update s id.key (s id.key ++ [id.member]))
  | .read _ | .adopt _ =>
    (⟨if id.member ∈ s id.key then .ok (.member ⟨id, .present⟩) else .error (.notFound kind.name id.text), [], true⟩, s)
  | .isPresent _ => (⟨.ok (.presence (decide (id.member ∈ s id.key))), [], true⟩, s)
  | .delete _ =>
    if id.member ∈ s id.key then
      (⟨.ok (.member ⟨id, .destroyed⟩), [⟨id.key, [id.member], .remove, t⟩], true⟩,
        Function.update s id.key ((s id.key).erase id.member))
    else (⟨.ok (.member ⟨id, .absent⟩), [], true⟩, s)

/-- **What an operation answers and does**, by the lists. -/
def perform (s : Store) (t : Topology) (op : Operation) : Report × Store :=
  match requested op with
  | .error e => (⟨.error e, [], false⟩, s)
  | .ok id => accepted s t id op

end Store

/-! ## Arguments -/

theorem quotedList_keys : quotedList kind.allowedKeys = "[\"DOMAIN_NAME\", \"CUSTOM_URL\"]" := by
  decide +kernel

theorem validateKey_eq (key : String) : Lifecycle.validateKey kind key =
    if key ∈ kind.allowedKeys then .ok () else .error (Store.refusedKey key) := by
  unfold Lifecycle.validateKey Store.refusedKey
  rw [quotedList_keys]
  rfl

theorem ofParts_named {key member : String} (hk : key ∈ kind.allowedKeys) (hm : member ≠ "") :
    MemberId.ofParts key member = .ok (Store.named key member hk hm) := MemberId.ofParts_eq_ok.2 ⟨rfl, rfl⟩

theorem encode_eq (key member : String) : Lifecycle.encode kind key member = Store.created key member := by
  unfold Lifecycle.encode Store.created
  rw [validateKey_eq]
  by_cases hk : key ∈ kind.allowedKeys
  · rw [if_pos hk, dif_pos hk]
    by_cases hm : member = ""
    · subst hm
      rw [dif_pos rfl]
      have hid : MemberId.ofParts key "" = .error (.emptyPart (key ++ "~") "attribute") := by
        unfold MemberId.ofParts
        rw [dif_neg (Store.allowed_key hk).2, dif_neg (Store.allowed_key hk).1, dif_pos rfl, MemberId.joined_eq]
        simp
      rw [hid]
      rfl
    · rw [dif_neg hm, ofParts_named hk hm]
      rfl
  · rw [if_neg hk, dif_neg hk]
    rfl

theorem decode_of_parse {id key member : String} (hk : key ≠ "") (hm : member ≠ "") (hs : idSeparator ∉ key.toList)
    (h : MemberId.parse id = MemberId.ofParts key member) : Lifecycle.decode kind id =
      if hk : key ∈ kind.allowedKeys then .ok (Store.named key member hk hm) else .error (Store.refusedKey key) := by
  have hparts : MemberId.ofParts key member = .ok ⟨key, member, hk, hs, hm⟩ := MemberId.ofParts_eq_ok.2 ⟨rfl, rfl⟩
  rw [Lifecycle.decode_of_parse_ok (h.trans hparts), validateKey_eq]
  by_cases hkey : key ∈ kind.allowedKeys
  · rw [if_pos hkey, dif_pos hkey]
    rfl
  · rw [if_neg hkey, dif_neg hkey]
    rfl

theorem decode_eq (id : String) : Lifecycle.decode kind id = Store.identified id := by
  have hparse := MemberId.parse_eq id
  unfold idSeparator at hparse
  unfold Store.identified
  simp only
  by_cases hs : '~' ∉ id.toList
  · rw [if_pos hs] at hparse ⊢
    unfold Lifecycle.decode
    rw [hparse]
    rfl
  rw [if_neg hs] at hparse ⊢
  by_cases hk : String.ofList (id.toList.takeWhile (· ≠ '~')) = ""
  · rw [if_pos hk] at hparse ⊢
    unfold Lifecycle.decode
    rw [hparse]
    rfl
  rw [if_neg hk] at hparse ⊢
  by_cases hm : String.ofList ((id.toList.dropWhile (· ≠ '~')).drop 1) = ""
  · rw [if_pos hm] at hparse
    rw [dif_pos hm]
    unfold Lifecycle.decode
    rw [hparse]
    rfl
  rw [if_neg hm] at hparse
  rw [dif_neg hm]
  refine decode_of_parse hk hm ?_ hparse
  rw [String.toList_ofList]
  exact MemberId.not_mem_of_split? (MemberId.split?_of_mem (not_not.1 hs))

theorem requested_eq (op : Operation) : Store.requested op = op.target kind := by
  cases op with
  | create key member => exact (encode_eq key member).symm
  | read id => exact (decode_eq id).symm
  | isPresent id => exact (decode_eq id).symm
  | delete id => exact (decode_eq id).symm
  | adopt id => exact (decode_eq id).symm

/-! ## The collection behind one operation -/

namespace Collection

/-- A collection that answers every call, with slices of its lists. -/
structure Sound (c : Collection) : Prop where
  failure : c.failure = none
  straight : c.cursorCycle = []
  sized : c.pageSize ≠ some 0

theorem Sound.paged {c : Collection} (h : c.Sound) : c.Paged := by
  refine ⟨?_, ?_, h.straight, h.sized⟩
  · rw [listError?, h.failure]
  · rw [h.failure]
    exact fun hf => nomatch hf

theorem Sound.asked {c : Collection} (h : c.Sound) (t : Topology) (qs : List MemberQuery) : (c.asked t qs).Sound := by
  cases t <;> exact ⟨h.failure, h.straight, h.sized⟩

def calls (c : Collection) : Nat := c.localCalls + c.globalCalls

theorem calls_asked (c : Collection) (t : Topology) (qs : List MemberQuery) :
    (c.asked t qs).calls = c.calls + qs.length := by
  cases t <;> simp only [InMemory.Collection.asked, calls] <;> omega

def altered (c : Collection) (t : Topology) (action : PatchAction) (id : MemberId) : Collection :=
  { c.counted t with
    mutations := c.mutations ++ [⟨id.key, [id.member], action, t⟩]
    members := Entries.put id.key (changed action (c.membersOf id.key) [id.member]) c.members }

theorem mutate_eq {c : Collection} (h : c.Sound) (t : Topology) (action : PatchAction) (id : MemberId) :
    server.mutate t action (⟨id.key, [id.member]⟩ : Patch) c = (.ok (), c.altered t action id) := by
  change c.mutate t action ⟨id.key, [id.member]⟩ = _
  unfold mutate
  rw [h.failure]
  cases t <;> rfl

theorem membersOf_altered (c : Collection) (t : Topology) (action : PatchAction) (id : MemberId) :
    (c.altered t action id).membersOf =
      Function.update c.membersOf id.key (changed action (c.membersOf id.key) [id.member]) := by
  funext key
  unfold membersOf altered
  simp only
  by_cases hkey : key = id.key
  · rw [hkey, Entries.get?_put_self, Function.update_self]
    rfl
  · rw [Entries.get?_put_of_ne hkey, Function.update_of_ne hkey]

theorem mutations_altered (c : Collection) (t : Topology) (action : PatchAction) (id : MemberId) :
    (c.altered t action id).mutations = c.mutations ++ [⟨id.key, [id.member], action, t⟩] := rfl

theorem calls_altered (c : Collection) (t : Topology) (action : PatchAction) (id : MemberId) :
    (c.altered t action id).calls = c.calls + 1 := by
  cases t <;> simp only [altered, counted, calls] <;> omega

theorem Sound.altered {c : Collection} (h : c.Sound) (t : Topology) (action : PatchAction) (id : MemberId) :
    (c.altered t action id).Sound := by
  cases t <;> exact ⟨h.failure, h.straight, h.sized⟩

theorem length_le_foldl_max {key : String} : ∀ (es : List (String × List String)) (m : Nat),
    m ≤ (es.map (·.2.length)).foldl max m ∧
      ((Entries.get? key es).getD []).length ≤ (es.map (·.2.length)).foldl max m
  | [], m => ⟨Nat.le_refl m, Nat.zero_le m⟩
  | e :: es, m => by
    obtain ⟨hm, hlen⟩ := @length_le_foldl_max key es (max m e.2.length)
    rw [List.map_cons, List.foldl_cons]
    refine ⟨Nat.le_trans (Nat.le_max_left _ _) hm, ?_⟩
    obtain ⟨k, values⟩ := e
    rw [Entries.get?]
    by_cases hk : k = key
    · rw [if_pos hk]
      exact Nat.le_trans (Nat.le_max_right _ _) hm
    · rw [if_neg hk]
      exact hlen

/-- **The calls that an operation is given** are enough for a scan, a change, and a member more. -/
theorem length_add_cycle_le (c : Collection) (key : String) :
    (c.membersOf key).length + c.cursorCycle.length + 4 ≤ c.callBound := by
  have hlen := (@length_le_foldl_max key c.members 0).2
  unfold callBound
  change (c.membersOf key).length ≤ _ at hlen
  omega

theorem length_membersOf_le (c : Collection) (key : String) : (c.membersOf key).length + 4 ≤ c.callBound := by
  have hlen := c.length_add_cycle_le key
  omega

/-- An operation carried out on the collection, with a report of what it did. -/
def conduct (c : Collection) (t : Topology) (op : Operation) : Option Report × Collection :=
  let r := c.perform (op.action kind t)
  (r.1.map fun answer => ⟨answer, r.2.mutations.drop c.mutations.length, decide (c.calls < r.2.calls)⟩, r.2)

theorem conduct_of_runs {c after : Collection} {t : Topology} {op : Operation} {log : List (Call kind)}
    {answer : Except MemberError Answer} (h : Runs server (op.action kind t).run c log answer after)
    (hle : log.length ≤ c.callBound) : c.conduct t op =
      (some ⟨answer, after.mutations.drop c.mutations.length, decide (c.calls < after.calls)⟩, after) := by
  unfold conduct perform
  rw [h.run_of_le hle]
  rfl

def Does (c : Collection) (t : Topology) (op : Operation) (r : Report × Store) : Prop :=
  ∃ log after, Runs server (op.action kind t).run c log r.1.answer after ∧ log.length ≤ c.callBound ∧
    after.mutations = c.mutations ++ r.1.changes ∧ decide (c.calls < after.calls) = r.1.called ∧
    after.membersOf = r.2 ∧ after.Sound

theorem Does.conduct {c : Collection} {t : Topology} {op : Operation} {r : Report × Store} (h : c.Does t op r) :
    (c.conduct t op).1 = some r.1 ∧ (c.conduct t op).2.membersOf = r.2 ∧ (c.conduct t op).2.Sound := by
  obtain ⟨log, after, hrun, hle, hchanges, hcalled, hmembers, hsound⟩ := h
  rw [conduct_of_runs hrun hle, hchanges, List.drop_left, hcalled]
  exact ⟨rfl, hmembers, hsound⟩

variable {c : Collection}

theorem runs_lookup {α : Type} (h : c.Sound) {id : MemberId} (hfits : (c.membersOf id.key).length < Digit.wordLimit)
    (t : Topology) (answer : Except MemberError Bool → α) :
    ∃ log qs, Runs server (.scan (Lifecycle.scanFor kind t id.key id.member) fun r => .done (answer r)) c log
        (answer (.ok (decide (id.member ∈ c.membersOf id.key)))) (c.asked t qs) ∧
      log.length ≤ (c.membersOf id.key).length + 1 ∧ 0 < qs.length := by
  obtain ⟨log, qs, hrun, hlog, hqs, -⟩ := find_runs h.paged hfits t id.member
  have hle := lookups_le (h.paged.room_pos (c.membersOf id.key).length) id.member (c.membersOf id.key)
  have hpos := lookups_pos (c.room (c.membersOf id.key).length) id.member (c.membersOf id.key)
  refine ⟨log ++ [], qs, Program.runs_scan.2 ⟨log, _, _, [], hrun, .done _ _, rfl⟩, ?_, by omega⟩
  rw [List.append_nil]
  omega

theorem does_lookup (h : c.Sound) {id : MemberId} (hfits : (c.membersOf id.key).length < Digit.wordLimit)
    {t : Topology} {op : Operation} {answer : Except MemberError Bool → Except MemberError Answer}
    (hop : (op.action kind t).run = .scan (Lifecycle.scanFor kind t id.key id.member) fun r => .done (answer r)) :
    c.Does t op (⟨answer (.ok (decide (id.member ∈ c.membersOf id.key))), [], true⟩, c.membersOf) := by
  obtain ⟨log, qs, hrun, hlog, hqs⟩ := runs_lookup h hfits t answer
  have hbound := c.length_membersOf_le id.key
  refine ⟨log, c.asked t qs, by rw [hop]; exact hrun, by omega, ?_, ?_, ?_, h.asked t qs⟩
  · rw [mutations_asked, List.append_nil]
  · rw [calls_asked, decide_eq_true (by omega)]
  · funext key
    exact membersOf_asked c t qs key

theorem does_refused (h : c.Sound) {t : Topology} {op : Operation} {e : MemberError}
    (hreq : Store.requested op = .error e) : c.Does t op (⟨.error e, [], false⟩, c.membersOf) := by
  rw [requested_eq] at hreq
  have hop := Operation.run_refused kind t hreq
  refine ⟨[], c, by rw [hop]; exact .done _ _, Nat.zero_le _, ?_, ?_, rfl, h⟩
  · rw [List.append_nil]
  · exact decide_eq_false (Nat.lt_irrefl _)

theorem does_read (h : c.Sound) {t : Topology} {id : String} {mid : MemberId} (hid : Store.identified id = .ok mid)
    (hfits : (c.membersOf mid.key).length < Digit.wordLimit) :
    c.Does t (.read id) (Store.accepted c.membersOf t mid (.read id)) := by
  have hop := Operation.run_read kind t id
  rw [decode_eq, hid] at hop
  have hdoes := does_lookup h hfits hop
  by_cases hin : mid.member ∈ c.membersOf mid.key
  · rw [decide_eq_true hin] at hdoes
    simp only [Store.accepted, if_pos hin]
    exact hdoes
  · rw [decide_eq_false hin] at hdoes
    simp only [Store.accepted, if_neg hin]
    exact hdoes

theorem does_isPresent (h : c.Sound) {t : Topology} {id : String} {mid : MemberId} (hid : Store.identified id = .ok mid)
    (hfits : (c.membersOf mid.key).length < Digit.wordLimit) :
    c.Does t (.isPresent id) (Store.accepted c.membersOf t mid (.isPresent id)) := by
  have hop := Operation.run_isPresent kind t id
  rw [decode_eq, hid] at hop
  exact does_lookup h hfits hop

theorem runs_change {α : Type} (h : c.Sound) {t : Topology} {action : PatchAction} {id : MemberId}
    {next : Except RemoteError Unit → Program kind α} {log : List (Call kind)} {a : α} {after : Collection}
    (rest : Runs server (next (.ok ())) (c.altered t action id) log a after) :
    Runs server (.mutate t action (⟨id.key, [id.member]⟩ : Patch) next) c
      (.change t action (⟨id.key, [id.member]⟩ : Patch) (.ok ()) :: log) a after :=
  Runs.mutate_of (mutate_eq h t action id) rest

theorem does_create (h : c.Sound) {t : Topology} {key member : String} {mid : MemberId}
    (hid : Store.created key member = .ok mid)
    (hfits : (c.membersOf mid.key ++ [mid.member]).length < Digit.wordLimit) :
    c.Does t (.create key member) (Store.accepted c.membersOf t mid (.create key member)) := by
  have hop := Operation.run_create kind t key member
  rw [encode_eq, hid] at hop
  obtain ⟨rfl, rfl⟩ := Lifecycle.encode_eq_ok ((encode_eq key member).trans hid)
  have hlist : (c.altered t .add mid).membersOf mid.key = c.membersOf mid.key ++ [mid.member] := by
    rw [membersOf_altered, Function.update_self]
    rfl
  rw [← hlist] at hfits
  obtain ⟨log, qs, hrun, hlog, hqs⟩ := runs_lookup (h.altered t .add mid) hfits t fun r =>
    (Lifecycle.found kind mid r).map Answer.member
  have hin : mid.member ∈ c.membersOf mid.key ++ [mid.member] := by simp
  have hbound := c.length_membersOf_le mid.key
  rw [hlist, decide_eq_true hin] at hrun
  rw [hlist, List.length_append, List.length_singleton] at hlog
  refine ⟨.change t .add (⟨mid.key, [mid.member]⟩ : Patch) (.ok ()) :: log, (c.altered t .add mid).asked t qs,
    ?_, ?_, ?_, ?_, ?_, (h.altered t .add mid).asked t qs⟩
  · rw [hop]
    exact runs_change h hrun
  · rw [List.length_cons]
    omega
  · rw [mutations_asked]
    rfl
  · rw [calls_asked, calls_altered, decide_eq_true (by omega)]
    rfl
  · funext key
    rw [membersOf_asked, membersOf_altered]
    rfl

theorem does_delete (h : c.Sound) {t : Topology} {id : String} {mid : MemberId} (hid : Store.identified id = .ok mid)
    (hfits : (c.membersOf mid.key).length < Digit.wordLimit) :
    c.Does t (.delete id) (Store.accepted c.membersOf t mid (.delete id)) := by
  have hop := Operation.run_delete kind t id
  rw [decode_eq, hid] at hop
  obtain ⟨log, qs, hrun, hlog, hqs, -⟩ := find_runs h.paged hfits t mid.member
  have hle := lookups_le (h.paged.room_pos (c.membersOf mid.key).length) mid.member (c.membersOf mid.key)
  have hpos := lookups_pos (c.room (c.membersOf mid.key).length) mid.member (c.membersOf mid.key)
  have hbound := c.length_membersOf_le mid.key
  have hasked : (c.asked t qs).membersOf = c.membersOf := funext (c.membersOf_asked t qs)
  by_cases hin : mid.member ∈ c.membersOf mid.key
  · rw [decide_eq_true hin] at hrun
    simp only [Store.accepted, if_pos hin]
    refine ⟨log ++ [.change t .remove (⟨mid.key, [mid.member]⟩ : Patch) (.ok ())],
      (c.asked t qs).altered t .remove mid, ?_, ?_, ?_, ?_, ?_, (h.asked t qs).altered t .remove mid⟩
    · rw [hop]
      exact Program.runs_scan.2 ⟨log, _, _, _, hrun, runs_change (h.asked t qs) (.done _ _), rfl⟩
    · rw [List.length_append, List.length_singleton]
      omega
    · rw [mutations_altered, mutations_asked]
    · rw [calls_altered, calls_asked, decide_eq_true (by omega)]
    · rw [membersOf_altered, hasked]
      rfl
  · rw [decide_eq_false hin] at hrun
    simp only [Store.accepted, if_neg hin]
    refine ⟨log ++ [], c.asked t qs, ?_, ?_, ?_, ?_, hasked, h.asked t qs⟩
    · rw [hop]
      exact Program.runs_scan.2 ⟨log, _, _, _, hrun, .done _ _, rfl⟩
    · rw [List.length_append, List.length_nil]
      omega
    · rw [mutations_asked, List.append_nil]
    · rw [calls_asked, decide_eq_true (by omega)]

/-- **An operation does what the store says**, as long as no list outgrows a word. -/
theorem does_perform (h : c.Sound) {t : Topology} {op : Operation}
    (hfits : ∀ key, (c.membersOf key).length < Digit.wordLimit)
    (hafter : ∀ key, ((Store.perform c.membersOf t op).2 key).length < Digit.wordLimit) :
    c.Does t op (Store.perform c.membersOf t op) := by
  unfold Store.perform at hafter ⊢
  cases hreq : Store.requested op with
  | error e => exact does_refused h hreq
  | ok mid =>
    rw [hreq] at hafter
    cases op with
    | create key member =>
      have hlist := hafter mid.key
      simp only [Store.accepted, Function.update_self] at hlist
      exact does_create h hreq hlist
    | read id => exact does_read h hreq (hfits mid.key)
    | isPresent id => exact does_isPresent h hreq (hfits mid.key)
    | delete id => exact does_delete h hreq (hfits mid.key)
    | adopt id => exact does_read h hreq (hfits mid.key)

end Collection

/-! ## Sessions -/

theorem session_append {σ ρ : Type} (perform : σ → Topology → Operation → ρ × σ) (s : σ)
    (pre ops : List (Topology × Operation)) :
    (session perform s (pre ++ ops)).2 = (session perform (session perform s pre).2 ops).2 := by
  induction pre generalizing s with
  | nil => rfl
  | cons op pre ih => exact ih _

theorem session_eq {c : Collection} (h : c.Sound) (ops : List (Topology × Operation))
    (hfits : ∀ pre, pre <+: ops → ∀ key, ((session Store.perform c.membersOf pre).2 key).length < Digit.wordLimit) :
    (session Collection.conduct c ops).1 = (session Store.perform c.membersOf ops).1.map some ∧
      (session Collection.conduct c ops).2.membersOf = (session Store.perform c.membersOf ops).2 := by
  induction ops generalizing c with
  | nil => exact ⟨rfl, rfl⟩
  | cons op ops ih =>
    obtain ⟨t, op⟩ := op
    have hnow := hfits [] (List.nil_prefix)
    have hafter := hfits [(t, op)] (List.cons_prefix_cons.2 ⟨rfl, List.nil_prefix⟩)
    obtain ⟨hreport, hmembers, hsound⟩ := (Collection.does_perform h hnow hafter).conduct
    have hrest := ih hsound fun pre hpre key => by
      rw [hmembers]
      exact hfits ((t, op) :: pre) (List.cons_prefix_cons.2 ⟨rfl, hpre⟩) key
    rw [hmembers] at hrest
    refine ⟨?_, hrest.2⟩
    change (c.conduct t op).1 :: (session Collection.conduct (c.conduct t op).2 ops).1 =
      some (Store.perform c.membersOf t op).1 :: _
    rw [hreport, hrest.1]

namespace Store

theorem identified_joined {key member : String} (hk : key ∈ kind.allowedKeys) (hm : member ≠ "") :
    identified (key ++ "~" ++ member) = .ok (named key member hk hm) := by
  have htext : (named key member hk hm).text = key ++ "~" ++ member := MemberId.joined_eq key member
  have hparse := MemberId.parse_text (named key member hk hm)
  rw [htext, ← ofParts_named hk hm] at hparse
  rw [← decode_eq, decode_of_parse (allowed_key hk).1 hm (allowed_key hk).2 hparse, dif_pos hk]

theorem length_perform_le (s : Store) (t : Topology) (op : Operation) (key : String) :
    ((perform s t op).2 key).length ≤ (s key).length + 1 := by
  unfold perform
  cases requested op with
  | error e => exact Nat.le_succ _
  | ok id =>
    have hupdate : ∀ values : List String, values.length ≤ (s id.key).length + 1 →
        (Function.update s id.key values key).length ≤ (s key).length + 1 := fun values hvalues => by
      by_cases hkey : key = id.key
      · subst hkey
        rwa [Function.update_self]
      · rw [Function.update_of_ne hkey]
        exact Nat.le_succ _
    cases op with
    | create key member => exact hupdate _ (by simp)
    | read id => exact Nat.le_succ _
    | isPresent id => exact Nat.le_succ _
    | delete text =>
      simp only [accepted]
      by_cases hin : id.member ∈ s id.key
      · rw [if_pos hin]
        exact hupdate _ (Nat.le_trans List.length_erase_le (Nat.le_succ _))
      · rw [if_neg hin]
        exact Nat.le_succ _
    | adopt id => exact Nat.le_succ _

/-- **A session adds at most one member for each operation**, so short ones keep every list within a word. -/
theorem length_session_le (s : Store) (ops : List (Topology × Operation)) (key : String) :
    ((session perform s ops).2 key).length ≤ (s key).length + ops.length := by
  induction ops generalizing s with
  | nil => exact Nat.le_refl _
  | cons op ops ih =>
    have hstep := length_perform_le s op.1 op.2 key
    have hrest := ih (perform s op.1 op.2).2
    rw [List.length_cons]
    exact Nat.le_trans hrest (by omega)

/-- What a pair of a creation and a deletion leaves: the member's first copy is gone, and there is one behind. -/
theorem pair_eq (s : Store) (t t' : Topology) {key member : String} (hk : key ∈ kind.allowedKeys) (hm : member ≠ "") :
    (session perform s [(t, .create key member), (t', .delete (key ++ "~" ++ member))]).2 =
      Function.update s key ((s key ++ [member]).erase member) := by
  have hcreate : (perform s t (.create key member)).2 = Function.update s key (s key ++ [member]) := by
    have hreq : requested (.create key member) = .ok (named key member hk hm) := by
      change created key member = _
      unfold created
      rw [dif_pos hk, dif_neg hm]
    unfold perform
    rw [hreq]
    rfl
  have hdelete : (perform (Function.update s key (s key ++ [member])) t' (.delete (key ++ "~" ++ member))).2 =
      Function.update s key ((s key ++ [member]).erase member) := by
    have hreq : requested (.delete (key ++ "~" ++ member)) = .ok (named key member hk hm) := identified_joined hk hm
    have hin : member ∈ s key ++ [member] := by simp
    unfold perform
    rw [hreq]
    simp only [accepted, named, Function.update_self, if_pos hin, Function.update_idem]
  change (perform (perform s t (.create key member)).2 t' _).2 = _
  rw [hcreate, hdelete]

theorem pair_perm (s : Store) (t t' : Topology) {key member : String} (hk : key ∈ kind.allowedKeys) (hm : member ≠ "")
    (k : String) :
    ((session perform s [(t, .create key member), (t', .delete (key ++ "~" ++ member))]).2 k).Perm (s k) := by
  rw [pair_eq s t t' hk hm]
  by_cases hkey : k = key
  · subst hkey
    rw [Function.update_self]
    have hperm := (List.perm_append_singleton member (s k)).erase member
    rwa [List.erase_cons_head] at hperm
  · rw [Function.update_of_ne hkey]

theorem pair_of_absent (s : Store) (t t' : Topology) {key member : String} (hk : key ∈ kind.allowedKeys)
    (hm : member ≠ "") (habsent : member ∉ s key) :
    (session perform s [(t, .create key member), (t', .delete (key ++ "~" ++ member))]).2 = s := by
  rw [pair_eq s t t' hk hm, List.erase_append_right _ habsent, List.erase_cons_head, List.append_nil,
    Function.update_eq_self]

end Store

/-- **A collection in memory that answers is a list of members for every key**, for every session of operations, each
through either manager, as long as no list outgrows a word: the length of a list in memory is one.  Every operation
answers, with what the lists say; it asks for the changes they say and for no others, and makes no call at all if its
arguments are refused; and the lists are the collection's in the end.  A member created and deleted again leaves every
list with the members it had, and a list without that member as it was. -/
theorem session_refines {c : Collection} (h : c.Sound) (ops : List (Topology × Operation))
    (hfits : ∀ pre, pre <+: ops → ∀ key, ((session Store.perform c.membersOf pre).2 key).length < Digit.wordLimit) :
    (session Collection.conduct c ops).1 = (session Store.perform c.membersOf ops).1.map some ∧
      (∀ key, (session Collection.conduct c ops).2.membersOf key = (session Store.perform c.membersOf ops).2 key) ∧
      ∀ pre t t' key member, key ∈ kind.allowedKeys → member ≠ "" →
        ops = pre ++ [(t, .create key member), (t', .delete (key ++ "~" ++ member))] → ∀ k,
          ((session Collection.conduct c ops).2.membersOf k).Perm ((session Collection.conduct c pre).2.membersOf k) ∧
          (member ∉ (session Collection.conduct c pre).2.membersOf key →
            (session Collection.conduct c ops).2.membersOf k = (session Collection.conduct c pre).2.membersOf k) := by
  obtain ⟨hreports, hmembers⟩ := session_eq h ops hfits
  refine ⟨hreports, fun key => congrFun hmembers key, ?_⟩
  rintro pre t t' key member hk hm rfl k
  have hpre := (session_eq h pre fun first hfirst => hfits first (hfirst.trans (List.prefix_append pre _))).2
  rw [hmembers, hpre, session_append]
  refine ⟨Store.pair_perm _ t t' hk hm k, fun habsent => ?_⟩
  rw [Store.pair_of_absent _ t t' hk hm habsent]

/-- A collection with one member to a page, one of them there twice. -/
def twofold : Collection := { pageSize := some 1, members := [("DOMAIN_NAME", ["x~y", "z", "x~y"])] }

theorem session_refines_on_twofold :
    (session Collection.conduct twofold [(.globalManager, .delete "DOMAIN_NAME~x~y"),
      (.localManager, .create "CUSTOM_URL" "u")]).2.membersOf "DOMAIN_NAME" = ["z", "x~y"] := by
  have hlen : ∀ key, (twofold.membersOf key).length ≤ 3 := fun key =>
    Nat.le_of_add_le_add_right (b := 4) (twofold.length_membersOf_le key)
  have hstore := (session_refines (c := twofold) ⟨rfl, rfl, by decide⟩ [(.globalManager, .delete "DOMAIN_NAME~x~y"),
    (.localManager, .create "CUSTOM_URL" "u")] fun pre hpre key => by
      have hle := Store.length_session_le twofold.membersOf pre key
      have hpres := hpre.length_le
      have hkey := hlen key
      rw [List.length_cons, List.length_cons, List.length_nil] at hpres
      rw [Digit.wordLimit_eq]
      omega).2.1 "DOMAIN_NAME"
  rw [hstore]
  decide

end InMemory
end PolicyProvider
