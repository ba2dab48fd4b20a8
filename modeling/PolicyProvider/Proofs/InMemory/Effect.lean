import PolicyProvider.Proofs.InMemory.Calls
/-!
# Effect — the answer of an operation tells what it did to the lists

A collection in memory may fail in several ways, and an operation may fail at any of its calls.  Its answer says all the
same what became of the lists: looking never changes them, a deletion changed one exactly if it says so, and a creation
that fails after its change has added its member (`perform_effect`).
-/
namespace PolicyProvider
namespace InMemory

open Program (Runs)

/-- The answers of a creation that has added its member. -/
def Adds : Except MemberError Answer → Prop
  | .ok _ | .error (.notFound _ _) | .error (.remote _) | .error (.conversion _) => True
  | _ => False

/-- The answers of a creation that has added nothing. -/
def Declines : Except MemberError Answer → Prop
  | .error (.validation _ _) | .error (.malformedId _) | .error (.create _ _ _) => True
  | _ => False

/-- **What the answer of an operation tells about the lists** before and after it. -/
def Effect (s s' : Store) (answer : Except MemberError Answer) : Operation → Prop
  | .read _ | .isPresent _ | .adopt _ => s' = s
  | .create key member =>
    (Adds answer ∨ Declines answer) ∧ (Adds answer → s' = Function.update s key (s key ++ [member])) ∧
      (Declines answer → s' = s)
  | .delete text =>
    (s' ≠ s ↔ ∃ id, answer = .ok (.member ⟨id, .destroyed⟩)) ∧
      ∀ id, answer = .ok (.member ⟨id, .destroyed⟩) → text = id.key ++ "~" ++ id.member ∧ id.member ∈ s id.key ∧
        s' = Function.update s id.key ((s id.key).erase id.member)

namespace Collection

def Affects (c : Collection) (t : Topology) (op : Operation) : Prop :=
  ∃ log answer after, Runs server (op.action kind t).run c log answer after ∧ log.length ≤ c.callBound ∧
    Effect c.membersOf after.membersOf answer op

variable {c : Collection} {t : Topology}

theorem effect_refused {op : Operation} {e : MemberError} (h : op.target kind = .error e) (s : Store) :
    Effect s s (.error e) op := by
  cases op with
  | create key member =>
    have hdeclines : Declines (.error e) := by
      rcases Operation.target_error h with ⟨field, text, rfl⟩ | ⟨cause, rfl⟩ <;> trivial
    have hadds : ¬ Adds (.error e) := by
      rcases Operation.target_error h with ⟨field, text, rfl⟩ | ⟨cause, rfl⟩ <;> exact id
    exact ⟨.inr hdeclines, fun h => absurd h hadds, fun _ => rfl⟩
  | read id => rfl
  | isPresent id => rfl
  | delete id => exact ⟨⟨fun h => absurd rfl h, fun ⟨_, h⟩ => nomatch h⟩, fun _ h => nomatch h⟩
  | adopt id => rfl

theorem affects_refused {op : Operation} {e : MemberError} (h : op.target kind = .error e) : c.Affects t op := by
  refine ⟨[], .error e, c, ?_, Nat.zero_le _, effect_refused h c.membersOf⟩
  rw [Operation.run_refused kind t h]
  exact .done _ _

theorem lookup_ends {α : Type} (c : Collection) (t : Topology) (id : MemberId) (f : Except MemberError Bool → α) :
    ∃ log r qs, Runs server (.scan (Lifecycle.scanFor kind t id.key id.member) fun r => .done (f r)) c log (f r)
        (c.asked t qs) ∧ log.length ≤ (c.membersOf id.key).length + c.cursorCycle.length + 1 ∧
      ∀ e, r = .error e → e.ofListing = true := by
  obtain ⟨log, r, qs, hrun, hlen, -, hfailed⟩ := c.find_ends t id.key id.member
  refine ⟨log, r, qs, ?_, hlen, hfailed⟩
  rw [← List.append_nil log]
  exact Program.runs_scan.2 ⟨log, r, _, [], hrun, .done _ _, rfl⟩

theorem affects_lookup {op : Operation} {id : MemberId} {f : Except MemberError Bool → Except MemberError Answer}
    (hrun : (op.action kind t).run = .scan (Lifecycle.scanFor kind t id.key id.member) fun r => .done (f r))
    (heffect : ∀ answer, Effect c.membersOf c.membersOf answer op) : c.Affects t op := by
  obtain ⟨log, r, qs, hlookup, hlen, -⟩ := c.lookup_ends t id f
  have hbound := c.length_add_cycle_le id.key
  refine ⟨log, f r, c.asked t qs, hrun ▸ hlookup, by omega, ?_⟩
  rw [show (c.asked t qs).membersOf = c.membersOf from funext (c.membersOf_asked t qs)]
  exact heffect _

theorem adds_found {id : MemberId} {r : Except MemberError Bool} (h : ∀ e, r = .error e → e.ofListing = true) :
    Adds ((Lifecycle.found kind id r).map Answer.member) := by
  rcases r with e | _ | _
  · have he := h e rfl
    cases e with
    | remote cause => trivial
    | conversion cause => trivial
    | _ => cases he
  · trivial
  · trivial

theorem not_declines_of_adds {answer : Except MemberError Answer} (h : Adds answer) : ¬ Declines answer := by
  rcases answer with e | a
  · cases e with
    | notFound _ _ => exact not_false
    | remote cause => exact not_false
    | conversion cause => exact not_false
    | _ => exact absurd h not_false
  · exact not_false

theorem affects_create {key member : String} {id : MemberId} (htarget : Lifecycle.encode kind key member = .ok id) :
    c.Affects t (.create key member) := by
  have hop := Operation.run_create kind t key member
  rw [htarget] at hop
  obtain ⟨rfl, rfl⟩ := Lifecycle.encode_eq_ok htarget
  have hbound := c.length_add_cycle_le id.key
  by_cases hreject : c.failure = some .mutateRejected
  · obtain ⟨e, hmutate⟩ := mutate_of_rejecting hreject t .add id
    refine ⟨[.change t .add (⟨id.key, [id.member]⟩ : Patch) (.error e)],
      .error (.create kind.name id.member (.remote e)),
      c.unaltered t .add id, ?_, ?_, .inr trivial, False.elim, fun _ => membersOf_unaltered c t .add id⟩
    · rw [hop]
      exact Runs.mutate_of hmutate (.done _ _)
    · rw [List.length_singleton]
      omega
  · -- the list that is looked through is one longer
    have hmutate := mutate_of_accepting hreject t .add id
    obtain ⟨log, r, qs, hlookup, hlen, hfailed⟩ := (c.altered t .add id).lookup_ends t id fun r =>
      (Lifecycle.found kind id r).map Answer.member
    have hadds := @adds_found id r hfailed
    have hlist : (c.altered t .add id).membersOf =
        Function.update c.membersOf id.key (c.membersOf id.key ++ [id.member]) := membersOf_altered c t .add id
    have hcycle : (c.altered t .add id).cursorCycle = c.cursorCycle := by cases t <;> rfl
    refine ⟨_, _, (c.altered t .add id).asked t qs, by rw [hop]; exact Runs.mutate_of hmutate hlookup, ?_, .inl hadds,
      fun _ => ?_, fun h => absurd h (not_declines_of_adds hadds)⟩
    · rw [hlist, hcycle, Function.update_self, List.length_append, List.length_singleton] at hlen
      rw [List.length_cons]
      omega
    · rw [← hlist]
      exact funext ((c.altered t .add id).membersOf_asked t qs)

theorem effect_of_unchanged {text : String} {answer : Except MemberError Answer} {s s' : Store} (hsame : s' = s)
    (h : ∀ id, answer ≠ .ok (.member ⟨id, .destroyed⟩)) : Effect s s' answer (.delete text) :=
  ⟨⟨fun hne => absurd hsame hne, fun ⟨id, hid⟩ => absurd hid (h id)⟩, fun id hid => absurd hid (h id)⟩

theorem effect_of_erased {id : MemberId} {s : Store} (h : id.member ∈ s id.key) :
    Effect s (Function.update s id.key ((s id.key).erase id.member)) (.ok (.member ⟨id, .destroyed⟩))
      (.delete id.text) := by
  refine ⟨⟨fun _ => ⟨id, rfl⟩, fun _ hsame => ?_⟩, ?_⟩
  · -- the list is one shorter, so it is another
    have hkey := congrFun hsame id.key
    rw [Function.update_self] at hkey
    have hlen := List.length_erase_of_mem h
    have hpos := List.length_pos_of_mem h
    rw [hkey] at hlen
    omega
  · rintro _ ⟨⟩
    exact ⟨MemberId.joined_eq id.key id.member, h, rfl⟩

theorem affects_delete {text : String} {id : MemberId} (htarget : Lifecycle.decode kind text = .ok id) :
    c.Affects t (.delete text) := by
  have hop := Operation.run_delete kind t text
  rw [htarget] at hop
  obtain ⟨rfl, -⟩ := Lifecycle.decode_eq_ok_iff.1 htarget
  have hbound := c.length_add_cycle_le id.key
  obtain ⟨log, r, qs, hscan, hlen, hpresent, -⟩ := c.find_ends t id.key id.member
  have hasked : (c.asked t qs).membersOf = c.membersOf := funext (c.membersOf_asked t qs)
  rcases r with e | _ | _
  · refine ⟨log, .error e, c.asked t qs, ?_, by omega, effect_of_unchanged hasked fun _ h => nomatch h⟩
    rw [hop, ← List.append_nil log]
    exact Program.runs_scan.2 ⟨log, _, _, [], hscan, .done _ _, rfl⟩
  · refine ⟨log, .ok (.member ⟨id, .absent⟩), c.asked t qs, ?_, by omega,
      effect_of_unchanged hasked fun _ h => nomatch h⟩
    rw [hop, ← List.append_nil log]
    exact Program.runs_scan.2 ⟨log, _, _, [], hscan, .done _ _, rfl⟩
  · by_cases hreject : (c.asked t qs).failure = some .mutateRejected
    · obtain ⟨e, hmutate⟩ := mutate_of_rejecting hreject t .remove id
      refine ⟨log ++ [.change t .remove (⟨id.key, [id.member]⟩ : Patch) (.error e)],
        .error (.delete kind.name id.member (.remote e)), (c.asked t qs).unaltered t .remove id, ?_, ?_,
        effect_of_unchanged ?_ fun _ h => nomatch h⟩
      · rw [hop]
        exact Program.runs_scan.2 ⟨log, _, _, _, hscan, Runs.mutate_of hmutate (.done _ _), rfl⟩
      · rw [List.length_append, List.length_singleton]
        omega
      · rw [membersOf_unaltered, hasked]
    · have hmutate := mutate_of_accepting hreject t .remove id
      refine ⟨log ++ [.change t .remove (⟨id.key, [id.member]⟩ : Patch) (.ok ())], .ok (.member ⟨id, .destroyed⟩),
        (c.asked t qs).altered t .remove id, ?_, ?_, ?_⟩
      · rw [hop]
        exact Program.runs_scan.2 ⟨log, _, _, _, hscan, Runs.mutate_of hmutate (.done _ _), rfl⟩
      · rw [List.length_append, List.length_singleton]
        omega
      · rw [membersOf_altered, hasked]
        exact effect_of_erased (hpresent rfl)

/-- **Every operation ends and does what its answer tells.** -/
theorem affects (c : Collection) (t : Topology) (op : Operation) : c.Affects t op := by
  cases htarget : op.target kind with
  | error e => exact affects_refused htarget
  | ok id =>
    cases op with
    | create key member => exact affects_create htarget
    | delete text => exact affects_delete htarget
    | _ =>
      obtain ⟨f, hrun⟩ := Operation.run_looks kind t rfl htarget
      exact affects_lookup hrun fun _ => rfl

end Collection

/-- **The answer of an operation tells what it did to the lists**, in every collection in memory, whatever it holds, how
large its pages are, whether its cursors go round, and however it fails.  Reading, asking for and taking over a member
leave every list as it was.  A deletion changed something exactly if it says that it destroyed a member, and then it
took the first copy of that member from the list of its key.  A creation has added one copy behind the list of its key
if it succeeds or fails with a missing member, a remote error or a conversion error; it has changed nothing if its
arguments or its change were refused; and it never fails otherwise. -/
theorem perform_effect (c : Collection) (t : Topology) (op : Operation) :
    ∃ answer after, c.perform (op.action kind t) = (some answer, after) ∧
      Effect c.membersOf after.membersOf answer op := by
  obtain ⟨log, answer, after, hrun, hlen, heffect⟩ := c.affects t op
  refine ⟨answer, after, ?_, heffect⟩
  unfold Collection.perform
  rw [hrun.run_of_le hlen]
  rfl

end InMemory
end PolicyProvider
