import PolicyProvider.Schema.Plan
import PolicyProvider.Proofs.Value.Path
/-!
# Plan — one attribute at a time

What planning makes of an attribute depends on the prior and the proposed state alone (`Attribute.drafted`): no modifier
looks at the configuration or reports a problem.  One step of planning puts the planned value under the attribute's name
and marks its path if a modifier asks for a replacement (`planAttribute_eq`).
-/
namespace PolicyProvider

theorem Attribute.valueIn_eq (a : Attribute) (v : Value) : a.valueIn v = v.under a.name := rfl

namespace Modifier

theorem diagnostics_apply (r : Request) (m : Modifier) : (m.apply r).diagnostics = [] := by
  cases m <;> rfl

theorem apply_config (r : Request) (m : Modifier) (config : Value) : m.apply { r with config } = m.apply r := by
  cases m <;> rfl

end Modifier

namespace Attribute

def adjusted (was : Value) (modifiers : List Modifier) (start : Value × Bool) : Value × Bool :=
  modifiers.foldl (fun d m =>
    let r := m.apply { state := was, config := .null, plan := d.1 }
    (r.plan, d.2 || r.requiresReplace)) start

/-- **What planning makes of an attribute**, and whether that replaces the resource. -/
def drafted (a : Attribute) (prior proposed : Value) : Value × Bool :=
  let wanted := a.valueIn proposed
  let plan := if a.computed && wanted.isNull then .unknown else wanted
  if prior.isNull then (plan, false) else adjusted (a.valueIn prior) a.modifiers (plan, false)

/-- That a known value is another than the one before it, which was not null. -/
def differs (was will : Value) : Bool := !was.isNull && !will.isUnknown && !was.same will

theorem drafted_of_requiresReplace {a : Attribute} {prior : Value} (hcomputed : a.computed = false)
    (hmodifiers : a.modifiers = [.requiresReplace]) (hprior : prior.isNull = false) (proposed : Value) :
    a.drafted prior proposed = (proposed.under a.name, differs (prior.under a.name) (proposed.under a.name)) := by
  simp [drafted, hcomputed, hmodifiers, hprior, adjusted, Modifier.apply, differs, valueIn_eq]

theorem drafted_of_useStateForUnknown {a : Attribute} {prior : Value} (hcomputed : a.computed = true)
    (hmodifiers : a.modifiers = [.useStateForUnknown]) (hset : (prior.under a.name).isSet = true)
    (hprior : prior.isNull = false) (proposed : Value) :
    a.drafted prior proposed =
      (if (proposed.under a.name).isSet then proposed.under a.name else prior.under a.name, false) := by
  unfold drafted adjusted
  simp only [hcomputed, hmodifiers, hprior, Modifier.apply, valueIn_eq, hset, List.foldl_cons, List.foldl_nil,
    Bool.true_and, Bool.and_true, Bool.false_eq_true, if_false, Bool.or_self]
  cases proposed.under a.name <;> rfl

end Attribute

namespace PlannedChange

theorem mark_mark (replace : List Path) (path : Path) : mark (mark replace path) path = mark replace path := by
  have hmem : path ∈ mark replace path := by
    unfold mark
    split
    · assumption
    · simp
  rw [mark, if_pos hmem]

def markIf (asked : Bool) (replace : List Path) (path : Path) : List Path :=
  if asked then mark replace path else replace

theorem markIf_markIf (a b : Bool) (replace : List Path) (path : Path) :
    markIf b (markIf a replace path) path = markIf (a || b) replace path := by
  cases a <;> cases b <;> simp [markIf, mark_mark]

theorem adjust_eq (path : Path) (was config plan : Value) (asked : Bool) (replace : List Path) (ds : List Diagnostic)
    (m : Modifier) :
    Draft.adjust path was config ⟨plan, markIf asked replace path, ds⟩ m =
      ⟨(m.apply { state := was, config := .null, plan }).plan,
        markIf (asked || (m.apply { state := was, config := .null, plan }).requiresReplace) replace path, ds⟩ := by
  have hconfig : m.apply { state := was, config, plan } = m.apply { state := was, config := .null, plan } :=
    m.apply_config { state := was, config := .null, plan } config
  have hmark := markIf_markIf asked (m.apply { state := was, config := .null, plan }).requiresReplace replace path
  unfold Draft.adjust
  simp only [hconfig, Modifier.diagnostics_apply, List.append_nil, ← hmark]
  rfl

theorem foldl_adjust (path : Path) (was config plan : Value) (asked : Bool) (replace : List Path) (ds : List Diagnostic)
    (modifiers : List Modifier) :
    modifiers.foldl (Draft.adjust path was config) ⟨plan, markIf asked replace path, ds⟩ =
      ⟨(Attribute.adjusted was modifiers (plan, asked)).1,
        markIf (Attribute.adjusted was modifiers (plan, asked)).2 replace path, ds⟩ := by
  induction modifiers generalizing plan asked with
  | nil => rfl
  | cons m modifiers ih =>
    rw [List.foldl_cons, adjust_eq]
    exact ih _ _

/-- **One step of planning.** -/
theorem planAttribute_eq (prior proposed config : Value) (change : PlannedChange) (a : Attribute) :
    planAttribute prior proposed config change a =
      ⟨.object (Entries.put a.name (a.drafted prior proposed).1 change.state.members),
        markIf (a.drafted prior proposed).2 change.requiresReplace a.path, change.diagnostics⟩ := by
  have hset : ∀ w, change.state.set a.path w = ⟨.object (Entries.put a.name w change.state.members), none⟩ :=
    fun w => Value.set_ofName change.state w a.name
  unfold planAttribute Attribute.drafted
  cases hprior : prior.isNull with
  | true => simp [hset, markIf]
  | false =>
    have hfold := foldl_adjust a.path (a.valueIn prior) (a.valueIn config)
      (if a.computed && (a.valueIn proposed).isNull then .unknown else a.valueIn proposed) false change.requiresReplace
      change.diagnostics a.modifiers
    rw [show markIf false change.requiresReplace a.path = change.requiresReplace from rfl] at hfold
    simp only [Bool.false_eq_true, if_false, hfold, hset, List.append_nil]

end PlannedChange
end PolicyProvider
