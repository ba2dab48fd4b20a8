import PolicyProvider.Schema.ValueType
import PolicyProvider.Proofs.Value.Lens
/-!
# PartType — the type of what lies at a path

A type says what lies behind each step: behind an index the type of items, behind a name the type of the member
(`ValueType.step?`), and so on along a path (`ValueType.at?`).  What lies at a path in a value of a type has the type at
that path, and another value set in its place leaves a value of the type exactly if it has the type at the path too
(`accepts_set_iff`).  As every type has null and unknown, a part can be made either of them.
-/
namespace PolicyProvider
namespace ValueType

def item? : ValueType → Option ValueType
  | .list item => some item
  | .set item => some item
  | _ => none

def member? : ValueType → String → Option ValueType
  | .map item, _ => some item
  | .object types, name => Entries.get? name types
  | _, _ => none

def step? (type : ValueType) (step : Step) : Option ValueType :=
  match step.place with
  | .inl name => type.member? name
  | .inr _ => type.item?

/-- **The type at a path**; it does not depend on any value. -/
def at? (type : ValueType) (p : Path) : Option ValueType := p.steps.foldlM step? type

variable {type part : ValueType} {v w : Value} {step : Step}

/-! ## Values of a type -/

@[simp] theorem accepts_null (type : ValueType) : type.accepts .null = true := by
  cases type <;> simp [accepts]

@[simp] theorem accepts_unknown (type : ValueType) : type.accepts .unknown = true := by
  cases type <;> simp [accepts]

theorem acceptsMember_iff {types : List (String × ValueType)} {name : String} :
    acceptsMember types name v = true ↔ ∃ part, Entries.get? name types = some part ∧ part.accepts v = true := by
  induction types with
  | nil => simp [acceptsMember, Entries.get?]
  | cons entry types ih =>
    obtain ⟨k, type⟩ := entry
    by_cases hk : k = name
    · simp [acceptsMember, Entries.get?, hk]
    · simp [acceptsMember, Entries.get?, hk, ih]

theorem accepts_list {items : List Value} :
    type.accepts (.list items) = true ↔ ∃ part, type.item? = some part ∧ ∀ w ∈ items, part.accepts w = true := by
  cases type <;> simp [accepts, item?]

theorem accepts_object {members : List (String × Value)} :
    type.accepts (.object members) = true ↔
      type.accepts .empty = true ∧ ∀ m ∈ members, ∃ part, type.member? m.1 = some part ∧ part.accepts m.2 = true := by
  cases type <;> simp [accepts, member?, Value.empty, acceptsMember_iff]

/-! ## One step -/

/-- **What lies behind a step has the type behind the step.** -/
theorem exists_step? (hv : type.accepts v = true) (hw : v.step? step = some w) :
    ∃ part, type.step? step = some part ∧ part.accepts w = true := by
  cases v with
  | object members =>
    cases step with
    | index i => cases hw
    | name s | key s => exact (accepts_object.1 hv).2 (s, w) (Entries.mem_of_get? hw)
  | list items =>
    cases step with
    | index i =>
      obtain ⟨part, hpart, hitems⟩ := accepts_list.1 hv
      obtain ⟨n, -, hitem⟩ := Option.bind_eq_some_iff.1 hw
      exact ⟨part, hpart, hitems w (List.mem_of_getElem? hitem)⟩
    | _ => cases hw
  | _ => cases hw

theorem accepts_put {members : List (String × Value)} {name : String} (hv : type.accepts (.object members) = true)
    (hpart : type.member? name = some part) (u : Value) :
    type.accepts (.object (Entries.put name u members)) = true ↔ part.accepts u = true := by
  obtain ⟨hobject, hmembers⟩ := accepts_object.1 hv
  rw [accepts_object]
  constructor
  · rintro ⟨-, hput⟩
    obtain ⟨part', hpart', hu⟩ := hput (name, u) (Entries.mem_of_get? (Entries.get?_put_self name u members))
    rw [hpart] at hpart'
    cases hpart'
    exact hu
  · intro hu
    refine ⟨hobject, fun m hm => ?_⟩
    rcases Entries.mem_put hm with rfl | hold
    · exact ⟨part, hpart, hu⟩
    · exact hmembers m hold

theorem accepts_set_item {items : List Value} {n : Nat} (hn : n < items.length) (hv : type.accepts (.list items) = true)
    (hpart : type.item? = some part) (u : Value) :
    type.accepts (.list (items.set n u)) = true ↔ part.accepts u = true := by
  have hitems : ∀ items, type.accepts (.list items) = true ↔ ∀ w ∈ items, part.accepts w = true := by
    intro items
    rw [accepts_list]
    simp [hpart]
  rw [hitems] at hv ⊢
  constructor
  · intro hset
    exact hset u (List.mem_set hn u)
  · intro hu w hw
    rcases List.mem_or_eq_of_mem_set hw with hold | rfl
    · exact hv w hold
    · exact hu

/-- **A value behind a step can be replaced by those of the type behind the step**, and by no others. -/
theorem accepts_replaced (hv : type.accepts v = true) (hw : v.step? step = some w) (hpart : type.step? step = some part)
    (u : Value) : type.accepts (v.replaced step u) = true ↔ part.accepts u = true := by
  cases v with
  | object members =>
    cases step with
    | index i => cases hw
    | name s | key s => exact accepts_put hv hpart u
  | list items =>
    cases step with
    | index i =>
      obtain ⟨n, hn, -⟩ := Option.bind_eq_some_iff.1 hw
      rw [Value.replaced_list hn]
      exact accepts_set_item (Value.position?_eq_some.1 hn).2 hv hpart u
    | _ => cases hw
  | _ => cases hw

/-! ## Along a path -/

theorem at?_cons (type : ValueType) (step : Step) (rest : List Step) :
    type.at? ⟨step :: rest⟩ = (type.step? step).bind fun part => part.at? ⟨rest⟩ := by
  unfold at?
  rw [List.foldlM_cons]
  rfl

theorem accepts_setAt {steps : List Step} (hv : type.accepts v = true) (hw : v.get? ⟨steps⟩ = some w) :
    ∃ part, type.at? ⟨steps⟩ = some part ∧ part.accepts w = true ∧ ∀ whole u,
      (Value.setAt whole u steps v).error = none ∧
        (type.accepts (Value.setAt whole u steps v).value = true ↔ part.accepts u = true) := by
  induction steps generalizing type v with
  | nil =>
    -- at the end of the path the other value is the whole, and the type at the path is the whole type
    cases hw
    exact ⟨type, rfl, hv, fun whole u => ⟨rfl, Iff.rfl⟩⟩
  | cons step rest ih =>
    rw [Value.get?_cons] at hw
    obtain ⟨x, hx, hrest⟩ := Option.bind_eq_some_iff.1 hw
    obtain ⟨behind, hbehind, hxtype⟩ := exists_step? hv hx
    obtain ⟨part, hpart, hwtype, hset⟩ := ih hxtype hrest
    refine ⟨part, ?_, hwtype, fun whole u => ?_⟩
    · rw [at?_cons, hbehind, Option.bind_some, hpart]
    · obtain ⟨herror, hiff⟩ := hset whole u
      rw [Value.setAt_of_get? hx hrest]
      exact ⟨herror, (accepts_replaced hv hx hbehind _).trans hiff⟩

/-- **A value can be set where one is read exactly if it has the type at the path.**  Let a value have a type and let
something be read in it, at the root or inside an object.  What is read has the type at the path, and setting another
value there succeeds and leaves a value of the whole type just if the other value has the type at the path too.  So a
part that is there may become unknown or null. -/
theorem accepts_set_iff {p : Path} (hroot : p = .root ∨ ∃ members, v = .object members) (hv : type.accepts v = true)
    (hw : v.get? p = some w) :
    ∃ part, type.at? p = some part ∧ part.accepts w = true ∧
      (∀ u, (v.set p u).error = none ∧ (type.accepts (v.set p u).value = true ↔ part.accepts u = true)) ∧
      type.accepts (v.set p .unknown).value = true ∧ type.accepts (v.set p .null).value = true := by
  obtain ⟨part, hpart, hread, hsetAt⟩ := accepts_setAt hv hw
  have hset : ∀ u, (v.set p u).error = none ∧ (type.accepts (v.set p u).value = true ↔ part.accepts u = true) := by
    intro u
    rw [Value.set_eq_setAt hroot]
    exact hsetAt p u
  exact ⟨part, hpart, hread, hset, (hset .unknown).2.2 part.accepts_unknown, (hset .null).2.2 part.accepts_null⟩

def ruled : ValueType := .object [("rules", .list (.object [("port", .number), ("tags", .map (.set .string))]))]

def tagged : Value :=
  .object [("rules", .list [.unknown, .object [("tags", .object [("zone", .list [.string "a", .null])])]])]

def zonePath : Path := ⟨[.name "rules", .index 1, .name "tags", .key "zone", .index 0]⟩

theorem accepts_set_iff_on_tagged :
    ruled.accepts tagged = true ∧ tagged.get? zonePath = some (.string "a") ∧ ruled.at? zonePath = some .string ∧
      ruled.accepts (tagged.set zonePath (.string "b")).value = true ∧
      ruled.accepts (tagged.set zonePath .empty).value = false ∧
      ruled.accepts (tagged.set zonePath .unknown).value = true := by
  have htagged : ruled.accepts tagged = true := rfl
  have hzone : tagged.get? zonePath = some (.string "a") := rfl
  obtain ⟨part, hpart, -, hset, hunknown, -⟩ := accepts_set_iff (.inr ⟨_, rfl⟩) htagged hzone
  cases hpart
  refine ⟨htagged, hzone, rfl, (hset _).2.2 rfl, ?_, hunknown⟩
  exact Bool.eq_false_iff.2 fun haccepts => nomatch (hset .empty).2.1 haccepts

end ValueType
end PolicyProvider
