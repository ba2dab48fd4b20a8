import PolicyProvider.Value.Path
import PolicyProvider.Proofs.Value.Basic
/-!
# Path — one attribute of a value

Where a path is the name of an attribute, reading and setting are about the members of the value: what is no object has
none, and setting an attribute makes it an object, so that it never fails (`set_ofName`).
-/
namespace PolicyProvider
namespace Value

def members : Value → List (String × Value)
  | .object members => members
  | _ => []

/-- The value of an attribute, null where there is none. -/
def under (v : Value) (name : String) : Value := (v.get? (.ofName name)).getD .null

@[simp] theorem members_object (members : List (String × Value)) : (object members).members = members := rfl

theorem get?_ofName (v : Value) (name : String) : v.get? (.ofName name) = Entries.get? name v.members := by
  cases v with
  | object members => simp [get?, step?, Path.ofName]
  | _ => rfl

theorem under_eq {v w : Value} {name : String} (h : v.get? (.ofName name) = some w) : v.under name = w := by
  unfold under
  rw [h, Option.getD_some]

theorem isNull_of_get? {v w : Value} {name : String} (h : v.get? (.ofName name) = some w) : v.isNull = false := by
  cases v with
  | null => cases h
  | _ => rfl

theorem set_ofName (v w : Value) (name : String) :
    v.set (.ofName name) w = ⟨.object (Entries.put name w v.members), none⟩ := by
  cases v <;> rfl

def put (v : Value) (name : String) (w : Value) : Value := .object (Entries.put name w v.members)

@[simp] theorem isNull_put (v : Value) (name : String) (w : Value) : (v.put name w).isNull = false := rfl

@[simp] theorem under_put_self (v : Value) (name : String) (w : Value) : (v.put name w).under name = w :=
  under_eq (by rw [get?_ofName, put, members_object, Entries.get?_put_self])

theorem put_put (v : Value) (name : String) (w w' : Value) : (v.put name w).put name w' = v.put name w' :=
  congrArg object (Entries.put_put name w w' v.members)

theorem put_comm {name other : String} (hne : name ≠ other) (v w w' : Value) :
    (v.put other w').put name w = (v.put name w).put other w' :=
  congrArg object (Entries.put_comm hne w w' v.members)

theorem put_eq_self {v w : Value} {name : String} (hv : v.Canonical) (h : v.get? (.ofName name) = some w) :
    v.put name w = v := by
  cases v with
  | object members =>
    rw [get?_ofName, members_object] at h
    exact congrArg object (Entries.put_eq_self (canonical_object.1 hv).1 h)
  | _ => cases h

theorem getString_eq_ok {v : Value} {p : Path} {s : String} : v.getString p = .ok s ↔ v.get? p = some (.string s) := by
  unfold getString getAs
  cases v.get? p with
  | none => simp
  | some w => cases w <;> simp [string?]

theorem canonical_put (name : String) {members : List (String × Value)} {v : Value}
    (h : (object members).Canonical) (hv : v.Canonical) : (object (Entries.put name v members)).Canonical := by
  rw [canonical_object] at h ⊢
  refine ⟨Entries.ascending_put name v h.1, fun m hm => ?_⟩
  rcases Entries.mem_put hm with rfl | hm
  · exact hv
  · exact h.2 m hm

theorem canonical_members {v : Value} (h : v.Canonical) : (object v.members).Canonical := by
  cases v with
  | object members => exact h
  | _ => simp [members, canonical_object]

/-- **A canonical object is known by its attributes.** -/
theorem eq_object_of_get? {v : Value} {es : List (String × Value)} (hv : v.Canonical) (hobject : v = .object v.members)
    (hes : (object es).Canonical) (h : ∀ name, Entries.get? name es = v.get? (.ofName name)) : .object es = v := by
  rw [hobject]
  refine congrArg object (Entries.ext (canonical_object.1 hes).1 (canonical_object.1 (canonical_members hv)).1 ?_)
  intro name
  rw [h, get?_ofName]

end Value
end PolicyProvider
