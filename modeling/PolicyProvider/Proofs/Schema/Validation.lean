import PolicyProvider.Schema.Basic
import PolicyProvider.Proofs.Value.Path
/-!
# Validation — configurations without an error

An attribute finds no error in an unknown value, in null unless it is required, and in a set value that it may be
configured with, that has its type and in which its checks find none (`hasErrors_problems_iff`); a schema finds none if
none of its attributes does (`hasErrors_validate_iff`).  A check may warn of a value and still let it pass.
-/
namespace PolicyProvider

theorem Value.isSet_eq (v : Value) : v.isSet = (!v.isNull && !v.isUnknown) := by
  cases v <;> rfl

namespace Diagnostic

@[simp]
theorem hasErrors_nil : hasErrors [] = false := rfl

@[simp]
theorem hasErrors_errorAt (path : Path) (summary detail : String) :
    hasErrors [.errorAt path summary detail] = true := rfl

theorem hasErrors_flatMap {α : Type} (xs : List α) (f : α → List Diagnostic) :
    hasErrors (xs.flatMap f) = false ↔ ∀ x ∈ xs, hasErrors (f x) = false := by
  unfold hasErrors
  rw [List.any_flatMap, List.any_eq_false]
  exact forall₂_congr fun _ _ => Bool.eq_false_iff.symm

end Diagnostic

namespace Attribute

/-- **The values an attribute finds no error in.** -/
theorem hasErrors_problems_iff (a : Attribute) (v : Value) :
    Diagnostic.hasErrors (a.problems v) = false ↔ v.isUnknown = true ∨ (v.isNull = true ∧ a.required = false) ∨
      (v.isSet = true ∧ (a.computed = true → a.optional = true ∨ a.required = true) ∧ a.type.accepts v = true ∧
        ∀ c ∈ a.validators, Diagnostic.hasErrors (c.check a.path v) = false) := by
  rw [Value.isSet_eq]
  unfold problems
  by_cases hunknown : v.isUnknown = true
  · simp [hunknown]
  by_cases hnull : v.isNull = true
  · by_cases hrequired : a.required = true <;> simp [hunknown, hnull, hrequired]
  simp only [hunknown, hnull, Bool.false_eq_true, if_false, false_or, false_and, Bool.not_false, Bool.and_self,
    true_and]
  by_cases hfixed : (a.computed && !a.optional && !a.required) = true
  · rw [if_pos hfixed, Diagnostic.hasErrors_errorAt]
    simp only [Bool.and_eq_true, Bool.not_eq_true'] at hfixed
    obtain ⟨⟨hcomputed, hoptional⟩, hrequired⟩ := hfixed
    simp [hcomputed, hoptional, hrequired]
  · have hfree : a.computed = true → a.optional = true ∨ a.required = true := by
      revert hfixed
      cases a.computed <;> cases a.optional <;> cases a.required <;> decide
    by_cases htype : a.type.accepts v = true
    · rw [if_neg hfixed, if_neg (by simp [htype]), Diagnostic.hasErrors_flatMap]
      exact ⟨fun h => ⟨hfree, htype, h⟩, fun h => h.2.2⟩
    · simp [hfixed, htype]

end Attribute

theorem Schema.hasErrors_validate_iff (s : Schema) (config : Value) : Diagnostic.hasErrors (s.validate config) = false ↔
    ∀ a ∈ s.attributes, Diagnostic.hasErrors (a.problems (config.under a.name)) = false :=
  Diagnostic.hasErrors_flatMap ..

theorem ValueType.eq_string_of_accepts {v : Value} (h : ValueType.string.accepts v = true) (hset : v.isSet = true) :
    ∃ s, v = .string s := by
  cases v with
  | string s => exact ⟨s, rfl⟩
  | null | unknown => cases hset
  | _ => simp [ValueType.accepts] at h

theorem Validator.mem_of_check {allowed : List String} {path : Path} {s : String}
    (h : Diagnostic.hasErrors (Validator.check path (.string s) (.oneOf allowed false)) = false) : s ∈ allowed := by
  simp only [Validator.check, Value.string?] at h
  split at h
  · rename_i hallowed
    simpa [Validator.isAllowed] using hallowed
  · cases h

end PolicyProvider
