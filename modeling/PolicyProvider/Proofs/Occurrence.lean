import Mathlib.Data.List.Induction
import Mathlib.Data.List.Nodup
/-!
# Occurrence — what comes first in a list

`List.eraseDups` keeps the first occurrence of everything in a list, in the order of the list.
-/
namespace PolicyProvider
namespace Occurrence

universe u
variable {α : Type u} [DecidableEq α]

theorem eraseDups_concat_of_mem {as : List α} {a : α} (h : a ∈ as) : (as ++ [a]).eraseDups = as.eraseDups := by
  have hnone : [a].removeAll as = [] := by simp [List.removeAll, h]
  rw [List.eraseDups_append, hnone, List.eraseDups_nil, List.append_nil]

theorem eraseDups_concat_of_not_mem {as : List α} {a : α} (h : a ∉ as) :
    (as ++ [a]).eraseDups = as.eraseDups ++ [a] := by
  have hone : [a].removeAll as = [a] := by simp [List.removeAll, h]
  rw [List.eraseDups_append, hone]
  rfl

theorem nodup_eraseDups (as : List α) : as.eraseDups.Nodup := by
  induction as using List.reverseRecOn with
  | nil => exact List.nodup_nil
  | append_singleton as a ih =>
    by_cases h : a ∈ as
    · rwa [eraseDups_concat_of_mem h]
    · rw [eraseDups_concat_of_not_mem h, List.nodup_append]
      refine ⟨ih, List.nodup_singleton a, fun b hb c hc => ?_⟩
      obtain rfl := List.mem_singleton.1 hc
      rintro rfl
      exact h (List.mem_eraseDups.1 hb)

end Occurrence
end PolicyProvider
