import PolicyProvider.Proofs.Policy.Mirror
/-!
# Conversion — a record of either manager is one of the other

Types that mirror each other can be exchanged (`Mirror.exchangeable`): a record of either is converted to one of the
other that is written as the same text, and converted back it is the record it was; and a document is a record of the
one just if it is a record of the other, both of them written alike.  The two managers have five pairs of such types
(`managers_exchangeable`).
-/
namespace PolicyProvider

def documentText {α : Type} [WrittenForm α] (x : α) : String := String.ofList (WrittenForm.toTree x).written

/-- **That records of two types can be exchanged.** -/
structure Exchangeable (α β : Type) [WrittenForm α] [WrittenForm β] : Prop where
  /-- A record of the first type is converted to one of the second, with the same text, and back to itself. -/
  there : ∀ x : α, ∃ y : β, convert x = .ok y ∧ documentText y = documentText x ∧ convert y = .ok x
  /-- A record of the second type is converted to one of the first, with the same text, and back to itself. -/
  back : ∀ y : β, ∃ x : α, convert y = .ok x ∧ documentText x = documentText y ∧ convert x = .ok y
  /-- A document is read as a record of the one type if it is read as one of the other. -/
  reads : ∀ t : Json.Tree, (∃ x : α, WrittenForm.ofTree? t = some x) ↔ ∃ y : β, WrittenForm.ofTree? t = some y
  /-- A document that is read as a record of either type has one text as both. -/
  alike : ∀ (t : Json.Tree) (x : α) (y : β), WrittenForm.ofTree? t = some x → WrittenForm.ofTree? t = some y →
    documentText x = documentText y

namespace Mirror

variable {α β : Type} [WrittenForm α] [WrittenForm β]

theorem documentText_there (m : Mirror α β) (x : α) : documentText (m.there x) = documentText x := by
  unfold documentText
  rw [m.toTree_there]

theorem documentText_back (m : Mirror α β) (y : β) : documentText (m.back y) = documentText y := by
  unfold documentText
  rw [m.toTree_back]

theorem exchangeable (m : Mirror α β) : Exchangeable α β where
  there x := by
    refine ⟨m.there x, m.convert_there x, m.documentText_there x, ?_⟩
    rw [m.convert_back, m.back_there]
  back y := by
    refine ⟨m.back y, m.convert_back y, m.documentText_back y, ?_⟩
    rw [m.convert_there, m.there_back]
  reads t := by
    rw [m.ofTree?_there]
    constructor
    · rintro ⟨x, hx⟩
      exact ⟨m.there x, by rw [hx, Option.map_some]⟩
    · rintro ⟨y, hy⟩
      obtain ⟨x, hx, -⟩ := Option.map_eq_some_iff.1 hy
      exact ⟨x, hx⟩
  alike t x y hx hy := by
    rw [m.ofTree?_there, hx, Option.map_some, Option.some.injEq] at hy
    rw [← hy, m.documentText_there]

end Mirror

/-- **Nothing is lost between the two managers**, whatever the records hold: in each of the five shapes a record of
either manager is converted to one of the other with the same text, and back to itself, and both managers read the same
documents alike. -/
theorem managers_exchangeable :
    Exchangeable LocalPolicy.CustomAttributes GlobalPolicy.CustomAttributes ∧
    Exchangeable LocalPolicy.SubAttributes GlobalPolicy.SubAttributes ∧
    Exchangeable LocalPolicy.Attributes GlobalPolicy.Attributes ∧
    Exchangeable LocalPolicy.ContextProfile GlobalPolicy.ContextProfile ∧
    Exchangeable LocalPolicy.ProfilePage GlobalPolicy.ProfilePage :=
  ⟨CustomAttributes.mirror.exchangeable, SubAttributes.mirror.exchangeable, Attributes.mirror.exchangeable,
    ContextProfile.mirror.exchangeable, ProfilePage.mirror.exchangeable⟩

end PolicyProvider
