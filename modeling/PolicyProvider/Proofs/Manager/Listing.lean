import PolicyProvider.Proofs.Manager.Query
import PolicyProvider.Proofs.Number.Digit
/-!
# Listing — a listing is known by the end of its address

The end of an address says under each name what the listing asks for, and nothing else, so two listings with one address
are one (`params_legible`): a cursor that a manager chose stays a cursor, whatever characters it has.
-/
namespace PolicyProvider

theorem boolParam_injective : Function.Injective boolParam := by
  unfold Function.Injective
  decide

namespace AttributeQuery

theorem words_injective {q q' : AttributeQuery} (h : q.words = q'.words) : q = q' := by
  obtain ⟨key, source, cursor, marked, fields, size, ascending, order⟩ := q
  obtain ⟨key', source', cursor', marked', fields', size', ascending', order'⟩ := q'
  simp only [words, List.cons.injEq, Prod.mk.injEq, true_and, and_true] at h
  obtain ⟨rfl, rfl, rfl, hmarked, rfl, hsize, hascending, rfl⟩ := h
  obtain rfl := Option.map_injective boolParam_injective hmarked
  obtain rfl := Option.map_injective Digit.toString_int_injective hsize
  obtain rfl := Option.map_injective boolParam_injective hascending
  rfl

end AttributeQuery

namespace QueryParams

/-- **What the end of an address says.**  However parameters were put together, if no name that has a value has one of
the dividing signs, those that were given are read back in their order, whatever characters the values have.  The end of
a listing's address says what the listing asks for under each of its eight names and nothing else, so no value adds,
drops or changes another parameter, and listings that differ in anything have different addresses. -/
theorem params_legible :
    (∀ a : Assembly, (∀ p ∈ a.given, '=' ∉ p.1.toList ∧ '&' ∉ p.1.toList) →
      read? a.params.text.toList = some ⟨a.given⟩) ∧
    (∀ q : AttributeQuery, read? q.params.text.toList = some ⟨Entries.present q.words⟩ ∧
      ∀ w ∈ q.words, Entries.get? w.1 (Entries.present q.words) = w.2) ∧
    ∀ q q' : AttributeQuery, q.params.text = q'.params.text ↔ q = q' := by
  have hlisting : ∀ q : AttributeQuery, read? q.params.text.toList = some ⟨Entries.present q.words⟩ := by
    intro q
    rw [read?_text q.plain_params, q.params_eq]
  refine ⟨?_, ?_, ?_⟩
  · intro a ha
    rw [a.params_eq]
    exact read?_text ha
  · intro q
    exact ⟨hlisting q, fun w hw => Entries.get?_present q.nodup_names_words hw⟩
  · intro q q'
    refine ⟨fun h => ?_, fun h => congrArg (fun q => q.params.text) h⟩
    -- one address is read back as what either listing asks for
    have hread := hlisting q
    rw [h, hlisting q', Option.some.injEq, QueryParams.mk.injEq] at hread
    exact AttributeQuery.words_injective (Entries.present_inj q.nodup_names_words rfl hread.symm)

def filtered : Assembly := .extend (.addOptional (.add .start "filter" "a&b=é") "cursor" none) (.add .start "page" "")

/-- A listing of a key that looks like two parameters, from an empty cursor on. -/
def disguised : AttributeQuery := { key := some "a&cursor=b", paging := { cursor := some "" } }

/-- What was given is read back; a key does not become a cursor, and an empty cursor is told from none. -/
theorem params_legible_on_disguised :
    (∀ p ∈ filtered.given, '=' ∉ p.1.toList ∧ '&' ∉ p.1.toList) ∧
      filtered.params.text = "?filter=a%26b%3D%C3%A9&page=" ∧
      read? filtered.params.text.toList = some ⟨[("filter", "a&b=é"), ("page", "")]⟩ ∧
      ("cursor", some "") ∈ disguised.words ∧
      Entries.get? "cursor" (Entries.present disguised.words) = some "" ∧
      disguised.params.text ≠ (AttributeQuery.params { key := some "a&cursor=b" }).text := by
  have hplain : ∀ p ∈ filtered.given, '=' ∉ p.1.toList ∧ '&' ∉ p.1.toList := by decide
  have hcursor : ("cursor", some "") ∈ disguised.words := by decide
  obtain ⟨hread, hwords, hone⟩ := params_legible
  refine ⟨hplain, rfl, hread filtered hplain, hcursor, (hwords disguised).2 _ hcursor, fun h => ?_⟩
  exact absurd ((hone _ _).1 h) (by decide)

end QueryParams
end PolicyProvider
