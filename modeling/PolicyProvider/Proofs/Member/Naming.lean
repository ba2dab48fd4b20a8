import PolicyProvider.Member.Id
/-!
# Naming — ids written and read back

A text is divided at its first separator.  As no key holds one, a written id is read back with the same key and member,
even if the member has separators of its own.
-/
namespace PolicyProvider
namespace MemberId

theorem split?_append {key : List Char} (hkey : idSeparator ∉ key) (member : List Char) :
    split? (key ++ idSeparator :: member) = some (key, member) := by
  induction key with
  | nil => simp [split?]
  | cons c key ih =>
    rw [List.mem_cons, not_or] at hkey
    rw [List.cons_append, split?, if_neg (Ne.symm hkey.1), ih hkey.2]
    rfl

theorem split?_of_not_mem {s : List Char} (h : idSeparator ∉ s) : split? s = none := by
  induction s with
  | nil => rfl
  | cons c s ih =>
    rw [List.mem_cons, not_or] at h
    rw [split?, if_neg (Ne.symm h.1), ih h.2]
    rfl

theorem split?_of_mem {s : List Char} (h : idSeparator ∈ s) :
    split? s = some (s.takeWhile (· ≠ idSeparator), (s.dropWhile (· ≠ idSeparator)).drop 1) := by
  induction s with
  | nil => exact absurd h List.not_mem_nil
  | cons c s ih =>
    by_cases hc : c = idSeparator
    · simp [split?, hc]
    · have hs : idSeparator ∈ s := (List.mem_cons.1 h).resolve_left (Ne.symm hc)
      rw [split?, if_neg hc, ih hs]
      simp [hc]

theorem append_of_split? {s key member : List Char} (h : split? s = some (key, member)) :
    s = key ++ idSeparator :: member := by
  induction s generalizing key with
  | nil => cases h
  | cons c s ih =>
    rw [split?] at h
    by_cases hc : c = idSeparator
    · rw [if_pos hc] at h
      cases h
      rw [hc]
      rfl
    · rw [if_neg hc, Option.map_eq_some_iff] at h
      obtain ⟨⟨first, last⟩, hrest, heq⟩ := h
      cases heq
      rw [ih hrest]
      rfl

theorem toList_joined (key member : String) :
    (joined key member).toList = key.toList ++ idSeparator :: member.toList := by
  rw [joined, String.toList_ofList]

theorem joined_eq (key member : String) : joined key member = key ++ "~" ++ member := by
  rw [← String.toList_inj, toList_joined, String.toList_append, String.toList_append, List.append_assoc]
  rfl

theorem text_ne_empty (id : MemberId) : id.text ≠ "" := by
  intro h
  have hlist := congrArg String.toList h
  rw [text, toList_joined] at hlist
  simp at hlist

theorem parse_of_split? {s : String} {id : MemberId} (h : split? s.toList = some (id.key.toList, id.member.toList)) :
    parse s = .ok id := by
  obtain ⟨key, member, hk, hs, hm⟩ := id
  unfold parse
  split
  · rename_i heq
    rw [h] at heq
    cases heq
  · rename_i k m heq
    rw [h] at heq
    cases heq
    simp only [String.ofList_toList, hk, hm, dif_neg, not_false_eq_true]

/-- **A written name is read back as itself.** -/
theorem parse_text (id : MemberId) : parse id.text = .ok id := by
  refine parse_of_split? ?_
  rw [text, toList_joined]
  exact split?_append id.separator_not_mem_key _

/-- **A text is read as a name exactly if the name is written so.** -/
theorem parse_eq_ok {s : String} {id : MemberId} : parse s = .ok id ↔ s = id.text := by
  constructor
  · intro h
    unfold parse at h
    split at h
    · cases h
    · rename_i key member hsplit
      have hs := append_of_split? hsplit
      split at h
      · cases h
      · split at h
        · cases h
        · cases h
          rw [text, ← String.toList_inj, toList_joined, String.toList_ofList, String.toList_ofList]
          exact hs
  · rintro rfl
    exact parse_text id

theorem parse_eq (s : String) : parse s =
    if idSeparator ∉ s.toList then .error (.missingSeparator s)
    else if String.ofList (s.toList.takeWhile (· ≠ idSeparator)) = "" then .error (.emptyPart s "key")
    else if String.ofList ((s.toList.dropWhile (· ≠ idSeparator)).drop 1) = "" then .error (.emptyPart s "attribute")
    else ofParts (String.ofList (s.toList.takeWhile (· ≠ idSeparator)))
      (String.ofList ((s.toList.dropWhile (· ≠ idSeparator)).drop 1)) := by
  by_cases hs : idSeparator ∈ s.toList
  · have hsplit := split?_of_mem hs
    rw [if_neg (not_not_intro hs)]
    unfold parse
    split
    · rename_i heq
      rw [hsplit] at heq
      cases heq
    · rename_i k m heq
      have hnot := not_mem_of_split? heq
      rw [hsplit] at heq
      cases heq
      by_cases hk : String.ofList (s.toList.takeWhile (· ≠ idSeparator)) = ""
      · rw [dif_pos hk, if_pos hk]
      · rw [dif_neg hk, if_neg hk]
        by_cases hm : String.ofList ((s.toList.dropWhile (· ≠ idSeparator)).drop 1) = ""
        · rw [dif_pos hm, if_pos hm]
        · rw [dif_neg hm, if_neg hm, ofParts, dif_neg (by rw [String.toList_ofList]; exact hnot), dif_neg hk,
            dif_neg hm]
  · rw [if_pos hs]
    unfold parse
    split
    · rfl
    · rename_i k m heq
      rw [split?_of_not_mem hs] at heq
      cases heq

/-! ## Parts and names -/

theorem ofParts_eq_ok {key member : String} {id : MemberId} :
    ofParts key member = .ok id ↔ id.key = key ∧ id.member = member := by
  unfold ofParts
  constructor
  · intro h
    split at h
    · cases h
    · split at h
      · cases h
      · split at h
        · cases h
        · cases h
          exact ⟨rfl, rfl⟩
  · rintro ⟨rfl, rfl⟩
    rw [dif_neg id.separator_not_mem_key, dif_neg id.key_ne_empty, dif_neg id.member_ne_empty]

theorem exists_ofParts_iff (key member : String) :
    (∃ id, ofParts key member = .ok id) ↔ key ≠ "" ∧ idSeparator ∉ key.toList ∧ member ≠ "" := by
  constructor
  · rintro ⟨id, h⟩
    obtain ⟨rfl, rfl⟩ := ofParts_eq_ok.1 h
    exact ⟨id.key_ne_empty, id.separator_not_mem_key, id.member_ne_empty⟩
  · rintro ⟨hk, hs, hm⟩
    exact ⟨⟨key, member, hk, hs, hm⟩, ofParts_eq_ok.2 ⟨rfl, rfl⟩⟩

theorem exists_parse_iff (s : String) :
    (∃ id, parse s = .ok id) ↔ ∃ before after, s.toList = before ++ idSeparator :: after ∧ idSeparator ∉ before ∧
      before ≠ [] ∧ after ≠ [] := by
  constructor
  · rintro ⟨id, h⟩
    rw [parse_eq_ok.1 h, text, toList_joined]
    refine ⟨id.key.toList, id.member.toList, rfl, id.separator_not_mem_key, ?_, ?_⟩
    · exact fun h => id.key_ne_empty (String.toList_eq_nil_iff.1 h)
    · exact fun h => id.member_ne_empty (String.toList_eq_nil_iff.1 h)
  · rintro ⟨before, after, hs, hnot, hbefore, hafter⟩
    have hparts : ∃ id, ofParts (String.ofList before) (String.ofList after) = .ok id := by
      rw [exists_ofParts_iff, String.toList_ofList]
      refine ⟨?_, hnot, ?_⟩
      · exact fun h => hbefore (String.ofList_eq_empty_iff.1 h)
      · exact fun h => hafter (String.ofList_eq_empty_iff.1 h)
    obtain ⟨id, hid⟩ := hparts
    obtain ⟨hkey, hmember⟩ := ofParts_eq_ok.1 hid
    refine ⟨id, parse_eq_ok.2 ?_⟩
    rw [← String.toList_inj, text, toList_joined, hkey, hmember, String.toList_ofList, String.toList_ofList, hs]

theorem text_injective {id id' : MemberId} (h : id.text = id'.text) : id = id' := by
  have hparse := parse_text id
  rw [h, parse_text] at hparse
  exact (Except.ok.inj hparse).symm

/-- **A key and a member, and what is written for them, are known by one another.**  There is a name for just those of
which the key is not empty and has no separator and the member is not empty; it is written as the two with the separator
between them, and read back as itself, however many separators the member has.  A text is read as a name if there is
something before its first separator and something after it; the name is that of its parts, and is written as the text.
So no two pairs share a name, and it makes no difference whether a name was made of its parts or read. -/
theorem parts_known_by_text :
    (∀ key member, ((∃ id, ofParts key member = .ok id) ↔ key ≠ "" ∧ idSeparator ∉ key.toList ∧ member ≠ "") ∧
      ∀ id, ofParts key member = .ok id →
        id.key = key ∧ id.member = member ∧ id.text = key ++ "~" ++ member ∧ parse id.text = .ok id) ∧
    (∀ s, ((∃ id, parse s = .ok id) ↔ ∃ before after, s.toList = before ++ idSeparator :: after ∧
        idSeparator ∉ before ∧ before ≠ [] ∧ after ≠ []) ∧
      ∀ id, parse s = .ok id → ofParts id.key id.member = .ok id ∧ id.text = s) ∧
    (∀ key member key' member' id id', ofParts key member = .ok id → ofParts key' member' = .ok id' →
      (id.text = id'.text ↔ key = key' ∧ member = member')) ∧
    ∀ key member id, idSeparator ∉ key.toList →
      (ofParts key member = .ok id ↔ parse (key ++ "~" ++ member) = .ok id) := by
  refine ⟨?_, ?_, ?_, ?_⟩
  · intro key member
    refine ⟨exists_ofParts_iff key member, fun id h => ?_⟩
    obtain ⟨rfl, rfl⟩ := ofParts_eq_ok.1 h
    exact ⟨rfl, rfl, joined_eq _ _, parse_text id⟩
  · intro s
    exact ⟨exists_parse_iff s, fun id h => ⟨ofParts_eq_ok.2 ⟨rfl, rfl⟩, (parse_eq_ok.1 h).symm⟩⟩
  · intro key member key' member' id id' h h'
    obtain ⟨rfl, rfl⟩ := ofParts_eq_ok.1 h
    obtain ⟨rfl, rfl⟩ := ofParts_eq_ok.1 h'
    constructor
    · intro htext
      rw [text_injective htext]
      exact ⟨rfl, rfl⟩
    · rintro ⟨hkey, hmember⟩
      rw [text, text, hkey, hmember]
  · intro key member id hkey
    rw [← joined_eq, parse_eq_ok, ofParts_eq_ok]
    constructor
    · rintro ⟨rfl, rfl⟩
      rfl
    · intro h
      have hsplit := split?_append hkey member.toList
      rw [← toList_joined, h, text, toList_joined, split?_append id.separator_not_mem_key] at hsplit
      obtain ⟨hk, hm⟩ := Prod.mk.inj (Option.some.inj hsplit)
      exact ⟨String.toList_inj.1 hk, String.toList_inj.1 hm⟩

def tilded : MemberId := ⟨"A", "b~c", by decide, by decide, by decide⟩

def shortened : MemberId := ⟨"A", "b", by decide, by decide, by decide⟩

/-- A member with a separator is read back, is not taken for part of the key, and shares its name with no other. -/
theorem parts_known_by_text_on_tilded :
    ofParts "A" "b~c" = .ok tilded ∧ tilded.text = "A~b~c" ∧ parse "A~b~c" = .ok tilded ∧
      (¬ ∃ id, ofParts "A~b" "c" = .ok id) ∧ ofParts tilded.key tilded.member = .ok tilded ∧
      ofParts "A" "b" = .ok shortened ∧ tilded.text ≠ shortened.text := by
  obtain ⟨hparts, hparse, hpairs, hsame⟩ := parts_known_by_text
  have htilded : ofParts "A" "b~c" = .ok tilded := rfl
  have hshortened : ofParts "A" "b" = .ok shortened := rfl
  have hkey : idSeparator ∉ "A".toList := by decide
  obtain ⟨-, -, htext, -⟩ := (hparts "A" "b~c").2 tilded htilded
  have hread : parse "A~b~c" = .ok tilded := (hsame "A" "b~c" tilded hkey).1 htilded
  refine ⟨htilded, htext, hread, fun hsplit => ?_, ((hparse "A~b~c").2 tilded hread).1, hshortened, fun h => ?_⟩
  · exact ((hparts "A~b" "c").1.1 hsplit).2.1 (by decide)
  · exact absurd ((hpairs "A" "b~c" "A" "b" tilded shortened htilded hshortened).1 h).2 (by decide)

end MemberId
end PolicyProvider
