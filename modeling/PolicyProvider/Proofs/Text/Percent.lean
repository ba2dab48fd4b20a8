import PolicyProvider.Proofs.Text.Utf8
import PolicyProvider.Text.Percent
/-!
# Percent — a query value is read back as the text it was made from

`decode?` reads a query value: a percent sign and two digits are one byte, any other character stands for its own bytes,
and the bytes have to be a text.  Every encoded text is read back (`decode?_encode`), and it has none of the characters
that divide a query (`not_mem_encode`).
-/
namespace PolicyProvider
namespace Percent

def bytes? : List Char → Option (List UInt8)
  | [] => some []
  | '%' :: a :: b :: rest => do
    let byte := UInt8.ofNat ((← Hex.value? a) * 16 + (← Hex.value? b))
    (bytes? rest).map (byte :: ·)
  | c :: rest => if c = '%' then none else (bytes? rest).map (Utf8.encodeChar c ++ ·)

/-- **The text of a query value.** -/
def decode? (value : List Char) : Option String := (bytes? value).bind Utf8.decode?

theorem value?_upper : ∀ n < 16, Hex.value? (Hex.upper n) = some n := by
  decide

theorem bytes?_encodeByte (b : UInt8) (rest : List Char) :
    bytes? (encodeByte b ++ rest) = (bytes? rest).map (b :: ·) := by
  have hb := b.toNat_lt
  have hvalue : b.toNat / 16 * 16 + b.toNat % 16 = b.toNat := by omega
  unfold encodeByte
  simp only [List.cons_append, List.nil_append, bytes?, value?_upper (b.toNat / 16) (by omega),
    value?_upper (b.toNat % 16) (by omega), Option.bind_eq_bind, Option.bind_some, hvalue, UInt8.ofNat_toNat]

theorem bytes?_encodeBytes (bs : List UInt8) (rest : List Char) :
    bytes? (bs.flatMap encodeByte ++ rest) = (bytes? rest).map (bs ++ ·) := by
  induction bs with
  | nil => simp
  | cons b bs ih =>
    rw [List.flatMap_cons, List.append_assoc, bytes?_encodeByte, ih, Option.map_map]
    rfl

theorem ne_percent_of_isUnreserved {c : Char} (h : isUnreserved c = true) : c ≠ '%' := by
  rintro rfl
  exact absurd h (by decide)

theorem bytes?_cons {c : Char} (hc : c ≠ '%') (rest : List Char) :
    bytes? (c :: rest) = (bytes? rest).map (Utf8.encodeChar c ++ ·) := by
  rw [bytes?.eq_def]
  split
  · rename_i heq
    cases heq
  · rename_i heq
    cases heq
    exact absurd rfl hc
  · rename_i heq
    cases heq
    rw [if_neg hc]

theorem bytes?_encodeChar (c : Char) (rest : List Char) :
    bytes? (encodeChar c ++ rest) = (bytes? rest).map (Utf8.encodeChar c ++ ·) := by
  unfold encodeChar
  by_cases h : isUnreserved c = true
  · rw [if_pos h]
    exact bytes?_cons (ne_percent_of_isUnreserved h) rest
  · rw [if_neg h, bytes?_encodeBytes]

theorem bytes?_encode (cs : List Char) : bytes? (cs.flatMap encodeChar) = some (cs.flatMap Utf8.encodeChar) := by
  induction cs with
  | nil => rfl
  | cons c cs ih => rw [List.flatMap_cons, bytes?_encodeChar, ih, Option.map_some, List.flatMap_cons]

/-- **An encoded text is read back**, whatever characters it has. -/
theorem decode?_encode (s : String) : decode? (encode s).toList = some s := by
  unfold decode? encode
  rw [String.toList_ofList, bytes?_encode, Option.bind_some]
  exact Utf8.decode?_encode s

theorem not_mem_encode {x : Char} (hx : isUnreserved x = false) (hp : x ≠ '%') (s : String) :
    x ∉ (encode s).toList := by
  have hdigit : ∀ n < 16, isUnreserved (Hex.upper n) = true := by decide
  have hbyte : ∀ b : UInt8, x ∉ encodeByte b := by
    intro b hmem
    have hb := b.toNat_lt
    have hhigh := hdigit (b.toNat / 16) (by omega)
    have hlow := hdigit (b.toNat % 16) (by omega)
    unfold encodeByte at hmem
    simp only [List.mem_cons, List.not_mem_nil, or_false] at hmem
    rcases hmem with rfl | rfl | rfl
    · exact hp rfl
    · rw [hhigh] at hx
      cases hx
    · rw [hlow] at hx
      cases hx
  unfold encode
  rw [String.toList_ofList, List.mem_flatMap]
  rintro ⟨c, -, hmem⟩
  unfold encodeChar at hmem
  by_cases h : isUnreserved c = true
  · rw [if_pos h, List.mem_singleton] at hmem
    rw [← hmem, hx] at h
    cases h
  · rw [if_neg h, List.mem_flatMap] at hmem
    obtain ⟨b, -, hb⟩ := hmem
    exact hbyte b hb

end Percent
end PolicyProvider
