import PolicyProvider.Text.Utf8
/-!
# Utf8 — a text written as bytes is read back

There is one law for each length a character may have (`scan_one` to `scan_four`): its bytes are read as that character,
whatever follows them.  So strict reading gives back every text that was written (`decode?_encode`), and reads it from
no other bytes (`encode_of_decode?`).
-/
namespace PolicyProvider
namespace Utf8

theorem toNat_ofNat_of_lt {n : Nat} (h : n < 256) : (UInt8.ofNat n).toNat = n := by
  rw [UInt8.toNat_ofNat', Nat.mod_eq_of_lt h]

theorem ofNat_ne {n : Nat} {b : UInt8} (h : n < 256) (hb : n ≠ b.toNat) : (UInt8.ofNat n == b) = false := by
  rw [beq_eq_false_iff_ne]
  rintro rfl
  exact hb (toNat_ofNat_of_lt h).symm

/-! ## The bytes after the first -/

theorem isContinuation_ofNat {k : Nat} (h : k < 0x40) : isContinuation (UInt8.ofNat (0x80 + k)) = true := by
  unfold isContinuation
  rw [toNat_ofNat_of_lt (by omega), decide_eq_true (by omega), decide_eq_true (by omega)]
  rfl

theorem tail_ofNat {k : Nat} (h : k < 0x40) : tail (UInt8.ofNat (0x80 + k)) = k := by
  unfold tail
  rw [toNat_ofNat_of_lt (by omega)]
  omega

/-- The second of three bytes is one unless the form is overlong or a surrogate's. -/
theorem isSecondOfThree_ofNat {a k : Nat} (ha : a < 256) (hk : k < 0x40) (hoverlong : a = 0xE0 → 0x20 ≤ k)
    (hsurrogate : a = 0xED → k < 0x20) : isSecondOfThree (UInt8.ofNat a) (UInt8.ofNat (0x80 + k)) = true := by
  have hfirst : ∀ b : UInt8, a ≠ b.toNat → (UInt8.ofNat a == b) = false := fun b => ofNat_ne ha
  unfold isSecondOfThree
  rw [isContinuation_ofNat hk, toNat_ofNat_of_lt (by omega), Bool.true_and, Bool.and_eq_true, Bool.not_eq_true',
    Bool.not_eq_true', Bool.and_eq_false_iff, Bool.and_eq_false_iff, decide_eq_false_iff_not, decide_eq_false_iff_not]
  constructor
  · by_cases h : a = 0xE0
    · have := hoverlong h
      exact .inr (by omega)
    · exact .inl (hfirst _ h)
  · by_cases h : a = 0xED
    · have := hsurrogate h
      exact .inr (by omega)
    · exact .inl (hfirst _ h)

/-- The second of four bytes is one unless the form is overlong or past the last code point. -/
theorem isSecondOfFour_ofNat {a k : Nat} (ha : a < 256) (hk : k < 0x40) (hoverlong : a = 0xF0 → 0x10 ≤ k)
    (hpast : a = 0xF4 → k < 0x10) : isSecondOfFour (UInt8.ofNat a) (UInt8.ofNat (0x80 + k)) = true := by
  have hfirst : ∀ b : UInt8, a ≠ b.toNat → (UInt8.ofNat a == b) = false := fun b => ofNat_ne ha
  unfold isSecondOfFour
  rw [isContinuation_ofNat hk, toNat_ofNat_of_lt (by omega), Bool.true_and, Bool.and_eq_true, Bool.not_eq_true',
    Bool.not_eq_true', Bool.and_eq_false_iff, Bool.and_eq_false_iff, decide_eq_false_iff_not, decide_eq_false_iff_not]
  constructor
  · by_cases h : a = 0xF0
    · have := hoverlong h
      exact .inr (by omega)
    · exact .inl (hfirst _ h)
  · by_cases h : a = 0xF4
    · have := hpast h
      exact .inr (by omega)
    · exact .inl (hfirst _ h)

/-! ## Characters by their length -/

theorem scan_one {n : Nat} (h : n < 0x80) (rest : List UInt8) :
    scan (UInt8.ofNat n :: rest) = some (Char.ofNat n) :: scan rest := by
  have hn := toNat_ofNat_of_lt (n := n) (by omega)
  rw [scan.eq_def]
  simp only [hn, if_pos h]

theorem scan_two {n : Nat} (hlow : 0x80 ≤ n) (hhigh : n < 0x800) (rest : List UInt8) :
    scan (UInt8.ofNat (0xC0 + n / 0x40) :: UInt8.ofNat (0x80 + n % 0x40) :: rest) =
      some (Char.ofNat n) :: scan rest := by
  have hfirst := toNat_ofNat_of_lt (n := 0xC0 + n / 0x40) (by omega)
  have hlast : n % 0x40 < 0x40 := by omega
  have hvalue : (0xC0 + n / 0x40) % 0x20 * 0x40 + n % 0x40 = n := by omega
  rw [scan.eq_def]
  simp only [hfirst]
  rw [if_neg (by omega), if_pos (by omega), isContinuation_ofNat hlast, if_pos rfl, tail_ofNat hlast, hvalue]

theorem scan_three {n : Nat} (hlow : 0x800 ≤ n) (hhigh : n < 0x10000) (hvalid : n < 0xD800 ∨ 0xDFFF < n)
    (rest : List UInt8) :
    scan (UInt8.ofNat (0xE0 + n / 0x1000) :: UInt8.ofNat (0x80 + n / 0x40 % 0x40) ::
      UInt8.ofNat (0x80 + n % 0x40) :: rest) =
      some (Char.ofNat n) :: scan rest := by
  have hfirst := toNat_ofNat_of_lt (n := 0xE0 + n / 0x1000) (by omega)
  have hmid : n / 0x40 % 0x40 < 0x40 := by omega
  have hlast : n % 0x40 < 0x40 := by omega
  have hsecond := isSecondOfThree_ofNat (a := 0xE0 + n / 0x1000) (by omega) hmid (by omega) (by omega)
  have hvalue : (0xE0 + n / 0x1000) % 0x10 * 0x1000 + n / 0x40 % 0x40 * 0x40 + n % 0x40 = n := by omega
  rw [scan.eq_def]
  simp only [hfirst]
  rw [if_neg (by omega), if_neg (by omega), if_pos (by omega), hsecond, if_pos rfl, isContinuation_ofNat hlast,
    if_pos rfl, tail_ofNat hmid, tail_ofNat hlast, hvalue]

theorem scan_four {n : Nat} (hlow : 0x10000 ≤ n) (hhigh : n < 0x110000) (rest : List UInt8) :
    scan (UInt8.ofNat (0xF0 + n / 0x40000) :: UInt8.ofNat (0x80 + n / 0x1000 % 0x40) ::
      UInt8.ofNat (0x80 + n / 0x40 % 0x40) :: UInt8.ofNat (0x80 + n % 0x40) :: rest) =
      some (Char.ofNat n) :: scan rest := by
  have hfirst := toNat_ofNat_of_lt (n := 0xF0 + n / 0x40000) (by omega)
  have htop : n / 0x1000 % 0x40 < 0x40 := by omega
  have hmid : n / 0x40 % 0x40 < 0x40 := by omega
  have hlast : n % 0x40 < 0x40 := by omega
  have hsecond := isSecondOfFour_ofNat (a := 0xF0 + n / 0x40000) (by omega) htop (by omega) (by omega)
  have hvalue : (0xF0 + n / 0x40000) % 0x8 * 0x40000 + n / 0x1000 % 0x40 * 0x1000 + n / 0x40 % 0x40 * 0x40 +
      n % 0x40 = n := by
    omega
  rw [scan.eq_def]
  simp only [hfirst]
  rw [if_neg (by omega), if_neg (by omega), if_neg (by omega), if_pos (by omega), hsecond, if_pos rfl,
    isContinuation_ofNat hmid, if_pos rfl, isContinuation_ofNat hlast, if_pos rfl, tail_ofNat htop, tail_ofNat hmid,
    tail_ofNat hlast, hvalue]

theorem valid_toNat (c : Char) : c.toNat < 0xD800 ∨ 0xDFFF < c.toNat ∧ c.toNat < 0x110000 := c.valid

/-- **The bytes of a character are read as that character**, whatever follows. -/
theorem scan_encodeChar (c : Char) (rest : List UInt8) : scan (encodeChar c ++ rest) = some c :: scan rest := by
  have hvalid := valid_toNat c
  have hc : some (Char.ofNat c.toNat) :: scan rest = some c :: scan rest := by rw [Char.ofNat_toNat]
  unfold encodeChar
  simp only
  rw [← hc]
  by_cases h1 : c.toNat < 0x80
  · rw [if_pos h1]
    exact scan_one h1 rest
  by_cases h2 : c.toNat < 0x800
  · rw [if_neg h1, if_pos h2]
    exact scan_two (by omega) h2 rest
  by_cases h3 : c.toNat < 0x10000
  · rw [if_neg h1, if_neg h2, if_pos h3]
    exact scan_three (by omega) h3 (by omega) rest
  · rw [if_neg h1, if_neg h2, if_neg h3]
    exact scan_four (by omega) (by omega) rest

theorem scan_encode (cs : List Char) : scan (cs.flatMap encodeChar) = cs.map some := by
  induction cs with
  | nil => rfl
  | cons c cs ih => rw [List.flatMap_cons, scan_encodeChar, ih, List.map_cons]

theorem decodeChars?_flatMap (cs : List Char) : decodeChars? (cs.flatMap encodeChar) = some cs := by
  have hpure := List.mapM_pure (m := Option) (f := id) (l := cs)
  rw [List.map_id] at hpure
  unfold decodeChars?
  rw [scan_encode, List.mapM_map]
  exact hpure

theorem decode?_encode (s : String) : decode? (encode s) = some s := by
  unfold decode? encode
  rw [decodeChars?_flatMap, Option.map_some, String.ofList_toList]

/-! ## Strict reading reads nothing else -/

theorem ofNat_eq {n : Nat} {b : UInt8} (h : n = b.toNat) : UInt8.ofNat n = b := by
  rw [h, UInt8.ofNat_toNat]

theorem toNat_of_valid {n : Nat} (h : n < 0xD800 ∨ 0xDFFF < n ∧ n < 0x110000) : (Char.ofNat n).toNat = n := by
  have hvalid : n.isValidChar := h
  rw [Char.ofNat, dif_pos hvalid]
  rfl

theorem continuation_range {b : UInt8} (h : isContinuation b = true) : 0x80 ≤ b.toNat ∧ b.toNat ≤ 0xBF := by
  simpa [isContinuation] using h

theorem secondOfThree_range {b0 b1 : UInt8} (h : isSecondOfThree b0 b1 = true) :
    (0x80 ≤ b1.toNat ∧ b1.toNat ≤ 0xBF) ∧ (b0.toNat = 0xE0 → 0xA0 ≤ b1.toNat) ∧
      (b0.toNat = 0xED → b1.toNat ≤ 0x9F) := by
  simp only [isSecondOfThree, Bool.and_eq_true, Bool.not_eq_true', Bool.and_eq_false_iff, beq_eq_false_iff_ne,
    decide_eq_false_iff_not, Nat.not_lt] at h
  obtain ⟨⟨hcontinuation, hoverlong⟩, hsurrogate⟩ := h
  refine ⟨continuation_range hcontinuation, fun heq => ?_, fun heq => ?_⟩
  · exact hoverlong.resolve_left fun hne => hne (UInt8.toNat_inj.1 heq)
  · exact hsurrogate.resolve_left fun hne => hne (UInt8.toNat_inj.1 heq)

theorem secondOfFour_range {b0 b1 : UInt8} (h : isSecondOfFour b0 b1 = true) :
    (0x80 ≤ b1.toNat ∧ b1.toNat ≤ 0xBF) ∧ (b0.toNat = 0xF0 → 0x90 ≤ b1.toNat) ∧
      (b0.toNat = 0xF4 → b1.toNat ≤ 0x8F) := by
  simp only [isSecondOfFour, Bool.and_eq_true, Bool.not_eq_true', Bool.and_eq_false_iff, beq_eq_false_iff_ne,
    decide_eq_false_iff_not, Nat.not_lt] at h
  obtain ⟨⟨hcontinuation, hoverlong⟩, hpast⟩ := h
  refine ⟨continuation_range hcontinuation, fun heq => ?_, fun heq => ?_⟩
  · exact hoverlong.resolve_left fun hne => hne (UInt8.toNat_inj.1 heq)
  · exact hpast.resolve_left fun hne => hne (UInt8.toNat_inj.1 heq)

theorem encodeChar_one {b : UInt8} (h : b.toNat < 0x80) : encodeChar (Char.ofNat b.toNat) = [b] := by
  unfold encodeChar
  rw [toNat_of_valid (by omega)]
  simp only [if_pos h, UInt8.ofNat_toNat]

theorem encodeChar_two {b0 b1 : UInt8} (h0 : 0xC2 ≤ b0.toNat ∧ b0.toNat ≤ 0xDF) (h1 : isContinuation b1 = true) :
    encodeChar (Char.ofNat (b0.toNat % 0x20 * 0x40 + tail b1)) = [b0, b1] := by
  have hrange := continuation_range h1
  unfold encodeChar tail
  rw [toNat_of_valid (by omega)]
  simp only
  rw [if_neg (by omega), if_pos (by omega)]
  congr 2
  · exact ofNat_eq (by omega)
  · exact ofNat_eq (by omega)

theorem encodeChar_three {b0 b1 b2 : UInt8} (h0 : 0xE0 ≤ b0.toNat ∧ b0.toNat ≤ 0xEF)
    (h1 : isSecondOfThree b0 b1 = true) (h2 : isContinuation b2 = true) :
    encodeChar (Char.ofNat (b0.toNat % 0x10 * 0x1000 + tail b1 * 0x40 + tail b2)) = [b0, b1, b2] := by
  obtain ⟨hmid, hoverlong, hsurrogate⟩ := secondOfThree_range h1
  have hlast := continuation_range h2
  unfold encodeChar tail
  rw [toNat_of_valid (by omega)]
  simp only
  rw [if_neg (by omega), if_neg (by omega), if_pos (by omega)]
  congr 3
  · exact ofNat_eq (by omega)
  · exact ofNat_eq (by omega)
  · exact ofNat_eq (by omega)

theorem encodeChar_four {b0 b1 b2 b3 : UInt8} (h0 : 0xF0 ≤ b0.toNat ∧ b0.toNat ≤ 0xF4)
    (h1 : isSecondOfFour b0 b1 = true) (h2 : isContinuation b2 = true) (h3 : isContinuation b3 = true) :
    encodeChar (Char.ofNat (b0.toNat % 0x8 * 0x40000 + tail b1 * 0x1000 + tail b2 * 0x40 + tail b3)) =
      [b0, b1, b2, b3] := by
  obtain ⟨htop, hoverlong, hpast⟩ := secondOfFour_range h1
  have hmid := continuation_range h2
  have hlast := continuation_range h3
  unfold encodeChar tail
  rw [toNat_of_valid (by omega)]
  simp only
  rw [if_neg (by omega), if_neg (by omega), if_neg (by omega)]
  congr 4
  · exact ofNat_eq (by omega)
  · exact ofNat_eq (by omega)
  · exact ofNat_eq (by omega)
  · exact ofNat_eq (by omega)

theorem scan_eq_cons {bytes : List UInt8} {c : Char} {marks : List (Option Char)} (h : scan bytes = some c :: marks) :
    ∃ rest, bytes = encodeChar c ++ rest ∧ scan rest = marks := by
  revert h
  fun_cases scan bytes with
  | case2 b0 r0 n hone =>
    rintro ⟨⟩
    exact ⟨r0, by rw [encodeChar_one hone]; rfl, rfl⟩
  | case4 b0 n hone htwo b1 r1 h1 =>
    rintro ⟨⟩
    exact ⟨r1, by rw [encodeChar_two htwo h1]; rfl, rfl⟩
  | case8 b0 n hone htwo hthree b1 h1 b2 r2 h2 =>
    rintro ⟨⟩
    exact ⟨r2, by rw [encodeChar_three hthree h1 h2]; rfl, rfl⟩
  | case14 b0 n hone htwo hthree hfour b1 h1 b2 h2 b3 r3 h3 =>
    rintro ⟨⟩
    exact ⟨r3, by rw [encodeChar_four hfour h1 h2 h3]; rfl, rfl⟩
  -- everywhere else the stretch is marked as ill-formed
  | _ =>
    intro h
    cases h

theorem scan_eq_nil {bytes : List UInt8} (h : scan bytes = []) : bytes = [] := by
  revert h
  fun_cases scan bytes with
  | case1 => exact fun _ => rfl
  | _ =>
    intro h
    cases h

theorem flatMap_of_scan {bytes : List UInt8} {cs : List Char} (h : scan bytes = cs.map some) :
    cs.flatMap encodeChar = bytes := by
  induction cs generalizing bytes with
  | nil => exact (scan_eq_nil h).symm
  | cons c cs ih =>
    obtain ⟨rest, rfl, hrest⟩ := scan_eq_cons h
    rw [List.flatMap_cons, ih hrest]

theorem eq_map_some {marks : List (Option Char)} {cs : List Char} (h : marks.mapM id = some cs) :
    marks = cs.map some := by
  induction marks generalizing cs with
  | nil => simpa using h.symm
  | cons mark marks ih =>
    simp only [List.mapM_cons, id_eq, Option.bind_eq_bind, Option.bind_eq_some_iff] at h
    obtain ⟨c, rfl, rest, hrest, ⟨⟩⟩ := h
    rw [ih hrest, List.map_cons]

/-- **Strict reading reads a text from its own bytes only.** -/
theorem encode_of_decode? {bytes : List UInt8} {s : String} (h : decode? bytes = some s) : encode s = bytes := by
  obtain ⟨cs, hcs, rfl⟩ := Option.map_eq_some_iff.1 h
  unfold encode
  rw [String.toList_ofList]
  exact flatMap_of_scan (eq_map_some hcs)

end Utf8
end PolicyProvider
