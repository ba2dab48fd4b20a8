import PolicyProvider.Json.Record
/-!
# Text — a tree that is written is read back

The characters of a string are read back piece by piece (`readString_written`), and the tokens of a tree one by one, as
long as each can be told from what is written behind it (`Apart`).  Reading the tokens of a tree leads to just that tree
(`foldlM_tokens`), so the text of a tree is read back as the tree (`parse?_written`).
-/
namespace PolicyProvider
namespace Json

/-! ## Strings -/

namespace Piece

def before (p : Piece) (r : List Piece × List Char) : List Piece × List Char := (p :: r.1, r.2)

theorem bind_before (p : Piece) (r : Option (List Piece × List Char)) :
    (r.bind fun x => some (p :: x.1, x.2)) = r.map p.before := by
  cases r <;> rfl

/-- That a piece is what is read where it is written. -/
def Legible : Piece → Prop
  | .char c => 0x20 ≤ c.toNat ∨ c = '\x08' ∨ c = '\t' ∨ c = '\n' ∨ c = '\x0c' ∨ c = '\r'
  | .unit n => n < 0x10000

theorem legible_ofChar (c : Char) : (ofChar c).Legible := by
  unfold ofChar
  by_cases hc : c.toNat < 0x20 && !(c == '\x08' || c == '\t' || c == '\n' || c == '\x0c' || c == '\r')
  · rw [if_pos hc]
    rw [Bool.and_eq_true, decide_eq_true_eq] at hc
    change c.toNat < 0x10000
    omega
  · rw [if_neg hc]
    change 0x20 ≤ c.toNat ∨ _
    by_cases hlow : c.toNat < 0x20
    · rw [decide_eq_true hlow, Bool.true_and, Bool.not_eq_true', Bool.not_eq_false] at hc
      simp only [Bool.or_eq_true, beq_iff_eq, or_assoc] at hc
      exact .inr hc
    · exact .inl (by omega)

theorem legible_ofString {s : String} {p : Piece} (h : p ∈ ofString s) : p.Legible := by
  obtain ⟨c, -, rfl⟩ := List.mem_map.1 h
  exact legible_ofChar c

end Piece

theorem value?_lower : ∀ n < 16, Hex.value? (Hex.lower n) = some n := by
  decide

theorem readString_unit {n : Nat} (hn : n < 0x10000) (tail : List Char) :
    readString ((Piece.unit n).written ++ tail) = (readString tail).map (Piece.unit n).before := by
  have hvalue : n / 4096 % 16 * 4096 + n / 256 % 16 * 256 + n / 16 % 16 * 16 + n % 16 = n := by omega
  unfold Piece.written Hex.four
  simp only [List.cons_append, List.nil_append, readString, value?_lower (n / 4096 % 16) (by omega),
    value?_lower (n / 256 % 16) (by omega), value?_lower (n / 16 % 16) (by omega), value?_lower (n % 16) (by omega),
    Option.bind_eq_bind, Option.bind_some, hvalue, Piece.bind_before]

theorem readString_cons {c : Char} (hlow : 0x20 ≤ c.toNat) (hquote : c ≠ '"') (hslash : c ≠ '\\') (tail : List Char) :
    readString (c :: tail) = (readString tail).map (Piece.char c).before := by
  rw [readString.eq_def]
  split
  · rename_i heq
    cases heq
  · rename_i heq
    cases heq
    exact absurd rfl hquote
  · rename_i heq
    cases heq
    exact absurd rfl hslash
  · rename_i heq
    cases heq
    exact absurd rfl hslash
  · rename_i heq
    cases heq
    rw [if_neg (not_or.2 ⟨by omega, hslash⟩)]
    exact Piece.bind_before _ _

theorem readString_char {c : Char} (h : (Piece.char c).Legible) (tail : List Char) :
    readString ((Piece.char c).written ++ tail) = (readString tail).map (Piece.char c).before := by
  by_cases hquote : c = '"'
  · subst hquote
    simp [Piece.written, readString, Piece.bind_before]
  by_cases hslash : c = '\\'
  · subst hslash
    simp [Piece.written, readString, Piece.bind_before]
  by_cases h8 : c = '\x08'
  · subst h8
    simp [Piece.written, readString, Piece.bind_before]
  by_cases hc : c = '\x0c'
  · subst hc
    simp [Piece.written, readString, Piece.bind_before]
  by_cases hn : c = '\n'
  · subst hn
    simp [Piece.written, readString, Piece.bind_before]
  by_cases hr : c = '\r'
  · subst hr
    simp [Piece.written, readString, Piece.bind_before]
  by_cases ht : c = '\t'
  · subst ht
    simp [Piece.written, readString, Piece.bind_before]
  have hlow : 0x20 ≤ c.toNat := by simpa [Piece.Legible, h8, hc, hn, hr, ht] using h
  unfold Piece.written
  simp only [if_neg hquote, if_neg hslash, if_neg h8, if_neg hc, if_neg hn, if_neg hr, if_neg ht]
  exact readString_cons hlow hquote hslash tail

/-- **The pieces of a string are read back** up to its closing quote. -/
theorem readString_written {pieces : List Piece} (h : ∀ p ∈ pieces, p.Legible) (rest : List Char) :
    readString (pieces.flatMap Piece.written ++ '"' :: rest) = some (pieces, rest) := by
  induction pieces with
  | nil => simp [readString]
  | cons p pieces ih =>
    have hp := h p (List.mem_cons_self ..)
    rw [List.flatMap_cons, List.append_assoc]
    have htail := ih fun q hq => h q (List.mem_cons_of_mem p hq)
    cases p with
    | char c =>
      rw [readString_char hp, htail]
      rfl
    | unit n =>
      rw [readString_unit hp, htail]
      rfl

/-! ## Tokens -/

namespace Token

def text (tokens : List Token) : List Char := tokens.flatMap written

/-- That a token is what is read where it is written, with a text behind it. -/
structure Stands (token : Token) (rest : List Char) : Prop where
  read : readToken (token.written ++ rest) = some (token, rest)
  head : ∃ c tail, token.written = c :: tail ∧ isBlank c = false

def Closed (rest : List Char) : Prop := ∀ c ∈ rest.head?, c = ',' ∨ c = ']' ∨ c = '}'

/-- That a token can be read where it is written in a tree. -/
def Legible : Token → Prop
  | .number n => ∀ rest, Closed rest → Stands (.number n) rest
  | .string pieces => ∀ p ∈ pieces, p.Legible
  | _ => True

theorem stands_string {pieces : List Piece} (h : ∀ p ∈ pieces, p.Legible) (rest : List Char) :
    Stands (.string pieces) rest := by
  refine ⟨?_, '"', pieces.flatMap Piece.written ++ ['"'], rfl, rfl⟩
  have hread := readString_written h rest
  change (readString ((pieces.flatMap Piece.written ++ ['"']) ++ rest)).map _ = _
  rw [List.append_assoc, List.singleton_append, hread]
  rfl

theorem stands_of_legible {token : Token} (h : token.Legible) {rest : List Char} (hrest : Closed rest) :
    Stands token rest := by
  cases token with
  | number n => exact h rest hrest
  | string pieces => exact stands_string h rest
  | bool b => cases b <;> exact ⟨rfl, _, _, rfl, rfl⟩
  | _ => exact ⟨rfl, _, _, rfl, rfl⟩

end Token

/-- **That each token stands before the text of those behind it.** -/
inductive Apart : List Token → Prop
  | nil : Apart []
  | cons {token : Token} {rest : List Token} (h : token.Stands (Token.text rest)) (hrest : Apart rest) :
      Apart (token :: rest)

theorem tokensWithin_text {tokens : List Token} (h : Apart tokens) :
    ∀ fuel, (Token.text tokens).length ≤ fuel → tokensWithin fuel (Token.text tokens) = some tokens := by
  induction h with
  | nil =>
    intro fuel _
    cases fuel <;> rfl
  | @cons token rest hstands hrest ih =>
    intro fuel hfuel
    obtain ⟨c, tail, hwritten, hblank⟩ := hstands.head
    have hread := hstands.read
    have htext : Token.text (token :: rest) = c :: (tail ++ Token.text rest) := by
      rw [Token.text, List.flatMap_cons, hwritten]
      rfl
    rw [hwritten, List.cons_append] at hread
    rw [htext, List.length_cons, List.length_append] at hfuel
    cases fuel with
    | zero => omega
    | succ fuel =>
      rw [htext, tokensWithin, if_neg (by rw [hblank]; decide), hread]
      simp only [Option.bind_eq_bind, Option.bind_some, ih fuel (by omega), Option.map_some]

/-! ## Trees -/

namespace Tree

open Token (Closed)

theorem tokens_array (items : List Tree) :
    (array items).tokens = .openArray :: (itemsTokens items ++ [.closeArray]) := rfl

theorem tokens_object (members : List (List Piece × Tree)) :
    (object members).tokens = .openObject :: (membersTokens members ++ [.closeObject]) := rfl

theorem itemsTokens_cons (t t' : Tree) (ts : List Tree) :
    itemsTokens (t :: t' :: ts) = t.tokens ++ .comma :: itemsTokens (t' :: ts) := rfl

theorem membersTokens_singleton (name : List Piece) (t : Tree) :
    membersTokens [(name, t)] = .string name :: .colon :: t.tokens := rfl

theorem membersTokens_cons (name : List Piece) (t : Tree) (m : List Piece × Tree) (ms : List (List Piece × Tree)) :
    membersTokens ((name, t) :: m :: ms) = .string name :: .colon :: (t.tokens ++ .comma :: membersTokens (m :: ms)) :=
  rfl

theorem closed_comma (rest : List Token) : Closed (Token.text (.comma :: rest)) := by
  rintro c ⟨⟩
  exact .inl rfl

theorem closed_closeArray (rest : List Token) : Closed (Token.text (.closeArray :: rest)) := by
  rintro c ⟨⟩
  exact .inr (.inl rfl)

theorem closed_closeObject (rest : List Token) : Closed (Token.text (.closeObject :: rest)) := by
  rintro c ⟨⟩
  exact .inr (.inr rfl)

mutual

/-- **The tokens of a tree are apart**, if those behind it are and end it. -/
theorem apart_tokens : ∀ (t : Tree) {rest : List Token},
    (∀ token ∈ t.tokens, token.Legible) → Closed (Token.text rest) → Apart rest → Apart (t.tokens ++ rest)
  | .null, rest, h, hclosed, hrest => .cons (Token.stands_of_legible (h _ (List.mem_cons_self ..)) hclosed) hrest
  | .bool b, rest, h, hclosed, hrest => .cons (Token.stands_of_legible (h _ (List.mem_cons_self ..)) hclosed) hrest
  | .number n, rest, h, hclosed, hrest => .cons (Token.stands_of_legible (h _ (List.mem_cons_self ..)) hclosed) hrest
  | .string pieces, rest, h, hclosed, hrest =>
    .cons (Token.stands_of_legible (h _ (List.mem_cons_self ..)) hclosed) hrest
  | .array items, rest, h, _, hrest => by
    rw [tokens_array] at h ⊢
    rw [List.cons_append, List.append_assoc]
    refine .cons ⟨rfl, _, _, rfl, rfl⟩
      (apart_items items ?_ (closed_closeArray rest) (.cons ⟨rfl, _, _, rfl, rfl⟩ hrest))
    intro token ht
    exact h token (by simp [ht])
  | .object members, rest, h, _, hrest => by
    rw [tokens_object] at h ⊢
    rw [List.cons_append, List.append_assoc]
    refine .cons ⟨rfl, _, _, rfl, rfl⟩
      (apart_members members ?_ (closed_closeObject rest) (.cons ⟨rfl, _, _, rfl, rfl⟩ hrest))
    intro token ht
    exact h token (by simp [ht])

theorem apart_items : ∀ (ts : List Tree) {rest : List Token}, (∀ token ∈ itemsTokens ts, token.Legible) →
    Closed (Token.text rest) → Apart rest → Apart (itemsTokens ts ++ rest)
  | [], rest, _, _, hrest => hrest
  | [t], rest, h, hclosed, hrest => apart_tokens t h hclosed hrest
  | t :: t' :: ts, rest, h, hclosed, hrest => by
    rw [itemsTokens_cons] at h ⊢
    have hmore := apart_items (t' :: ts) (fun token ht => h token (by simp [ht])) hclosed hrest
    have ht := fun token (ht : token ∈ t.tokens) => h token (by simp [ht])
    rw [List.append_assoc]
    exact apart_tokens t ht (closed_comma _) (.cons ⟨rfl, _, _, rfl, rfl⟩ hmore)

theorem apart_members : ∀ (ms : List (List Piece × Tree)) {rest : List Token},
    (∀ token ∈ membersTokens ms, token.Legible) → Closed (Token.text rest) → Apart rest →
      Apart (membersTokens ms ++ rest)
  | [], rest, _, _, hrest => hrest
  | [(name, t)], rest, h, hclosed, hrest => by
    rw [membersTokens_singleton] at h ⊢
    have hname : ∀ p ∈ name, p.Legible := h (.string name) (List.mem_cons_self ..)
    have ht := fun token (ht : token ∈ t.tokens) => h token (by simp [ht])
    exact .cons (Token.stands_string hname _) (.cons ⟨rfl, _, _, rfl, rfl⟩ (apart_tokens t ht hclosed hrest))
  | (name, t) :: m :: ms, rest, h, hclosed, hrest => by
    rw [membersTokens_cons] at h ⊢
    have hname : ∀ p ∈ name, p.Legible := h (.string name) (List.mem_cons_self ..)
    have hmore := apart_members (m :: ms) (fun token ht => h token (by simp [ht])) hclosed hrest
    have ht := fun token (ht : token ∈ t.tokens) => h token (by simp [ht])
    rw [List.cons_append, List.cons_append, List.append_assoc]
    refine .cons (Token.stands_string hname _) (.cons ⟨rfl, _, _, rfl, rfl⟩ ?_)
    exact apart_tokens t ht (closed_comma _) (.cons ⟨rfl, _, _, rfl, rfl⟩ hmore)

end

/-! ## Reading tokens -/

theorem foldlM_cons_of_next? {s s' : State} {k : Token} (h : s.next? k = some s') (rest : List Token) :
    (k :: rest).foldlM State.next? s = rest.foldlM State.next? s' := by
  rw [List.foldlM_cons, h]
  rfl

theorem foldlM_firstItem (t : Tree) (outer : List Frame) (rest : List Token) :
    (t.tokens ++ rest).foldlM State.next? (.firstItem outer) =
      (t.tokens ++ rest).foldlM State.next? (.value (.items [] :: outer)) := by
  cases t <;> rfl

theorem foldlM_firstMember (m : List Piece × Tree) (ms : List (List Piece × Tree)) (outer : List Frame)
    (rest : List Token) :
    (membersTokens (m :: ms) ++ rest).foldlM State.next? (.firstMember outer) =
      (membersTokens (m :: ms) ++ rest).foldlM State.next? (.name [] outer) := by
  cases ms <;> rfl

mutual

/-- **The tokens of a tree lead to the tree**, whatever containers are open around it. -/
theorem foldlM_tokens : ∀ (t : Tree) (outer : List Frame) (rest : List Token),
    (t.tokens ++ rest).foldlM State.next? (.value outer) = rest.foldlM State.next? (State.complete t outer)
  | .null, _, _ => foldlM_cons_of_next? rfl _
  | .bool _, _, _ => foldlM_cons_of_next? rfl _
  | .number _, _, _ => foldlM_cons_of_next? rfl _
  | .string _, _, _ => foldlM_cons_of_next? rfl _
  | .array [], outer, rest => by
    have hopen := foldlM_cons_of_next? (s := .value outer) (k := .openArray) rfl (.closeArray :: rest)
    exact hopen.trans (foldlM_cons_of_next? rfl rest)
  | .array (t :: ts), outer, rest => by
    have hitems := foldlM_items (t :: ts) (List.cons_ne_nil t ts) [] outer rest
    rw [tokens_array, List.cons_append, List.append_assoc, foldlM_cons_of_next? rfl]
    cases ts with
    | nil =>
      refine (foldlM_firstItem t outer _).trans hitems
    | cons t' ts =>
      rw [itemsTokens_cons, List.append_assoc] at hitems ⊢
      exact (foldlM_firstItem t outer _).trans hitems
  | .object [], outer, rest => by
    have hopen := foldlM_cons_of_next? (s := .value outer) (k := .openObject) rfl (.closeObject :: rest)
    exact hopen.trans (foldlM_cons_of_next? rfl rest)
  | .object (m :: ms), outer, rest => by
    have hmembers := foldlM_members (m :: ms) (List.cons_ne_nil m ms) [] outer rest
    rw [tokens_object, List.cons_append, List.append_assoc, foldlM_cons_of_next? rfl]
    exact (foldlM_firstMember m ms outer _).trans hmembers

theorem foldlM_items : ∀ ts : List Tree, ts ≠ [] → ∀ (done : List Tree) (outer : List Frame) (rest : List Token),
    (itemsTokens ts ++ ([Token.closeArray] ++ rest)).foldlM State.next? (.value (.items done :: outer)) =
      rest.foldlM State.next? (State.complete (.array (done.reverse ++ ts)) outer)
  | [], hne, _, _, _ => absurd rfl hne
  | [t], _, done, outer, rest => by
    have hclose := foldlM_cons_of_next? (s := .afterItem (t :: done) outer) (k := .closeArray) rfl rest
    rw [List.reverse_cons] at hclose
    exact (foldlM_tokens t _ _).trans hclose
  | t :: t' :: ts, _, done, outer, rest => by
    have hmore := foldlM_items (t' :: ts) (List.cons_ne_nil t' ts) (t :: done) outer rest
    rw [List.reverse_cons, List.append_assoc, List.singleton_append] at hmore
    rw [itemsTokens_cons, List.append_assoc, foldlM_tokens t]
    exact (foldlM_cons_of_next? rfl _).trans hmore

theorem foldlM_members : ∀ ms : List (List Piece × Tree), ms ≠ [] → ∀ (done : List (List Piece × Tree))
    (outer : List Frame) (rest : List Token),
    (membersTokens ms ++ ([Token.closeObject] ++ rest)).foldlM State.next? (.name done outer) =
      rest.foldlM State.next? (State.complete (.object (done.reverse ++ ms)) outer)
  | [], hne, _, _, _ => absurd rfl hne
  | [(name, t)], _, done, outer, rest => by
    have hclose := foldlM_cons_of_next? (s := .afterMember ((name, t) :: done) outer) (k := .closeObject) rfl rest
    rw [List.reverse_cons] at hclose
    rw [membersTokens_singleton, List.cons_append, List.cons_append, foldlM_cons_of_next? rfl, foldlM_cons_of_next? rfl,
      foldlM_tokens t]
    exact hclose
  | (name, t) :: m :: ms, _, done, outer, rest => by
    have hmore := foldlM_members (m :: ms) (List.cons_ne_nil m ms) ((name, t) :: done) outer rest
    rw [List.reverse_cons, List.append_assoc, List.singleton_append] at hmore
    rw [membersTokens_cons, List.cons_append, List.cons_append, List.append_assoc, foldlM_cons_of_next? rfl,
      foldlM_cons_of_next? rfl, foldlM_tokens t]
    exact (foldlM_cons_of_next? rfl _).trans hmore

end

/-- That the strings and numbers of a tree can be read where they are written. -/
def Legible (t : Tree) : Prop := ∀ token ∈ t.tokens, token.Legible

/-- **A tree is read back from its text**, if its strings and numbers are. -/
theorem parse?_written {t : Tree} (h : t.Legible) : parse? t.written = some t := by
  have hapart := apart_tokens t h (fun c hc => by cases hc) .nil
  have hread := foldlM_tokens t [] []
  have htokens := tokensWithin_text hapart _ (Nat.le_refl _)
  rw [List.append_nil] at hread htokens
  unfold parse? tokens? written
  rw [← Token.text, htokens]
  simp only [Option.bind_eq_bind, Option.bind_some, hread]
  rfl

/-! ## Trees of legible parts -/

theorem legible_null : null.Legible := by
  intro token ht
  obtain rfl := List.mem_singleton.1 ht
  trivial

theorem legible_number {n : Numeral} (h : ∀ rest, Closed rest → (Token.number n).Stands rest) : (number n).Legible := by
  intro token ht
  obtain rfl := List.mem_singleton.1 ht
  exact h

theorem legible_bool (b : Bool) : (bool b).Legible := by
  intro token ht
  obtain rfl := List.mem_singleton.1 ht
  trivial

theorem legible_ofString (s : String) : (ofString s).Legible := by
  intro token ht
  obtain rfl := List.mem_singleton.1 ht
  exact fun p hp => Piece.legible_ofString hp

theorem legible_itemsTokens : ∀ {ts : List Tree}, (∀ t ∈ ts, t.Legible) → ∀ token ∈ itemsTokens ts, token.Legible
  | [], _, _, htoken => absurd htoken List.not_mem_nil
  | [t], h, token, htoken => h t (List.mem_cons_self ..) token htoken
  | t :: t' :: ts, h, token, htoken => by
    rw [itemsTokens_cons, List.mem_append, List.mem_cons] at htoken
    rcases htoken with htoken | rfl | htoken
    · exact h t (List.mem_cons_self ..) token htoken
    · trivial
    · exact legible_itemsTokens (fun u hu => h u (List.mem_cons_of_mem t hu)) token htoken

theorem legible_membersTokens : ∀ {ms : List (List Piece × Tree)}, (∀ m ∈ ms, (∀ p ∈ m.1, p.Legible) ∧ m.2.Legible) →
    ∀ token ∈ membersTokens ms, token.Legible
  | [], _, _, htoken => absurd htoken List.not_mem_nil
  | [(name, t)], h, token, htoken => by
    obtain ⟨hname, ht⟩ := h (name, t) (List.mem_cons_self ..)
    rw [membersTokens_singleton, List.mem_cons, List.mem_cons] at htoken
    rcases htoken with rfl | rfl | htoken
    · exact hname
    · trivial
    · exact ht token htoken
  | (name, t) :: m :: ms, h, token, htoken => by
    obtain ⟨hname, ht⟩ := h (name, t) (List.mem_cons_self ..)
    rw [membersTokens_cons, List.mem_cons, List.mem_cons, List.mem_append, List.mem_cons] at htoken
    rcases htoken with rfl | rfl | htoken | rfl | htoken
    · exact hname
    · trivial
    · exact ht token htoken
    · trivial
    · exact legible_membersTokens (fun m' hm => h m' (List.mem_cons_of_mem _ hm)) token htoken

theorem legible_array {items : List Tree} (h : ∀ t ∈ items, t.Legible) : (array items).Legible := by
  intro token htoken
  rw [tokens_array, List.mem_cons, List.mem_append, List.mem_singleton] at htoken
  rcases htoken with rfl | htoken | rfl
  · trivial
  · exact legible_itemsTokens h token htoken
  · trivial

theorem legible_object {members : List (List Piece × Tree)}
    (h : ∀ m ∈ members, (∀ p ∈ m.1, p.Legible) ∧ m.2.Legible) : (object members).Legible := by
  intro token htoken
  rw [tokens_object, List.mem_cons, List.mem_append, List.mem_singleton] at htoken
  rcases htoken with rfl | htoken | rfl
  · trivial
  · exact legible_membersTokens h token htoken
  · trivial

theorem legible_ofStrings (ss : List String) : (ofStrings ss).Legible := by
  refine legible_array fun t ht => ?_
  obtain ⟨s, -, rfl⟩ := List.mem_map.1 ht
  exact legible_ofString s

theorem legible_write {members : List (String × Option Tree)} (h : ∀ m ∈ members, ∀ t ∈ m.2, t.Legible) :
    (Record.write members).Legible := by
  refine legible_object fun m hm => ?_
  obtain ⟨p, hp, heq⟩ := List.mem_filterMap.1 hm
  obtain ⟨t, ht, rfl⟩ := Option.map_eq_some_iff.1 heq
  exact ⟨fun _ hpiece => Piece.legible_ofString hpiece, h p hp t ht⟩

end Tree

end Json
end PolicyProvider
