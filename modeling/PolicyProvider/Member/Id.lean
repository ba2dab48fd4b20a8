import PolicyProvider.Text.Quoted
/-!
# MemberId — the name of one member of a shared collection

A member is named by the key it stands under and its own text, written `key~member`. The key has no separator, so the
first one divides the two even if the member has more.
-/
namespace PolicyProvider

/-- The character between key and member. -/
def idSeparator : Char := '~'

/-- The key and text of a member: neither is empty, and the key holds no separator. -/
structure MemberId where
  key : String
  member : String
  key_ne_empty : key ≠ ""
  separator_not_mem_key : idSeparator ∉ key.toList
  member_ne_empty : member ≠ ""
deriving DecidableEq

/-- Why a key and a member, or a text, are no member's name. -/
inductive IdError where
  | missingSeparator (id : String)
  | emptyPart (id part : String)
  | separatorInKey (key : String)
deriving DecidableEq

def IdError.message : IdError → String
  | .missingSeparator id => "Invalid composite id " ++ quoted id ++ ": expected <key>~<attribute>"
  | .emptyPart id part => "Invalid composite id " ++ quoted id ++ ": " ++ part ++ " must not be empty"
  | .separatorInKey key => "Key " ++ quoted key ++ " must not contain '~'"

namespace MemberId

def joined (key member : String) : String :=
  String.ofList (key.toList ++ idSeparator :: member.toList)

/-- **The written name.** -/
def text (id : MemberId) : String := joined id.key id.member

/-- **The name of a member under a key.** -/
def ofParts (key member : String) : Except IdError MemberId :=
  if hs : idSeparator ∈ key.toList then .error (.separatorInKey key)
  else if hk : key = "" then .error (.emptyPart (joined key member) "key")
  else if hm : member = "" then .error (.emptyPart (joined key member) "attribute")
  else .ok ⟨key, member, hk, hs, hm⟩

/-- Characters divided at the first separator. -/
def split? : List Char → Option (List Char × List Char)
  | [] => none
  | c :: rest => if c = idSeparator then some ([], rest) else (split? rest).map fun p => (c :: p.1, p.2)

theorem not_mem_of_split? {s key member : List Char} (h : split? s = some (key, member)) : idSeparator ∉ key := by
  induction s generalizing key with
  | nil => simp [split?] at h
  | cons c rest ih =>
    by_cases hc : c = idSeparator
    · simp only [split?, if_pos hc, Option.some.injEq, Prod.mk.injEq] at h
      simp [← h.1]
    · simp only [split?, if_neg hc, Option.map_eq_some_iff] at h
      obtain ⟨⟨k, m⟩, hk, he⟩ := h
      simp only [Prod.mk.injEq] at he
      obtain ⟨rfl, rfl⟩ := he
      simp [ih hk, Ne.symm hc]

/-- **The name that a text writes.** -/
def parse (id : String) : Except IdError MemberId :=
  match h : split? id.toList with
  | none => .error (.missingSeparator id)
  | some (key, member) =>
    if hk : String.ofList key = "" then .error (.emptyPart id "key")
    else if hm : String.ofList member = "" then .error (.emptyPart id "attribute")
    else .ok ⟨String.ofList key, String.ofList member, hk, by simpa using not_mem_of_split? h, hm⟩

end MemberId
end PolicyProvider
