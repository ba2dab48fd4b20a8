import PolicyProvider.Proofs.Member.Naming
import PolicyProvider.Proofs.Member.Run
/-!
# Operation — the operations on members, opened once

Each operation is a check of its arguments, then at most one scan and at most one change.  The `run_` lemmas say so, and
nothing else has to look into the operations.
-/
namespace PolicyProvider

inductive Operation where
  | create (key member : String)
  | read (id : String)
  | isPresent (id : String)
  | delete (id : String)
  | adopt (id : String)
deriving DecidableEq

inductive Answer where
  | member (r : SubResource)
  | presence (present : Bool)
deriving DecidableEq

namespace Lifecycle

variable (K : MemberKind) (t : Topology)

def found (id : MemberId) : Except MemberError Bool → Except MemberError SubResource
  | .ok true => .ok ⟨id, .present⟩
  | .ok false => .error (.notFound K.name id.text)
  | .error e => .error e

theorem run_readId (id : MemberId) :
    (readId K t id).run = .scan (scanFor K t id.key id.member) fun r => .done (found K id r) := by
  refine congrArg (Program.scan _) (funext fun r => ?_)
  rcases r with e | present
  · rfl
  · cases present <;> rfl

theorem run_read (id : String) : (read K t id).run = match decode K id with
    | .error e => .done (.error e)
    | .ok id => .scan (scanFor K t id.key id.member) fun r => .done (found K id r) := by
  have h : (read K t id).run = match decode K id with
      | .error e => .done (.error e)
      | .ok id => (readId K t id).run := by
    unfold read MemberAction.ofExcept
    cases decode K id <;> rfl
  rw [h]
  cases decode K id with
  | error e => rfl
  | ok id => exact run_readId K t id

theorem run_isPresent (id : String) : (isPresent K t id).run = match decode K id with
    | .error e => .done (.error e)
    | .ok id => .scan (scanFor K t id.key id.member) .done := by
  unfold isPresent MemberAction.ofExcept
  cases decode K id <;> rfl

theorem run_delete (id : String) : (delete K t id).run = match decode K id with
    | .error e => .done (.error e)
    | .ok id => .scan (scanFor K t id.key id.member) fun
      | .error e => .done (.error e)
      | .ok false => .done (.ok ⟨id, .absent⟩)
      | .ok true => match K.patch t id.key id.member with
        | .error e => .done (.error (.conversion e))
        | .ok patch => .mutate t .remove patch fun
          | .error e => .done (.error (.delete K.name id.member (.remote e)))
          | .ok _ => .done (.ok ⟨id, .destroyed⟩) := by
  unfold delete MemberAction.ofExcept
  cases decode K id with
  | error e => rfl
  | ok id =>
    refine congrArg (Program.scan _) (funext fun r => ?_)
    rcases r with e | present
    · rfl
    · cases present with
      | false => rfl
      | true =>
        simp only [MemberAction.mutate]
        cases K.patch t id.key id.member with
        | error e => rfl
        | ok patch =>
          refine congrArg (Program.mutate t .remove patch) (funext fun r => ?_)
          cases r <;> rfl

theorem run_create (key member : String) : (create K t key member).run = match encode K key member with
    | .error e => .done (.error e)
    | .ok id => match K.patch t key member with
      | .error e => .done (.error (.conversion e))
      | .ok patch => .mutate t .add patch fun
        | .error e => .done (.error (.create K.name member (.remote e)))
        | .ok _ => .scan (scanFor K t id.key id.member) fun r => .done (found K id r) := by
  unfold create MemberAction.ofExcept
  cases encode K key member with
  | error e => rfl
  | ok id =>
    simp only [MemberAction.mutate]
    cases K.patch t key member with
    | error e => rfl
    | ok patch =>
      refine congrArg (Program.mutate t .add patch) (funext fun r => ?_)
      cases r with
      | error e => rfl
      | ok u => exact run_readId K t id

theorem encode_of_valid {K : MemberKind} {key : String} {u : Unit} (h : validateKey K key = .ok u) (member : String) :
    encode K key member = (MemberId.ofParts key member).mapError .malformedId := by
  unfold encode
  rw [h]
  rfl

theorem encode_of_invalid {K : MemberKind} {key : String} {e : MemberError} (h : validateKey K key = .error e)
    (member : String) : encode K key member = .error e := by
  unfold encode
  rw [h]
  rfl

theorem decode_of_parse_error {K : MemberKind} {text : String} {cause : IdError}
    (h : MemberId.parse text = .error cause) : decode K text = .error (.malformedId cause) := by
  unfold decode
  rw [h]
  rfl

theorem decode_of_parse_ok {K : MemberKind} {text : String} {id : MemberId} (h : MemberId.parse text = .ok id) :
    decode K text = (validateKey K id.key).map fun _ => id := by
  unfold decode
  rw [h]
  rfl

theorem validateKey_of_mem {K : MemberKind} {key : String} (h : key ∈ K.allowedKeys) : validateKey K key = .ok () :=
  if_pos h

theorem mem_of_validateKey {K : MemberKind} {key : String} {u : Unit} (h : validateKey K key = .ok u) :
    key ∈ K.allowedKeys := by
  unfold validateKey at h
  by_cases hk : key ∈ K.allowedKeys
  · exact hk
  · rw [if_neg hk] at h
    cases h

/-- **The arguments of a creation that are accepted**, and the id they make. -/
theorem encode_eq_ok_iff {K : MemberKind} {key member : String} {id : MemberId} :
    encode K key member = .ok id ↔ key ∈ K.allowedKeys ∧ id.key = key ∧ id.member = member := by
  rw [← MemberId.ofParts_eq_ok]
  cases hv : validateKey K key with
  | error e =>
    have hk : key ∉ K.allowedKeys := by
      intro hk
      rw [validateKey_of_mem hk] at hv
      cases hv
    rw [encode_of_invalid hv]
    simp [hk]
  | ok u =>
    have hk := mem_of_validateKey hv
    rw [encode_of_valid hv]
    cases MemberId.ofParts key member with
    | error cause => exact ⟨(fun h => nomatch h), fun h => nomatch h.2⟩
    | ok made =>
      constructor
      · intro h
        cases h
        exact ⟨hk, rfl⟩
      · rintro ⟨-, h⟩
        cases h
        rfl

theorem encode_eq_ok {K : MemberKind} {key member : String} {id : MemberId} (h : encode K key member = .ok id) :
    id.key = key ∧ id.member = member := (encode_eq_ok_iff.1 h).2

/-- **The texts that are accepted as ids**, and the ids they write. -/
theorem decode_eq_ok_iff {K : MemberKind} {text : String} {id : MemberId} :
    decode K text = .ok id ↔ text = id.text ∧ id.key ∈ K.allowedKeys := by
  rw [← MemberId.parse_eq_ok]
  cases hparse : MemberId.parse text with
  | error e =>
    rw [decode_of_parse_error hparse]
    exact ⟨(fun h => nomatch h), fun h => nomatch h.1⟩
  | ok mid =>
    rw [decode_of_parse_ok hparse]
    constructor
    · intro h
      cases hv : validateKey K mid.key with
      | error e =>
        rw [hv] at h
        cases h
      | ok u =>
        rw [hv] at h
        cases h
        exact ⟨rfl, mem_of_validateKey hv⟩
    · rintro ⟨heq, hk⟩
      cases heq
      rw [validateKey_of_mem hk]
      rfl

theorem validateKey_error {K : MemberKind} {key : String} {e : MemberError} (h : validateKey K key = .error e) :
    ∃ field text, e = .validation field text := by
  unfold validateKey at h
  split at h
  · cases h
  · cases h
    exact ⟨_, _, rfl⟩

theorem decode_error {K : MemberKind} {id : String} {e : MemberError} (h : decode K id = .error e) :
    (∃ field text, e = .validation field text) ∨ ∃ cause, e = .malformedId cause := by
  cases hparse : MemberId.parse id with
  | error cause =>
    rw [decode_of_parse_error hparse] at h
    cases h
    exact .inr ⟨cause, rfl⟩
  | ok mid =>
    rw [decode_of_parse_ok hparse] at h
    cases hv : validateKey K mid.key with
    | error cause =>
      rw [hv] at h
      cases h
      exact .inl (validateKey_error hv)
    | ok u =>
      rw [hv] at h
      cases h

theorem encode_error {K : MemberKind} {key member : String} {e : MemberError} (h : encode K key member = .error e) :
    (∃ field text, e = .validation field text) ∨ ∃ cause, e = .malformedId cause := by
  cases hv : validateKey K key with
  | error cause =>
    rw [encode_of_invalid hv] at h
    cases h
    exact .inl (validateKey_error hv)
  | ok u =>
    rw [encode_of_valid hv] at h
    cases hparts : MemberId.ofParts key member with
    | error cause =>
      rw [hparts] at h
      cases h
      exact .inr ⟨cause, rfl⟩
    | ok mid =>
      rw [hparts] at h
      cases h

end Lifecycle

namespace Operation

/-- **An operation as a program** of calls to the collection of a topology. -/
def action (K : MemberKind) (t : Topology) : Operation → MemberAction K Answer
  | .create key member => ExceptT.mk ((Lifecycle.create K t key member).run.map (Except.map .member))
  | .read id => ExceptT.mk ((Lifecycle.read K t id).run.map (Except.map .member))
  | .isPresent id => ExceptT.mk ((Lifecycle.isPresent K t id).run.map (Except.map .presence))
  | .delete id => ExceptT.mk ((Lifecycle.delete K t id).run.map (Except.map .member))
  | .adopt id => ExceptT.mk ((Lifecycle.adopt K t id).run.map (Except.map .member))

def target (K : MemberKind) : Operation → Except MemberError MemberId
  | .create key member => Lifecycle.encode K key member
  | .read id | .isPresent id | .delete id | .adopt id => Lifecycle.decode K id

theorem target_error {K : MemberKind} {op : Operation} {e : MemberError} (h : op.target K = .error e) :
    (∃ field text, e = .validation field text) ∨ ∃ cause, e = .malformedId cause := by
  cases op with
  | create key member => exact Lifecycle.encode_error h
  | read id => exact Lifecycle.decode_error h
  | isPresent id => exact Lifecycle.decode_error h
  | delete id => exact Lifecycle.decode_error h
  | adopt id => exact Lifecycle.decode_error h

/-- **The key and member that the arguments of an operation name**: an allowed key, a member that is not empty, and the
id, where there is one, is the two with a tilde between them. -/
def Names (K : MemberKind) (op : Operation) (key member : String) : Prop :=
  key ∈ K.allowedKeys ∧ member ≠ "" ∧ match op with
    | .create k m => k = key ∧ m = member
    | .read id | .isPresent id | .delete id | .adopt id => id = key ++ "~" ++ member

/-- **The arguments that are accepted are those that name a member.** -/
theorem names_iff {K : MemberKind} (hK : ∀ key ∈ K.allowedKeys, key ≠ "" ∧ idSeparator ∉ key.toList) {op : Operation}
    {key member : String} :
    op.Names K key member ↔ ∃ id, op.target K = .ok id ∧ id.key = key ∧ id.member = member := by
  have hdecode : ∀ {text : String}, (key ∈ K.allowedKeys ∧ member ≠ "" ∧ text = key ++ "~" ++ member) ↔
      ∃ id, Lifecycle.decode K text = .ok id ∧ id.key = key ∧ id.member = member := by
    intro text
    constructor
    · rintro ⟨hk, hm, rfl⟩
      refine ⟨⟨key, member, (hK key hk).1, (hK key hk).2, hm⟩, Lifecycle.decode_eq_ok_iff.2 ⟨?_, hk⟩, rfl, rfl⟩
      exact (MemberId.joined_eq key member).symm
    · rintro ⟨id, hid, rfl, rfl⟩
      obtain ⟨rfl, hk⟩ := Lifecycle.decode_eq_ok_iff.1 hid
      exact ⟨hk, id.member_ne_empty, MemberId.joined_eq id.key id.member⟩
  cases op with
  | create k m =>
    constructor
    · rintro ⟨hk, hm, rfl, rfl⟩
      exact ⟨⟨k, m, (hK k hk).1, (hK k hk).2, hm⟩, Lifecycle.encode_eq_ok_iff.2 ⟨hk, rfl, rfl⟩, rfl, rfl⟩
    · rintro ⟨id, hid, rfl, rfl⟩
      obtain ⟨hk, hkey, hmember⟩ := Lifecycle.encode_eq_ok_iff.1 hid
      exact ⟨hkey ▸ hk, id.member_ne_empty, hkey.symm, hmember.symm⟩
  | read id => exact hdecode
  | isPresent id => exact hdecode
  | delete id => exact hdecode
  | adopt id => exact hdecode

variable (K : MemberKind) (t : Topology)

theorem run_read (id : String) : (action K t (.read id)).run = match Lifecycle.decode K id with
    | .error e => .done (.error e)
    | .ok id => .scan (Lifecycle.scanFor K t id.key id.member) fun r =>
      .done ((Lifecycle.found K id r).map .member) := by
  change (Lifecycle.read K t id).run.map _ = _
  rw [Lifecycle.run_read]
  cases Lifecycle.decode K id <;> rfl

theorem run_adopt (id : String) : (action K t (.adopt id)).run = (action K t (.read id)).run := rfl

theorem run_isPresent (id : String) : (action K t (.isPresent id)).run = match Lifecycle.decode K id with
    | .error e => .done (.error e)
    | .ok id => .scan (Lifecycle.scanFor K t id.key id.member) fun r => .done (r.map .presence) := by
  change (Lifecycle.isPresent K t id).run.map _ = _
  rw [Lifecycle.run_isPresent]
  cases Lifecycle.decode K id <;> rfl

theorem run_delete (id : String) : (action K t (.delete id)).run = match Lifecycle.decode K id with
    | .error e => .done (.error e)
    | .ok id => .scan (Lifecycle.scanFor K t id.key id.member) fun
      | .error e => .done (.error e)
      | .ok false => .done (.ok (.member ⟨id, .absent⟩))
      | .ok true => match K.patch t id.key id.member with
        | .error e => .done (.error (.conversion e))
        | .ok patch => .mutate t .remove patch fun
          | .error e => .done (.error (.delete K.name id.member (.remote e)))
          | .ok _ => .done (.ok (.member ⟨id, .destroyed⟩)) := by
  change (Lifecycle.delete K t id).run.map _ = _
  rw [Lifecycle.run_delete]
  cases Lifecycle.decode K id with
  | error e => rfl
  | ok id =>
    refine congrArg (Program.scan _) (funext fun r => ?_)
    rcases r with e | present
    · rfl
    · cases present with
      | false => rfl
      | true =>
        simp only
        cases K.patch t id.key id.member with
        | error e => rfl
        | ok patch =>
          refine congrArg (Program.mutate t .remove patch) (funext fun r => ?_)
          cases r <;> rfl

theorem run_create (key member : String) : (action K t (.create key member)).run =
    match Lifecycle.encode K key member with
    | .error e => .done (.error e)
    | .ok id => match K.patch t key member with
      | .error e => .done (.error (.conversion e))
      | .ok patch => .mutate t .add patch fun
        | .error e => .done (.error (.create K.name member (.remote e)))
        | .ok _ => .scan (Lifecycle.scanFor K t id.key id.member) fun r =>
          .done ((Lifecycle.found K id r).map .member) := by
  change (Lifecycle.create K t key member).run.map _ = _
  rw [Lifecycle.run_create]
  cases Lifecycle.encode K key member with
  | error e => rfl
  | ok id =>
    simp only
    cases K.patch t key member with
    | error e => rfl
    | ok patch =>
      refine congrArg (Program.mutate t .add patch) (funext fun r => ?_)
      cases r <;> rfl

/-- **An operation whose arguments are refused makes no call.** -/
theorem run_refused {op : Operation} {e : MemberError} (h : op.target K = .error e) :
    (op.action K t).run = .done (.error e) := by
  cases op with
  | create key member => rw [run_create, show Lifecycle.encode K key member = .error e from h]
  | read id => rw [run_read, show Lifecycle.decode K id = .error e from h]
  | isPresent id => rw [run_isPresent, show Lifecycle.decode K id = .error e from h]
  | delete id => rw [run_delete, show Lifecycle.decode K id = .error e from h]
  | adopt id => rw [run_adopt, run_read, show Lifecycle.decode K id = .error e from h]

def looks : Operation → Bool
  | .read _ | .isPresent _ | .adopt _ => true
  | _ => false

theorem run_looks {op : Operation} (hop : op.looks = true) {id : MemberId} (h : op.target K = .ok id) :
    ∃ f : Except MemberError Bool → Except MemberError Answer,
      (op.action K t).run = .scan (Lifecycle.scanFor K t id.key id.member) fun r => .done (f r) := by
  cases op with
  | create key member => cases hop
  | delete text => cases hop
  | read text => exact ⟨_, by rw [run_read, show Lifecycle.decode K text = .ok id from h]⟩
  | adopt text => exact ⟨_, by rw [run_adopt, run_read, show Lifecycle.decode K text = .ok id from h]⟩
  | isPresent text => exact ⟨_, by rw [run_isPresent, show Lifecycle.decode K text = .ok id from h]⟩

end Operation
end PolicyProvider
