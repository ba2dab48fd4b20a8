import PolicyProvider.Proofs.Member.Run
import PolicyProvider.Proofs.Value.Path
import PolicyProvider.Provider.CustomAttributeResource
/-!
# Operation — the operations on a managed custom attribute, opened once

An operation is refused before it calls anything, for want of a manager or of what it needs to know of the state; then
it answers with what it was given and one error.  Otherwise it is the operation on a member, and makes something of how
that ended.  The `runs_` lemmas say so, and no proof about whole runs has to look into the operations.
-/
namespace PolicyProvider

open Program (Runs)
open CustomAttributes (kind)

namespace CustomAttributeResource

variable {σ : Type} {srv : CollectionServer kind σ} {st st' : σ} {log : List (Call kind)}
  {resource : CustomAttributeResource}

theorem runs_create {planned : Value} {response : ChangeResponse}
    (h : Runs srv (resource.create planned) st log response st') :
    (∃ d : Diagnostic, d.isError = true ∧ response = ⟨planned, [d]⟩ ∧ st' = st ∧
      (resource.access = none ∨ ∃ e, plannedParts planned = .error e)) ∨
    ∃ access key member result, resource.access = some access ∧ plannedParts planned = .ok (key, member) ∧
      Runs srv (Lifecycle.create kind access.topology key member).run st log result st' ∧
      response = created planned result := by
  unfold create at h
  cases haccess : resource.access with
  | none =>
    simp only [haccess] at h
    obtain ⟨-, rfl, rfl⟩ := Program.runs_done.1 h
    exact .inl ⟨_, rfl, rfl, rfl, .inl rfl⟩
  | some access =>
    simp only [haccess] at h
    cases hparts : plannedParts planned with
    | error e =>
      simp only [hparts] at h
      obtain ⟨-, rfl, rfl⟩ := Program.runs_done.1 h
      exact .inl ⟨_, rfl, rfl, rfl, .inr ⟨e, rfl⟩⟩
    | ok parts =>
      simp only [hparts] at h
      obtain ⟨result, hrun, rfl⟩ := Program.runs_map.1 h
      exact .inr ⟨access, parts.1, parts.2, result, rfl, rfl, hrun, rfl⟩

theorem runs_read {current : Value} {response : ReadResponse}
    (h : Runs srv (resource.read current) st log response st') :
    (∃ d : Diagnostic, d.isError = true ∧ response = ⟨some current, [d]⟩ ∧ st' = st ∧
      (stateId? current = none ∨ resource.access = none)) ∨
    ∃ access text result, resource.access = some access ∧ stateId? current = some text ∧
      Runs srv (Lifecycle.read kind access.topology text).run st log result st' ∧
        response = readBack current result := by
  unfold read at h
  cases hid : stateId? current with
  | none =>
    simp only [hid] at h
    obtain ⟨-, rfl, rfl⟩ := Program.runs_done.1 h
    exact .inl ⟨_, rfl, rfl, rfl, .inl rfl⟩
  | some text =>
    simp only [hid] at h
    cases haccess : resource.access with
    | none =>
      simp only [haccess] at h
      obtain ⟨-, rfl, rfl⟩ := Program.runs_done.1 h
      exact .inl ⟨_, rfl, rfl, rfl, .inr rfl⟩
    | some access =>
      simp only [haccess] at h
      obtain ⟨result, hrun, rfl⟩ := Program.runs_map.1 h
      exact .inr ⟨access, text, result, rfl, rfl, hrun, rfl⟩

theorem runs_delete {prior : Value} {problems : List Diagnostic}
    (h : Runs srv (resource.delete prior) st log problems st') :
    (∃ d : Diagnostic, d.isError = true ∧ problems = [d] ∧ st' = st ∧
      (stateId? prior = none ∨ resource.access = none)) ∨
    ∃ access text result, resource.access = some access ∧ stateId? prior = some text ∧
      Runs srv (Lifecycle.delete kind access.topology text).run st log result st' ∧ problems = deleted result := by
  unfold delete at h
  cases hid : stateId? prior with
  | none =>
    simp only [hid] at h
    obtain ⟨-, rfl, rfl⟩ := Program.runs_done.1 h
    exact .inl ⟨_, rfl, rfl, rfl, .inl rfl⟩
  | some text =>
    simp only [hid] at h
    cases haccess : resource.access with
    | none =>
      simp only [haccess] at h
      obtain ⟨-, rfl, rfl⟩ := Program.runs_done.1 h
      exact .inl ⟨_, rfl, rfl, rfl, .inr rfl⟩
    | some access =>
      simp only [haccess] at h
      obtain ⟨result, hrun, rfl⟩ := Program.runs_map.1 h
      exact .inr ⟨access, text, result, rfl, rfl, hrun, rfl⟩

def started (request : ImportRequest) : ImportedResource :=
  ⟨request.typeName, .object [("id", .string request.id)]⟩

theorem passthrough_eq (request : ImportRequest) :
    ImportResponse.passthrough (.ofName "id") request {} =
      if request.id = "" then ⟨[], [.errorAt (.ofName "id") "Missing import ID" "An import ID must be supplied"]⟩
      else ⟨[started request], []⟩ := by
  unfold ImportResponse.passthrough started
  by_cases hid : request.id = ""
  · simp [hid]
  · simp [hid, Value.set_ofName, Value.empty, Entries.put]

theorem runs_importState {request : ImportRequest} {response : ImportResponse}
    (h : Runs srv (resource.importState request) st log response st') :
    (∃ d : Diagnostic, d.isError = true ∧ response = ⟨[], [d]⟩ ∧ (request.id = "" ∨ resource.access = none)) ∨
    ∃ access result, resource.access = some access ∧
      Runs srv (Lifecycle.read kind access.topology request.id).run st log result st' ∧
      response = imported ⟨[started request], []⟩ result := by
  unfold importState at h
  simp only [passthrough_eq] at h
  by_cases hid : request.id = ""
  · simp only [if_pos hid] at h
    obtain ⟨-, rfl, -⟩ := Program.runs_done.1 h
    exact .inl ⟨_, rfl, rfl, .inl hid⟩
  · simp only [if_neg hid, List.isEmpty_nil, Bool.not_true, Bool.false_eq_true, if_false, List.nil_append] at h
    cases haccess : resource.access with
    | none =>
      simp only [haccess] at h
      obtain ⟨-, rfl, -⟩ := Program.runs_done.1 h
      exact .inl ⟨_, rfl, rfl, .inr rfl⟩
    | some access =>
      simp only [haccess] at h
      obtain ⟨result, hrun, rfl⟩ := Program.runs_map.1 h
      exact .inr ⟨access, result, rfl, hrun, rfl⟩

end CustomAttributeResource
end PolicyProvider
