import PolicyProvider.Policy.Topology
import PolicyProvider.Proofs.Json.Record
/-!
# Mirror — the records of either manager are those of the other

The two managers have record types of their own, one for each shape.  A `Mirror` says that two types of one shape have
the same values, read from the same trees and written as the same trees, and that what is written is read back.  There
is one for every shape, so converting a record never fails and loses nothing (`Mirror.convert_there`,
`Mirror.convert_back`).
-/
namespace PolicyProvider

open Json (Tree)
open Json.Record (optional? list? items? read?_write text_written bool_written int64_written texts_written)

/-- **Two types of one shape**: they have the same values, written and read alike. -/
structure Mirror (α β : Type) [WrittenForm α] [WrittenForm β] where
  there : α → β
  back : β → α
  back_there : ∀ x, back (there x) = x
  there_back : ∀ y, there (back y) = y
  toTree_there : ∀ x, WrittenForm.toTree (there x) = WrittenForm.toTree x
  ofTree?_there : ∀ t, (WrittenForm.ofTree? t : Option β) = (WrittenForm.ofTree? t : Option α).map there
  ofTree?_toTree : ∀ x : α, WrittenForm.ofTree? (WrittenForm.toTree x) = some x

namespace Mirror

variable {α β : Type} [WrittenForm α] [WrittenForm β] (m : Mirror α β)

theorem toTree_back (y : β) : (WrittenForm.toTree (m.back y) : Tree) = WrittenForm.toTree y := by
  rw [← m.toTree_there, m.there_back]

theorem convert_there (x : α) : (convert x : Except ConversionError β) = .ok (m.there x) := by
  unfold convert
  rw [m.ofTree?_there, m.ofTree?_toTree, Option.map_some]

theorem convert_back (y : β) : (convert y : Except ConversionError α) = .ok (m.back y) := by
  unfold convert
  rw [← m.toTree_back, m.ofTree?_toTree]

end Mirror

/-! ## Custom attributes -/

namespace CustomAttributes

def toGlobal (x : LocalPolicy.CustomAttributes) : GlobalPolicy.CustomAttributes :=
  ⟨x.datatype, x.key, x.value, x.attributeSource, x.description, x.isAlgType⟩

def toLocal (x : GlobalPolicy.CustomAttributes) : LocalPolicy.CustomAttributes :=
  ⟨x.datatype, x.key, x.value, x.attributeSource, x.description, x.isAlgType⟩

theorem ofTree?_toGlobal (t : Tree) :
    GlobalPolicy.CustomAttributes.ofTree? t = (LocalPolicy.CustomAttributes.ofTree? t).map toGlobal := by
  unfold GlobalPolicy.CustomAttributes.ofTree? LocalPolicy.CustomAttributes.ofTree?
  rw [show GlobalPolicy.CustomAttributes.members = LocalPolicy.CustomAttributes.members from rfl]
  cases hread : Json.Record.read? LocalPolicy.CustomAttributes.members t with
  | none => rfl
  | some parts =>
    have hlen : parts.length = 6 := Json.Record.read?_length hread
    match parts, hlen with
    | [datatype, key, value, attributeSource, description, isAlgType], _ =>
      simp only [Option.bind_eq_bind, Option.bind_some, Option.map_bind, Function.comp_def, Option.map_some]
      rfl

theorem ofTree?_toTree (x : LocalPolicy.CustomAttributes) : LocalPolicy.CustomAttributes.ofTree? x.toTree = some x := by
  unfold LocalPolicy.CustomAttributes.ofTree? LocalPolicy.CustomAttributes.toTree
  rw [read?_write rfl (by decide)]
  simp only [List.map_cons, List.map_nil, Option.bind_eq_bind, Option.bind_some, text_written, texts_written,
    bool_written]

def mirror : Mirror LocalPolicy.CustomAttributes GlobalPolicy.CustomAttributes where
  there := toGlobal
  back := toLocal
  back_there _ := rfl
  there_back _ := rfl
  toTree_there _ := rfl
  ofTree?_there := ofTree?_toGlobal
  ofTree?_toTree := ofTree?_toTree

end CustomAttributes

/-! ## Sub-attributes -/

namespace SubAttributes

def toGlobal (x : LocalPolicy.SubAttributes) : GlobalPolicy.SubAttributes := ⟨x.datatype, x.key, x.value⟩

def toLocal (x : GlobalPolicy.SubAttributes) : LocalPolicy.SubAttributes := ⟨x.datatype, x.key, x.value⟩

theorem ofTree?_toGlobal (t : Tree) :
    GlobalPolicy.SubAttributes.ofTree? t = (LocalPolicy.SubAttributes.ofTree? t).map toGlobal := by
  unfold GlobalPolicy.SubAttributes.ofTree? LocalPolicy.SubAttributes.ofTree?
  rw [show GlobalPolicy.SubAttributes.members = LocalPolicy.SubAttributes.members from rfl]
  cases hread : Json.Record.read? LocalPolicy.SubAttributes.members t with
  | none => rfl
  | some parts =>
    have hlen : parts.length = 3 := Json.Record.read?_length hread
    match parts, hlen with
    | [datatype, key, value], _ =>
      simp only [Option.bind_eq_bind, Option.bind_some, Option.map_bind, Function.comp_def, Option.map_some]
      rfl

theorem ofTree?_toTree (x : LocalPolicy.SubAttributes) : LocalPolicy.SubAttributes.ofTree? x.toTree = some x := by
  unfold LocalPolicy.SubAttributes.ofTree? LocalPolicy.SubAttributes.toTree
  rw [read?_write rfl (by decide)]
  simp only [List.map_cons, List.map_nil, Option.bind_eq_bind, Option.bind_some, text_written, texts_written]

def mirror : Mirror LocalPolicy.SubAttributes GlobalPolicy.SubAttributes where
  there := toGlobal
  back := toLocal
  back_there _ := rfl
  there_back _ := rfl
  toTree_there _ := rfl
  ofTree?_there := ofTree?_toGlobal
  ofTree?_toTree := ofTree?_toTree

end SubAttributes

/-! ## Attributes -/

namespace Attributes

def toGlobal (x : LocalPolicy.Attributes) : GlobalPolicy.Attributes :=
  ⟨x.datatype, x.key, x.value, x.attributeSource, x.description, x.isAlgType,
    x.subAttributes.map SubAttributes.toGlobal⟩

def toLocal (x : GlobalPolicy.Attributes) : LocalPolicy.Attributes :=
  ⟨x.datatype, x.key, x.value, x.attributeSource, x.description, x.isAlgType, x.subAttributes.map SubAttributes.toLocal⟩

theorem ofTree?_toGlobal (t : Tree) :
    GlobalPolicy.Attributes.ofTree? t = (LocalPolicy.Attributes.ofTree? t).map toGlobal := by
  have hsub := fun o => Json.Record.list?_comp (Json.Record.items?_comp SubAttributes.ofTree?_toGlobal) o
  unfold GlobalPolicy.Attributes.ofTree? LocalPolicy.Attributes.ofTree?
  rw [show GlobalPolicy.Attributes.members = LocalPolicy.Attributes.members from rfl]
  cases hread : Json.Record.read? LocalPolicy.Attributes.members t with
  | none => rfl
  | some parts =>
    have hlen : parts.length = 7 := Json.Record.read?_length hread
    match parts, hlen with
    | [datatype, key, value, attributeSource, description, isAlgType, subAttributes], _ =>
      simp only [Option.bind_eq_bind, Option.bind_some, hsub, Option.map_bind, Option.bind_map, Function.comp_def,
        Option.map_some]
      rfl

theorem sub_written (xs : List LocalPolicy.SubAttributes) :
    list? (items? LocalPolicy.SubAttributes.ofTree?)
      (if xs.isEmpty then none else some (.array (xs.map LocalPolicy.SubAttributes.toTree))) = some xs := by
  cases xs with
  | nil => rfl
  | cons x xs => exact Json.Record.items?_map SubAttributes.ofTree?_toTree (x :: xs)

theorem ofTree?_toTree (x : LocalPolicy.Attributes) : LocalPolicy.Attributes.ofTree? x.toTree = some x := by
  unfold LocalPolicy.Attributes.ofTree? LocalPolicy.Attributes.toTree
  rw [read?_write rfl (by decide)]
  simp only [List.map_cons, List.map_nil, Option.bind_eq_bind, Option.bind_some, text_written, texts_written,
    bool_written, sub_written]

theorem toTree_toGlobal (x : LocalPolicy.Attributes) : (toGlobal x).toTree = x.toTree := by
  unfold GlobalPolicy.Attributes.toTree LocalPolicy.Attributes.toTree toGlobal
  simp only [List.isEmpty_map, List.map_map]
  rfl

def mirror : Mirror LocalPolicy.Attributes GlobalPolicy.Attributes where
  there := toGlobal
  back := toLocal
  back_there x := by
    have hid : SubAttributes.toLocal ∘ SubAttributes.toGlobal = id := rfl
    simp only [toLocal, toGlobal, List.map_map, hid, List.map_id]
  there_back x := by
    have hid : SubAttributes.toGlobal ∘ SubAttributes.toLocal = id := rfl
    simp only [toLocal, toGlobal, List.map_map, hid, List.map_id]
  toTree_there := toTree_toGlobal
  ofTree?_there := ofTree?_toGlobal
  ofTree?_toTree := ofTree?_toTree

end Attributes

/-! ## Context profiles -/

namespace ContextProfile

def toGlobal (x : LocalPolicy.ContextProfile) : GlobalPolicy.ContextProfile :=
  ⟨x.id, x.displayName, x.description, x.path, x.relativePath, x.parentPath, x.resourceType, x.markedForDelete,
    x.attributes.map Attributes.toGlobal⟩

def toLocal (x : GlobalPolicy.ContextProfile) : LocalPolicy.ContextProfile :=
  ⟨x.id, x.displayName, x.description, x.path, x.relativePath, x.parentPath, x.resourceType, x.markedForDelete,
    x.attributes.map Attributes.toLocal⟩

theorem ofTree?_toGlobal (t : Tree) :
    GlobalPolicy.ContextProfile.ofTree? t = (LocalPolicy.ContextProfile.ofTree? t).map toGlobal := by
  have hattributes := fun o => Json.Record.list?_comp (Json.Record.items?_comp Attributes.ofTree?_toGlobal) o
  unfold GlobalPolicy.ContextProfile.ofTree? LocalPolicy.ContextProfile.ofTree?
  rw [show GlobalPolicy.ContextProfile.members = LocalPolicy.ContextProfile.members from rfl]
  cases hread : Json.Record.read? LocalPolicy.ContextProfile.members t with
  | none => rfl
  | some parts =>
    have hlen : parts.length = 9 := Json.Record.read?_length hread
    match parts, hlen with
    | [id, displayName, description, path, relativePath, parentPath, resourceType, markedForDelete, attributes], _ =>
      simp only [Option.bind_eq_bind, Option.bind_some, hattributes, Option.map_bind, Option.bind_map,
        Function.comp_def, Option.map_some]
      rfl

theorem attributes_written (xs : List LocalPolicy.Attributes) :
    list? (items? LocalPolicy.Attributes.ofTree?) (some (.array (xs.map LocalPolicy.Attributes.toTree))) = some xs :=
  Json.Record.items?_map Attributes.ofTree?_toTree xs

theorem ofTree?_toTree (x : LocalPolicy.ContextProfile) : LocalPolicy.ContextProfile.ofTree? x.toTree = some x := by
  unfold LocalPolicy.ContextProfile.ofTree? LocalPolicy.ContextProfile.toTree
  rw [read?_write rfl (by decide)]
  simp only [List.map_cons, List.map_nil, Option.bind_eq_bind, Option.bind_some, text_written, bool_written,
    attributes_written]

theorem toTree_toGlobal (x : LocalPolicy.ContextProfile) : (toGlobal x).toTree = x.toTree := by
  have hattributes : GlobalPolicy.Attributes.toTree ∘ Attributes.toGlobal = LocalPolicy.Attributes.toTree :=
    funext Attributes.toTree_toGlobal
  unfold GlobalPolicy.ContextProfile.toTree LocalPolicy.ContextProfile.toTree toGlobal
  simp only [List.map_map, hattributes]

def mirror : Mirror LocalPolicy.ContextProfile GlobalPolicy.ContextProfile where
  there := toGlobal
  back := toLocal
  back_there x := by
    have hid : Attributes.toLocal ∘ Attributes.toGlobal = id := funext Attributes.mirror.back_there
    simp only [toLocal, toGlobal, List.map_map, hid, List.map_id]
  there_back x := by
    have hid : Attributes.toGlobal ∘ Attributes.toLocal = id := funext Attributes.mirror.there_back
    simp only [toLocal, toGlobal, List.map_map, hid, List.map_id]
  toTree_there := toTree_toGlobal
  ofTree?_there := ofTree?_toGlobal
  ofTree?_toTree := ofTree?_toTree

end ContextProfile

/-! ## Pages -/

namespace ProfilePage

def toGlobal (x : LocalPolicy.ProfilePage) : GlobalPolicy.ProfilePage :=
  ⟨x.results.map ContextProfile.toGlobal, x.resultCount, x.cursor, x.sortBy, x.sortAscending⟩

def toLocal (x : GlobalPolicy.ProfilePage) : LocalPolicy.ProfilePage :=
  ⟨x.results.map ContextProfile.toLocal, x.resultCount, x.cursor, x.sortBy, x.sortAscending⟩

theorem ofTree?_toGlobal (t : Tree) :
    GlobalPolicy.ProfilePage.ofTree? t = (LocalPolicy.ProfilePage.ofTree? t).map toGlobal := by
  have hresults := fun o => Json.Record.list?_comp (Json.Record.items?_comp ContextProfile.ofTree?_toGlobal) o
  unfold GlobalPolicy.ProfilePage.ofTree? LocalPolicy.ProfilePage.ofTree?
  rw [show GlobalPolicy.ProfilePage.members = LocalPolicy.ProfilePage.members from rfl]
  cases hread : Json.Record.read? LocalPolicy.ProfilePage.members t with
  | none => rfl
  | some parts =>
    have hlen : parts.length = 5 := Json.Record.read?_length hread
    match parts, hlen with
    | [results, resultCount, cursor, sortBy, sortAscending], _ =>
      simp only [Option.bind_eq_bind, Option.bind_some, hresults, Option.map_bind, Option.bind_map, Function.comp_def,
        Option.map_some]
      rfl

theorem results_written (xs : List LocalPolicy.ContextProfile) :
    list? (items? LocalPolicy.ContextProfile.ofTree?) (some (.array (xs.map LocalPolicy.ContextProfile.toTree))) =
      some xs :=
  Json.Record.items?_map ContextProfile.ofTree?_toTree xs

theorem ofTree?_toTree (x : LocalPolicy.ProfilePage) : LocalPolicy.ProfilePage.ofTree? x.toTree = some x := by
  unfold LocalPolicy.ProfilePage.ofTree? LocalPolicy.ProfilePage.toTree
  rw [read?_write rfl (by decide)]
  simp only [List.map_cons, List.map_nil, Option.bind_eq_bind, Option.bind_some, text_written, bool_written,
    int64_written, results_written]

theorem toTree_toGlobal (x : LocalPolicy.ProfilePage) : (toGlobal x).toTree = x.toTree := by
  have hresults : GlobalPolicy.ContextProfile.toTree ∘ ContextProfile.toGlobal = LocalPolicy.ContextProfile.toTree :=
    funext ContextProfile.toTree_toGlobal
  unfold GlobalPolicy.ProfilePage.toTree LocalPolicy.ProfilePage.toTree toGlobal
  simp only [List.map_map, hresults]

def mirror : Mirror LocalPolicy.ProfilePage GlobalPolicy.ProfilePage where
  there := toGlobal
  back := toLocal
  back_there x := by
    have hid : ContextProfile.toLocal ∘ ContextProfile.toGlobal = id := funext ContextProfile.mirror.back_there
    simp only [toLocal, toGlobal, List.map_map, hid, List.map_id]
  there_back x := by
    have hid : ContextProfile.toGlobal ∘ ContextProfile.toLocal = id := funext ContextProfile.mirror.there_back
    simp only [toLocal, toGlobal, List.map_map, hid, List.map_id]
  toTree_there := toTree_toGlobal
  ofTree?_there := ofTree?_toGlobal
  ofTree?_toTree := ofTree?_toTree

end ProfilePage
end PolicyProvider
