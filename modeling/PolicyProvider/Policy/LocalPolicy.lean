import PolicyProvider.Json.Record
/-!
# LocalPolicy — the local manager's policy records

Context profiles group values under keys; `CustomAttributes` is the body that adds or removes values of one key. Each
record has `ofTree?`, which reads it from JSON, and `toTree`, which writes the members that are set.
-/
namespace PolicyProvider
namespace LocalPolicy

open Json (Tree Member)
open Json.Record (optional? list? write int)

/-- Values to add or remove under a key. -/
structure CustomAttributes where
  datatype : Option String := none
  key : Option String := none
  value : List String := []
  attributeSource : Option String := none
  description : Option String := none
  isAlgType : Option Bool := none
deriving DecidableEq

namespace CustomAttributes

def members : List Member :=
  [⟨"datatype", false⟩, ⟨"key", false⟩, ⟨"value", true⟩, ⟨"attribute_source", false⟩, ⟨"description", false⟩,
    ⟨"isALGType", false⟩]

def ofTree? (t : Tree) : Option CustomAttributes := do
  match ← Json.Record.read? members t with
  | [datatype, key, value, attributeSource, description, isAlgType] =>
    some {
      datatype := ← optional? Tree.text? datatype
      key := ← optional? Tree.text? key
      value := ← list? Tree.texts? value
      attributeSource := ← optional? Tree.text? attributeSource
      description := ← optional? Tree.text? description
      isAlgType := ← optional? Tree.bool? isAlgType }
  | _ => none

def toTree (x : CustomAttributes) : Tree :=
  write [("datatype", x.datatype.map Tree.ofString), ("key", x.key.map Tree.ofString),
    ("value", some (Tree.ofStrings x.value)), ("attribute_source", x.attributeSource.map Tree.ofString),
    ("description", x.description.map Tree.ofString), ("isALGType", x.isAlgType.map Tree.bool)]

end CustomAttributes

/-- Values under a key that refine another. -/
structure SubAttributes where
  datatype : Option String := none
  key : Option String := none
  value : List String := []
deriving DecidableEq

namespace SubAttributes

def members : List Member := [⟨"datatype", false⟩, ⟨"key", false⟩, ⟨"value", true⟩]

def ofTree? (t : Tree) : Option SubAttributes := do
  match ← Json.Record.read? members t with
  | [datatype, key, value] =>
    some {
      datatype := ← optional? Tree.text? datatype
      key := ← optional? Tree.text? key
      value := ← list? Tree.texts? value }
  | _ => none

def toTree (x : SubAttributes) : Tree :=
  write [("datatype", x.datatype.map Tree.ofString), ("key", x.key.map Tree.ofString),
    ("value", some (Tree.ofStrings x.value))]

end SubAttributes

/-- The values a context profile has under one key. -/
structure Attributes where
  datatype : Option String := none
  key : Option String := none
  value : List String := []
  attributeSource : Option String := none
  description : Option String := none
  isAlgType : Option Bool := none
  subAttributes : List SubAttributes := []
deriving DecidableEq

namespace Attributes

def members : List Member :=
  [⟨"datatype", false⟩, ⟨"key", false⟩, ⟨"value", true⟩, ⟨"attribute_source", false⟩, ⟨"description", false⟩,
    ⟨"isALGType", false⟩, ⟨"sub_attributes", true⟩]

def ofTree? (t : Tree) : Option Attributes := do
  match ← Json.Record.read? members t with
  | [datatype, key, value, attributeSource, description, isAlgType, subAttributes] =>
    some {
      datatype := ← optional? Tree.text? datatype
      key := ← optional? Tree.text? key
      value := ← list? Tree.texts? value
      attributeSource := ← optional? Tree.text? attributeSource
      description := ← optional? Tree.text? description
      isAlgType := ← optional? Tree.bool? isAlgType
      subAttributes := ← list? (Json.Record.items? SubAttributes.ofTree?) subAttributes }
  | _ => none

/-- Writes the record; an empty list of sub-attributes is left out. -/
def toTree (x : Attributes) : Tree :=
  write [("datatype", x.datatype.map Tree.ofString), ("key", x.key.map Tree.ofString),
    ("value", some (Tree.ofStrings x.value)), ("attribute_source", x.attributeSource.map Tree.ofString),
    ("description", x.description.map Tree.ofString), ("isALGType", x.isAlgType.map Tree.bool),
    ("sub_attributes",
      if x.subAttributes.isEmpty then none else some (.array (x.subAttributes.map SubAttributes.toTree)))]

end Attributes

structure ContextProfile where
  id : Option String := none
  displayName : Option String := none
  description : Option String := none
  path : Option String := none
  relativePath : Option String := none
  parentPath : Option String := none
  resourceType : Option String := none
  markedForDelete : Option Bool := none
  attributes : List Attributes := []
deriving DecidableEq

namespace ContextProfile

def members : List Member :=
  [⟨"id", false⟩, ⟨"display_name", false⟩, ⟨"description", false⟩, ⟨"path", false⟩, ⟨"relative_path", false⟩,
    ⟨"parent_path", false⟩, ⟨"resource_type", false⟩, ⟨"marked_for_delete", false⟩, ⟨"attributes", true⟩]

def ofTree? (t : Tree) : Option ContextProfile := do
  match ← Json.Record.read? members t with
  | [id, displayName, description, path, relativePath, parentPath, resourceType, markedForDelete, attributes] =>
    some {
      id := ← optional? Tree.text? id
      displayName := ← optional? Tree.text? displayName
      description := ← optional? Tree.text? description
      path := ← optional? Tree.text? path
      relativePath := ← optional? Tree.text? relativePath
      parentPath := ← optional? Tree.text? parentPath
      resourceType := ← optional? Tree.text? resourceType
      markedForDelete := ← optional? Tree.bool? markedForDelete
      attributes := ← list? (Json.Record.items? Attributes.ofTree?) attributes }
  | _ => none

def toTree (x : ContextProfile) : Tree :=
  write [("id", x.id.map Tree.ofString), ("display_name", x.displayName.map Tree.ofString),
    ("description", x.description.map Tree.ofString), ("path", x.path.map Tree.ofString),
    ("relative_path", x.relativePath.map Tree.ofString), ("parent_path", x.parentPath.map Tree.ofString),
    ("resource_type", x.resourceType.map Tree.ofString), ("marked_for_delete", x.markedForDelete.map Tree.bool),
    ("attributes", some (.array (x.attributes.map Attributes.toTree)))]

end ContextProfile

structure ProfilePage where
  results : List ContextProfile := []
  resultCount : Option Int64 := none
  cursor : Option String := none
  sortBy : Option String := none
  sortAscending : Option Bool := none
deriving DecidableEq

namespace ProfilePage

def members : List Member :=
  [⟨"results", true⟩, ⟨"result_count", false⟩, ⟨"cursor", false⟩, ⟨"sort_by", false⟩, ⟨"sort_ascending", false⟩]

def ofTree? (t : Tree) : Option ProfilePage := do
  match ← Json.Record.read? members t with
  | [results, resultCount, cursor, sortBy, sortAscending] =>
    some {
      results := ← list? (Json.Record.items? ContextProfile.ofTree?) results
      resultCount := ← optional? Tree.int64? resultCount
      cursor := ← optional? Tree.text? cursor
      sortBy := ← optional? Tree.text? sortBy
      sortAscending := ← optional? Tree.bool? sortAscending }
  | _ => none

def toTree (x : ProfilePage) : Tree :=
  write [("results", some (.array (x.results.map ContextProfile.toTree))),
    ("result_count", x.resultCount.map (int ·.toInt)),
    ("cursor", x.cursor.map Tree.ofString), ("sort_by", x.sortBy.map Tree.ofString),
    ("sort_ascending", x.sortAscending.map Tree.bool)]

/-- **Whether the page lists a value under a key**, in any profile and any group with that key. -/
def lists (x : ProfilePage) (key value : String) : Bool :=
  x.results.any fun profile =>
    profile.attributes.any fun group => group.key == some key && group.value.any (· == value)

theorem lists_iff (x : ProfilePage) (key value : String) : x.lists key value = true ↔
    ∃ profile ∈ x.results, ∃ group ∈ profile.attributes, group.key = some key ∧ value ∈ group.value := by
  simp only [lists, List.any_eq_true, Bool.and_eq_true, beq_iff_eq, exists_eq_right]

end ProfilePage
end LocalPolicy
end PolicyProvider
