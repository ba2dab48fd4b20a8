import PolicyProvider.Text.Percent
/-!
# Query — the parameters of a request

Parameters are kept in the order they were added. Values are percent-encoded, names are written as they are.
-/
namespace PolicyProvider

structure QueryParams where
  params : List (String × String) := []
deriving DecidableEq

namespace QueryParams

def add (q : QueryParams) (name value : String) : QueryParams := ⟨q.params ++ [(name, value)]⟩

/-- The parameters with one more if it has a value. -/
def addOptional (q : QueryParams) (name : String) : Option String → QueryParams
  | none => q
  | some value => q.add name value

def extend (q other : QueryParams) : QueryParams := ⟨q.params ++ other.params⟩

def isEmpty (q : QueryParams) : Bool := q.params.isEmpty

/-- **The parameters as the end of an address**: a question mark and the pairs with ampersands between them, or
nothing at all. -/
def text (q : QueryParams) : String :=
  if q.isEmpty then ""
  else "?" ++ "&".intercalate (q.params.map fun p => p.1 ++ "=" ++ Percent.encode p.2)

end QueryParams

def boolParam (b : Bool) : String := if b then "true" else "false"

/-- Which part of a list to answer, and in which order. -/
structure Paging where
  cursor : Option String := none
  includeMarkedForDelete : Option Bool := none
  includedFields : Option String := none
  pageSize : Option Int := none
  sortAscending : Option Bool := none
  sortBy : Option String := none
deriving DecidableEq

def Paging.params (p : Paging) : QueryParams :=
  ({} : QueryParams)
    |>.addOptional "cursor" p.cursor
    |>.addOptional "include_mark_for_delete_objects" (p.includeMarkedForDelete.map boolParam)
    |>.addOptional "included_fields" p.includedFields
    |>.addOptional "page_size" (p.pageSize.map toString)
    |>.addOptional "sort_ascending" (p.sortAscending.map boolParam)
    |>.addOptional "sort_by" p.sortBy

structure AttributeQuery where
  key : Option String := none
  source : Option String := none
  paging : Paging := {}
deriving DecidableEq

/-- The parameters of a listing: the filters, then the paging. -/
def AttributeQuery.params (q : AttributeQuery) : QueryParams :=
  ({} : QueryParams)
    |>.addOptional "attribute_key" q.key
    |>.addOptional "attribute_source" q.source
    |>.extend q.paging.params

/-- Where the custom attributes are, below a base. -/
def customAttributesPath (base : String) : String := base ++ "/context-profiles/custom-attributes"

/-- What a mutation does with the values it is given. -/
inductive PatchAction where
  | add
  | remove
deriving DecidableEq

def PatchAction.word : PatchAction → String
  | .add => "add"
  | .remove => "remove"

end PolicyProvider
