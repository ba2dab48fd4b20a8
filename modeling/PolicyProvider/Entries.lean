/-!
# Entries — named values in the order of their names

A list of pairs with strictly ascending names stands for a finite map. Names are compared character by character by
code point, which is also the order of their UTF-8 bytes. `put` keeps the order, so equal maps are equal lists.
-/
namespace PolicyProvider

universe u

/-- Named values, ascending by name. -/
abbrev Entries (α : Type u) := List (String × α)

namespace Entries

variable {α : Type u}

def get? (name : String) : List (String × α) → Option α
  | [] => none
  | (k, a) :: rest => if k = name then some a else get? name rest

/-- **The entries with a value put under a name**, in place of any value it had. -/
def put (name : String) (a : α) : List (String × α) → List (String × α)
  | [] => [(name, a)]
  | (k, b) :: rest =>
    if name < k then (name, a) :: (k, b) :: rest
    else if k = name then (name, a) :: rest
    else (k, b) :: put name a rest

/-- Pairs put one after the other: a name given twice keeps its last value. -/
def ofList (pairs : List (String × α)) : List (String × α) :=
  pairs.foldl (fun es p => put p.1 p.2 es) []

/-- The names, ascending. -/
def names (es : List (String × α)) : List String := es.map (·.1)

end Entries
end PolicyProvider
