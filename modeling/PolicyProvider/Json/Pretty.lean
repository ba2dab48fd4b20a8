import PolicyProvider.Json.Reader
/-!
# Pretty — JSON laid out for people

One item or member a line, two blanks deeper than the container around it; an empty container stays closed.
-/
namespace PolicyProvider
namespace Json
namespace Tree

def lineAt (depth : Nat) : List Char := '\n' :: List.replicate (2 * depth) ' '

mutual

/-- **A tree laid out over lines**, at a depth. -/
def prettyAt (depth : Nat) : Tree → List Char
  | .array [] => ['[', ']']
  | .array (t :: rest) => '[' :: prettyItems (depth + 1) (t :: rest) ++ lineAt depth ++ [']']
  | .object [] => ['{', '}']
  | .object (m :: rest) => '{' :: prettyMembers (depth + 1) (m :: rest) ++ lineAt depth ++ ['}']
  | .null => Token.written .null
  | .bool b => Token.written (.bool b)
  | .number n => Token.written (.number n)
  | .string pieces => Token.written (.string pieces)

def prettyItems (depth : Nat) : List Tree → List Char
  | [] => []
  | [t] => lineAt depth ++ prettyAt depth t
  | t :: rest => lineAt depth ++ prettyAt depth t ++ ',' :: prettyItems depth rest

def prettyMembers (depth : Nat) : List (List Piece × Tree) → List Char
  | [] => []
  | [(key, t)] => lineAt depth ++ Token.written (.string key) ++ ':' :: ' ' :: prettyAt depth t
  | (key, t) :: rest =>
    lineAt depth ++ Token.written (.string key) ++ ':' :: ' ' :: prettyAt depth t ++ ',' :: prettyMembers depth rest

end

def pretty (t : Tree) : List Char := prettyAt 0 t

end Tree
end Json
end PolicyProvider
