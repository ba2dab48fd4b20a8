import PolicyProvider.Value.Path
/-!
# Diagnostic — what is reported back about a configuration or an operation

A diagnostic is an error or a warning with a summary, a detail and, where one attribute is to blame, its path.
-/
namespace PolicyProvider

inductive Severity where
  | error
  | warning
deriving DecidableEq

structure Diagnostic where
  severity : Severity
  summary : String
  detail : String
  attribute? : Option Path := none
deriving DecidableEq

namespace Diagnostic

def error (summary detail : String) : Diagnostic := ⟨.error, summary, detail, none⟩

def errorAt (path : Path) (summary detail : String) : Diagnostic := ⟨.error, summary, detail, some path⟩

def warning (summary detail : String) : Diagnostic := ⟨.warning, summary, detail, none⟩

def isError (d : Diagnostic) : Bool := d.severity = .error

def hasErrors (ds : List Diagnostic) : Bool := ds.any isError

end Diagnostic
end PolicyProvider
