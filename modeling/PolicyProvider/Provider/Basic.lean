import PolicyProvider.Provider.CustomAttributeResource
import PolicyProvider.Provider.Settings
/-!
# Provider — the resources of a policy manager

A provider is configured with a block and then hands its access to the resources it makes.
-/
namespace PolicyProvider

/-- A provider, with access to a manager once it is configured. -/
structure Provider where
  access : Option ProviderAccess := Option.none

inductive ProviderError where
  | notConfigured
  | unknownResource (name : String)
  | rejected (d : Diagnostic)

def ProviderError.message : ProviderError → String
  | .notConfigured => "Provider not configured"
  | .unknownResource name => "Resource type not found: " ++ name
  | .rejected d => d.summary ++ ": " ++ d.detail

namespace Provider

def typeName : String := "nsxt"

/-- **The attributes of the provider block.** -/
def schema : Schema where
  version := 0
  description := "VMware NSX-T Policy provider"
  attributes := [
    { name := "host", type := .string, description := "NSX Manager host name or URL", optional := true },
    { name := "username", type := .string, optional := true },
    { name := "password", type := .string, optional := true, sensitive := true },
    { name := "allow_unverified_ssl", type := .bool, description := "Skip TLS certificate verification",
      optional := true },
    { name := "global_manager", type := .bool, description := "Target is a Global Manager of a federated deployment",
      optional := true },
    { name := "request_timeout", type := .number, description := "Per-request timeout in seconds", optional := true }]

def resourceTypes : List String := [CustomAttributeResource.typeName]

/-- The answer to a configuration: its problems, or the access it gave. -/
structure ConfigureResponse where
  diagnostics : List Diagnostic := []
  access : Option ProviderAccess := Option.none

/-- **Configures the provider.** One that cannot be configured keeps the access it had. -/
def configure (p : Provider) (env : Environment) (block : Value) : ConfigureResponse × Provider :=
  match Settings.resolve env block with
  | .error problems => ({ diagnostics := problems }, p)
  | .ok s => match Client.connect s.connection with
    | .error e => ({ diagnostics := [.error "Failed to create API client" e.message] }, p)
    | .ok client =>
      let access : ProviderAccess := ⟨client, .ofGlobal s.globalManager⟩
      ({ access := some access }, ⟨some access⟩)

/-- **A resource of a type, with the provider's access.** -/
def resource (p : Provider) (name : String) : Except ProviderError CustomAttributeResource :=
  match p.access with
  | Option.none => .error .notConfigured
  | some a =>
    if name ∈ resourceTypes then
      match CustomAttributeResource.configure {} (.access a) with
      | (r, []) => .ok r
      | (_, d :: _) => .error (.rejected d)
    else .error (.unknownResource name)

end Provider
end PolicyProvider
