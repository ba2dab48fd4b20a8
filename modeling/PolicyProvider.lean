import PolicyProvider.CommandLine.Arguments
import PolicyProvider.CommandLine.Grammar
import PolicyProvider.CommandLine.Reading
import PolicyProvider.CommandLine.Run
import PolicyProvider.Diagnostic
import PolicyProvider.Entries
import PolicyProvider.Json.Datum
import PolicyProvider.Json.Numeral
import PolicyProvider.Json.Pretty
import PolicyProvider.Json.Reader
import PolicyProvider.Json.Record
import PolicyProvider.Json.Token
import PolicyProvider.Json.Tree
import PolicyProvider.Main
import PolicyProvider.Manager.Address
import PolicyProvider.Manager.Client
import PolicyProvider.Manager.DomainLabel
import PolicyProvider.Manager.Fault
import PolicyProvider.Manager.Host
import PolicyProvider.Manager.Query
import PolicyProvider.Manager.Response
import PolicyProvider.Member.Collection
import PolicyProvider.Member.CustomAttributes
import PolicyProvider.Member.Error
import PolicyProvider.Member.Id
import PolicyProvider.Member.InMemory
import PolicyProvider.Member.Lifecycle
import PolicyProvider.Member.Program
import PolicyProvider.Member.Scan
import PolicyProvider.Number.Binary64
import PolicyProvider.Number.Decimal
import PolicyProvider.Number.Duration
import PolicyProvider.Policy.CustomAttributeApi
import PolicyProvider.Policy.GlobalPolicy
import PolicyProvider.Policy.LocalPolicy
import PolicyProvider.Policy.Topology
import PolicyProvider.Proofs.Entries
import PolicyProvider.Proofs.InMemory.Calls
import PolicyProvider.Proofs.InMemory.Effect
import PolicyProvider.Proofs.InMemory.Growth
import PolicyProvider.Proofs.InMemory.Independence
import PolicyProvider.Proofs.InMemory.Paging
import PolicyProvider.Proofs.InMemory.Slices
import PolicyProvider.Proofs.InMemory.Store
import PolicyProvider.Proofs.Json.Numeral
import PolicyProvider.Proofs.Json.Record
import PolicyProvider.Proofs.Json.Text
import PolicyProvider.Proofs.Manager.Listing
import PolicyProvider.Proofs.Manager.Query
import PolicyProvider.Proofs.Member.Absence
import PolicyProvider.Proofs.Member.Chain
import PolicyProvider.Proofs.Member.Cursors
import PolicyProvider.Proofs.Member.CustomAttributes
import PolicyProvider.Proofs.Member.Discipline
import PolicyProvider.Proofs.Member.Interleaving
import PolicyProvider.Proofs.Member.Naming
import PolicyProvider.Proofs.Member.Operation
import PolicyProvider.Proofs.Member.Run
import PolicyProvider.Proofs.Member.Scan
import PolicyProvider.Proofs.Member.Script
import PolicyProvider.Proofs.Member.Transparency
import PolicyProvider.Proofs.Number.Digit
import PolicyProvider.Proofs.Policy.Conversion
import PolicyProvider.Proofs.Policy.Mirror
import PolicyProvider.Proofs.Text.Percent
import PolicyProvider.Proofs.Text.Utf8
import PolicyProvider.Provider.Basic
import PolicyProvider.Provider.CustomAttributeResource
import PolicyProvider.Provider.Import
import PolicyProvider.Provider.Settings
import PolicyProvider.Schema.Basic
import PolicyProvider.Schema.Modifier
import PolicyProvider.Schema.Plan
import PolicyProvider.Schema.Validator
import PolicyProvider.Schema.ValueType
import PolicyProvider.Text.Base64
import PolicyProvider.Text.CombiningMark
import PolicyProvider.Text.Composition
import PolicyProvider.Text.Direction
import PolicyProvider.Text.GraphemeExtend
import PolicyProvider.Text.Hex
import PolicyProvider.Text.Joining
import PolicyProvider.Text.LabelCharacter
import PolicyProvider.Text.Percent
import PolicyProvider.Text.Punycode
import PolicyProvider.Text.Quoted
import PolicyProvider.Text.Range
import PolicyProvider.Text.Unprintable
import PolicyProvider.Text.Utf8
import PolicyProvider.Value.Basic
import PolicyProvider.Value.Json
import PolicyProvider.Value.MessagePack
import PolicyProvider.Value.Path
import PolicyProvider.Proofs.Value.Basic
import PolicyProvider.Proofs.Schema.Plan
import PolicyProvider.Proofs.Provider.State
import PolicyProvider.Proofs.Provider.Replacement
import PolicyProvider.Proofs.Value.MessagePack
import PolicyProvider.Proofs.Number.Decimal
import PolicyProvider.Proofs.Json.NumeralText
import PolicyProvider.Proofs.Value.Json
import PolicyProvider.Proofs.Value.Lens
import PolicyProvider.Proofs.Schema.Locality
import PolicyProvider.Proofs.Schema.PartType
import PolicyProvider.Proofs.Schema.Stability
import PolicyProvider.Proofs.Schema.Typing
import PolicyProvider.Proofs.Provider.Outcome
import PolicyProvider.Proofs.Provider.Creation
import PolicyProvider.Proofs.Provider.Operation
import PolicyProvider.Proofs.Member.Asking
import PolicyProvider.Proofs.Number.Duration
import PolicyProvider.Proofs.Provider.Settings
