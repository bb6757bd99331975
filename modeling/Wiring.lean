import Wiring.Binding
import Wiring.Catalog.Ancestry
import Wiring.Catalog.Basic
import Wiring.Catalog.TypeInfo
import Wiring.Cell.Bank
import Wiring.Cell.Basic
import Wiring.Compilation.Basic
import Wiring.Compilation.Bindings
import Wiring.Compilation.Currying
import Wiring.Compilation.Discovery
import Wiring.Compilation.Session
import Wiring.CompileError
import Wiring.Counting
import Wiring.Declaration.Basic
import Wiring.Declaration.Text
import Wiring.Identifier
import Wiring.Json.Basic
import Wiring.Json.Parser
import Wiring.Json.Plan
import Wiring.Json.Printer
import Wiring.Json.Types
import Wiring.Key
import Wiring.Ordered
import Wiring.Plan.Basic
import Wiring.Plan.Cycle
import Wiring.Proofs.Compilation.Growth
import Wiring.Proofs.Compilation.References
import Wiring.Proofs.Compilation.Resolution
import Wiring.Proofs.CompiledScope
import Wiring.Proofs.EagerGraph
import Wiring.Proofs.PlainNames
import Wiring.Proofs.Scope.Conduct
import Wiring.Proofs.Scope.Conforming
import Wiring.Proofs.Scope.EagerReads
import Wiring.Proofs.Scope.Level
import Wiring.Proofs.Scope.Provenance
import Wiring.Proofs.Scope.Runs
import Wiring.Proofs.Scope.Simulation
import Wiring.Proofs.Scope.Table
import Wiring.Qualifier
import Wiring.Reply
import Wiring.RuntimeError
import Wiring.Scope.Access
import Wiring.Scope.Depth
import Wiring.Scope.Instance
import Wiring.Scope.Opening
import Wiring.Scope.Operation
import Wiring.Scope.Program
import Wiring.Scope.State
import Wiring.Scope.Text
import Wiring.Script.CellClient
import Wiring.Script.CellRecipe
import Wiring.Script.Client
import Wiring.Script.Closer
import Wiring.Script.Routine
import Wiring.Script.Value
import Wiring.Success
import Wiring.Suggestion
import Wiring.Teardown
import Wiring.Text.CaseData
import Wiring.Text.InvisibleData
import Wiring.Text.Layout
import Wiring.Text.Lowercase
import Wiring.Text.Quoted
import Wiring.TypeExpr
import Wiring.Proofs.Scope.Chronicle
import Wiring.Proofs.Scope.Passage
import Wiring.Proofs.Scope.Creation
import Wiring.Proofs.Scope.Ownership
import Wiring.Proofs.Scope.Evaluation
import Wiring.Proofs.Scope.Memoization
import Wiring.Proofs.Compilation.Locality
import Wiring.Proofs.Compilation.Draining
import Wiring.Proofs.Compilation.Reordering
import Wiring.Proofs.DeclarationOrder
import Wiring.Proofs.CanonicalTags
import Wiring.Proofs.KeyIdentity
import Wiring.Proofs.FirstOccurrences
import Wiring.Proofs.Compilation.Contribution
import Wiring.Proofs.Compilation.Gathering
import Wiring.Proofs.Compilation.Generation
import Wiring.Proofs.PlannedSlots
import Wiring.Proofs.Compilation.Bookkeeping
import Wiring.Proofs.UniqueSlots
import Wiring.Proofs.Compilation.Fitting
import Wiring.Proofs.Scope.Handover
import Wiring.Proofs.Scope.Handing
import Wiring.Proofs.ArgumentKinds
import Wiring.Proofs.Catalog.Lineage
import Wiring.Proofs.Catalog.Rearrangement
import Wiring.Proofs.CatalogOrder
import Wiring.Proofs.Cell.History
import Wiring.Proofs.Cell.Settling
import Wiring.Proofs.Cell.Unrolling
import Wiring.Proofs.Cell.Unwinding
import Wiring.Proofs.MemoizingCells
import Wiring.Proofs.Scope.Cellwise
import Wiring.Proofs.Scope.Footprint
import Wiring.Proofs.Scope.Grounding
import Wiring.Proofs.Scope.Shutting
import Wiring.Proofs.ClosedOnce
import Wiring.Proofs.ClosedScope
import Wiring.Proofs.EagerClosure
import Wiring.Proofs.CanonicalList
import Wiring.Proofs.Json.Forms
import Wiring.Proofs.Json.Types
import Wiring.Proofs.Json.Plans
import Wiring.Proofs.RoundTrip
import Wiring.Proofs.Compilation.Matching
import Wiring.Proofs.CurriedArguments
import Wiring.Proofs.Compilation.Demands
import Wiring.Proofs.ExplicitValues
import Wiring.Proofs.CurriedCalls
import Wiring.Proofs.SupertypeSearch
import Wiring.Proofs.TagSets
import Wiring.Proofs.ScopeOpening
import Wiring.Proofs.Compilation.Assembly
import Wiring.Proofs.DeclaredValue
import Wiring.Proofs.RepeatedSearch
import Wiring.Proofs.ServedSlots
import Wiring.Proofs.AliasDeclarations
import Wiring.Proofs.PassedFailures
import Wiring.Proofs.MissingArguments
import Wiring.Proofs.SuggestedNames
import Wiring.Proofs.SuggestionPriority
