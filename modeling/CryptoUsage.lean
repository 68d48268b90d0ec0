import CryptoUsage.Catalog.Authoring
import CryptoUsage.Catalog.Matcher
import CryptoUsage.Catalog.Rule
import CryptoUsage.Catalog.Value
import CryptoUsage.Config.Document
import CryptoUsage.Config.File
import CryptoUsage.Config.JsonText
import CryptoUsage.Config.Limits
import CryptoUsage.Config.Yaml.Document
import CryptoUsage.Config.Yaml.Lexer
import CryptoUsage.Config.Yaml.Node
import CryptoUsage.Config.Yaml.Scalar
import CryptoUsage.Config.Yaml.Source
import CryptoUsage.Config.Yaml.Tag
import CryptoUsage.Config.Yaml.Token
import CryptoUsage.Detection.Matching
import CryptoUsage.Detection.Plan
import CryptoUsage.Detection.Resolution
import CryptoUsage.Detection.Trace
import CryptoUsage.FrontEnd.JavaExpressions
import CryptoUsage.FrontEnd.JavaNames
import CryptoUsage.FrontEnd.JavaScopes
import CryptoUsage.FrontEnd.JavaTypes
import CryptoUsage.FrontEnd.PythonExpressions
import CryptoUsage.FrontEnd.PythonScopes
import CryptoUsage.FrontEnd.PythonTypes
import CryptoUsage.FrontEnd.Unit
import CryptoUsage.Hooks.Repository
import CryptoUsage.Numeral
import CryptoUsage.Program.Answer
import CryptoUsage.Program.Constant
import CryptoUsage.Program.Imports
import CryptoUsage.Program.Json
import CryptoUsage.Program.ObjectType
import CryptoUsage.Program.Shape
import CryptoUsage.Program.Unit
import CryptoUsage.Proofs.Arena.Ancestry
import CryptoUsage.Proofs.Arena.Checked
import CryptoUsage.Proofs.Arena.Completing
import CryptoUsage.Proofs.Arena.Filing
import CryptoUsage.Proofs.Arena.Framing
import CryptoUsage.Proofs.Arena.Growth
import CryptoUsage.Proofs.Arena.Histories
import CryptoUsage.Proofs.Arena.HookRoots
import CryptoUsage.Proofs.Arena.Links
import CryptoUsage.Proofs.Arena.Lookup
import CryptoUsage.Proofs.Arena.Mirroring
import CryptoUsage.Proofs.Arena.Projection
import CryptoUsage.Proofs.Arena.Remit
import CryptoUsage.Proofs.Arena.Renaming
import CryptoUsage.Proofs.Arena.Rollback
import CryptoUsage.Proofs.Arena.Snapshots
import CryptoUsage.Proofs.Arena.Trees
import CryptoUsage.Proofs.Catalog.Depth
import CryptoUsage.Proofs.Catalog.WellFormed
import CryptoUsage.Proofs.Comments.Findings
import CryptoUsage.Proofs.Comments.JavaExpressions
import CryptoUsage.Proofs.Comments.JavaNames
import CryptoUsage.Proofs.Comments.JavaScopes
import CryptoUsage.Proofs.Comments.JavaTypes
import CryptoUsage.Proofs.Comments.PythonExpressions
import CryptoUsage.Proofs.Comments.PythonScopes
import CryptoUsage.Proofs.Comments.PythonTypes
import CryptoUsage.Proofs.Comments.Unit
import CryptoUsage.Proofs.Config.JsonReading
import CryptoUsage.Proofs.Config.Loading
import CryptoUsage.Proofs.Config.YamlReading
import CryptoUsage.Proofs.Detection.Strictness
import CryptoUsage.Proofs.FrontEnd.Arguments
import CryptoUsage.Proofs.FrontEnd.Assignments
import CryptoUsage.Proofs.FrontEnd.Dispatch
import CryptoUsage.Proofs.FrontEnd.Grammar
import CryptoUsage.Proofs.FrontEnd.Inheritance
import CryptoUsage.Proofs.FrontEnd.JavaVariables
import CryptoUsage.Proofs.FrontEnd.Nodes
import CryptoUsage.Proofs.FrontEnd.Operands
import CryptoUsage.Proofs.FrontEnd.PythonReassignments
import CryptoUsage.Proofs.FrontEnd.PythonVariables
import CryptoUsage.Proofs.FrontEnd.Qualification
import CryptoUsage.Proofs.FrontEnd.Signs
import CryptoUsage.Proofs.FrontEnd.Supertypes
import CryptoUsage.Proofs.FrontEnd.TypeNames
import CryptoUsage.Proofs.FrontEnd.TypeQuestions
import CryptoUsage.Proofs.Hooks.Mirroring
import CryptoUsage.Proofs.Hooks.Observing
import CryptoUsage.Proofs.Hooks.Places
import CryptoUsage.Proofs.Hooks.Registration
import CryptoUsage.Proofs.Hooks.Requests
import CryptoUsage.Proofs.Hooks.Waiting
import CryptoUsage.Proofs.Isolation.Course
import CryptoUsage.Proofs.Isolation.Events
import CryptoUsage.Proofs.Isolation.Frame
import CryptoUsage.Proofs.Isolation.Independence
import CryptoUsage.Proofs.Isolation.Lockstep
import CryptoUsage.Proofs.Renumbering.Evaluation
import CryptoUsage.Proofs.Renumbering.Resolution
import CryptoUsage.Proofs.Renumbering.Run
import CryptoUsage.Proofs.Renumbering.State
import CryptoUsage.Proofs.Renumbering.Unit
import CryptoUsage.Proofs.Resolution.Arrays
import CryptoUsage.Proofs.Resolution.Casting
import CryptoUsage.Proofs.Resolution.EnumProperties
import CryptoUsage.Proofs.Resolution.Flow
import CryptoUsage.Proofs.Resolution.GuardedSearch
import CryptoUsage.Proofs.Resolution.Guarding
import CryptoUsage.Proofs.Resolution.Marking
import CryptoUsage.Proofs.Resolution.Selections
import CryptoUsage.Proofs.Resolution.Sources
import CryptoUsage.Proofs.Resolution.Transparency
import CryptoUsage.Proofs.Resolution.Wrappers
import CryptoUsage.Proofs.Scan.Acts
import CryptoUsage.Proofs.Scan.Callers
import CryptoUsage.Proofs.Scan.Chaining
import CryptoUsage.Proofs.Scan.Checked
import CryptoUsage.Proofs.Scan.Collecting
import CryptoUsage.Proofs.Scan.Completion
import CryptoUsage.Proofs.Scan.Confinement
import CryptoUsage.Proofs.Scan.Depth
import CryptoUsage.Proofs.Scan.Discarding
import CryptoUsage.Proofs.Scan.Distinct
import CryptoUsage.Proofs.Scan.Emission
import CryptoUsage.Proofs.Scan.Ending
import CryptoUsage.Proofs.Scan.Evaluating
import CryptoUsage.Proofs.Scan.Exactness
import CryptoUsage.Proofs.Scan.Following
import CryptoUsage.Proofs.Scan.Handover
import CryptoUsage.Proofs.Scan.HookRoots
import CryptoUsage.Proofs.Scan.Liveness
import CryptoUsage.Proofs.Scan.Marking
import CryptoUsage.Proofs.Scan.Progress
import CryptoUsage.Proofs.Scan.Queue
import CryptoUsage.Proofs.Scan.Reasons
import CryptoUsage.Proofs.Scan.Reports
import CryptoUsage.Proofs.Scan.Reserving
import CryptoUsage.Proofs.Scan.Roots
import CryptoUsage.Proofs.Scan.Scopes
import CryptoUsage.Proofs.Scan.Settling
import CryptoUsage.Proofs.Scan.Soundness
import CryptoUsage.Proofs.Scan.Step
import CryptoUsage.Proofs.Scan.Traversal
import CryptoUsage.Proofs.Scan.Values
import CryptoUsage.Proofs.Scan.Warrant
import CryptoUsage.Proofs.Syntax.Comments
import CryptoUsage.Proofs.Syntax.DecimalNumerals
import CryptoUsage.Proofs.Syntax.IntegerLiterals
import CryptoUsage.Proofs.Syntax.Nesting
import CryptoUsage.Scan.Delivery
import CryptoUsage.Scan.Evaluation
import CryptoUsage.Scan.Report
import CryptoUsage.Scan.Run
import CryptoUsage.Scan.Source
import CryptoUsage.Scan.State
import CryptoUsage.Store.Arena
import CryptoUsage.Store.Finding
import CryptoUsage.Store.Slots
import CryptoUsage.Syntax.Language
import CryptoUsage.Syntax.Literal
import CryptoUsage.Syntax.Tree
import CryptoUsage.Text.Blank
import CryptoUsage.Text.CaseMapping
import CryptoUsage.Text.CaseTable
import CryptoUsage.Text.Dotted
import CryptoUsage.Text.Path
import CryptoUsage.Text.Utf8
