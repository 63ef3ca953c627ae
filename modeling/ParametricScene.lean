import ParametricScene.Arithmetic
import ParametricScene.Command.Argument
import ParametricScene.Command.Invocation
import ParametricScene.Command.Run
import ParametricScene.Command.Virtual
import ParametricScene.Context
import ParametricScene.Decimal.Binary
import ParametricScene.Decimal.Fixed
import ParametricScene.Decimal.Format
import ParametricScene.Decimal.Reader
import ParametricScene.Decimal.Shortest
import ParametricScene.Distribution
import ParametricScene.Document.Basic
import ParametricScene.Document.Decoder
import ParametricScene.EvalError
import ParametricScene.Evaluation
import ParametricScene.Evaluator
import ParametricScene.Formula.Basic
import ParametricScene.Formula.Lowering
import ParametricScene.Formula.Parser
import ParametricScene.Formula.Token
import ParametricScene.Function.Builtin
import ParametricScene.Function.Registry
import ParametricScene.Geometry.Box
import ParametricScene.Geometry.Factory
import ParametricScene.Geometry.Matrix
import ParametricScene.Geometry.Mesh
import ParametricScene.Geometry.Placement
import ParametricScene.Geometry.PlacementSpec
import ParametricScene.Geometry.Primitive
import ParametricScene.Geometry.Scalar
import ParametricScene.Geometry.Tessellation
import ParametricScene.Geometry.Vector
import ParametricScene.Json.Basic
import ParametricScene.Json.Number
import ParametricScene.Json.Printer
import ParametricScene.Json.Reader
import ParametricScene.Label
import ParametricScene.Main
import ParametricScene.Material.Definition
import ParametricScene.Material.Library
import ParametricScene.OrderedMap
import ParametricScene.Parameter
import ParametricScene.Proofs.Acceptance
import ParametricScene.Proofs.Alphabet
import ParametricScene.Proofs.Amending
import ParametricScene.Proofs.Arena
import ParametricScene.Proofs.Assignments
import ParametricScene.Proofs.Boundary
import ParametricScene.Proofs.Canonical
import ParametricScene.Proofs.Checking
import ParametricScene.Proofs.Choices
import ParametricScene.Proofs.Clearing
import ParametricScene.Proofs.ColorText
import ParametricScene.Proofs.Conformity
import ParametricScene.Proofs.Delimiting
import ParametricScene.Proofs.Descent
import ParametricScene.Proofs.Editing
import ParametricScene.Proofs.Enclosure
import ParametricScene.Proofs.Enrolment
import ParametricScene.Proofs.ExactText
import ParametricScene.Proofs.Extent
import ParametricScene.Proofs.Factories
import ParametricScene.Proofs.Fingerprint
import ParametricScene.Proofs.Finiteness
import ParametricScene.Proofs.Forest
import ParametricScene.Proofs.Forgetting
import ParametricScene.Proofs.Grammar
import ParametricScene.Proofs.Growth
import ParametricScene.Proofs.Indexing
import ParametricScene.Proofs.Likeness
import ParametricScene.Proofs.Listing
import ParametricScene.Proofs.Literals
import ParametricScene.Proofs.Locality
import ParametricScene.Proofs.Magnitude
import ParametricScene.Proofs.Maps
import ParametricScene.Proofs.Memory
import ParametricScene.Proofs.Mentions
import ParametricScene.Proofs.Mirror
import ParametricScene.Proofs.Nesting
import ParametricScene.Proofs.NodeCount
import ParametricScene.Proofs.NumberText
import ParametricScene.Proofs.Ordering
import ParametricScene.Proofs.Outline
import ParametricScene.Proofs.Parsing
import ParametricScene.Proofs.Persistence
import ParametricScene.Proofs.ReadingBack
import ParametricScene.Proofs.Rebuilding
import ParametricScene.Proofs.Refusal
import ParametricScene.Proofs.Regeneration
import ParametricScene.Proofs.Registry
import ParametricScene.Proofs.Rendering
import ParametricScene.Proofs.Resources
import ParametricScene.Proofs.Rounding
import ParametricScene.Proofs.Scanning
import ParametricScene.Proofs.Session
import ParametricScene.Proofs.Spelling
import ParametricScene.Proofs.Statistics
import ParametricScene.Proofs.Surroundings
import ParametricScene.Proofs.Tally
import ParametricScene.Proofs.Transparency
import ParametricScene.Proofs.Tree
import ParametricScene.Proofs.Truncation
import ParametricScene.Proofs.Unrolling
import ParametricScene.Proofs.World
import ParametricScene.Proofs.Wrapping
import ParametricScene.Report.Json
import ParametricScene.Report.Text
import ParametricScene.Scene.Basic
import ParametricScene.Scene.Build
import ParametricScene.Scene.Graph
import ParametricScene.Scene.Recorder
import ParametricScene.Scene.Session
import ParametricScene.Settings.Basic
import ParametricScene.Settings.File
import ParametricScene.Severity
import ParametricScene.Source
import ParametricScene.Template.Basic
import ParametricScene.Template.Constraint
import ParametricScene.Template.Expansion
import ParametricScene.Text.Assigned
import ParametricScene.Text.Blank
import ParametricScene.Text.Combining
import ParametricScene.Text.Printable
import ParametricScene.Text.Quoted
import ParametricScene.Toml.Reader
import ParametricScene.Toml.Table
import ParametricScene.Toml.Text
import ParametricScene.Toml.Value
import ParametricScene.Value
