import TemplateSite.Text.Blank
import TemplateSite.Text.Letter.Table
import TemplateSite.Text.Case.Table
import TemplateSite.Text.Quoted.Table
import TemplateSite.Text.Letter
import TemplateSite.Text.Case
import TemplateSite.Text.Quoted
import TemplateSite.Text.Entity
import TemplateSite.Text.Utf8
import TemplateSite.Decimal.Layout
import TemplateSite.Decimal.Numeral
import TemplateSite.Data.Access
import TemplateSite.Data.Comparison
import TemplateSite.Data.Description
import TemplateSite.Data.Shape
import TemplateSite.Expression.Term
import TemplateSite.Expression.Lexer
import TemplateSite.Expression.Parser
import TemplateSite.Template.Node
import TemplateSite.Template.Piece
import TemplateSite.Template.Builder
import TemplateSite.Template.Compile
import TemplateSite.Json.Reader
import TemplateSite.Calendar.Writing
import TemplateSite.Calendar.Reading
import TemplateSite.Render.Engine
import TemplateSite.Build.Session
import TemplateSite.Site.CommandLine
import TemplateSite.Main
import TemplateSite.Proofs.Success
import TemplateSite.Proofs.Decimal.Integer
import TemplateSite.Proofs.Template.Adding
import TemplateSite.Proofs.Template.Building
import TemplateSite.Proofs.Template.Regular
import TemplateSite.Proofs.Template.Position
import TemplateSite.Proofs.Template.Transcript
import TemplateSite.Proofs.Template.Preorder
import TemplateSite.Proofs.Expression.Spacing
import TemplateSite.Proofs.Template.Closing
import TemplateSite.Proofs.Template.Spelling
import TemplateSite.Proofs.Template.RoundTrip
import TemplateSite.Proofs.Template.Everywhere
import TemplateSite.Proofs.Render.Matching
import TemplateSite.Proofs.Render.Evaluation
import TemplateSite.Proofs.Render.Simulation
import TemplateSite.Proofs.Render.States
import TemplateSite.Proofs.Render.Caching
import TemplateSite.Proofs.Render.Strictness
import TemplateSite.Proofs.Render.Iteration
import TemplateSite.Proofs.Render.LayoutChain
import TemplateSite.Proofs.Dependency.Walk
import TemplateSite.Proofs.Dependency.Coverage
import TemplateSite.Proofs.Render.Trees
import TemplateSite.Proofs.Render.Restoring
import TemplateSite.Proofs.Render.Depth
import TemplateSite.Proofs.Render.Reading
import TemplateSite.Proofs.Build.History
import TemplateSite.Proofs.Expression.Grammar
import TemplateSite.Proofs.Expression.Spelling
import TemplateSite.Proofs.Expression.RoundTrip
import TemplateSite.Proofs.Expression.Exactness
import TemplateSite.Proofs.Template.Following
import TemplateSite.Proofs.Template.Refusal
import TemplateSite.Proofs.Template.Nesting
import TemplateSite.Proofs.Template.Shifting
import TemplateSite.Proofs.Template.Grafting
import TemplateSite.Proofs.Template.Concatenation
import TemplateSite.Proofs.Template.Overlap
import TemplateSite.Proofs.Offset.Slice
import TemplateSite.Proofs.Offset.Tokens
import TemplateSite.Proofs.Offset.Walk
import TemplateSite.Proofs.Offset.Stacks
import TemplateSite.Proofs.Offset.Searches
import TemplateSite.Proofs.Offset.Agreement
import TemplateSite.Proofs.Dependency.Rounds
import TemplateSite.Proofs.Build.Callback
import TemplateSite.Proofs.Files.Naming
import TemplateSite.Proofs.Site.Interleaving
import TemplateSite.Proofs.Files.Tree
import TemplateSite.Proofs.Site.Outcome
import TemplateSite.Proofs.Site.Discovery
import TemplateSite.Proofs.Site.Isolation
import TemplateSite.Proofs.Files.Stem
import TemplateSite.Proofs.Files.Writing
import TemplateSite.Proofs.Site.Writing
import TemplateSite.Proofs.Template.Unlining
import TemplateSite.Proofs.Template.Trimming
import TemplateSite.Proofs.Template.Standalone
import TemplateSite.Proofs.Render.Lines
import TemplateSite.Proofs.Render.Regions
import TemplateSite.Proofs.Render.Faults
import TemplateSite.Proofs.Render.Boundary
import TemplateSite.Proofs.Render.Conditionals
import TemplateSite.Proofs.Render.Arithmetic
import TemplateSite.Proofs.Render.Ranges
import TemplateSite.Proofs.Render.Window
import TemplateSite.Proofs.Text.Octets
import TemplateSite.Proofs.Decimal.Rounding
import TemplateSite.Proofs.Decimal.Double
import TemplateSite.Proofs.Render.Comparison
import TemplateSite.Proofs.Render.Sequences
import TemplateSite.Proofs.Data.Obstacles
import TemplateSite.Proofs.Data.Describing
import TemplateSite.Proofs.Text.Entities
import TemplateSite.Proofs.Offset.Quotes
import TemplateSite.Proofs.Render.Membership
import TemplateSite.Proofs.Expression.Written
import TemplateSite.Proofs.Template.References
