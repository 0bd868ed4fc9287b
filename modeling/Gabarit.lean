import Gabarit.Artifact.Json
import Gabarit.Artifact.Reader
import Gabarit.Artifact.Writer
import Gabarit.Calendar.Date
import Gabarit.Calendar.Format
import Gabarit.Calendar.Timestamp
import Gabarit.Charset.Basic
import Gabarit.Charset.ByteTable
import Gabarit.Charset.NameTable
import Gabarit.Charset.Utf8
import Gabarit.Charset.Wide
import Gabarit.Command.Arguments
import Gabarit.Command.Assignment
import Gabarit.Command.Run
import Gabarit.Disk.Basic
import Gabarit.Disk.Glob
import Gabarit.Disk.Path
import Gabarit.Disk.Write
import Gabarit.Engine.Basic
import Gabarit.Engine.Cache
import Gabarit.Engine.Config
import Gabarit.Engine.Layout
import Gabarit.Error
import Gabarit.Expression.Basic
import Gabarit.Expression.Formatted
import Gabarit.Expression.Literal
import Gabarit.Expression.Operator
import Gabarit.Expression.Parser
import Gabarit.Expression.Token
import Gabarit.Fault
import Gabarit.Filter.Basic
import Gabarit.Filter.Registry
import Gabarit.Filter.Standard
import Gabarit.Main
import Gabarit.Number.Binary64
import Gabarit.Number.Numeral
import Gabarit.Number.Shortest
import Gabarit.Proofs.Block.Link
import Gabarit.Proofs.Block.Nesting
import Gabarit.Proofs.Block.Offending
import Gabarit.Proofs.Command.Assignment
import Gabarit.Proofs.Command.Output
import Gabarit.Proofs.Engine.Accepted
import Gabarit.Proofs.Engine.Again
import Gabarit.Proofs.Engine.CompileEach
import Gabarit.Proofs.Engine.Corrupt
import Gabarit.Proofs.Engine.Escapes
import Gabarit.Proofs.Engine.Frame
import Gabarit.Proofs.Engine.History
import Gabarit.Proofs.Engine.Interleaving
import Gabarit.Proofs.Engine.Warm
import Gabarit.Proofs.Render.Bounds
import Gabarit.Proofs.Render.Concatenation
import Gabarit.Proofs.Render.Mentioned
import Gabarit.Proofs.Render.Performed
import Gabarit.Proofs.Render.Scopes
import Gabarit.Proofs.Render.Simulation
import Gabarit.Proofs.Render.Truncation
import Gabarit.Proofs.Render.Watched
import Gabarit.Proofs.Template.Condition
import Gabarit.Proofs.Template.FilterCall
import Gabarit.Proofs.Template.Path
import Gabarit.Proofs.Template.Pipeline
import Gabarit.Proofs.Template.Placeholder
import Gabarit.Proofs.Text.Markup
import Gabarit.Proofs.Text.Tags
import Gabarit.Render.Context
import Gabarit.Render.Renderer
import Gabarit.Render.Run
import Gabarit.Template.Compile
import Gabarit.Template.Condition
import Gabarit.Template.FilterCall
import Gabarit.Template.Path
import Gabarit.Template.Program
import Gabarit.Template.Segment
import Gabarit.Text.Basic
import Gabarit.Text.Case
import Gabarit.Text.CaseTable
import Gabarit.Text.CharName
import Gabarit.Text.CharNameTable
import Gabarit.Text.Compatibility
import Gabarit.Text.CompatibilityTable
import Gabarit.Text.Escape
import Gabarit.Text.Identifier
import Gabarit.Text.IdentifierTable
import Gabarit.Text.Markup
import Gabarit.Text.Printable
import Gabarit.Text.Quoted
import Gabarit.Text.Span
import Gabarit.Value.Basic
import Gabarit.Value.Equal
import Gabarit.Value.Json
import Gabarit.Value.Lookup
import Gabarit.Value.Order
import Gabarit.Value.Source
import Gabarit.Value.Text
import Gabarit.Yaml.Basic
import Gabarit.Yaml.Document
import Gabarit.Yaml.Implicit
import Gabarit.Yaml.Load
import Gabarit.Yaml.Position
import Gabarit.Yaml.Scalar
import Gabarit.Yaml.Token
