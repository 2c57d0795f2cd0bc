import TemplateEngine.Decimal.Notation
import TemplateEngine.Decimal.Reading
import TemplateEngine.Decimal.Remainder
import TemplateEngine.Text.Case
import TemplateEngine.Json.Basic
import TemplateEngine.Json.Number
import TemplateEngine.Json.Printer
import TemplateEngine.Json.Parser
import TemplateEngine.Template.Part
import TemplateEngine.Template.Tag
import TemplateEngine.Template.Directive
import TemplateEngine.Template.Excerpt
import TemplateEngine.Expr.Basic
import TemplateEngine.Expr.Lexeme
import TemplateEngine.Expr.Parser
import TemplateEngine.Expr.RootPath
import TemplateEngine.Error
import TemplateEngine.Digest
import TemplateEngine.Path
import TemplateEngine.Recent
import TemplateEngine.Section.Scope
import TemplateEngine.Section.Stack
import TemplateEngine.Value
import TemplateEngine.Graph
import TemplateEngine.Template.Compiled
import TemplateEngine.Config
import TemplateEngine.Context
import TemplateEngine.Journal
import TemplateEngine.Store
import TemplateEngine.Builtins
import TemplateEngine.Expr.Eval
import TemplateEngine.Engine.Basic
import TemplateEngine.Engine.Invocation
import TemplateEngine.Engine.Render
import TemplateEngine.Source.Memory
import TemplateEngine.Hook
import TemplateEngine.Query
import TemplateEngine.Source.Files
import TemplateEngine.Toml.Parser
import TemplateEngine.Project
import TemplateEngine.RenderCommand
import TemplateEngine.Http.Site
import TemplateEngine.Main
import TemplateEngine.Proofs.Render.Operations
import TemplateEngine.Proofs.Error
import TemplateEngine.Proofs.Render.Sound
import TemplateEngine.Proofs.Expr.Respects
import TemplateEngine.Proofs.Render.Contract
import TemplateEngine.Proofs.Engine.Contract
import TemplateEngine.Proofs.Engine.Balance
import TemplateEngine.Proofs.Engine.Caching
import TemplateEngine.Proofs.Engine.Taking
import TemplateEngine.Proofs.Engine.Ending
import TemplateEngine.Proofs.Engine.Isolation
import TemplateEngine.Proofs.Engine.Waiting
import TemplateEngine.Proofs.Signal
import TemplateEngine.Proofs.Engine.Redirect
import TemplateEngine.Proofs.Engine.Expansion
import TemplateEngine.Proofs.Render.Alike
import TemplateEngine.Proofs.Engine.Preparation
import TemplateEngine.Proofs.Section.Routing
import TemplateEngine.Proofs.Engine.Tracking
import TemplateEngine.Proofs.Engine.Tree
import TemplateEngine.Proofs.Engine.Plain
import TemplateEngine.Proofs.Engine.Page
import TemplateEngine.Proofs.Engine.Frame
import TemplateEngine.Proofs.Engine.Printing
import TemplateEngine.Proofs.Engine.Filled
import TemplateEngine.Proofs.Template.Quoting
import TemplateEngine.Proofs.Template.Partition
import TemplateEngine.Proofs.Template.Bytes
import TemplateEngine.Proofs.Engine.Respects
import TemplateEngine.Proofs.Template.Embedding
import TemplateEngine.Proofs.Expr.Spelling
import TemplateEngine.Proofs.Expr.Rooting
import TemplateEngine.Proofs.Expr.Lexing
import TemplateEngine.Proofs.Expr.Parsing
import TemplateEngine.Proofs.Expr.Acceptance
import TemplateEngine.Proofs.Expr.Awaits
import TemplateEngine.Proofs.Expr.ReadBack
import TemplateEngine.Proofs.Engine.Content
import TemplateEngine.Proofs.Engine.Echo
import TemplateEngine.Proofs.Engine.Echoing
import TemplateEngine.Proofs.Engine.Entering
import TemplateEngine.Proofs.Engine.Framing
import TemplateEngine.Proofs.Engine.Layouts
import TemplateEngine.Proofs.Engine.Spliced
import TemplateEngine.Proofs.Engine.Undoing
import TemplateEngine.Proofs.Expr.Paths
import TemplateEngine.Proofs.Path
import TemplateEngine.Proofs.Files.Tree
import TemplateEngine.Proofs.Source.Files
import TemplateEngine.Proofs.Section.Operations
import TemplateEngine.Proofs.Render.Rendering
import TemplateEngine.Proofs.Engine.Appending
import TemplateEngine.Proofs.Template.Nesting
import TemplateEngine.Proofs.Engine.Nesting
import TemplateEngine.Proofs.Expr.Chains
import TemplateEngine.Proofs.Expr.Unwrapping
import TemplateEngine.Proofs.Expr.Explicit
import TemplateEngine.Proofs.Graph.Cycles
import TemplateEngine.Proofs.Template.Attributes
import TemplateEngine.Proofs.Template.Uniqueness
import TemplateEngine.Proofs.Template.Tags
import TemplateEngine.Proofs.Template.Directives
import TemplateEngine.Proofs.Template.Exchange
import TemplateEngine.Proofs.Section.Corresponding
import TemplateEngine.Proofs.Render.Agreement
import TemplateEngine.Proofs.Engine.Agreement
import TemplateEngine.Proofs.Engine.Calls
import TemplateEngine.Proofs.Engine.Respelling
import TemplateEngine.Proofs.Path.Normal
import TemplateEngine.Proofs.Path.Combine
import TemplateEngine.Proofs.Engine.Resolving
import TemplateEngine.Proofs.Template.Arguments
import TemplateEngine.Proofs.Engine.Changes
import TemplateEngine.Proofs.Engine.Attributes
import TemplateEngine.Proofs.Hook
import TemplateEngine.Proofs.Graph.RoundTrip
import TemplateEngine.Proofs.Template.Joining
import TemplateEngine.Proofs.Template.Surroundings
import TemplateEngine.Proofs.Value
import TemplateEngine.Proofs.Text.Html
import TemplateEngine.Proofs.Expr.Regions
import TemplateEngine.Proofs.Expr.Literals
import TemplateEngine.Proofs.Expr.SecondPass
import TemplateEngine.Proofs.Expr.Ends
import TemplateEngine.Proofs.Expr.Gaps
import TemplateEngine.Proofs.Error.Wrapped
