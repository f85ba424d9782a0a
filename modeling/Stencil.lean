import Stencil.CommandLine.Arguments
import Stencil.CommandLine.Basic
import Stencil.Compiler.Basic
import Stencil.Compiler.Session
import Stencil.Diagnostic
import Stencil.Dict
import Stencil.Directive.Map
import Stencil.Directive.Name
import Stencil.Double
import Stencil.Ecma.Fault
import Stencil.Ecma.Grammar.Expression
import Stencil.Ecma.Grammar.Function
import Stencil.Ecma.Grammar.Pattern
import Stencil.Ecma.Grammar.Statement
import Stencil.Ecma.Identifier
import Stencil.Ecma.Lexer
import Stencil.Ecma.Parse
import Stencil.Ecma.Script
import Stencil.Ecma.Token
import Stencil.Filter
import Stencil.Frame.Basic
import Stencil.Frame.Canvas
import Stencil.Frame.Margin
import Stencil.Frame.Source
import Stencil.Frame.Width
import Stencil.Interpolation
import Stencil.Json.Basic
import Stencil.Json.Codec
import Stencil.Json.Pretty
import Stencil.Json.Reader
import Stencil.LoopHeader
import Stencil.Main
import Stencil.Module.Basic
import Stencil.Module.Class
import Stencil.Module.Model
import Stencil.Options
import Stencil.Problem
import Stencil.Procedure
import Stencil.Processing
import Stencil.Settings
import Stencil.Severity
import Stencil.Span
import Stencil.Table
import Stencil.Text.Blank
import Stencil.Text.Printable
import Stencil.Text.Quoted
import Stencil.Text.Word
import Stencil.Toml.Basic
import Stencil.Toml.Document
import Stencil.Toml.Reader
import Stencil.Tree.Basic
import Stencil.Tree.Element
import Stencil.Validation.Check
import Stencil.Validation.Strip
import Stencil.Validation.Word
import Stencil.Web
import Stencil.Proofs.Bindings
import Stencil.Proofs.Classification
import Stencil.Proofs.CommandLine.Check
import Stencil.Proofs.Compiler.Cache
import Stencil.Proofs.Compiler.Call
import Stencil.Proofs.Compiler.History
import Stencil.Proofs.Compiler.Reports
import Stencil.Proofs.Compiler.Spans
import Stencil.Proofs.Dict
import Stencil.Proofs.Dict.History
import Stencil.Proofs.Dict.Table
import Stencil.Proofs.Directive.Application
import Stencil.Proofs.Directive.Layers
import Stencil.Proofs.Directive.Name
import Stencil.Proofs.Double
import Stencil.Proofs.Ecma.Enclosure
import Stencil.Proofs.Filter.ByteScan
import Stencil.Proofs.Filter.Composition
import Stencil.Proofs.Filter.Segments
import Stencil.Proofs.Filter.Stability
import Stencil.Proofs.Filter.StringLiterals
import Stencil.Proofs.Interpolation
import Stencil.Proofs.Json.Codec
import Stencil.Proofs.Json.Text
import Stencil.Proofs.LoopHeader
import Stencil.Proofs.Module.Branches
import Stencil.Proofs.Module.Declined
import Stencil.Proofs.Module.Expansion
import Stencil.Proofs.Module.Settled
import Stencil.Proofs.Options
import Stencil.Proofs.Processing
import Stencil.Proofs.Settings.Files
import Stencil.Proofs.Settings.Reading
import Stencil.Proofs.Severity.Lookup
import Stencil.Proofs.Severity.Selection
import Stencil.Proofs.Text.Pieces
import Stencil.Proofs.Text.Utf8
import Stencil.Proofs.Tokens
import Stencil.Proofs.Toml.Layers
import Stencil.Proofs.Traversal
import Stencil.Proofs.Tree.Accesses
import Stencil.Proofs.Tree.Acyclic
import Stencil.Proofs.Tree.Attributes
import Stencil.Proofs.Tree.Building
import Stencil.Proofs.Tree.Taking
import Stencil.Proofs.Tree.Update
import Stencil.Proofs.TypeBindings
import Stencil.Proofs.Validation.Expansion
import Stencil.Proofs.Validation.UnaryCalls
