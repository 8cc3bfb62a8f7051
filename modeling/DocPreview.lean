import DocPreview.Artifact.Body
import DocPreview.Artifact.Build
import DocPreview.Artifact.Executable
import DocPreview.Artifact.Prepare
import DocPreview.Artifact.Sanitize
import DocPreview.Command.Arguments
import DocPreview.Command.Run
import DocPreview.Decimal.Double
import DocPreview.Diagram.Block
import DocPreview.Diagram.Server
import DocPreview.Diagram.Substitution
import DocPreview.Diagram.Url
import DocPreview.Document.Comment
import DocPreview.Document.Fence
import DocPreview.Document.FrontMatter
import DocPreview.Files.Tree
import DocPreview.Highlight.Element
import DocPreview.Highlight.Grammar
import DocPreview.Highlight.Language
import DocPreview.Highlight.Language.ActionScript
import DocPreview.Highlight.Language.AppleScript
import DocPreview.Highlight.Language.Batch
import DocPreview.Highlight.Language.C
import DocPreview.Highlight.Language.CPlusPlus
import DocPreview.Highlight.Language.CSharp
import DocPreview.Highlight.Language.Command
import DocPreview.Highlight.Language.Compiled
import DocPreview.Highlight.Language.Css
import DocPreview.Highlight.Language.Data
import DocPreview.Highlight.Language.Functional
import DocPreview.Highlight.Language.Groovy
import DocPreview.Highlight.Language.Html
import DocPreview.Highlight.Language.Java
import DocPreview.Highlight.Language.JavaScript
import DocPreview.Highlight.Language.Latex
import DocPreview.Highlight.Language.Lisp
import DocPreview.Highlight.Language.Markdown
import DocPreview.Highlight.Language.Numeric
import DocPreview.Highlight.Language.OCaml
import DocPreview.Highlight.Language.Perl
import DocPreview.Highlight.Language.Php
import DocPreview.Highlight.Language.Python
import DocPreview.Highlight.Language.RegularExpression
import DocPreview.Highlight.Language.Ruby
import DocPreview.Highlight.Language.Rust
import DocPreview.Highlight.Language.Scala
import DocPreview.Highlight.Language.Shell
import DocPreview.Highlight.Language.Template
import DocPreview.Highlight.Machine
import DocPreview.Highlight.Pattern
import DocPreview.Highlight.Pattern.Reader
import DocPreview.Highlight.Scope
import DocPreview.Highlight.Span
import DocPreview.Main
import DocPreview.Markup.Autolink
import DocPreview.Markup.Block
import DocPreview.Markup.Component
import DocPreview.Markup.Document
import DocPreview.Markup.Embedded
import DocPreview.Markup.Emphasis
import DocPreview.Markup.Html
import DocPreview.Markup.Inline
import DocPreview.Markup.Line
import DocPreview.Markup.Outline
import DocPreview.Markup.Problem
import DocPreview.Markup.Reference
import DocPreview.Markup.Tag
import DocPreview.Markup.Tree
import DocPreview.Preview.Basic
import DocPreview.Proofs.Artifact.Body
import DocPreview.Proofs.Artifact.Comment
import DocPreview.Proofs.Artifact.Compilation
import DocPreview.Proofs.Artifact.Cutting
import DocPreview.Proofs.Artifact.EntryPoint
import DocPreview.Proofs.Artifact.Finishing
import DocPreview.Proofs.Artifact.FrontMatter
import DocPreview.Proofs.Artifact.Highlighting
import DocPreview.Proofs.Artifact.Lowering
import DocPreview.Proofs.Artifact.Outcome
import DocPreview.Proofs.Artifact.Preparation
import DocPreview.Proofs.Artifact.Removal
import DocPreview.Proofs.Artifact.Report
import DocPreview.Proofs.Artifact.Rule
import DocPreview.Proofs.Artifact.Sanitizing
import DocPreview.Proofs.Artifact.Setting
import DocPreview.Proofs.Artifact.Splicing
import DocPreview.Proofs.Artifact.Word
import DocPreview.Proofs.Artifact.Wrapping
import DocPreview.Proofs.Command.Agreement
import DocPreview.Proofs.Command.Run
import DocPreview.Proofs.Diagram.Declaration
import DocPreview.Proofs.Diagram.Element
import DocPreview.Proofs.Diagram.Extraction
import DocPreview.Proofs.Diagram.Fence
import DocPreview.Proofs.Diagram.FenceEnd
import DocPreview.Proofs.Diagram.Fragment
import DocPreview.Proofs.Diagram.Insertion
import DocPreview.Proofs.Diagram.LineBreak
import DocPreview.Proofs.Diagram.Message
import DocPreview.Proofs.Diagram.Offset
import DocPreview.Proofs.Diagram.Outline
import DocPreview.Proofs.Diagram.Reading
import DocPreview.Proofs.Diagram.Rewriting
import DocPreview.Proofs.Diagram.Scan
import DocPreview.Proofs.Diagram.SecondPass
import DocPreview.Proofs.Diagram.Substitution
import DocPreview.Proofs.Document.Comment
import DocPreview.Proofs.Document.CommentSplit
import DocPreview.Proofs.Document.Delimiter
import DocPreview.Proofs.Document.Fence
import DocPreview.Proofs.Document.FrontMatter
import DocPreview.Proofs.Document.LineBreak
import DocPreview.Proofs.Document.Offset
import DocPreview.Proofs.Document.OpenFence
import DocPreview.Proofs.Document.Printing
import DocPreview.Proofs.Document.Segmentation
import DocPreview.Proofs.Files.Tree
import DocPreview.Proofs.Highlight.Class
import DocPreview.Proofs.Highlight.Element
import DocPreview.Proofs.Highlight.Inert
import DocPreview.Proofs.Highlight.Run
import DocPreview.Proofs.Highlight.Span
import DocPreview.Proofs.Markup.Behind
import DocPreview.Proofs.Markup.Conversion
import DocPreview.Proofs.Markup.Extent
import DocPreview.Proofs.Markup.Fence
import DocPreview.Proofs.Markup.Fragment
import DocPreview.Proofs.Markup.Line
import DocPreview.Proofs.Markup.Nesting
import DocPreview.Proofs.Markup.Outline
import DocPreview.Proofs.Markup.Plain
import DocPreview.Proofs.Markup.Replacement
import DocPreview.Proofs.Preview.Message
import DocPreview.Proofs.Preview.Offset
import DocPreview.Proofs.Preview.Renderer
import DocPreview.Proofs.Script.Expression
import DocPreview.Proofs.Script.Grammar
import DocPreview.Proofs.Script.Item
import DocPreview.Proofs.Script.Literal
import DocPreview.Proofs.Script.Lowering
import DocPreview.Proofs.Script.Operand
import DocPreview.Proofs.Script.Printing
import DocPreview.Proofs.Script.Sequence
import DocPreview.Proofs.Script.Token
import DocPreview.Proofs.Settings.Given
import DocPreview.Proofs.Settings.Load
import DocPreview.Proofs.Settings.Overridden
import DocPreview.Proofs.Settings.Variable
import DocPreview.Proofs.Text.Character
import DocPreview.Proofs.Text.Json
import DocPreview.Proofs.Text.Line
import DocPreview.Proofs.Text.LineBreak
import DocPreview.Proofs.Text.Occurrence
import DocPreview.Proofs.Text.Reference
import DocPreview.Proofs.Text.Slice
import DocPreview.Script.Lowering
import DocPreview.Script.Problem
import DocPreview.Script.Provided
import DocPreview.Script.Reader.Basic
import DocPreview.Script.Reader.Element
import DocPreview.Script.Reader.Expression
import DocPreview.Script.Reader.Function
import DocPreview.Script.Reader.Grammar
import DocPreview.Script.Reader.Name
import DocPreview.Script.Reader.Pattern
import DocPreview.Script.Reader.Statement
import DocPreview.Script.Token
import DocPreview.Script.Tree
import DocPreview.Script.Walk
import DocPreview.Script.Writer.Page
import DocPreview.Script.Writer.Parens
import DocPreview.Script.Writer.Printer
import DocPreview.Settings.Basic
import DocPreview.Settings.Load
import DocPreview.Settings.Variable
import DocPreview.Text.Alphanumeric
import DocPreview.Text.Basic
import DocPreview.Text.Entity
import DocPreview.Text.Json
import DocPreview.Text.Shown
import DocPreview.Text.Unicode
import DocPreview.Toml.Document
import DocPreview.Toml.Number
import DocPreview.Toml.Quoted
import DocPreview.Toml.Reader
import DocPreview.Toml.Value
import DocPreview.Yaml.Event
import DocPreview.Yaml.Problem
import DocPreview.Yaml.Scalar
import DocPreview.Yaml.Scan
import DocPreview.Yaml.Tag
import DocPreview.Yaml.Token
import DocPreview.Yaml.Value
