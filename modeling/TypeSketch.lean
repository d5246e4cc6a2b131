import TypeSketch.Code.Emit
import TypeSketch.Code.Generation
import TypeSketch.Code.Preset
import TypeSketch.Code.Setup
import TypeSketch.Code.Tidy
import TypeSketch.Code.Warning
import TypeSketch.Command.Arguments
import TypeSketch.Command.Help
import TypeSketch.Command.Run
import TypeSketch.Command.Session
import TypeSketch.Command.Switch
import TypeSketch.Console
import TypeSketch.Decimal.Basic
import TypeSketch.Decimal.Layout
import TypeSketch.Decimal.Shortest
import TypeSketch.Document.Host
import TypeSketch.Document.Load
import TypeSketch.Document.Url
import TypeSketch.Entries
import TypeSketch.Journal
import TypeSketch.Json.Basic
import TypeSketch.Json.Fault
import TypeSketch.Json.Reader
import TypeSketch.Json.Shown
import TypeSketch.Machine
import TypeSketch.Main
import TypeSketch.Naming.Case
import TypeSketch.Naming.Identifier
import TypeSketch.Naming.Words
import TypeSketch.Options.Build
import TypeSketch.Options.File
import TypeSketch.Options.Override
import TypeSketch.Options.Record
import TypeSketch.Options.Setting
import TypeSketch.Options.Shared
import TypeSketch.Registry
import TypeSketch.Screen.Cluster
import TypeSketch.Screen.Colour
import TypeSketch.Screen.Emoji
import TypeSketch.Screen.Emoji.Flags
import TypeSketch.Screen.Emoji.Names
import TypeSketch.Screen.Emoji.Tones
import TypeSketch.Screen.Handler
import TypeSketch.Screen.Markup
import TypeSketch.Screen.Plain
import TypeSketch.Screen.Style
import TypeSketch.Screen.Styled
import TypeSketch.Screen.Table
import TypeSketch.Screen.Wrap
import TypeSketch.Shape.Basic
import TypeSketch.Shape.Collision
import TypeSketch.Shape.Flatten
import TypeSketch.Shape.Infer
import TypeSketch.Storage.Disk
import TypeSketch.Storage.Path
import TypeSketch.Storage.Utf8
import TypeSketch.Target.CSharp
import TypeSketch.Target.Go
import TypeSketch.Target.Java
import TypeSketch.Target.JavaScript
import TypeSketch.Target.Kotlin
import TypeSketch.Target.Language
import TypeSketch.Target.Php
import TypeSketch.Target.Python
import TypeSketch.Target.Rust
import TypeSketch.Target.Swift
import TypeSketch.Target.TypeScript
import TypeSketch.Text.Alphanumeric
import TypeSketch.Text.Ascii
import TypeSketch.Text.Blank
import TypeSketch.Text.CaseMap
import TypeSketch.Text.CaseRuns
import TypeSketch.Text.Cased
import TypeSketch.Text.DecimalDigit
import TypeSketch.Text.Digits
import TypeSketch.Text.Lines
import TypeSketch.Text.NameChar
import TypeSketch.Text.Printable
import TypeSketch.Text.Quoted
import TypeSketch.Text.Range
import TypeSketch.Text.Width
import TypeSketch.Proofs.Code.Accessor
import TypeSketch.Proofs.Code.Assembly
import TypeSketch.Proofs.Code.BuiltIn
import TypeSketch.Proofs.Code.ClosingTag
import TypeSketch.Proofs.Code.Comment
import TypeSketch.Proofs.Code.Documented
import TypeSketch.Proofs.Code.Emitted
import TypeSketch.Proofs.Code.Flag
import TypeSketch.Proofs.Code.Generic
import TypeSketch.Proofs.Code.Identifier
import TypeSketch.Proofs.Code.Import
import TypeSketch.Proofs.Code.Keyword
import TypeSketch.Proofs.Code.Optional
import TypeSketch.Proofs.Code.Public
import TypeSketch.Proofs.Code.Spacing
import TypeSketch.Proofs.Code.Template
import TypeSketch.Proofs.Command.Act
import TypeSketch.Proofs.Command.Channel
import TypeSketch.Proofs.Command.Run
import TypeSketch.Proofs.Command.Twin
import TypeSketch.Proofs.Document.Ending
import TypeSketch.Proofs.Document.Failure
import TypeSketch.Proofs.Key.Bare
import TypeSketch.Proofs.Key.CSharp
import TypeSketch.Proofs.Key.Denoted
import TypeSketch.Proofs.Key.Go
import TypeSketch.Proofs.Key.Java
import TypeSketch.Proofs.Key.JavaScript
import TypeSketch.Proofs.Key.Kept
import TypeSketch.Proofs.Key.Kotlin
import TypeSketch.Proofs.Key.Python
import TypeSketch.Proofs.Key.Reader
import TypeSketch.Proofs.Key.Rust
import TypeSketch.Proofs.Key.Swift
import TypeSketch.Proofs.Key.TypeScript
import TypeSketch.Proofs.Key.Word
import TypeSketch.Proofs.Naming.Bare
import TypeSketch.Proofs.Naming.Capitals
import TypeSketch.Proofs.Naming.Case
import TypeSketch.Proofs.Naming.Convention
import TypeSketch.Proofs.Naming.Grammar
import TypeSketch.Proofs.Naming.Identifier
import TypeSketch.Proofs.Naming.Joined
import TypeSketch.Proofs.Naming.Letters
import TypeSketch.Proofs.Naming.Passes
import TypeSketch.Proofs.Naming.Recased
import TypeSketch.Proofs.Naming.Reread
import TypeSketch.Proofs.Naming.Words
import TypeSketch.Proofs.Options.Accepted
import TypeSketch.Proofs.Options.File
import TypeSketch.Proofs.Options.Precedence
import TypeSketch.Proofs.Options.Record
import TypeSketch.Proofs.Options.Setting
import TypeSketch.Proofs.Options.Shown
import TypeSketch.Proofs.Registry.Builtin
import TypeSketch.Proofs.Registry.ByName
import TypeSketch.Proofs.Registry.History
import TypeSketch.Proofs.Registry.Listed
import TypeSketch.Proofs.Registry.Undone
import TypeSketch.Proofs.Shape.Below
import TypeSketch.Proofs.Shape.Expression
import TypeSketch.Proofs.Shape.Named
import TypeSketch.Proofs.Shape.Namesake
import TypeSketch.Proofs.Shape.Order
import TypeSketch.Proofs.Shape.Position
import TypeSketch.Proofs.Shape.Sample
import TypeSketch.Proofs.Shape.Structure
import TypeSketch.Proofs.Shape.Tree
import TypeSketch.Proofs.Storage.Alike
import TypeSketch.Proofs.Storage.Disk
import TypeSketch.Proofs.Storage.Utf8
import TypeSketch.Proofs.Table
import TypeSketch.Proofs.Target.CSharp
import TypeSketch.Proofs.Target.Go
import TypeSketch.Proofs.Target.Java
import TypeSketch.Proofs.Target.JavaScript
import TypeSketch.Proofs.Target.Kotlin
import TypeSketch.Proofs.Target.Line
import TypeSketch.Proofs.Target.Php
import TypeSketch.Proofs.Target.Python
import TypeSketch.Proofs.Target.Rust
import TypeSketch.Proofs.Target.Swift
import TypeSketch.Proofs.Target.TypeScript
import TypeSketch.Proofs.Text.Blank
import TypeSketch.Proofs.Text.Lexicon
import TypeSketch.Proofs.Text.Lines
import TypeSketch.Proofs.Text.Literal
import TypeSketch.Proofs.Text.Pair
import TypeSketch.Proofs.Text.Run
import TypeSketch.Proofs.Text.Small
import TypeSketch.Proofs.Text.Tidy
import TypeSketch.Proofs.Work
