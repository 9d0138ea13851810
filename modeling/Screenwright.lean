import Screenwright.Number.Decimal
import Screenwright.Text.CharRange
import Screenwright.Text.Blank
import Screenwright.Text.Alphanumeric
import Screenwright.Text.Printable
import Screenwright.Text.DecimalDigit
import Screenwright.Text.LetterCase
import Screenwright.Fields
import Screenwright.Text.Quoted
import Screenwright.Json.Equality
import Screenwright.Json.Text
import Screenwright.Json.Reader
import Screenwright.Document.Screen
import Screenwright.Document.Component
import Screenwright.Document.Kind
import Screenwright.Validation.PropTable
import Screenwright.Validation.Schema
import Screenwright.Validation.Validator
import Screenwright.Text.Lines
import Screenwright.Text.Entity
import Screenwright.Emit.Name
import Screenwright.Emit.Scale
import Screenwright.Tokens
import Screenwright.Document.Tree
import Screenwright.Emit.Analysis
import Screenwright.Emit.Css
import Screenwright.Text.Tidy
import Screenwright.Text.Base36
import Screenwright.Project.ScreenName
import Screenwright.Emit.JsxSyntax
import Screenwright.Project.Components
import Screenwright.Emit.Markup
import Screenwright.Emit.Vue
import Screenwright.Emit.Svelte
import Screenwright.Emit.Html
import Screenwright.Emit.ComponentLibrary
import Screenwright.Emit.Nextjs
import Screenwright.Emit.Backend
import Screenwright.Reference.Expansion
import Screenwright.Reference.Resolution
import Screenwright.Reference.Instance
import Screenwright.Text.Sorted
import Screenwright.Editor.History
import Screenwright.Editor.FreshId
import Screenwright.Editor.Basic
import Screenwright.Editor.Operations
import Screenwright.Editor.Command
import Screenwright.Compilation
import Screenwright.Files.Path
import Screenwright.Files.Tree
import Screenwright.Lint
import Screenwright.Text.CellWidth
import Screenwright.Project.Basic
import Screenwright.Project.Plugins
import Screenwright.Project.Run
import Screenwright.CommandLine.Request
import Screenwright.CommandLine.Markup
import Screenwright.CommandLine.Table
import Screenwright.CommandLine.Outcome
import Screenwright.CommandLine.Run
import Screenwright.Main
import Screenwright.CommandLine.Color
import Screenwright.CommandLine.Style
import Screenwright.Text.Emoji
import Screenwright.Proofs.Document.Trail
import Screenwright.Proofs.Document.Contents
import Screenwright.Proofs.Editor.FreshIds
import Screenwright.Proofs.Editor.Endings
import Screenwright.Proofs.Editor.Steps
import Screenwright.Proofs.Editor.Timeline
import Screenwright.Proofs.Editor.UniqueIds
import Screenwright.Proofs.Editor.Outcomes
import Screenwright.Proofs.Reference.Remaining
import Screenwright.Proofs.Record.Reading
import Screenwright.Proofs.Record.Merging
import Screenwright.Proofs.Reference.Expansion
import Screenwright.Proofs.Reference.Replacement
import Screenwright.Proofs.Json.Parts
import Screenwright.Proofs.Json.Spelling
import Screenwright.Proofs.Json.Documents
import Screenwright.Proofs.Validation.SchemaParts
import Screenwright.Proofs.Validation.Props
import Screenwright.Proofs.Validation.Styles
import Screenwright.Proofs.Validation.Events
import Screenwright.Proofs.Validation.References
import Screenwright.Proofs.Validation.Nodes
import Screenwright.Proofs.Validation.Walked
import Screenwright.Proofs.Validation.Admitted
import Screenwright.Proofs.Validation.Readable
import Screenwright.Proofs.Validation.Agreement
import Screenwright.Proofs.Validation.Documents
import Screenwright.Proofs.Reference.Overrides
import Screenwright.Proofs.Reference.Circles
import Screenwright.Proofs.Emit.ComponentNames
import Screenwright.Proofs.Text.Tidying
import Screenwright.Proofs.Emit.Index
import Screenwright.Proofs.Compilation.OutputPaths
import Screenwright.Proofs.Computation
import Screenwright.Proofs.Validation.Checkable
import Screenwright.Proofs.Compilation.Isolation
import Screenwright.Proofs.Text.Squeezing
import Screenwright.Proofs.Validation.Written
import Screenwright.Proofs.Editor.Validity
import Screenwright.Proofs.Document.Places
import Screenwright.Proofs.Editor.Locks
import Screenwright.Proofs.Emit.StateNames
import Screenwright.Proofs.Emit.Scripts
import Screenwright.Proofs.Text.Pieces
import Screenwright.Proofs.Emit.Shown
import Screenwright.Proofs.Emit.Imports
import Screenwright.Proofs.Emit.References
import Screenwright.Proofs.Emit.Provided
import Screenwright.Proofs.Emit.Assembly
import Screenwright.Proofs.Emit.MarkupParts
import Screenwright.Proofs.Emit.ReactParts
import Screenwright.Proofs.Emit.OwnImports
import Screenwright.Proofs.Emit.ScreenContents
import Screenwright.Proofs.Emit.Faults
import Screenwright.Proofs.Compilation.Totality
import Screenwright.Proofs.Compilation.ShownTexts
import Screenwright.Proofs.Project.Recompilation
import Screenwright.Proofs.Lint.Verdict
import Screenwright.Proofs.Record.Restoring
import Screenwright.Proofs.Document.Restoring
import Screenwright.Proofs.Document.Normalization
import Screenwright.Proofs.Compilation.Inputs
import Screenwright.Proofs.Compilation.Scheduling
import Screenwright.Proofs.Project.Relisting
import Screenwright.Proofs.Project.Arrangement
import Screenwright.Proofs.Record.Refusals
import Screenwright.Proofs.Validation.Nesting
import Screenwright.Proofs.Project.AddedScreens
import Screenwright.Proofs.CommandLine.Effects
import Screenwright.Proofs.Compilation.HookNodes
import Screenwright.Proofs.Compilation.Marks
import Screenwright.Proofs.Text.Shortening
import Screenwright.Proofs.Compilation.Notices
import Screenwright.Proofs.Compilation.WithoutDefinitions
import Screenwright.Proofs.Emit.RawTexts
import Screenwright.Reference.Sharing
import Screenwright.Proofs.Reference.Sharing
import Screenwright.Proofs.Reference.Unlimited
import Screenwright.Proofs.Reference.Overlays
import Screenwright.Proofs.Reference.Instances
import Screenwright.Proofs.Document.Surroundings
import Screenwright.Proofs.Document.Without
import Screenwright.Proofs.Editor.Moving
import Screenwright.Proofs.Editor.Insertions
import Screenwright.Proofs.Editor.Neighbours
import Screenwright.Proofs.Editor.Renaming
import Screenwright.Proofs.Editor.Updates
import Screenwright.Proofs.Editor.Clashes
import Screenwright.Proofs.Reference.Reset
import Screenwright.Proofs.Tokens.Picking
import Screenwright.Proofs.Tokens.Resolution
import Screenwright.Proofs.Script.Tokens
import Screenwright.Proofs.Emit.FetchedRows
import Screenwright.Proofs.Emit.Identifiers
import Screenwright.Proofs.Emit.TopLevelNames
import Screenwright.Proofs.Emit.Conditions
import Screenwright.Proofs.Text.Splitting
import Screenwright.Proofs.Text.Replacing
import Screenwright.Proofs.Text.Entities
import Screenwright.Proofs.Text.Escapes
import Screenwright.Proofs.Text.NormalForm
import Screenwright.Proofs.Document.Paths
import Screenwright.Proofs.Lint.Locations
