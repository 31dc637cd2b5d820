import Tale.Dictionary
import Tale.Disk.Basic
import Tale.Disk.Change
import Tale.Disk.Identity
import Tale.Filter
import Tale.Host.Command.Basic
import Tale.Host.Command.Escape
import Tale.Host.Command.Run
import Tale.Host.Command.Shell
import Tale.Host.Command.Substitution
import Tale.Host.Command.Transliteration
import Tale.Host.Pattern.Basic
import Tale.Host.Pattern.CharSet
import Tale.Host.Pattern.Folding
import Tale.Host.Pattern.Reader
import Tale.Host.Pattern.WordClasses
import Tale.Host.Tools
import Tale.Json.Basic
import Tale.Json.Lexeme
import Tale.Json.Reader
import Tale.Json.Writer
import Tale.Live.Delivery
import Tale.Live.Record
import Tale.Live.Replay
import Tale.Live.Screen
import Tale.Live.Session
import Tale.Loom.Arguments
import Tale.Loom.Run
import Tale.Loom.Table
import Tale.Loom.Terminal
import Tale.Main
import Tale.Path
import Tale.Project.Build
import Tale.Project.Compilation
import Tale.Project.Dependencies
import Tale.Project.Discovery
import Tale.Project.FileReport
import Tale.Project.Issuer
import Tale.Project.Sources
import Tale.Project.StoryUnit
import Tale.Script.Assembly
import Tale.Script.Compile
import Tale.Script.Diagnostic
import Tale.Script.Item
import Tale.Script.Reading
import Tale.Script.Report
import Tale.Script.Token
import Tale.Settings.Basic
import Tale.Settings.Document
import Tale.Settings.Lookup
import Tale.Story.Artifact
import Tale.Story.Encoding
import Tale.Story.Placeholder
import Tale.Story.Run
import Tale.Story.Value
import Tale.Text.Blank
import Tale.Text.Bytes
import Tale.Text.Columns
import Tale.Text.Cut
import Tale.Text.Decimal
import Tale.Text.Quoted
import Tale.Text.Ranges
import Tale.Text.Size
import Tale.Text.Unprintable
import Tale.Proofs.Dictionary
import Tale.Proofs.Disk.Canonical
import Tale.Proofs.Disk.Editing
import Tale.Proofs.Disk.Growing
import Tale.Proofs.Disk.Identity
import Tale.Proofs.Disk.Lasting
import Tale.Proofs.Disk.Leading
import Tale.Proofs.Disk.LinkFree
import Tale.Proofs.Disk.Settling
import Tale.Proofs.Disk.Ways
import Tale.Proofs.Json.Indenting
import Tale.Proofs.Json.Lexing
import Tale.Proofs.Json.Reading
import Tale.Proofs.Live.Acceptance
import Tale.Proofs.Live.Counting
import Tale.Proofs.Live.Delivery
import Tale.Proofs.Live.Display
import Tale.Proofs.Live.Fidelity
import Tale.Proofs.Live.Following
import Tale.Proofs.Live.Reload
import Tale.Proofs.Loom.Playing
import Tale.Proofs.Loom.Targets
import Tale.Proofs.Loom.Units
import Tale.Proofs.Project.Batching
import Tale.Proofs.Project.Build
import Tale.Proofs.Project.Compilation
import Tale.Proofs.Project.Dependencies
import Tale.Proofs.Project.Discovery
import Tale.Proofs.Project.EdgeSet
import Tale.Proofs.Project.Envelope
import Tale.Proofs.Project.Incremental
import Tale.Proofs.Project.Listing
import Tale.Proofs.Project.Reordering
import Tale.Proofs.Project.Selection
import Tale.Proofs.Project.Sources
import Tale.Proofs.Project.Spelling
import Tale.Proofs.Project.Verdict
import Tale.Proofs.Script.Agreement
import Tale.Proofs.Script.Assembly
import Tale.Proofs.Script.Attribution
import Tale.Proofs.Script.BlankLines
import Tale.Proofs.Script.ChoiceLines
import Tale.Proofs.Script.Closure
import Tale.Proofs.Script.Conservation
import Tale.Proofs.Script.DeadEnds
import Tale.Proofs.Script.Destinations
import Tale.Proofs.Script.Documents
import Tale.Proofs.Script.Flattening
import Tale.Proofs.Script.Inlining
import Tale.Proofs.Script.KnotShape
import Tale.Proofs.Script.Layout
import Tale.Proofs.Script.LineByLine
import Tale.Proofs.Script.Literals
import Tale.Proofs.Script.Offering
import Tale.Proofs.Script.Origins
import Tale.Proofs.Script.Placement
import Tale.Proofs.Script.Printing
import Tale.Proofs.Script.Reports
import Tale.Proofs.Script.SectionOrder
import Tale.Proofs.Script.Splicing
import Tale.Proofs.Script.Startable
import Tale.Proofs.Script.Termination
import Tale.Proofs.Settings.Filters
import Tale.Proofs.Story.Choices
import Tale.Proofs.Story.Closed
import Tale.Proofs.Story.Encoding
import Tale.Proofs.Story.Forward
import Tale.Proofs.Story.Halting
import Tale.Proofs.Story.History
import Tale.Proofs.Story.Loops
import Tale.Proofs.Story.Paragraphs
import Tale.Proofs.Story.Phases
import Tale.Proofs.Story.Placeholders
import Tale.Proofs.Story.Reading
import Tale.Proofs.Text
import Tale.Proofs.Text.Cutting
import Tale.Proofs.Text.Numerals
