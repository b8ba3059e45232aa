import TimedTrials.Clock.Basic
import TimedTrials.Clock.Calendar
import TimedTrials.Clock.Frames
import TimedTrials.Command.Basic
import TimedTrials.Command.Grammar
import TimedTrials.Command.Help
import TimedTrials.Command.Invocation
import TimedTrials.Command.Outlook
import TimedTrials.Command.Perform
import TimedTrials.Command.ReportLine
import TimedTrials.Config
import TimedTrials.Domain.Compose
import TimedTrials.Domain.Direction
import TimedTrials.Domain.Joining
import TimedTrials.Domain.LetterTable
import TimedTrials.Domain.Letters
import TimedTrials.Domain.MarkTable
import TimedTrials.Domain.Name
import TimedTrials.Domain.Punycode
import TimedTrials.Endpoint.Basic
import TimedTrials.Endpoint.Host
import TimedTrials.Endpoint.Numeric
import TimedTrials.Endpoint.Path
import TimedTrials.Endpoint.Reach
import TimedTrials.Endpoint.Reader
import TimedTrials.Failure
import TimedTrials.Json.Access
import TimedTrials.Json.Basic
import TimedTrials.Json.Printer
import TimedTrials.Json.Reader
import TimedTrials.Json.Record
import TimedTrials.Log
import TimedTrials.Main
import TimedTrials.Number.Binary64
import TimedTrials.Number.Integer
import TimedTrials.Page.Document
import TimedTrials.Page.Html
import TimedTrials.Page.Payload
import TimedTrials.Page.Script
import TimedTrials.Picture.Basic
import TimedTrials.Picture.Canvas
import TimedTrials.Picture.Color
import TimedTrials.Picture.Font
import TimedTrials.Picture.Markup
import TimedTrials.Picture.Runs
import TimedTrials.Presenter.Console
import TimedTrials.Presenter.Keyboard
import TimedTrials.Presenter.Presentation
import TimedTrials.Presenter.Window
import TimedTrials.Proofs.Command.Compile
import TimedTrials.Proofs.Command.Preparing
import TimedTrials.Proofs.Command.RunLength
import TimedTrials.Proofs.Command.Sources
import TimedTrials.Proofs.Json.Grammar
import TimedTrials.Proofs.Json.Layout
import TimedTrials.Proofs.Json.Numbers
import TimedTrials.Proofs.Json.Reading
import TimedTrials.Proofs.Json.Records
import TimedTrials.Proofs.Json.Writing
import TimedTrials.Proofs.Number.Numerals
import TimedTrials.Proofs.Page.Document
import TimedTrials.Proofs.Page.Entities
import TimedTrials.Proofs.Page.Escaping
import TimedTrials.Proofs.Page.Frame
import TimedTrials.Proofs.Page.ImageElement
import TimedTrials.Proofs.Page.KeyList
import TimedTrials.Proofs.Page.Payload
import TimedTrials.Proofs.Page.Preload
import TimedTrials.Proofs.Page.Substitution
import TimedTrials.Proofs.Picture.Color
import TimedTrials.Proofs.Picture.Entities
import TimedTrials.Proofs.Picture.Lines
import TimedTrials.Proofs.Presenter.Interleaving
import TimedTrials.Proofs.Presenter.Schedule
import TimedTrials.Proofs.Random.Permutation
import TimedTrials.Proofs.Result.Delivery
import TimedTrials.Proofs.Result.Identifiers
import TimedTrials.Proofs.Run.Attribution
import TimedTrials.Proofs.Run.Coherence
import TimedTrials.Proofs.Run.Conservation
import TimedTrials.Proofs.Run.Consistency
import TimedTrials.Proofs.Run.Deadlines
import TimedTrials.Proofs.Run.Durations
import TimedTrials.Proofs.Run.History
import TimedTrials.Proofs.Run.Instants
import TimedTrials.Proofs.Run.Journal
import TimedTrials.Proofs.Run.KeyAnswers
import TimedTrials.Proofs.Run.Observation
import TimedTrials.Proofs.Run.Phases
import TimedTrials.Proofs.Run.Polling
import TimedTrials.Proofs.Run.Progress
import TimedTrials.Proofs.Run.ScriptedRun
import TimedTrials.Proofs.Run.Step
import TimedTrials.Proofs.Run.Timeline
import TimedTrials.Proofs.Run.Tokens
import TimedTrials.Proofs.Run.Turns
import TimedTrials.Proofs.Run.Unstuck
import TimedTrials.Proofs.Sequence.AuthoredSequence
import TimedTrials.Proofs.Sequence.Emission
import TimedTrials.Proofs.Sequence.FixedBlocks
import TimedTrials.Proofs.Sequence.Multiplicity
import TimedTrials.Proofs.Sequence.Occurrences
import TimedTrials.Proofs.Sequence.Origin
import TimedTrials.Proofs.Sequence.Reference
import TimedTrials.Proofs.Sequence.Repetitions
import TimedTrials.Proofs.Sequence.SectionHeads
import TimedTrials.Proofs.Sequence.Sections
import TimedTrials.Proofs.Stimulus.Documented
import TimedTrials.Proofs.Stimulus.Lossless
import TimedTrials.Proofs.Stimulus.Trimmed
import TimedTrials.Proofs.Storage.Files
import TimedTrials.Proofs.Storage.Following
import TimedTrials.Proofs.Storage.Growth
import TimedTrials.Proofs.Storage.Paths
import TimedTrials.Proofs.Storage.Ways
import TimedTrials.Proofs.Stored.Results
import TimedTrials.Proofs.Stored.RoundTrip
import TimedTrials.Proofs.Stored.Stimuli
import TimedTrials.Proofs.Stored.Trials
import TimedTrials.Proofs.Table.Bookkeeping
import TimedTrials.Proofs.Table.Check
import TimedTrials.Proofs.Table.Exactness
import TimedTrials.Proofs.Table.Faults
import TimedTrials.Proofs.Table.Grouping
import TimedTrials.Proofs.Table.ImageFaults
import TimedTrials.Proofs.Table.Records
import TimedTrials.Proofs.Table.RoundTrip
import TimedTrials.Proofs.Table.RowNumbers
import TimedTrials.Proofs.Table.Validation
import TimedTrials.Proofs.Table.Versions
import TimedTrials.Proofs.Table.WrittenText
import TimedTrials.Proofs.Text.InTurn
import TimedTrials.Proofs.Text.LetterCase
import TimedTrials.Proofs.Text.Lowering
import TimedTrials.Proofs.Text.Occurrence
import TimedTrials.Proofs.Text.Simultaneous
import TimedTrials.Proofs.Text.Trimming
import TimedTrials.Proofs.Trial.KeyNames
import TimedTrials.Proofs.Trial.TextOptions
import TimedTrials.Random.Stream
import TimedTrials.Random.Words
import TimedTrials.Result.Artifact
import TimedTrials.Result.Delivery
import TimedTrials.Run.Basic
import TimedTrials.Run.Handle
import TimedTrials.Run.Loop
import TimedTrials.Run.Source
import TimedTrials.Sequence
import TimedTrials.Stimulus.Basic
import TimedTrials.Stimulus.Directive
import TimedTrials.Storage.Changes
import TimedTrials.Storage.Disk
import TimedTrials.Storage.Path
import TimedTrials.Storage.Program
import TimedTrials.Storage.Tree
import TimedTrials.Stored.Stimulus
import TimedTrials.Stored.Trial
import TimedTrials.Table.Csv
import TimedTrials.Table.File
import TimedTrials.Table.Problem
import TimedTrials.Table.Row
import TimedTrials.Table.Validation
import TimedTrials.Text.Blank
import TimedTrials.Text.Case
import TimedTrials.Text.CaseTable
import TimedTrials.Text.Percent
import TimedTrials.Text.PrintTable
import TimedTrials.Text.Quoted
import TimedTrials.Text.Ranges
import TimedTrials.Text.Search
import TimedTrials.Text.Terminal
import TimedTrials.Trial.Feedback
import TimedTrials.Trial.Instance
import TimedTrials.Trial.Key
import TimedTrials.Trial.Response
import TimedTrials.Trial.Spec
import TimedTrials.Trial.Table
