import Settle.Association
import Settle.Client
import Settle.Command.Failure
import Settle.Command.Invocation
import Settle.CommandLine.Grammar
import Settle.CommandLine.Help
import Settle.CommandLine.Plan
import Settle.CommandLine.Request
import Settle.CommandLine.Run
import Settle.Config
import Settle.Counter
import Settle.Deployment
import Settle.Duration
import Settle.Error
import Settle.Expectation
import Settle.Files.ErrorNumber
import Settle.Files.Path
import Settle.Files.System
import Settle.Handle
import Settle.Json.Pointer
import Settle.Json.Printer
import Settle.Json.Reader
import Settle.Json.Value
import Settle.Lifecycle
import Settle.Main
import Settle.Names
import Settle.Number.Binary64
import Settle.Number.Reading
import Settle.Number.Rounding
import Settle.Number.Shortest
import Settle.Object
import Settle.Pods
import Settle.Policy
import Settle.Projection
import Settle.Proofs.Action
import Settle.Proofs.Command.Classes
import Settle.Proofs.Command.Streams
import Settle.Proofs.Command.Wordings
import Settle.Proofs.CommandLine.Arguments
import Settle.Proofs.CommandLine.Commands
import Settle.Proofs.CommandLine.Format
import Settle.Proofs.CommandLine.Listing
import Settle.Proofs.CommandLine.Parameters
import Settle.Proofs.CommandLine.Processing
import Settle.Proofs.CommandLine.Reading
import Settle.Proofs.Deployment
import Settle.Proofs.Files.Attempts
import Settle.Proofs.Files.Creation
import Settle.Proofs.Files.Drafts
import Settle.Proofs.Files.Expansions
import Settle.Proofs.Files.Scratch
import Settle.Proofs.Files.Segments
import Settle.Proofs.Handle.Checks
import Settle.Proofs.Handle.CommandLines
import Settle.Proofs.Handle.Commands
import Settle.Proofs.Handle.History
import Settle.Proofs.Handle.Lingering
import Settle.Proofs.Handle.Operation
import Settle.Proofs.Json.Kinds
import Settle.Proofs.Json.Printing
import Settle.Proofs.Names.Stream
import Settle.Proofs.Number.Numerals
import Settle.Proofs.Session.Addresses
import Settle.Proofs.Session.Call
import Settle.Proofs.Session.Cancellation
import Settle.Proofs.Session.Commands
import Settle.Proofs.Session.Issued
import Settle.Proofs.Session.Origin
import Settle.Proofs.Template.Parameters
import Settle.Proofs.Template.Places
import Settle.Proofs.Template.Residue
import Settle.Proofs.Text.Decoding
import Settle.Proofs.Text.Occurrence
import Settle.Proofs.Text.Order
import Settle.Proofs.Text.Padding
import Settle.Proofs.Text.Parts
import Settle.Proofs.Text.Spacing
import Settle.Proofs.Text.Trimming
import Settle.Proofs.Wait.Cancellation
import Settle.Proofs.Wait.Notes
import Settle.Proofs.Wait.Spans
import Settle.Proofs.Wait.Submission
import Settle.Proofs.Wait.Tape
import Settle.Proofs.Wait.Timetable
import Settle.Proofs.Wait.Turns
import Settle.Proofs.Wait.Undisturbed
import Settle.Proofs.Watch.Answers
import Settle.Proofs.Watch.Fields
import Settle.Proofs.Watch.Listings
import Settle.Proofs.Watch.Onset
import Settle.Proofs.Watch.Pods
import Settle.Proofs.Watch.Polling
import Settle.Proofs.Watch.Rollouts
import Settle.Proofs.Watch.Values
import Settle.Proofs.Watch.Waits
import Settle.Regex
import Settle.Regex.Bracket
import Settle.Regex.Expression
import Settle.Regex.Matching
import Settle.Regex.Octets
import Settle.Regex.Pattern
import Settle.Regex.Size
import Settle.Regex.Symbol
import Settle.Rehearsal.Cluster
import Settle.Rehearsal.Machine
import Settle.Rehearsal.Rule
import Settle.Rehearsal.Transcript
import Settle.ResourceSet
import Settle.Rollout
import Settle.Scratch
import Settle.Submission
import Settle.Subprocess
import Settle.Template.Basic
import Settle.Template.Engine
import Settle.Template.Substitution
import Settle.Text.Blank
import Settle.Text.Lines
import Settle.Text.Quoted
import Settle.Text.Search
import Settle.Text.Utf8
import Settle.Unicode.Additions
import Settle.Unicode.Age
import Settle.Unicode.Boundary
import Settle.Unicode.Category
import Settle.Unicode.CharSet
import Settle.Unicode.ClassName
import Settle.Unicode.Display
import Settle.Unicode.Folding
import Settle.Unicode.Grapheme
import Settle.Unicode.Identifier
import Settle.Unicode.Letter
import Settle.Unicode.Listed
import Settle.Unicode.Property
import Settle.Unicode.Script
import Settle.Unicode.Table
import Settle.Wait
import Settle.Watch
import Settle.World
import Settle.Yaml.Cursor
import Settle.Yaml.Event
import Settle.Yaml.Node
import Settle.Yaml.Property
import Settle.Yaml.Scalar
import Settle.Yaml.Scan
import Settle.Yaml.Token
