import Rehearsal.Browser.Call
import Rehearsal.Browser.Locator
import Rehearsal.Browser.Page
import Rehearsal.Browser.Session
import Rehearsal.Capture
import Rehearsal.Command
import Rehearsal.Command.Arguments
import Rehearsal.Config
import Rehearsal.Decimal.Basic
import Rehearsal.Decimal.Binary
import Rehearsal.Decimal.Shortest
import Rehearsal.Dict
import Rehearsal.Directive
import Rehearsal.Directive.Registry
import Rehearsal.Document
import Rehearsal.Document.Fault
import Rehearsal.Document.Part
import Rehearsal.Failure
import Rehearsal.Files
import Rehearsal.Files.Path
import Rehearsal.Files.Tree
import Rehearsal.Json.Basic
import Rehearsal.Json.Printer
import Rehearsal.Library
import Rehearsal.Library.Action
import Rehearsal.Library.Argument
import Rehearsal.Library.Expectation
import Rehearsal.Lifecycle
import Rehearsal.Lifecycle.Console
import Rehearsal.Lifecycle.Transcript
import Rehearsal.Main
import Rehearsal.Pattern
import Rehearsal.Pattern.Expr
import Rehearsal.Pattern.Node
import Rehearsal.Pattern.Reader
import Rehearsal.Pattern.Search
import Rehearsal.Polling
import Rehearsal.Polling.Duration
import Rehearsal.Result
import Rehearsal.Result.Json
import Rehearsal.Run
import Rehearsal.Run.Context
import Rehearsal.Run.Step
import Rehearsal.Run.Task
import Rehearsal.Scope
import Rehearsal.Suite
import Rehearsal.Summary
import Rehearsal.Task
import Rehearsal.Task.Order
import Rehearsal.Task.Registry
import Rehearsal.Text.Blank
import Rehearsal.Text.CharSet
import Rehearsal.Text.LetterCase
import Rehearsal.Text.Property
import Rehearsal.Text.Property.Binary
import Rehearsal.Text.Property.Category
import Rehearsal.Text.Property.Script
import Rehearsal.Text.Split
import Rehearsal.Toml.Document
import Rehearsal.Toml.Fault
import Rehearsal.Toml.Printer
import Rehearsal.Toml.Reading
import Rehearsal.Toml.Scalar
import Rehearsal.Toml.Text
import Rehearsal.Toml.Value
import Rehearsal.Variables
import Rehearsal.Yaml.Cursor
import Rehearsal.Yaml.Document
import Rehearsal.Yaml.Fault
import Rehearsal.Yaml.Node
import Rehearsal.Yaml.Number
import Rehearsal.Yaml.Scalar
import Rehearsal.Yaml.Tag
import Rehearsal.Yaml.Token
import Rehearsal.Yaml.Value
import Rehearsal.Proofs.Order.Listing
import Rehearsal.Proofs.Order.Schedule
import Rehearsal.Proofs.Order.Eagerness
import Rehearsal.Proofs.Order.Relisting
import Rehearsal.Proofs.Browser.Journal
import Rehearsal.Proofs.Library.Calls
import Rehearsal.Proofs.Run.Composition
import Rehearsal.Proofs.Run.Journal
import Rehearsal.Proofs.Run.Carrying
import Rehearsal.Proofs.Run.Abort
import Rehearsal.Proofs.Run.Tree
import Rehearsal.Proofs.Pattern.Matching
import Rehearsal.Proofs.Text.LetterCase
import Rehearsal.Proofs.Pattern.Sequence
import Rehearsal.Proofs.Pattern.Preference
import Rehearsal.Proofs.Pattern.Piece
import Rehearsal.Proofs.Library.Limit
import Rehearsal.Proofs.Library.Reading
import Rehearsal.Proofs.Library.Within
import Rehearsal.Proofs.Library.Heading
import Rehearsal.Proofs.Library.Polled
import Rehearsal.Proofs.Library.Forms
import Rehearsal.Proofs.Directive.Arguments
import Rehearsal.Proofs.Directive.Fate
import Rehearsal.Proofs.Directive.Resolution
import Rehearsal.Proofs.Directive.Substitution
import Rehearsal.Proofs.Text.Part
import Rehearsal.Proofs.Library.Comparison
import Rehearsal.Proofs.Library.Counterpart
import Rehearsal.Proofs.Capture
import Rehearsal.Proofs.Dict
import Rehearsal.Proofs.Polling
import Rehearsal.Proofs.Library.Dispatch
import Rehearsal.Proofs.Run.Frames
import Rehearsal.Proofs.Library.Timing
import Rehearsal.Proofs.Library.Choosing
import Rehearsal.Proofs.Library.Chosen
import Rehearsal.Proofs.Library.Checking
import Rehearsal.Proofs.Library.Presence
import Rehearsal.Proofs.Run.Account
import Rehearsal.Proofs.Run.Setups
import Rehearsal.Proofs.Run.Contribution
import Rehearsal.Proofs.Run.Isolation
import Rehearsal.Proofs.Run.Blocks
import Rehearsal.Proofs.Run.Restoration
import Rehearsal.Proofs.Run.Nesting
import Rehearsal.Proofs.Run.Telling
import Rehearsal.Proofs.Run.Traversal
import Rehearsal.Proofs.Run.Announcements
import Rehearsal.Proofs.Run.DirectiveOrder
import Rehearsal.Proofs.Run.StepExtent
import Rehearsal.Proofs.Summary
import Rehearsal.Proofs.Variables
import Rehearsal.Proofs.Verdict
import Rehearsal.Proofs.Browser.Effect
import Rehearsal.Proofs.Browser.Exclusion
import Rehearsal.Proofs.Browser.Failing
import Rehearsal.Proofs.Browser.Navigation
import Rehearsal.Proofs.Browser.Selection
import Rehearsal.Proofs.Browser.Refusal
import Rehearsal.Proofs.Scope.Writes
import Rehearsal.Proofs.Result.RoundTrip
import Rehearsal.Proofs.Variables.Filling
import Rehearsal.Proofs.Document.Part
import Rehearsal.Proofs.Document.Task
import Rehearsal.Proofs.Document.Frame
import Rehearsal.Proofs.Order.Expansion
import Rehearsal.Proofs.Text.Strip
import Rehearsal.Proofs.Library.Locating
import Rehearsal.Proofs.Library.WrittenList
import Rehearsal.Proofs.Library.Opposition
