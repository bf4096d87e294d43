import LogWarden.Action.Actuator
import LogWarden.Action.Chain
import LogWarden.Action.ChainRun
import LogWarden.Action.Document
import LogWarden.Action.Queue
import LogWarden.Action.Rehearsal
import LogWarden.Action.Step
import LogWarden.Classifier
import LogWarden.Command.Builder
import LogWarden.Command.Basic
import LogWarden.Command.Land
import LogWarden.Config.Basic
import LogWarden.Config.Document
import LogWarden.Config.Store
import LogWarden.Dispatch.Consumer
import LogWarden.Dispatch.Dispatcher
import LogWarden.Dispatch.Pump
import LogWarden.Dispatch.Script
import LogWarden.Duration
import LogWarden.Encoding.Basic
import LogWarden.Encoding.CodePage
import LogWarden.Encoding.Decode
import LogWarden.Encoding.EastAsian
import LogWarden.Encoding.Gb18030
import LogWarden.Encoding.Utf
import LogWarden.Error
import LogWarden.Event.Basic
import LogWarden.Event.Payload
import LogWarden.Event.Record
import LogWarden.Event.Registry
import LogWarden.Event.Timestamp
import LogWarden.Event.Uuid
import LogWarden.File
import LogWarden.Folder
import LogWarden.Json.Decode
import LogWarden.Json.Document
import LogWarden.Json.Printer
import LogWarden.Json.Reader
import LogWarden.Json.Value
import LogWarden.Main
import LogWarden.Notice
import LogWarden.Number.Binary64
import LogWarden.Number.DecimalText
import LogWarden.Number.Shortest
import LogWarden.Pattern.Basic
import LogWarden.Pattern.Bracketed
import LogWarden.Pattern.CharClass
import LogWarden.Pattern.Escape
import LogWarden.Pattern.Expr
import LogWarden.Pattern.NamedClass
import LogWarden.Pattern.Plan
import LogWarden.Pattern.Reader
import LogWarden.Pattern.Search
import LogWarden.Program.CommandLine
import LogWarden.Program.Launch
import LogWarden.Program.Replies
import LogWarden.Proofs.Dispatch.Course
import LogWarden.Proofs.Dispatch.Deliveries
import LogWarden.Proofs.Dispatch.Faults
import LogWarden.Proofs.Dispatch.Flow
import LogWarden.Proofs.Dispatch.Lifecycle
import LogWarden.Proofs.Dispatch.Moves
import LogWarden.Proofs.Dispatch.Progress
import LogWarden.Proofs.Dispatch.Pumps
import LogWarden.Proofs.Dispatch.Served
import LogWarden.Proofs.Dispatch.Signals
import LogWarden.Proofs.FileTail.Growing
import LogWarden.Proofs.FileTail.Lines
import LogWarden.Proofs.FileTail.Shrinking
import LogWarden.Proofs.FileTail.Tailing
import LogWarden.Proofs.IdleGuard.Loops
import LogWarden.Proofs.IdleGuard.Watch
import LogWarden.Proofs.Queue.Account
import LogWarden.Proofs.Queue.Attended
import LogWarden.Proofs.Queue.Closing
import LogWarden.Proofs.Queue.Ledger
import LogWarden.Proofs.Queue.Moments
import LogWarden.Proofs.Queue.Order
import LogWarden.Proofs.Queue.Progress
import LogWarden.Proofs.Queue.Shutdown
import LogWarden.Proofs.Queue.Steps
import LogWarden.Proofs.Queue.Tickets
import LogWarden.Proofs.Queue.Usage
import LogWarden.Proofs.Trigger.Calls
import LogWarden.Proofs.Trigger.Completeness
import LogWarden.Proofs.Trigger.Loading
import LogWarden.Proofs.Trigger.Overflow
import LogWarden.Proofs.Trigger.Seconds
import LogWarden.Proofs.Warden.DispatchTurns
import LogWarden.Proofs.Warden.DispatchUse
import LogWarden.Proofs.Warden.Holdings
import LogWarden.Proofs.Warden.Invariant
import LogWarden.Proofs.Warden.QueueUse
import LogWarden.Rules.Builtin
import LogWarden.Rules.Spec
import LogWarden.Rules.Table
import LogWarden.Service.Channel
import LogWarden.Service.Probe
import LogWarden.Service.IdleGuard
import LogWarden.Source.Basic
import LogWarden.Source.FileTail
import LogWarden.Source.Stream
import LogWarden.Text
import LogWarden.Trigger.Argument
import LogWarden.Trigger.Basic
import LogWarden.Trigger.Condition
import LogWarden.Trigger.Reaction
import LogWarden.Trigger.Spec
import LogWarden.Turn
import LogWarden.Unicode.CaseFolding
import LogWarden.Unicode.CaseMap
import LogWarden.Unicode.GeneralCategory
import LogWarden.Unicode.GeneralCategory.Letter
import LogWarden.Unicode.GeneralCategory.Mark
import LogWarden.Unicode.GeneralCategory.Number
import LogWarden.Unicode.GeneralCategory.Punctuation
import LogWarden.Unicode.GeneralCategory.Separator
import LogWarden.Unicode.GeneralCategory.Symbol
import LogWarden.Unicode.LowerCase
import LogWarden.Unicode.Property
import LogWarden.Unicode.Property.Listed
import LogWarden.Unicode.Ranges
import LogWarden.Unicode.Script
import LogWarden.Unicode.WordChar
import LogWarden.Warden.Activity
import LogWarden.Warden.Basic
import LogWarden.Warden.Run
import LogWarden.Proofs.Json.Sorted
import LogWarden.Proofs.Command.Faults
import LogWarden.Proofs.Trigger.Grammar
import LogWarden.Proofs.Trigger.Firing
import LogWarden.Proofs.Pattern.Names
import LogWarden.Proofs.Rules.Classifying
import LogWarden.Proofs.Lists
import LogWarden.Proofs.Probe.Guards
import LogWarden.Proofs.Probe.Waiting
import LogWarden.Proofs.Probe.Values
import LogWarden.Proofs.Chain.Account
import LogWarden.Proofs.Chain.Course
import LogWarden.Proofs.Channel.Asking
import LogWarden.Proofs.Channel.Notes
import LogWarden.Proofs.Channel.Fallback
import LogWarden.Proofs.Channel.Pending
import LogWarden.Proofs.Channel.Echoes
import LogWarden.Proofs.Channel.Strangers
import LogWarden.Proofs.Event.Bindings
import LogWarden.Proofs.Event.RoundTrip
import LogWarden.Proofs.Event.Texts
import LogWarden.Proofs.Json.Printed
import LogWarden.Proofs.Warden.ChannelUse
import LogWarden.Proofs.FileTail.WholeLines
import LogWarden.Proofs.Json.Edited
import LogWarden.Proofs.Trigger.Documents
import LogWarden.Proofs.Config.Merging
import LogWarden.Proofs.Unicode.Caseless
import LogWarden.Proofs.Pattern.Ways
import LogWarden.Proofs.Pattern.Expressions
import LogWarden.Proofs.Pattern.Runs
import LogWarden.Proofs.Pattern.Words
import LogWarden.Proofs.Rules.Builtin
import LogWarden.Proofs.Rules.LandInvites
import LogWarden.Proofs.Rules.ChatPattern
import LogWarden.Proofs.Rules.ChatLines
import LogWarden.Proofs.Pattern.Taking
import LogWarden.Proofs.Rules.Whispers
import LogWarden.Proofs.Number.Amounts
import LogWarden.Proofs.Rules.LandLedger
import LogWarden.Proofs.Chain.Composition
import LogWarden.Proofs.Trigger.Selection
import LogWarden.Proofs.FileTail.Requests
import LogWarden.Proofs.Reaction.Course
import LogWarden.Proofs.Reaction.Account
import LogWarden.Proofs.Queue.Holds
import LogWarden.Proofs.IdleGuard.Rounds
import LogWarden.Proofs.IdleGuard.Vigil
import LogWarden.Proofs.IdleGuard.Obedience
import LogWarden.Proofs.IdleGuard.Notes
import LogWarden.Proofs.IdleGuard.Pace
import LogWarden.Proofs.Number.Rounding
import LogWarden.Proofs.Source.Unreachable
import LogWarden.Proofs.Number.Numerals
import LogWarden.Proofs.Number.ShortestDigits
import LogWarden.Proofs.Json.Fractions
import LogWarden.Proofs.Event.LedgerAmounts
import LogWarden.Proofs.Command.Money
import LogWarden.Proofs.Trigger.Money
import LogWarden.Proofs.Encoding.LineFeeds
import LogWarden.Proofs.Encoding.Gb18030
import LogWarden.Proofs.Encoding.Utf16
import LogWarden.Proofs.FileTail.EncodedLines
import LogWarden.Proofs.Command.Chat
import LogWarden.Proofs.Trigger.Chat
import LogWarden.Proofs.Number.Nearest
import LogWarden.Proofs.Trigger.Numbers
