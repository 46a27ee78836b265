import Assay.Act
import Assay.AnswerList
import Assay.Assignment
import Assay.Attempt
import Assay.Catalogue
import Assay.Catalogue.Offices
import Assay.Catalogue.Reviews
import Assay.Command
import Assay.Command.Options
import Assay.Command.Results
import Assay.Digest
import Assay.Domain
import Assay.Domain.Composition
import Assay.Domain.Direction
import Assay.Domain.DirectionTable
import Assay.Domain.Joining
import Assay.Domain.JoiningTable
import Assay.Domain.LetterTable
import Assay.Domain.Letters
import Assay.Domain.MarkTable
import Assay.Domain.Punycode
import Assay.Duration
import Assay.Endpoint
import Assay.Endpoint.Chat
import Assay.Endpoint.Plain
import Assay.Endpoint.Posting
import Assay.Endpoint.Reply
import Assay.Error
import Assay.Failure
import Assay.FileTree
import Assay.Generation
import Assay.Grade
import Assay.Http
import Assay.Inquiry
import Assay.Json.Decode
import Assay.Json.Fault
import Assay.Json.Numeral
import Assay.Json.Parser
import Assay.Json.Printer
import Assay.Json.Value
import Assay.Lanes
import Assay.Main
import Assay.Message
import Assay.Metrics
import Assay.ModelArguments
import Assay.Number.Binary64
import Assay.Number.Bound
import Assay.Number.Decimal
import Assay.Number.Radix
import Assay.Number.Rounding
import Assay.Output
import Assay.Proofs.Asking
import Assay.Proofs.Calls
import Assay.Provider
import Assay.Retry
import Assay.Sample
import Assay.Sampling
import Assay.Saving
import Assay.Score
import Assay.Scorer
import Assay.Task
import Assay.Text.Blank
import Assay.Text.Case
import Assay.Text.CaseTable
import Assay.Text.Cut
import Assay.Text.HiddenTable
import Assay.Text.Normal
import Assay.Text.Packed
import Assay.Text.Quoted
import Assay.Text.Table
import Assay.Text.Template
import Assay.Text.Utf8
import Assay.Text.Word
import Assay.Text.WordTable
import Assay.Tool
import Assay.Url
import Assay.Url.Escape
import Assay.Url.Host
import Assay.Url.Path
import Assay.World
import Assay.Proofs.Refusal
import Assay.Proofs.Abort
import Assay.Proofs.Delay
import Assay.Proofs.Course
import Assay.Proofs.Conversation
import Assay.Proofs.Credit
import Assay.Proofs.Substitution
import Assay.Proofs.Fingerprint
import Assay.Proofs.Exchange
import Assay.Proofs.Members
import Assay.Proofs.Request
import Assay.Proofs.Independence
import Assay.Proofs.Reporting
import Assay.Proofs.RoundTrip
import Assay.Proofs.Grading
import Assay.Proofs.History
import Assay.Proofs.Service
import Assay.Proofs.Options
import Assay.Proofs.Job
import Assay.Proofs.Command
import Assay.Proofs.LowerCase
import Assay.Proofs.Cutting
import Assay.Proofs.Articles
import Assay.Proofs.NormalForm
import Assay.Proofs.AnswerList
import Assay.Proofs.ClosingLine
import Assay.Proofs.Prompting
import Assay.Proofs.Punctuation
import Assay.Proofs.Decoding
import Assay.Proofs.Replies
import Assay.Proofs.Null
import Assay.Proofs.Arguments
import Assay.Proofs.Assignments
import Assay.Proofs.Parameters
import Assay.Proofs.Reading
import Assay.Proofs.Following
import Assay.Proofs.Compact
import Assay.Proofs.ModelArguments
import Assay.Proofs.Timeout
import Assay.Proofs.Destination
import Assay.Proofs.Pauses
import Assay.Proofs.Undeclared
import Assay.Proofs.OneLine
import Assay.Proofs.SampleLog
import Assay.Proofs.StandardError
