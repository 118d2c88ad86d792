import CaseForm.Calendar.Date
import CaseForm.Calendar.Elapsed
import CaseForm.Calendar.Moment
import CaseForm.Calendar.Pattern
import CaseForm.Calendar.Print
import CaseForm.Calendar.Read
import CaseForm.Codec
import CaseForm.CommandLine.Arguments
import CaseForm.CommandLine.Report
import CaseForm.Decimal.Shortest
import CaseForm.Document.Blank
import CaseForm.Document.Flatten
import CaseForm.Document.Write
import CaseForm.Entries
import CaseForm.Form.Command
import CaseForm.Form.Dispatch
import CaseForm.Form.Opening
import CaseForm.Form.Refresh
import CaseForm.Form.Request
import CaseForm.Form.Session
import CaseForm.Form.State
import CaseForm.Form.Submit
import CaseForm.Form.Surroundings
import CaseForm.Form.Ticket
import CaseForm.Handler.Compose
import CaseForm.Handler.Property
import CaseForm.Handler.Script
import CaseForm.Handler.Step
import CaseForm.Json.Basic
import CaseForm.Json.Numeral
import CaseForm.Json.Printer
import CaseForm.Json.Reader
import CaseForm.Json.Syntax
import CaseForm.Json.Token
import CaseForm.Layout.Binding
import CaseForm.Layout.Control
import CaseForm.Layout.Field
import CaseForm.Layout.RepeatKind
import CaseForm.Layout.RowKey
import CaseForm.Layout.Seed
import CaseForm.Layout.View
import CaseForm.Layout.ViewCodec
import CaseForm.Main
import CaseForm.Proofs.Calendar.Counted
import CaseForm.Proofs.Calendar.FixedWidth
import CaseForm.Proofs.Codec.Agreement
import CaseForm.Proofs.Codec.Composition
import CaseForm.Proofs.Codec.Steady
import CaseForm.Proofs.Document.Address
import CaseForm.Proofs.Document.Again
import CaseForm.Proofs.Document.Atomic
import CaseForm.Proofs.Document.Container
import CaseForm.Proofs.Document.Effect
import CaseForm.Proofs.Document.Growth
import CaseForm.Proofs.Document.Leaves
import CaseForm.Proofs.Document.Located
import CaseForm.Proofs.Document.Order
import CaseForm.Proofs.Document.Origin
import CaseForm.Proofs.Document.Overlay
import CaseForm.Proofs.Document.Pages
import CaseForm.Proofs.Document.Places
import CaseForm.Proofs.Document.Reach
import CaseForm.Proofs.Document.Regular
import CaseForm.Proofs.Document.Retention
import CaseForm.Proofs.Document.RoundTrip
import CaseForm.Proofs.Document.Sequence
import CaseForm.Proofs.Document.Slot
import CaseForm.Proofs.Document.Stride
import CaseForm.Proofs.Form.Binding
import CaseForm.Proofs.Form.Closed
import CaseForm.Proofs.Form.Drafting
import CaseForm.Proofs.Form.Failure
import CaseForm.Proofs.Form.GroupKeys
import CaseForm.Proofs.Form.History
import CaseForm.Proofs.Form.Keeping
import CaseForm.Proofs.Form.Loading
import CaseForm.Proofs.Form.Messages
import CaseForm.Proofs.Form.Responses
import CaseForm.Proofs.Form.RowEditing
import CaseForm.Proofs.Form.Rows
import CaseForm.Proofs.Form.Running
import CaseForm.Proofs.Form.Sending
import CaseForm.Proofs.Form.Submission
import CaseForm.Proofs.Form.Threading
import CaseForm.Proofs.Form.Trace
import CaseForm.Proofs.Form.Unbuilt
import CaseForm.Proofs.Handler.Composed
import CaseForm.Proofs.Json.Same
import CaseForm.Proofs.Json.Spelling
import CaseForm.Proofs.Layout.Alike
import CaseForm.Proofs.Layout.Components
import CaseForm.Proofs.Layout.Inner
import CaseForm.Proofs.Layout.Reencoding
import CaseForm.Proofs.Layout.RowKeys
import CaseForm.Proofs.Reference.Grammar
import CaseForm.Proofs.Reference.Joined
import CaseForm.Proofs.Reference.Legible
import CaseForm.Proofs.Reference.Position
import CaseForm.Proofs.Reference.Printed
import CaseForm.Proofs.Render.Dates
import CaseForm.Proofs.Render.Drawn
import CaseForm.Proofs.Render.Problems
import CaseForm.Proofs.Render.Reads
import CaseForm.Proofs.Render.Search
import CaseForm.Reference.Addressing
import CaseForm.Reference.Segment
import CaseForm.Render.Field
import CaseForm.Render.Node
import CaseForm.Render.Outline
import CaseForm.Render.Renderer
import CaseForm.Render.View
import CaseForm.Render.Written
import CaseForm.Settings
import CaseForm.Table
import CaseForm.Text.Blank
import CaseForm.Text.Cut
import CaseForm.Text.Quote
import CaseForm.Text.Shapeless
import CaseForm.Validation
