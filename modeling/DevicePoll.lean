import DevicePoll.Class.Basic
import DevicePoll.Class.Catalog
import DevicePoll.Class.Definitions
import DevicePoll.Class.Overlay
import DevicePoll.Communicator
import DevicePoll.Component
import DevicePoll.Configuration.Basic
import DevicePoll.Configuration.Environment
import DevicePoll.Decimal.Layout
import DevicePoll.Decimal.Real
import DevicePoll.Decimal.Shortest
import DevicePoll.Decimal.Whole
import DevicePoll.Device
import DevicePoll.Document.Basic
import DevicePoll.Document.Json
import DevicePoll.Document.Layer
import DevicePoll.Document.Reader
import DevicePoll.Failure
import DevicePoll.Failure.Kind
import DevicePoll.Host
import DevicePoll.LabelTree
import DevicePoll.Log.Filter
import DevicePoll.Log.Pattern
import DevicePoll.Log.Settings
import DevicePoll.Oid
import DevicePoll.Operator
import DevicePoll.Override.Sap
import DevicePoll.Override.Script
import DevicePoll.Property
import DevicePoll.Query.Read
import DevicePoll.Query.Request
import DevicePoll.Query.Row
import DevicePoll.Query.Tree
import DevicePoll.Reading.Basic
import DevicePoll.Reading.Schedule
import DevicePoll.Reading.Together
import DevicePoll.Record.Interface
import DevicePoll.Record.Schema
import DevicePoll.Record.Table
import DevicePoll.Scalar
import DevicePoll.Settings
import DevicePoll.Snapshot
import DevicePoll.SortedMap
import DevicePoll.Source.Chain
import DevicePoll.Source.Declared
import DevicePoll.Source.Node
import DevicePoll.Text.Alphanumeric
import DevicePoll.Text.Blank
import DevicePoll.Text.Bytes
import DevicePoll.Text.Dotted
import DevicePoll.Text.Hidden
import DevicePoll.Text.Numeral
import DevicePoll.Text.Quoted
import DevicePoll.Text.Range
import DevicePoll.Yaml.Character
import DevicePoll.Yaml.Cursor
import DevicePoll.Yaml.Node
import DevicePoll.Yaml.Plain
import DevicePoll.Yaml.Reader
import DevicePoll.Yaml.Tag
import DevicePoll.Yaml.Text
import DevicePoll.Yaml.Token
import DevicePoll.Proofs.Source.Scan
import DevicePoll.Proofs.LabelTree.Merge
import DevicePoll.Proofs.Class.Compile
import DevicePoll.Proofs.Class.Construction
import DevicePoll.Proofs.Class.Layered
import DevicePoll.Proofs.Source.Declared
import DevicePoll.Proofs.Source.Merged
import DevicePoll.Proofs.Source.Unrelated
import DevicePoll.Proofs.Class.Ascent
import DevicePoll.Proofs.Reading.Similar
import DevicePoll.Proofs.Reading.Ensures
import DevicePoll.Proofs.Reading.Stopped
import DevicePoll.Proofs.Query.Decoding
import DevicePoll.Proofs.Source.Standard
import DevicePoll.Proofs.Source.Account
import DevicePoll.Proofs.Poll.Survey
import DevicePoll.Proofs.Poll.Standard
import DevicePoll.Proofs.Override.Standard
import DevicePoll.Proofs.Poll.Judgement
import DevicePoll.Proofs.Poll.HardFailure
import DevicePoll.Proofs.Poll.Composition
import DevicePoll.Proofs.Poll.Stopped
import DevicePoll.Proofs.LabelTree.Grouping
import DevicePoll.Proofs.LabelTree.Latest
import DevicePoll.Proofs.Decimal.Finite
import DevicePoll.Proofs.Document.Checked
import DevicePoll.Proofs.Document.Rearranged
import DevicePoll.Proofs.Class.Written
import DevicePoll.Proofs.Class.Reread
import DevicePoll.Proofs.Class.Canonical
import DevicePoll.Proofs.Reading.Permits
import DevicePoll.Proofs.Reading.Rounds
import DevicePoll.Proofs.Reading.Orderly
import DevicePoll.Proofs.Reading.InLine
import DevicePoll.Proofs.Reading.Landing
import DevicePoll.Proofs.Reading.Bounded
import DevicePoll.Proofs.Reading.Progress
import DevicePoll.Proofs.Query.Prompt
import DevicePoll.Proofs.Source.Orderly
import DevicePoll.Proofs.Poll.Sequential
import DevicePoll.Proofs.Poll.Permits
import DevicePoll.Proofs.LabelTree.Leaves
import DevicePoll.Proofs.Query.Unhurried
import DevicePoll.Proofs.Query.Rows
import DevicePoll.Proofs.Query.Cells
import DevicePoll.Proofs.Query.Arrival
import DevicePoll.Proofs.Query.Strict
import DevicePoll.Proofs.Source.Gate
import DevicePoll.Proofs.Poll.Aggregation
import DevicePoll.Proofs.Text.Identifier
import DevicePoll.Proofs.Override.AccessPoint
import DevicePoll.Proofs.Override.Attachment
import DevicePoll.Proofs.Override.Listing
import DevicePoll.Proofs.Reading.Sequence
import DevicePoll.Proofs.Poll.Identity
import DevicePoll.Proofs.Source.Normalized
import DevicePoll.Proofs.Query.Hurried
import DevicePoll.Proofs.Source.Listing
import DevicePoll.Proofs.Class.Compiled
import DevicePoll.Proofs.Class.Builder
import DevicePoll.Proofs.Text.Spelling
import DevicePoll.Proofs.Text.Descent
import DevicePoll.Proofs.Decimal.Signed
import DevicePoll.Proofs.Reading.Waves
import DevicePoll.Proofs.Query.Timely
import DevicePoll.Proofs.LabelTree.Labelled
import DevicePoll.Proofs.Class.Labelled
import DevicePoll.Proofs.Query.Memory
