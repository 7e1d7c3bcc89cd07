import Syllabus.Api.Error
import Syllabus.Api.Handler
import Syllabus.Api.Reply
import Syllabus.Api.Route
import Syllabus.Api.Service
import Syllabus.Binary64.Arithmetic
import Syllabus.Binary64.Basic
import Syllabus.Binary64.Decimal
import Syllabus.Bson.Basic
import Syllabus.Bson.Draft
import Syllabus.Bson.Text
import Syllabus.Calendar.Clock
import Syllabus.Calendar.Date
import Syllabus.Calendar.Instant
import Syllabus.Codec.Basic
import Syllabus.Codec.Fields
import Syllabus.Curriculum
import Syllabus.Filter
import Syllabus.Http.Cors
import Syllabus.Http.MediaType
import Syllabus.Http.Message
import Syllabus.Json.Basic
import Syllabus.Json.Draft
import Syllabus.Json.Number
import Syllabus.Json.Reader
import Syllabus.Merge
import Syllabus.Mongo.Client
import Syllabus.Mongo.Command
import Syllabus.Mongo.Server
import Syllabus.Mongo.Uri
import Syllabus.Namespace
import Syllabus.Placement
import Syllabus.Program
import Syllabus.Proofs.Addressable
import Syllabus.Proofs.Asks
import Syllabus.Proofs.Atomicity
import Syllabus.Proofs.Authors
import Syllabus.Proofs.Bond
import Syllabus.Proofs.Catalog
import Syllabus.Proofs.CleanFailure
import Syllabus.Proofs.Crowd
import Syllabus.Proofs.Disclosure
import Syllabus.Proofs.Duties
import Syllabus.Proofs.Exactness
import Syllabus.Proofs.FieldEdits
import Syllabus.Proofs.FilterDocument
import Syllabus.Proofs.Incarnation
import Syllabus.Proofs.Isolation
import Syllabus.Proofs.Keeping
import Syllabus.Proofs.Keyed
import Syllabus.Proofs.Keys
import Syllabus.Proofs.Ledger
import Syllabus.Proofs.ListEdits
import Syllabus.Proofs.Listing
import Syllabus.Proofs.Membership
import Syllabus.Proofs.Merging
import Syllabus.Proofs.Naming
import Syllabus.Proofs.NoTrace
import Syllabus.Proofs.OneDocument
import Syllabus.Proofs.OneRecord
import Syllabus.Proofs.Orderly
import Syllabus.Proofs.Orphan
import Syllabus.Proofs.Outage
import Syllabus.Proofs.Overtaken
import Syllabus.Proofs.Protected
import Syllabus.Proofs.ReadBack.Calendar
import Syllabus.Proofs.ReadBack.Codec
import Syllabus.Proofs.ReadBack.Edit
import Syllabus.Proofs.ReadBack.Json
import Syllabus.Proofs.ReadBack.Record
import Syllabus.Proofs.ReadBack.RoundTrip
import Syllabus.Proofs.Redaction
import Syllabus.Proofs.Refinement
import Syllabus.Proofs.Refusal
import Syllabus.Proofs.Regular
import Syllabus.Proofs.Repetition
import Syllabus.Proofs.Roster
import Syllabus.Proofs.Scope
import Syllabus.Proofs.ServerEdit
import Syllabus.Proofs.SharedServer
import Syllabus.Proofs.Shelf
import Syllabus.Proofs.Standing
import Syllabus.Proofs.StaysWithin
import Syllabus.Proofs.StoredData
import Syllabus.Proofs.Traffic
import Syllabus.Proofs.Undisturbed
import Syllabus.Proofs.UniqueUsers
import Syllabus.Proofs.Update
import Syllabus.Proofs.VersionGuard
import Syllabus.Proofs.View
import Syllabus.Proofs.Workflows
import Syllabus.Proofs.Yields
import Syllabus.Record.Basic
import Syllabus.Record.Content
import Syllabus.Record.Course
import Syllabus.Record.Lesson
import Syllabus.Record.User
import Syllabus.Records
import Syllabus.Settings
import Syllabus.Store.Basic
import Syllabus.Store.Error
import Syllabus.Store.Fault
import Syllabus.Store.Membership
import Syllabus.Store.Request
import Syllabus.Text.Blank
import Syllabus.Text.Hex
import Syllabus.Text.Numeral
import Syllabus.Text.Offset
import Syllabus.Text.Percent
