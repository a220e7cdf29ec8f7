import BookingDesk.Booking.Basic
import BookingDesk.Booking.Command
import BookingDesk.Booking.InvalidInput
import BookingDesk.Booking.Json
import BookingDesk.Booking.Notes
import BookingDesk.Booking.Status
import BookingDesk.Config
import BookingDesk.Database.Exchange
import BookingDesk.Database.Query
import BookingDesk.Database.Reading
import BookingDesk.Database.Statement
import BookingDesk.Http.Body
import BookingDesk.Http.Extract
import BookingDesk.Http.MediaType
import BookingDesk.Http.Message
import BookingDesk.Http.Respond
import BookingDesk.Http.Route
import BookingDesk.Http.Serve
import BookingDesk.Id
import BookingDesk.Json.Lexer
import BookingDesk.Json.Numeral
import BookingDesk.Json.Reader
import BookingDesk.Json.Record
import BookingDesk.Json.Shape
import BookingDesk.Json.Token
import BookingDesk.Proofs.Books
import BookingDesk.Proofs.Interleaving
import BookingDesk.Proofs.Reached
import BookingDesk.Proofs.Stage
import BookingDesk.Proofs.Turns
import BookingDesk.Schedule.Fault
import BookingDesk.Schedule.Timeline
import BookingDesk.Schedule.Together
import BookingDesk.Service.Call
import BookingDesk.Service.Change
import BookingDesk.Service.Create
import BookingDesk.Service.Error
import BookingDesk.Service.Notice
import BookingDesk.Service.Program
import BookingDesk.Service.Query
import BookingDesk.Store.Table
import BookingDesk.Store.World
import BookingDesk.Text.Blank
import BookingDesk.Text.Decimal
import BookingDesk.Text.GraphemeExtend
import BookingDesk.Text.Hex
import BookingDesk.Text.Percent
import BookingDesk.Text.Quoted
import BookingDesk.Text.Split
import BookingDesk.Text.Unprintable
import BookingDesk.Text.Utf8
import BookingDesk.Time.Date
import BookingDesk.Time.Instant
import BookingDesk.Time.Text
import BookingDesk.Uuid
import BookingDesk.Proofs.Race
import BookingDesk.Proofs.DoubleBooking
import BookingDesk.Proofs.LostUpdate
import BookingDesk.Proofs.InStep
import BookingDesk.Proofs.Courses
import BookingDesk.Proofs.Troubled
import BookingDesk.Proofs.FailedCreate
import BookingDesk.Proofs.Copies
import BookingDesk.Proofs.Lifecycle
import BookingDesk.Proofs.Errands
import BookingDesk.Proofs.Seen
import BookingDesk.Proofs.OwnBooks
import BookingDesk.Proofs.Within
import BookingDesk.Proofs.Isolation
import BookingDesk.Proofs.HandedOver
import BookingDesk.Proofs.GivenUp
import BookingDesk.Proofs.Leaving
import BookingDesk.Proofs.Released
import BookingDesk.Proofs.Counters
import BookingDesk.Proofs.WellFormed
import BookingDesk.Proofs.AnyOrder
import BookingDesk.Proofs.StoresAgree
import BookingDesk.Proofs.Tables
import BookingDesk.Proofs.HttpContract
import BookingDesk.Proofs.Discretion
import BookingDesk.Proofs.Calendar
import BookingDesk.Proofs.TimeText
import BookingDesk.Proofs.Spelling
import BookingDesk.Proofs.Records
import BookingDesk.Proofs.RoundTrip
import BookingDesk.Proofs.CreateProtocol
import BookingDesk.Proofs.CreateVerdict
import BookingDesk.Proofs.ChangeVerdict
import BookingDesk.Proofs.TwoWays
import BookingDesk.Proofs.Again
import BookingDesk.Proofs.Listings
import BookingDesk.Proofs.OneField
import BookingDesk.Proofs.Statistics
import BookingDesk.Proofs.Revisions
import BookingDesk.Proofs.RowFormat
import BookingDesk.Proofs.CorruptRows
import BookingDesk.Proofs.FourSpellings
import BookingDesk.Proofs.OneBusiness
import BookingDesk.Proofs.TenantGate
import BookingDesk.Proofs.InRange
