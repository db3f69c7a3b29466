import GuildRegistry.Number.Binary64
import GuildRegistry.Number.Shortest
import GuildRegistry.Number.Numeral
import GuildRegistry.Text.Blank
import GuildRegistry.Text.Units
import GuildRegistry.Text.Utf8
import GuildRegistry.Json.PropertyOrder
import GuildRegistry.Json.Value
import GuildRegistry.Json.Reader
import GuildRegistry.Json.Writer
import GuildRegistry.Json.Access
import GuildRegistry.Calendar.Instant
import GuildRegistry.Calendar.Fields
import GuildRegistry.Calendar.DateToken
import GuildRegistry.Calendar.DateText
import GuildRegistry.Timestamp
import GuildRegistry.Markup.Html
import GuildRegistry.Cipher.Sha256
import GuildRegistry.Cipher.Hmac
import GuildRegistry.Cipher.Aes
import GuildRegistry.Cipher.Base64
import GuildRegistry.Cipher.Fernet
import GuildRegistry.Guild.Records
import GuildRegistry.Schema.Issue
import GuildRegistry.Schema.Check
import GuildRegistry.Guild.Document
import GuildRegistry.Ledger.KeyMap
import GuildRegistry.Ledger.Basic
import GuildRegistry.Ledger.Views
import GuildRegistry.Order.TimSort
import GuildRegistry.Log
import GuildRegistry.Store.Disk
import GuildRegistry.Store.Failure
import GuildRegistry.Store.Snapshot
import GuildRegistry.Store.Registry
import GuildRegistry.Store.Machine
import GuildRegistry.Store.Request
import GuildRegistry.Store.Session
import GuildRegistry.Bot.Texts
import GuildRegistry.Bot.Parse
import GuildRegistry.Bot.Keyboards
import GuildRegistry.Bot.Intake
import GuildRegistry.Bot.RateLimit
import GuildRegistry.Bot.Conversation
import GuildRegistry.Bot.Documents
import GuildRegistry.Bot.Settings
import GuildRegistry.Bot.Update
import GuildRegistry.Bot.Api
import GuildRegistry.Bot.Review
import GuildRegistry.Bot.Direct
import GuildRegistry.Bot.Group
import GuildRegistry.Bot.Pipeline
import GuildRegistry.Bot.Session
import GuildRegistry.Unicode.RangeTable
import GuildRegistry.Unicode.IdnaMappingData
import GuildRegistry.Unicode.IdnaMapping
import GuildRegistry.Unicode.NormalizationData
import GuildRegistry.Unicode.Normalization
import GuildRegistry.Unicode.LabelClassesData
import GuildRegistry.Unicode.LabelClasses
import GuildRegistry.Domain.Punycode
import GuildRegistry.Domain.Label
import GuildRegistry.Domain.Ascii
import GuildRegistry.Http.Url
import GuildRegistry.Http.MediaType
import GuildRegistry.Http.Server
import GuildRegistry.Http.Session
import GuildRegistry.Proofs.Text.Digits
import GuildRegistry.Proofs.Number.Rounding
import GuildRegistry.Proofs.Number.Shortest
import GuildRegistry.Proofs.Number.Reading
import GuildRegistry.Proofs.Json.PropertyOrder
import GuildRegistry.Proofs.Ledger.KeyMap
import GuildRegistry.Proofs.Ledger.Reload
import GuildRegistry.Proofs.Ledger.Snapshot
import GuildRegistry.Proofs.Store.Changes
import GuildRegistry.Proofs.Store.Frame
import GuildRegistry.Proofs.Store.Rollback
import GuildRegistry.Proofs.Store.Persist
import GuildRegistry.Proofs.Store.Runs
import GuildRegistry.Proofs.Store.Reviews
import GuildRegistry.Proofs.Text.Ascii
import GuildRegistry.Proofs.Cipher.Aes
import GuildRegistry.Proofs.Cipher.Base64
import GuildRegistry.Proofs.Cipher.Fernet
import GuildRegistry.Proofs.Store.Serial
import GuildRegistry.Proofs.Json.Scanning
import GuildRegistry.Proofs.Calendar.Civil
import GuildRegistry.Proofs.Timestamp.Canonical
import GuildRegistry.Proofs.Bot.Markup
import GuildRegistry.Proofs.Ledger.Statistics
import GuildRegistry.Proofs.Store.Xp
import GuildRegistry.Proofs.Json.Units
import GuildRegistry.Proofs.Json.Numerals
import GuildRegistry.Proofs.Json.ReadBack
import GuildRegistry.Proofs.Text.Utf8
import GuildRegistry.Proofs.Store.Atomic
import GuildRegistry.Proofs.Number.Order
import GuildRegistry.Proofs.Schema.Accepted
import GuildRegistry.Proofs.Store.Leaderboard
import GuildRegistry.Proofs.Store.KeptReads
import GuildRegistry.Proofs.Store.Queue
import GuildRegistry.Proofs.Bot.Questionnaire
import GuildRegistry.Proofs.Schema.Stable
import GuildRegistry.Proofs.Bot.RateLimit
import GuildRegistry.Proofs.Store.Restore
import GuildRegistry.Proofs.Store.Persisted
import GuildRegistry.Proofs.Store.Lifecycle
import GuildRegistry.Proofs.Store.StatusGraph
import GuildRegistry.Proofs.Store.CupOrder
import GuildRegistry.Proofs.Store.AdminProfiles
import GuildRegistry.Proofs.Number.Monotone
import GuildRegistry.Proofs.Bot.Pruning
import GuildRegistry.Proofs.Timestamp.Zones
import GuildRegistry.Proofs.Timestamp.Spellings
import GuildRegistry.Proofs.Markup.Entities
import GuildRegistry.Proofs.Store.Loading
import GuildRegistry.Proofs.Bot.Work
import GuildRegistry.Proofs.Bot.NotePrompts
import GuildRegistry.Proofs.Bot.OpenReviews
