import SmsServer.Library.Str
import SmsServer.Library.Decimal
import SmsServer.Library.Utf8
import SmsServer.Library.Machine
import SmsServer.Library.Slots
import SmsServer.Library.Multimap
import SmsServer.Library.Paging
import SmsServer.Library.Sql
import SmsServer.Library.DashMap
import SmsServer.Library.BufferUnordered
import SmsServer.Library.Reordered
import SmsServer.Library.Cascade
import SmsServer.Library.Client
import SmsServer.Sms.Types
import SmsServer.Sms.Encryption
import SmsServer.Modem.Types
import SmsServer.Modem.Commands
import SmsServer.Modem.Buffer
import SmsServer.Modem.Lexer
import SmsServer.Modem.Chunking
import SmsServer.Modem.Parsers
import SmsServer.Modem.ResponseText
import SmsServer.Modem.OperatorNames
import SmsServer.Modem.Handlers
import SmsServer.Modem.StateMachine
import SmsServer.Modem.Worker
import SmsServer.Modem.RunLoop
import SmsServer.Modem.Invariant
import SmsServer.Modem.Accounting
import SmsServer.Modem.Unsolicited
import SmsServer.Modem.Status
import SmsServer.Modem.StatusUpdates
import SmsServer.Modem.Submission
import SmsServer.Modem.Query
import SmsServer.Modem.Timeouts
import SmsServer.Modem.Handover
import SmsServer.Modem.FinalResults
import SmsServer.Modem.SmsReference
import SmsServer.Modem.Tokens
import SmsServer.Modem.Prompts
import SmsServer.Modem.Sender
import SmsServer.Modem.Requests
import SmsServer.Modem.ResponseKinds
import SmsServer.Sms.Multipart
import SmsServer.Sms.Reassembly
import SmsServer.Sms.Retention
import SmsServer.Sms.Pending
import SmsServer.Sms.Database
import SmsServer.Sms.Pagination
import SmsServer.Sms.Queries
import SmsServer.Sms.MessageStore
import SmsServer.Sms.Delivery
import SmsServer.Sms.Sending
import SmsServer.Sms.Bookkeeping
import SmsServer.Sms.ReportRace
import SmsServer.Http.Routes
import SmsServer.Sms.FriendlyNames
import SmsServer.Http.ModemRoutes
import SmsServer.Http.Handlers
import SmsServer.Http.Axum
import SmsServer.Http.Access
import SmsServer.Http.EventFilter
import SmsServer.Http.WebSocket
import SmsServer.Http.Webhooks
import SmsServer.Http.WebhookQueue
import SmsServer.Events
import SmsServer.Http.Connection
import SmsServer.App.Tasks
import SmsServer.App.Incoming
import SmsServer.App.Announced
import SmsServer.System
import SmsServer.Chatgpt.History
import SmsServer.Chatgpt.Queues
import SmsServer.Chatgpt.Order
import SmsServer.Chatgpt.Conversations
import SmsServer.Chatgpt.Serial
