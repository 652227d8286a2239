import Switchboard.Application.Assembly
import Switchboard.Application.Slot
import Switchboard.Application.State
import Switchboard.Config.Data
import Switchboard.Config.EnvText
import Switchboard.Config.Environment
import Switchboard.Config.Layers
import Switchboard.Config.Settings
import Switchboard.Config.Tree
import Switchboard.Decimal.Basic
import Switchboard.Decimal.Shortest
import Switchboard.Derive.EventAttribute
import Switchboard.Derive.Expansion
import Switchboard.Derive.Fault
import Switchboard.Derive.Item
import Switchboard.Derive.Lexer
import Switchboard.Derive.Literal
import Switchboard.Derive.Token
import Switchboard.Event
import Switchboard.Eventing.Bus
import Switchboard.Eventing.DispatcherConfig
import Switchboard.Eventing.Listener
import Switchboard.Eventing.Registry
import Switchboard.Hub
import Switchboard.Json.Basic
import Switchboard.Json.Decode
import Switchboard.Json.Printer
import Switchboard.Json.Reader
import Switchboard.Logging.Filter
import Switchboard.Logging.Level
import Switchboard.Logging.Logger
import Switchboard.Logging.Memory
import Switchboard.Logging.Request
import Switchboard.Logging.Sanitizer
import Switchboard.Logging.TraceLine
import Switchboard.Logging.Tracing
import Switchboard.Members
import Switchboard.Proofs.Eventing.Calls
import Switchboard.Proofs.Eventing.Conservation
import Switchboard.Proofs.Eventing.Delivery
import Switchboard.Proofs.Eventing.EntryOrder
import Switchboard.Proofs.Eventing.Invocations
import Switchboard.Proofs.Eventing.Lifecycle
import Switchboard.Proofs.Eventing.Numbers
import Switchboard.Proofs.Eventing.Reached
import Switchboard.Proofs.Eventing.Reader
import Switchboard.Proofs.Eventing.Routing
import Switchboard.Proofs.Eventing.Run
import Switchboard.Proofs.Eventing.Shutdown
import Switchboard.Proofs.Eventing.Slots
import Switchboard.Proofs.Eventing.Transition
import Switchboard.Proofs.Scenario.Footing
import Switchboard.Proofs.Session.Store
import Switchboard.Record
import Switchboard.Scenario.Command
import Switchboard.Scenario.Play
import Switchboard.Scenario.Script
import Switchboard.Scenario.Turn
import Switchboard.Scenario.World
import Switchboard.ServerEvents.Center
import Switchboard.ServerEvents.Inbox
import Switchboard.ServerEvents.Message
import Switchboard.ServiceError
import Switchboard.Session.Announcement
import Switchboard.Session.Repository
import Switchboard.Session.Service
import Switchboard.Session.Session
import Switchboard.SetupError
import Switchboard.Text.Blank
import Switchboard.Text.Name
import Switchboard.Text.Printable
import Switchboard.Text.Quoted
import Switchboard.Time.Calendar
import Switchboard.Time.Instant
import Switchboard.Time.Rfc3339
import Switchboard.Words
import Switchboard.Proofs.Eventing.Conservation
import Switchboard.Proofs.Session.Lifetime
import Switchboard.Proofs.Eventing.Containment
import Switchboard.Proofs.Session.Desk
import Switchboard.Proofs.Scenario.BusStep
import Switchboard.Proofs.Session.Accounting
import Switchboard.Proofs.Eventing.Forwarding
import Switchboard.Proofs.Scenario.Subject
import Switchboard.Proofs.Scenario.Duties
import Switchboard.Proofs.Session.Stage
import Switchboard.Proofs.Session.Serving
import Switchboard.Proofs.Session.Announcements
import Switchboard.Proofs.Time.Calendar
import Switchboard.Proofs.Time.RoundTrip
import Switchboard.Proofs.Json.RoundTrip
import Switchboard.Proofs.Session.Persistence
import Switchboard.Proofs.Application.Assembly
import Switchboard.Proofs.ServerEvents.Station
import Switchboard.Proofs.ServerEvents.Delivery
import Switchboard.Proofs.Eventing.Veiling
import Switchboard.Proofs.Scenario.Veil
import Switchboard.Proofs.Scenario.VeiledWorld
import Switchboard.Proofs.Scenario.VeiledCommand
import Switchboard.Proofs.Session.Secrecy
import Switchboard.Proofs.Eventing.Counters
import Switchboard.Proofs.Eventing.Phases
import Switchboard.Proofs.Eventing.Synchrony
import Switchboard.Proofs.Derive.Grammar
import Switchboard.Proofs.Derive.Verdict
import Switchboard.Proofs.Config.Merging
import Switchboard.Proofs.Config.Fields
import Switchboard.Proofs.Config.Layering
import Switchboard.Proofs.Config.Spelling
import Switchboard.Proofs.Config.Variables
import Switchboard.Proofs.Config.Leniency
import Switchboard.Proofs.Session.Refusals
import Switchboard.Proofs.Json.Position
import Switchboard.Proofs.Logging.Limits
import Switchboard.Proofs.Session.Table
import Switchboard.Proofs.Session.Expiry
import Switchboard.Proofs.Application.Registrations
import Switchboard.Proofs.Logging.Passing
import Switchboard.Proofs.Session.Relaying
import Switchboard.Proofs.Derive.Output
import Switchboard.Proofs.Derive.Arrangement
