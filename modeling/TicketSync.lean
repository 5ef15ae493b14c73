import TicketSync.Binary64
import TicketSync.CommandLine.Arguments
import TicketSync.CommandLine.Host
import TicketSync.CommandLine.Report
import TicketSync.CommandLine.Table
import TicketSync.Config.Basic
import TicketSync.Config.Finding
import TicketSync.Config.Load
import TicketSync.Config.SocketAddress
import TicketSync.Dict
import TicketSync.Engine.Dialogue
import TicketSync.Engine.Inbox
import TicketSync.Engine.Lane
import TicketSync.Engine.Life
import TicketSync.Engine.Listening
import TicketSync.Engine.Phase
import TicketSync.Engine.Registration
import TicketSync.Engine.Run
import TicketSync.Engine.Session
import TicketSync.Engine.Webhook
import TicketSync.Engine.World
import TicketSync.Failure
import TicketSync.Flow.ActionName
import TicketSync.Flow.Job
import TicketSync.Flow.Step
import TicketSync.Instant
import TicketSync.Json.Basic
import TicketSync.Json.Decoding
import TicketSync.Json.Printer
import TicketSync.Json.Reader
import TicketSync.Main
import TicketSync.Plugin.Callers
import TicketSync.Plugin.Client
import TicketSync.Plugin.Frame
import TicketSync.Plugin.Launch
import TicketSync.Plugin.Link
import TicketSync.Plugin.Redial
import TicketSync.Plugin.Service
import TicketSync.Plugin.Tracker
import TicketSync.Power
import TicketSync.Rehearsal.Basic
import TicketSync.Rehearsal.Cast
import TicketSync.Rehearsal.Drain
import TicketSync.Rehearsal.Peer
import TicketSync.Rehearsal.Service
import TicketSync.Rehearsal.Shell
import TicketSync.Script.Basic
import TicketSync.Script.Clock
import TicketSync.Script.Pool
import TicketSync.Source
import TicketSync.Store.Basic
import TicketSync.Store.Disk
import TicketSync.Store.Memory
import TicketSync.Store.Query
import TicketSync.Subscription
import TicketSync.Template.Basic
import TicketSync.Template.Evaluation
import TicketSync.Template.Function
import TicketSync.Template.Pipeline
import TicketSync.Template.Token
import TicketSync.Text.Alphanumeric
import TicketSync.Text.Blank
import TicketSync.Text.Percent
import TicketSync.Text.Printable
import TicketSync.Text.Quoted
import TicketSync.Text.Ranges
import TicketSync.Text.Utf8
import TicketSync.Ticket.Basic
import TicketSync.Ticket.Record
import TicketSync.Tracker.Behaviour
import TicketSync.Tracker.Request
import TicketSync.Vars.Basic
import TicketSync.Vars.Evaluation
import TicketSync.Yaml.Cursor
import TicketSync.Yaml.Event
import TicketSync.Yaml.Node
import TicketSync.Yaml.Resolution
import TicketSync.Yaml.Scalar
import TicketSync.Yaml.Token
import TicketSync.Proofs.LocatorIndex
import TicketSync.Proofs.LocatorLaw
import TicketSync.Proofs.ListedLocators
import TicketSync.Proofs.RunAtomicity
import TicketSync.Proofs.PipelineGrammar
import TicketSync.Proofs.ActionScan
import TicketSync.Proofs.TextSplitting
import TicketSync.Proofs.JsonText
import TicketSync.Proofs.FrameCodec
import TicketSync.Proofs.FrameLines
import TicketSync.Proofs.AnsweredRequests
import TicketSync.Proofs.RemoteTracker
import TicketSync.Proofs.InstantText
import TicketSync.Proofs.StoreAgreement
import TicketSync.Proofs.ScriptTrace
import TicketSync.Proofs.TaskThreading
import TicketSync.Proofs.RenderingFaults
import TicketSync.Proofs.CheckedConfig
import TicketSync.Proofs.ReplyRouting
import TicketSync.Proofs.ScriptQuestions
import TicketSync.Proofs.SubscriptionRows
import TicketSync.Proofs.ListenerFrame
import TicketSync.Proofs.SessionHistory
import TicketSync.Proofs.SessionStore
import TicketSync.Proofs.Teardown
import TicketSync.Proofs.TriggerRegistration
import TicketSync.Proofs.TriggerLinks
import TicketSync.Proofs.WebhookReception
import TicketSync.Proofs.LaneLog
import TicketSync.Proofs.Logbook
import TicketSync.Proofs.WebhookRouting
import TicketSync.Proofs.RunPlaces
import TicketSync.Proofs.RunOrder
import TicketSync.Proofs.PoolClock
import TicketSync.Proofs.ClockMoments
import TicketSync.Proofs.SessionClock
import TicketSync.Proofs.LifeClock
import TicketSync.Proofs.DeliveryClock
import TicketSync.Proofs.RunWrites
import TicketSync.Proofs.TicketTable
import TicketSync.Proofs.ConcurrentRuns
import TicketSync.Proofs.CourseLookup
import TicketSync.Proofs.SourceTicket
import TicketSync.Proofs.OneTicket
import TicketSync.Proofs.AnsweredCalls
import TicketSync.Proofs.SharedConnection
import TicketSync.Proofs.SessionOutcome
import TicketSync.Proofs.FlowCodec
import TicketSync.Proofs.ConfigCodec
import TicketSync.Proofs.RecordLaw
import TicketSync.Proofs.RemovalCount
import TicketSync.Proofs.CallAttempts
import TicketSync.Proofs.CancelledRun
import TicketSync.Proofs.RenderedVars
import TicketSync.Proofs.ExpressionBraces
import TicketSync.Proofs.TokenSpelling
import TicketSync.Proofs.DetachedCalls
import TicketSync.Proofs.PipedStages
import TicketSync.Proofs.ValidConfig
import TicketSync.Proofs.AddressedNames
import TicketSync.Proofs.ScannedSource
import TicketSync.Proofs.InboxDrain
import TicketSync.Proofs.WaiterTable
import TicketSync.Proofs.RemovalSelection
