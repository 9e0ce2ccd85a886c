import GuildWarden.Bot.Basic
import GuildWarden.Cause
import GuildWarden.Chat.Mention
import GuildWarden.Collection.IdMap
import GuildWarden.Command.Basic
import GuildWarden.Command.Context
import GuildWarden.Command.Crates
import GuildWarden.Command.Help
import GuildWarden.Command.History
import GuildWarden.Command.Invocation
import GuildWarden.Command.Moderation
import GuildWarden.Command.Play
import GuildWarden.Command.Router
import GuildWarden.Command.Tags
import GuildWarden.Command.Welcome
import GuildWarden.Dispatch.Dispatcher
import GuildWarden.Dispatch.Drain
import GuildWarden.Dispatch.Pool
import GuildWarden.Effect.Memory
import GuildWarden.Effect.Program
import GuildWarden.Gateway.Address
import GuildWarden.Gateway.Backoff
import GuildWarden.Gateway.Decode
import GuildWarden.Gateway.Event
import GuildWarden.Gateway.Inbound
import GuildWarden.Gateway.Intents
import GuildWarden.Gateway.Session.Basic
import GuildWarden.Gateway.Session.Connection
import GuildWarden.Gateway.Session.Handle
import GuildWarden.Gateway.Session.Outbound
import GuildWarden.Gateway.Session.Step
import GuildWarden.Guild.RoleCache
import GuildWarden.Log
import GuildWarden.Main
import GuildWarden.Message
import GuildWarden.Moderation.Ban
import GuildWarden.Moderation.BanOrder
import GuildWarden.Moderation.Slowmode
import GuildWarden.Number.Binary64
import GuildWarden.Number.Integer
import GuildWarden.Number.Shortest
import GuildWarden.Path
import GuildWarden.Payload.Basic
import GuildWarden.Payload.Display
import GuildWarden.Payload.Item
import GuildWarden.Payload.Order
import GuildWarden.Payload.Printer
import GuildWarden.Payload.Reader
import GuildWarden.Permission.Check
import GuildWarden.Permission.Tier
import GuildWarden.Platform.Call
import GuildWarden.Platform.Client
import GuildWarden.Playground.Client
import GuildWarden.Playground.Code
import GuildWarden.Playground.Options
import GuildWarden.Playground.Request
import GuildWarden.Proofs.Chat.Mention
import GuildWarden.Proofs.Collection.IdMap
import GuildWarden.Proofs.Command.Admission
import GuildWarden.Proofs.Command.Grammar
import GuildWarden.Proofs.Command.Guidance
import GuildWarden.Proofs.Command.Handlers
import GuildWarden.Proofs.Command.Outcomes
import GuildWarden.Proofs.Command.Replies
import GuildWarden.Proofs.Command.Reporting
import GuildWarden.Proofs.Command.Respect
import GuildWarden.Proofs.Dispatch.Bookkeeping
import GuildWarden.Proofs.Dispatch.Deletion
import GuildWarden.Proofs.Dispatch.Deliveries
import GuildWarden.Proofs.Dispatch.Draining
import GuildWarden.Proofs.Dispatch.Progress
import GuildWarden.Proofs.Dispatch.Reactions
import GuildWarden.Proofs.Dispatch.Recency
import GuildWarden.Proofs.Dispatch.Retraction
import GuildWarden.Proofs.Dispatch.Roles
import GuildWarden.Proofs.Dispatch.Schedule
import GuildWarden.Proofs.Dispatch.Settling
import GuildWarden.Proofs.Dispatch.Slots
import GuildWarden.Proofs.Dispatch.Turns
import GuildWarden.Proofs.Effect.Company
import GuildWarden.Proofs.Effect.Interleaving
import GuildWarden.Proofs.Effect.Runs
import GuildWarden.Proofs.Effect.Service
import GuildWarden.Proofs.Gateway.Account
import GuildWarden.Proofs.Gateway.Closing
import GuildWarden.Proofs.Gateway.Conduct
import GuildWarden.Proofs.Gateway.Course
import GuildWarden.Proofs.Gateway.Custody
import GuildWarden.Proofs.Gateway.Delivery
import GuildWarden.Proofs.Gateway.Ending
import GuildWarden.Proofs.Gateway.Freshness
import GuildWarden.Proofs.Gateway.Hearing
import GuildWarden.Proofs.Gateway.Hydration
import GuildWarden.Proofs.Gateway.Passage
import GuildWarden.Proofs.Gateway.Presence
import GuildWarden.Proofs.Gateway.Reaction
import GuildWarden.Proofs.Gateway.Reading
import GuildWarden.Proofs.Gateway.Recollection
import GuildWarden.Proofs.Gateway.Snags
import GuildWarden.Proofs.Gateway.Waiting
import GuildWarden.Proofs.Gateway.Writing
import GuildWarden.Proofs.Guild.RoleCache
import GuildWarden.Proofs.Moderation.Arguments
import GuildWarden.Proofs.Moderation.Course
import GuildWarden.Proofs.Moderation.Expiry
import GuildWarden.Proofs.Moderation.Ledger
import GuildWarden.Proofs.Moderation.Lifting
import GuildWarden.Proofs.Moderation.Notice
import GuildWarden.Proofs.Moderation.Recording
import GuildWarden.Proofs.Moderation.Terms
import GuildWarden.Proofs.Moderation.Trace
import GuildWarden.Proofs.Number.Digits
import GuildWarden.Proofs.Number.Range
import GuildWarden.Proofs.Payload.Number
import GuildWarden.Proofs.Permission.Grant
import GuildWarden.Proofs.Playground.Code
import GuildWarden.Proofs.Playground.Options
import GuildWarden.Proofs.Playground.Room
import GuildWarden.Proofs.Reaction.Agreement
import GuildWarden.Proofs.Reaction.Duty
import GuildWarden.Proofs.Reaction.Withdrawal
import GuildWarden.Proofs.Registry.Link
import GuildWarden.Proofs.Registry.Search
import GuildWarden.Proofs.Run.Readiness
import GuildWarden.Proofs.Run.Release
import GuildWarden.Proofs.Run.Shutdown
import GuildWarden.Proofs.Settings.Values
import GuildWarden.Proofs.Settings.Views
import GuildWarden.Proofs.Store.Atomicity
import GuildWarden.Proofs.Store.Bans
import GuildWarden.Proofs.Store.Bindings
import GuildWarden.Proofs.Store.Chronicle
import GuildWarden.Proofs.Store.Faultless
import GuildWarden.Proofs.Store.Interruption
import GuildWarden.Proofs.Store.Opening
import GuildWarden.Proofs.Store.Sharing
import GuildWarden.Proofs.Tag.Editing
import GuildWarden.Proofs.Tag.Listing
import GuildWarden.Proofs.Tag.Reporting
import GuildWarden.Proofs.Text.Case
import GuildWarden.Proofs.Text.Trimming
import GuildWarden.Proofs.Text.Words
import GuildWarden.Proofs.Web.Query
import GuildWarden.Reaction.Role
import GuildWarden.Registry.Client
import GuildWarden.Registry.Crate
import GuildWarden.Rehearsal.Actor
import GuildWarden.Rehearsal.Archive
import GuildWarden.Rehearsal.Chore
import GuildWarden.Rehearsal.Deed
import GuildWarden.Rehearsal.Ensemble
import GuildWarden.Rehearsal.Reader
import GuildWarden.Rehearsal.Record
import GuildWarden.Rehearsal.Reply
import GuildWarden.Rehearsal.Scene
import GuildWarden.Rehearsal.Script
import GuildWarden.Rehearsal.Socket
import GuildWarden.Rehearsal.Stage
import GuildWarden.Rehearsal.World
import GuildWarden.Run.Boot
import GuildWarden.Run.ExitCode
import GuildWarden.Settings.Basic
import GuildWarden.Settings.Convert
import GuildWarden.Store.Connection
import GuildWarden.Store.Statement
import GuildWarden.Store.Table
import GuildWarden.Store.Transaction
import GuildWarden.Tag.Library
import GuildWarden.Text.Blank
import GuildWarden.Text.Case
import GuildWarden.Text.CaseTable
import GuildWarden.Text.Digits
import GuildWarden.Text.Escape
import GuildWarden.Text.PrintableTable
import GuildWarden.Text.Utf8
import GuildWarden.Time.Calendar
import GuildWarden.Time.Reader
import GuildWarden.Time.Timestamp
import GuildWarden.Web.Call
import GuildWarden.Web.Session
import GuildWarden.Web.Url
import GuildWarden.Yaml.Document
import GuildWarden.Yaml.Kind
import GuildWarden.Yaml.Lexeme
import GuildWarden.Yaml.Node
import GuildWarden.Yaml.Scalar
import GuildWarden.Yaml.Scan
import GuildWarden.Yaml.Token
import GuildWarden.Yaml.Value
