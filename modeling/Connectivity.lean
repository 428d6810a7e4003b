import Connectivity.Config.File
import Connectivity.Deployment
import Connectivity.Table.Lemmas
import Connectivity.Proofs.FreshIds
import Connectivity.Proofs.Selection
import Connectivity.Proofs.Outcome
import Connectivity.Proofs.Registry
import Connectivity.Proofs.Turn
import Connectivity.Proofs.Run
import Connectivity.Proofs.Ownership
import Connectivity.Proofs.Matching
import Connectivity.Proofs.Announcement
import Connectivity.Proofs.Notification
import Connectivity.Proofs.Delivery
import Connectivity.Proofs.Round
import Connectivity.Proofs.View
import Connectivity.Proofs.Scope
import Connectivity.Hub.Step
import Connectivity.Proofs.Pipeline
import Connectivity.Broker.InPlace
import Connectivity.Proofs.Atomicity
import Connectivity.Proofs.Partition
import Connectivity.Json.Grammar
import Connectivity.Proofs.JsonTokens
import Connectivity.Proofs.JsonGrammar
import Connectivity.Proofs.JsonText
import Connectivity.Proofs.PolicyText
import Connectivity.Proofs.Durability
import Connectivity.Proofs.ByteOrder
import Connectivity.Proofs.PolicyLoading
import Connectivity.Proofs.PolicyFunction
import Connectivity.Proofs.Bystanders
import Connectivity.Proofs.Unprivileged
import Connectivity.Broker.Desk
import Connectivity.Proofs.Apart
import Connectivity.Proofs.Isolation
import Connectivity.Proofs.Unreachable
import Connectivity.Proofs.Sticky
import Connectivity.Proofs.Access
import Connectivity.Proofs.Visibility
import Connectivity.Proofs.Counting
import Connectivity.Proofs.Waiting
import Connectivity.Proofs.Removal
import Connectivity.Broker.Device
import Connectivity.Proofs.BestEffort
import Connectivity.Proofs.DeviceCalls
import Connectivity.Registry.Step
import Connectivity.Proofs.Registrations
import Connectivity.Proofs.Reads
import Connectivity.Proofs.JsonPrint
import Connectivity.Wire.Form
import Connectivity.Proofs.Forms
import Connectivity.Proofs.RecordForms
import Connectivity.Proofs.KeptForms
import Connectivity.Proofs.WireForms
import Connectivity.Proofs.EventForms
import Connectivity.Proofs.WireText
import Connectivity.Proofs.Presentation
import Connectivity.Http.Handlers
import Connectivity.Proofs.Gate
import Connectivity.Proofs.Ranking
import Connectivity.Proofs.Recency
import Connectivity.Proofs.Convergence
import Connectivity.Proofs.Repetition
import Connectivity.Proofs.Independence
import Connectivity.Proofs.Nameless
import Connectivity.Proofs.Opening
import Connectivity.Proofs.Streams
import Connectivity.Proofs.Precedence
import Connectivity.Proofs.TomlStrings
import Connectivity.Proofs.TomlValues
import Connectivity.Proofs.TomlDocument
import Connectivity.Proofs.SettingsText
import Connectivity.Proofs.DiskWrites
import Connectivity.Proofs.DefaultSettings
import Connectivity.Proofs.BackgroundTier
import Connectivity.Proofs.Satisfiability
