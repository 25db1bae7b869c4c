import EventOutbox.Actor.Scope
import EventOutbox.Database.Ledger
import EventOutbox.Database.Opening
import EventOutbox.Delivery.Bus
import EventOutbox.Delivery.Polling
import EventOutbox.Json.Printer
import EventOutbox.Json.Reader
import EventOutbox.Proofs.ActionLogic
import EventOutbox.Proofs.Aligned
import EventOutbox.Proofs.Database.Cutoff
import EventOutbox.Proofs.Database.ExactlyOnce
import EventOutbox.Proofs.Database.Protocol
import EventOutbox.Proofs.Database.Transaction
import EventOutbox.Proofs.Delivery.Course
import EventOutbox.Proofs.Delivery.Cycle
import EventOutbox.Proofs.Delivery.FullCounters
import EventOutbox.Proofs.Delivery.Idempotence
import EventOutbox.Proofs.Delivery.Isolation
import EventOutbox.Proofs.Delivery.Phases
import EventOutbox.Proofs.Delivery.Polling
import EventOutbox.Proofs.Delivery.Publishing
import EventOutbox.Proofs.Delivery.RowByRow
import EventOutbox.Proofs.Delivery.Shutdown
import EventOutbox.Proofs.Event.Registry
import EventOutbox.Proofs.Json.NormalForm
import EventOutbox.Proofs.Json.RoundTrip
import EventOutbox.Proofs.Service.Accounting
import EventOutbox.Proofs.Service.Basic
import EventOutbox.Proofs.Service.Batches
import EventOutbox.Proofs.Service.Conservation
import EventOutbox.Proofs.Service.Cycles
import EventOutbox.Proofs.Service.Draining
import EventOutbox.Proofs.Service.EffectivelyOnce
import EventOutbox.Proofs.Service.FirstAttempts
import EventOutbox.Proofs.Service.Sample
import EventOutbox.Proofs.Service.Starvation
import EventOutbox.Proofs.Service.Steps
import EventOutbox.Proofs.Service.Survival
import EventOutbox.Proofs.Settings.Agreement
import EventOutbox.Proofs.Settings.Environment
import EventOutbox.Proofs.Settings.Groups
import EventOutbox.Proofs.Settings.Records
import EventOutbox.Proofs.Simulation.World
import EventOutbox.Proofs.Store.Commit
import EventOutbox.Proofs.Store.Delivery
import EventOutbox.Proofs.Store.Entities
import EventOutbox.Proofs.Store.Fetching
import EventOutbox.Proofs.Store.History
import EventOutbox.Proofs.Store.InTurn
import EventOutbox.Proofs.Store.Insertion
import EventOutbox.Proofs.Store.Ledger
import EventOutbox.Proofs.Store.LifeCycle
import EventOutbox.Proofs.Store.Order
import EventOutbox.Proofs.Store.Reachable
import EventOutbox.Proofs.Store.Rows
import EventOutbox.Proofs.Stream.Declaring
import EventOutbox.Proofs.Stream.Groups
import EventOutbox.Proofs.Stream.Session
import EventOutbox.Proofs.Text.Digits
import EventOutbox.Proofs.Text.Identifiers
import EventOutbox.Proofs.Text.Instants
import EventOutbox.Proofs.Text.Pieces
import EventOutbox.Proofs.UnitOfWork.AuditTrail
import EventOutbox.Proofs.UnitOfWork.Outcome
import EventOutbox.Proofs.UnitOfWork.Retry
import EventOutbox.Proofs.UnitOfWork.Settlement
import EventOutbox.Report
import EventOutbox.Settings.Environment
import EventOutbox.Shop
import EventOutbox.Simulation.Wire
import EventOutbox.Simulation.World
import EventOutbox.Store.Memory
import EventOutbox.Stream.Connection
import EventOutbox.Stream.Publisher
import EventOutbox.UnitOfWork.Basic
