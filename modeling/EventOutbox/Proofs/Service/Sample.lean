import EventOutbox.Delivery.Bus
import EventOutbox.Proofs.Service.Basic
import EventOutbox.Shop

/-!
# A small service

A shop with two items, a dispatcher that works for it, a commit that its manager makes, and two
handlers: the service of which concrete runs are told.
-/

namespace EventOutbox.Shop

/-- A service of two items that counts what a printer was given. -/
abbrev Desk : Type := Service Kind Bool Nat

/-- The shop with its two items before anything happens. -/
def desk : Desk where
  aggregates i := ⟨item (if i then "7" else "8") 0 [], []⟩
  store := {}
  log := []
  marks := []
  calls := []
  rest := 0

/-- The shop has not done anything yet. -/
theorem fresh_desk : desk.Fresh :=
  ⟨rfl, rfl, rfl, rfl, fun _ => rfl, fun _ => rfl⟩

/-- The dispatcher of the shop, which publishes on a bus. -/
def courier (bus : Bus Desk Kind) : Dispatcher Desk Kind where
  outbox := Service.outbox
  registry := .ofList [.itemCreated]
  publish := bus.publish Service.logCell
  config := {}
  setPhase _ := Action.update fun w => { w with rest := w.rest }
  cancelled _ := false
  clock _ := opening

/-- The courier works on the outbox of the shop, and writing a phase touches nothing else. -/
theorem serves_courier (bus : Bus Desk Kind) : Service.Serves (courier bus) :=
  ⟨rfl, fun _ => ⟨id, rfl⟩⟩

/-- The commit of the manager. -/
def purchase : Attempt where
  actor := some ⟨"manager", true⟩
  transactionId := Uuid.ofNat 9
  cancelled := false
  now := opening

/-- A handler that always succeeds. -/
def mailer : Subscription Desk Kind :=
  ⟨.itemCreated, { name := "mailer", handle := fun _ => pure (.ok ()) }⟩

/-- A handler that succeeds except for the first time. -/
def printer : Subscription Desk Kind :=
  ⟨.itemCreated, {
    name := "printer"
    handle := fun _ => Action.step fun w =>
      (if w.rest = 0 then .error (.plain .internalError "out of paper") else .ok (),
        { w with rest := w.rest + 1 }) }⟩

end EventOutbox.Shop
