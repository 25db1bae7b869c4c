import EventOutbox.Entity

/-!
# A sample catalog

The events of a small shop.  Two kinds share the discriminator `item.created.v1`, as happens when a
kind is replaced by another, and one kind refuses to be written while it carries a reason.
-/

namespace EventOutbox.Shop

/-- The kinds of events of the shop. -/
inductive Kind where
  | itemCreated
  | itemRenamed
  | orderPlaced
  | shadowCreated
  | broken
deriving DecidableEq, Repr

/-- The fields of a line of an order. -/
def lineFields : Fields :=
  .cons "sku" .required .text <|
    .cons "quantity" .required .u32 <| .cons "cents" .required .i64 .nil

/-- The fields of a kind. -/
def fields : Kind → Fields
  | .itemCreated =>
    .cons "event_id" .required .uuid <|
      .cons "item_id" .required .u64 <| .cons "occurred_at" .required .instant .nil
  | .itemRenamed =>
    .cons "event_id" .required .uuid <|
      .cons "item_id" .required .u64 <|
        .cons "name" .required .text <| .cons "occurred_at" .required .instant .nil
  | .orderPlaced =>
    .cons "id" .required .uuid <|
      .cons "customer" .required (.option .text) <|
        .cons "lines" .required (.list (.record "Line" lineFields)) <|
          .cons "express" .required .bool <| .cons "placed_at" .required .instant .nil
  | .shadowCreated =>
    .cons "event_id" .required .uuid <|
      .cons "label" .required .text <| .cons "occurred_at" .required .instant .nil
  | .broken =>
    .cons "event_id" .required .uuid <|
      .cons "reason" .required .text <| .cons "occurred_at" .required .instant .nil

/-- An item appears in the shop. -/
def itemCreated : EventSchema where
  name := "ItemCreated"
  discriminator := "item.created.v1"
  fields := fields .itemCreated
  id v := v.1
  occurredAt v := v.2.2.1

/-- An item gets another name. -/
def itemRenamed : EventSchema where
  name := "ItemRenamed"
  discriminator := "item.renamed.v1"
  fields := fields .itemRenamed
  id v := v.1
  occurredAt v := v.2.2.2.1

/-- A customer orders items. -/
def orderPlaced : EventSchema where
  name := "OrderPlaced"
  discriminator := "order.placed.v1"
  fields := fields .orderPlaced
  id v := v.1
  occurredAt v := v.2.2.2.2.1

/-- An item appears, in the words of another kind with the same discriminator. -/
def shadowCreated : EventSchema where
  name := "ShadowCreated"
  discriminator := "item.created.v1"
  fields := fields .shadowCreated
  id v := v.1
  occurredAt v := v.2.2.1

/-- Something that cannot be written, for the reason that it carries. -/
def broken : EventSchema where
  name := "Broken"
  discriminator := "broken.v1"
  fields := fields .broken
  id v := v.1
  occurredAt v := v.2.2.1
  refusal v :=
    let reason : String := v.2.1
    if reason = "" then none else some reason

instance : EventCatalog Kind where
  schema
    | .itemCreated => itemCreated
    | .itemRenamed => itemRenamed
    | .orderPlaced => orderPlaced
    | .shadowCreated => shadowCreated
    | .broken => broken

/-! ## Items -/

/-- The moment at which the shop opens. -/
def opening : Instant :=
  .ofFields ⟨2024, 1, 15, by decide⟩ 9 0 0 0

/-- An item appears when the shop opens; the event has a number as its identifier. -/
def created (n : Nat) : Event Kind :=
  ⟨.itemCreated, (Uuid.ofNat n, (7 : UInt64), opening, ())⟩

/-- An item gets another name; the event has a number as its identifier. -/
def renamed (n : Nat) : Event Kind :=
  ⟨.itemRenamed, (Uuid.ofNat n, (7 : UInt64), "lamp", opening, ())⟩

/-- An item with its stored version and the events that it raised. -/
def item (entityId : String) (version : UInt64) (events : List (Event Kind)) : Entity Kind where
  entityType := "Item"
  entityId := entityId
  version := version
  audit := some {}
  buffer := ⟨events⟩
  row audit := .ok (audit.getD {}).toJson

end EventOutbox.Shop
