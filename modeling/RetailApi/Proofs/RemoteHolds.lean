import RetailApi.Inventory.Operations
import RetailApi.Sales.Remotes

/-! The stock that sales holds is a reservation of the inventory service, and its requests move it as sales takes them to. -/

namespace Sales

open Transaction HoldState Inventory Inventory.Store

/-- What a request comes to in the service, some delivery of it does to the hold that sales has in mind. -/
def Delivers {α : Type} (hold : Store → Option RemoteHold) (store : Store) (outcome : Except Inventory.Failure (Store × α))
    (effect : Option (Option RemoteHold × α)) : Prop :=
  ∃ delivery : Delivery, delivery.apply (hold store) effect = match outcome with
    | .ok (after, answer) => (hold after, .ok answer)
    | .error _ => (hold store, .error .refused)

variable {store after : Store} {reservationId : Uuid}

end Sales
