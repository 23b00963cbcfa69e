import RetailApi.Sales.Domain

/-! The holds a checkout keeps in inventory, customer and finance, each created once per idempotency key and then committed,
released or expired. A call may fail before it arrives, be refused, or lose its answer. -/

namespace Sales

inductive HoldState where
  | held | committed | released | expired
deriving DecidableEq

instance : ToString HoldState where
  toString
    | .held => "HELD" | .committed => "COMMITTED" | .released => "RELEASED" | .expired => "EXPIRED"

namespace HoldState

/-- A commit; `none` is the 409 of the service. -/
def commit? : HoldState → Option HoldState
  | .held | .committed => some .committed
  | .released | .expired => none

def release? : HoldState → Option HoldState
  | .held | .released => some .released
  | .expired => some .expired
  | .committed => none

def expire : HoldState → HoldState
  | .held => .expired
  | state => state

end HoldState

structure RemoteHold where
  id : Uuid
  state : HoldState
deriving DecidableEq

inductive Delivery where
  | answered
  | refused
  | lost
  | failed
deriving DecidableEq

/-- The call reaches the service, whether or not its answer comes back. -/
def Delivery.arrives (delivery : Delivery) : Bool := delivery = .answered || delivery = .lost

/-- What the client sees of a call that brought no result. -/
inductive RemoteFailure where
  | refused | unavailable
deriving DecidableEq

/-- A service that performs `effect` on its hold, or refuses when that is `none`. -/
def Delivery.apply {α : Type} (delivery : Delivery) (hold : Option RemoteHold)
    (effect : Option (Option RemoteHold × α)) : Option RemoteHold × Except RemoteFailure α :=
  match delivery, effect with
  | .failed, _ => (hold, .error .unavailable)
  | .refused, _ => (hold, .error .refused)
  | .answered, some (after, answer) => (after, .ok answer)
  | .answered, none => (hold, .error .refused)
  | .lost, some (after, _) => (after, .error .unavailable)
  | .lost, none => (hold, .error .unavailable)

/-- Creates the hold of a key, or answers with the one it has. -/
def createRemote (hold : Option RemoteHold) (newId : Uuid) : Option (Option RemoteHold × Uuid) :=
  match hold with
  | some existing => some (hold, existing.id)
  | none => some (some ⟨newId, .held⟩, newId)

/-- Moves the hold of an id; an unknown id is the 404 of the service. -/
def moveRemote (move : HoldState → Option HoldState) (hold : Option RemoteHold) (id : Uuid) :
    Option (Option RemoteHold × Unit) :=
  match hold with
  | some existing =>
    if existing.id = id then (move existing.state).map fun state => (some { existing with state }, ())
    else none
  | none => none

end Sales
