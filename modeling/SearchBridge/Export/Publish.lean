import SearchBridge.Number.Basic
/-!
Publishing an item on a bounded queue. A put is tried again while the queue is full, until the
queue accepts the item or the publication is cancelled between two attempts.
-/

namespace SearchBridge

namespace Export

/-- What an attempt to put meets: cancellation may be set first, then the queue accepts the item
or is full. -/
structure PutAction where
  cancels : Bool
  accepts : Bool
  deriving DecidableEq, Repr

structure Attempt (α : Type) where
  item : α
  timeout : Number
  action : PutAction
  deriving DecidableEq, Repr

/-- How a publication went: whether the item was accepted, the attempts in order, and the actions
and the cancellation flag that are left. -/
structure Publication (α : Type) where
  accepted : Bool
  attempts : List (Attempt α)
  rest : List PutAction
  cancelled : Option Bool
  deriving DecidableEq, Repr

/-- Publishes an item. The flag is absent when the publication cannot be cancelled; past the end of
the actions the queue accepts. -/
def publish {α : Type} (item : α) (timeout : Number) (cancelled : Option Bool)
    (actions : List PutAction) : Publication α :=
  if cancelled = some true then ⟨false, [], actions, cancelled⟩
  else
    match actions with
    | [] => ⟨true, [⟨item, timeout, ⟨false, true⟩⟩], [], cancelled⟩
    | a :: rest =>
      let flag := cancelled.map (· || a.cancels)
      if a.accepts then ⟨true, [⟨item, timeout, a⟩], rest, flag⟩
      else
        let p := publish item timeout flag rest
        { p with attempts := ⟨item, timeout, a⟩ :: p.attempts }

def acceptedItems {α : Type} (attempts : List (Attempt α)) : List α :=
  (attempts.filter (·.action.accepts)).map (·.item)

end Export

end SearchBridge
