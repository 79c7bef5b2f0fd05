/-!
# Channels

A channel takes the requests of one kind to the dispatcher in the order in which they were accepted.
It holds a limited number of them; a call whose request finds no room waits.
-/

namespace Alerting

/-- The requests of one kind that are under way. -/
structure Channel (α : Type) where
  /-- Calls that wait for room, with their requests. -/
  waiting : List (Nat × α) := []
  /-- Accepted requests, oldest first, each with the call that waits for its answer, if one does. -/
  queue : List (Option Nat × α) := []
  /-- The dispatcher still listens. -/
  isOpen : Bool := true

namespace Channel

/-- A call begins to wait for room. -/
def join {α : Type} (call : Nat) (request : α) (c : Channel α) : Channel α :=
  { c with waiting := c.waiting ++ [(call, request)] }

/-- The request of a call enters the queue, if it waits and there is room. -/
def accept? {α : Type} (capacity call : Nat) (c : Channel α) : Option (Channel α) :=
  if c.queue.length < capacity then
    (c.waiting.lookup call).map fun request =>
      { c with
        waiting := c.waiting.filter fun w => w.1 ≠ call
        queue := c.queue ++ [(some call, request)] }
  else none

/-- A call is given up. What was accepted of it stays in the queue. -/
def abandon {α : Type} (call : Nat) (c : Channel α) : Channel α :=
  { c with
    waiting := c.waiting.filter fun w => w.1 ≠ call
    queue := c.queue.map fun q => if q.1 = some call then (none, q.2) else q }

/-- The calls that wait, for room or for an answer. -/
def calls {α : Type} (c : Channel α) : List Nat :=
  c.waiting.map (·.1) ++ c.queue.filterMap (·.1)

def emptied {α : Type} (c : Channel α) : Channel α := { c with waiting := [], queue := [] }

/-- The next step towards an empty channel. -/
inductive Next where
  | take
  | accept (call : Nat)
  | nothing
  deriving DecidableEq

/-- The next step towards an empty channel. Calls are let in as long as there is room. -/
def next {α : Type} (capacity : Nat) (c : Channel α) : Next :=
  match c.waiting with
  | (call, _) :: _ =>
    if c.queue.length < capacity then .accept call
    else if c.queue.isEmpty then .nothing else .take
  | [] => if c.queue.isEmpty then .nothing else .take

end Channel

end Alerting
