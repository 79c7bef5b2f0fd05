import Alerting.Aggregator.Basic
import Alerting.Dispatcher.Channel
import Alerting.RulesFile.Basic

/-!
# The dispatcher

A dispatcher owns an aggregator. Callers hand it batches and lists of rules through two channels and
wait for the answers. Between two requests it sweeps. It serves the sources in any order, but a
request or a sweep at a time. Once the handle of the callers is closed it serves what is still in
the channels and stops.

What can happen is given by actions: `act?` says which of them are possible and what they do.
-/

namespace Alerting

/-- Where the dispatcher stands. -/
inductive Phase where
  /-- It has not run yet. -/
  | ready
  | serving
  /-- It has served everything and stopped. -/
  | stopped
  /-- It was given up before it could stop. -/
  | gone
  deriving DecidableEq

/-- What whoever closes the handle hears of the dispatcher. -/
inductive Signal where
  | pending
  /-- The dispatcher told that it has stopped. -/
  | sent
  /-- The dispatcher went before it could tell. -/
  | dropped
  deriving DecidableEq

inductive Request where
  | batch (events : List Event)
  | rules (rules : List SharedRule)

/-- A dispatcher with its callers. -/
structure Dispatcher (σ : Type) where
  aggregator : Aggregator
  receiver : σ
  /-- How many requests each channel holds. -/
  capacity : Nat
  /-- Milliseconds between two sweeps. -/
  interval : Nat
  phase : Phase := .ready
  signal : Signal := .pending
  /-- The handle is not closed. -/
  isHeld : Bool := true
  /-- The number of calls that were begun; they are numbered from zero. -/
  calls : Nat := 0
  batches : Channel (List Event) := {}
  ruleLists : Channel (List SharedRule) := {}
  /-- Calls with an answer that they have not taken yet. -/
  answered : List (Nat × Reply) := []

inductive Action where
  | call (request : Request)
  | accept (call : Nat)
  /-- A caller gives up. -/
  | abandon (call : Nat)
  /-- A caller takes its answer. -/
  | finish (call : Nat)
  | close
  /-- The dispatcher is given up, between two requests. -/
  | kill
  | start
  | serveBatch (now : Instant)
  | serveRules
  | sweep (now : Instant)
  /-- The dispatcher learns that no more batches will come. -/
  | leaveBatches
  /-- The dispatcher learns that no more rules will come. -/
  | leaveRules
  | stop

namespace Dispatcher

variable {σ : Type}

/-- The most requests that a channel can be made for. -/
def capacityLimit : Nat := Nat.pow 2 61 - 1

/-- A dispatcher with these settings, unless they ask for too large a channel. A channel holds at
least one request, and sweeps are at least a millisecond apart. -/
def new? (settings : Settings) (receiver : σ) : Option (Dispatcher σ) :=
  if settings.requestBuffer.toNat ≤ capacityLimit then
    some
      { aggregator := .new (.ofSeconds settings.evictionGrace.toNat)
        receiver := receiver
        capacity := max settings.requestBuffer.toNat 1
        interval := max (settings.sweepInterval.toNat * 1000) 1 }
  else none

def IsAlive (d : Dispatcher σ) : Prop := d.phase = .ready ∨ d.phase = .serving

instance (d : Dispatcher σ) : Decidable d.IsAlive := inferInstanceAs (Decidable (_ ∨ _))

/-- The handle is closed, and whoever closed it waits no more. -/
def IsClosed (d : Dispatcher σ) : Prop := ¬d.isHeld ∧ d.signal ≠ .pending

instance (d : Dispatcher σ) : Decidable d.IsClosed := inferInstanceAs (Decidable (_ ∧ _))

/-- Carries out an operation and answers the call that waits for it. -/
def carryOut (r : Receiver σ) (d : Dispatcher σ) (caller : Option Nat) (op : Operation) :
    Dispatcher σ × List Effect :=
  let turn := d.aggregator.perform r d.receiver op
  let answers := match caller, turn.result with
    | some call, .replied reply => [(call, reply)]
    | _, _ => []
  ({ d with
      aggregator := turn.aggregator
      receiver := turn.receiver
      answered := d.answered ++ answers }, turn.effects)

/-- A caller begins a call. If nobody is left to serve it, it is answered at once. -/
def begin (d : Dispatcher σ) (request : Request) : Dispatcher σ :=
  let next := { d with calls := d.calls + 1 }
  if d.IsAlive then
    match request with
    | .batch events => { next with batches := d.batches.join d.calls events }
    | .rules rules => { next with ruleLists := d.ruleLists.join d.calls rules }
  else { next with answered := d.answered ++ [(d.calls, .error .closed)] }

/-- The request of a call enters its channel. -/
def accept? (d : Dispatcher σ) (call : Nat) : Option (Dispatcher σ) :=
  match d.batches.accept? d.capacity call with
  | some batches => some { d with batches }
  | none => (d.ruleLists.accept? d.capacity call).map fun ruleLists => { d with ruleLists }

def abandon (d : Dispatcher σ) (call : Nat) : Dispatcher σ :=
  { d with
    batches := d.batches.abandon call
    ruleLists := d.ruleLists.abandon call
    answered := d.answered.filter fun a => a.1 ≠ call }

/-- The dispatcher is given up. Every call that waits is answered. -/
def kill (d : Dispatcher σ) : Dispatcher σ :=
  let lost := d.batches.calls ++ d.ruleLists.calls
  { d with
    phase := .gone
    signal := .dropped
    batches := d.batches.emptied
    ruleLists := d.ruleLists.emptied
    answered := d.answered ++ lost.map fun call => (call, .error .closed) }

/-- What an action does, if it is possible: the dispatcher afterwards and what others see of it. -/
def act? (r : Receiver σ) (d : Dispatcher σ) : Action → Option (Dispatcher σ × List Effect)
  | .call request => if d.isHeld then some (d.begin request, []) else none
  | .accept call => if d.IsAlive then (d.accept? call).map (·, []) else none
  | .abandon call => some (d.abandon call, [])
  | .finish call =>
    (d.answered.lookup call).map fun _ =>
      ({ d with answered := d.answered.filter fun a => a.1 ≠ call }, [])
  | .close =>
    if d.isHeld ∧ d.batches.waiting.isEmpty ∧ d.ruleLists.waiting.isEmpty then
      some ({ d with isHeld := false }, [])
    else none
  | .kill => if d.IsAlive then some (d.kill, []) else none
  | .start =>
    if d.phase = .ready then
      some ({ d with phase := .serving }, [.log (.started (d.interval % Nat.pow 2 64))])
    else none
  | .serveBatch now =>
    match d.batches.queue with
    | (caller, events) :: rest =>
      if d.phase = .serving ∧ d.batches.isOpen then
        let d := { d with batches := { d.batches with queue := rest } }
        some (d.carryOut r caller (.aggregate events now))
      else none
    | [] => none
  | .serveRules =>
    match d.ruleLists.queue with
    | (caller, rules) :: rest =>
      if d.phase = .serving ∧ d.ruleLists.isOpen then
        let d := { d with ruleLists := { d.ruleLists with queue := rest } }
        some (d.carryOut r caller (.replaceRules rules))
      else none
    | [] => none
  | .sweep now =>
    if d.phase = .serving ∧ (d.batches.isOpen ∨ d.ruleLists.isOpen) then
      some (d.carryOut r none (.sweep now))
    else none
  | .leaveBatches =>
    if d.phase = .serving ∧ d.batches.isOpen ∧ ¬d.isHeld ∧ d.batches.queue.isEmpty then
      some ({ d with batches := { d.batches with isOpen := false } }, [])
    else none
  | .leaveRules =>
    if d.phase = .serving ∧ d.ruleLists.isOpen ∧ ¬d.isHeld ∧ d.ruleLists.queue.isEmpty then
      some ({ d with ruleLists := { d.ruleLists with isOpen := false } }, [])
    else none
  | .stop =>
    if d.phase = .serving ∧ ¬d.batches.isOpen ∧ ¬d.ruleLists.isOpen then
      some ({ d with phase := .stopped, signal := .sent }, [.log (.stopped d.aggregator.table.length)])
    else none

end Dispatcher

end Alerting
