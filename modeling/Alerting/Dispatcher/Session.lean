import Alerting.Dispatcher.Basic

/-!
# Sessions

A session runs a dispatcher in one particular order: calls are let in and served as they come, and
sweeps happen at the multiples of the interval while time passes. Serving takes no time.
-/

namespace Alerting

/-- A dispatcher that is run in order. -/
structure Session (σ : Type) where
  dispatcher : Dispatcher σ
  /-- Milliseconds since the start. -/
  elapsed : Nat := 0
  /-- What others saw, oldest first. -/
  effects : List Effect := []

/-- The next action of a dispatcher that serves as it comes. -/
def Dispatcher.next? {σ : Type} (now : Instant) (d : Dispatcher σ) : Option Action :=
  match d.phase with
  | .ready => some .start
  | .serving =>
    match d.ruleLists.next d.capacity, d.batches.next d.capacity with
    | .accept call, _ => some (.accept call)
    | .take, _ => some .serveRules
    | .nothing, .accept call => some (.accept call)
    | .nothing, .take => some (.serveBatch now)
    | .nothing, .nothing =>
      if d.isHeld then none
      else if d.ruleLists.isOpen then some .leaveRules
      else if d.batches.isOpen then some .leaveBatches
      else some .stop
  | .stopped | .gone => none

namespace Session

variable {σ : Type}

/-- Lets an action happen, if it is possible. -/
def act (r : Receiver σ) (s : Session σ) (a : Action) : Session σ :=
  match s.dispatcher.act? r a with
  | some (d, effects) => { s with dispatcher := d, effects := s.effects ++ effects }
  | none => s

/-- The most actions that it takes until a dispatcher has nothing to do. -/
def work (d : Dispatcher σ) : Nat :=
  -- Who waits is let in and served, the others are served; the last ones are to start and to stop.
  2 * (d.batches.waiting.length + d.ruleLists.waiting.length) +
    (d.batches.queue.length + d.ruleLists.queue.length) + 4

/-- At most `fuel` actions of a dispatcher that serves as it comes. -/
def serveFor (r : Receiver σ) (now : Instant) : Nat → Session σ → Session σ
  | 0, s => s
  | fuel + 1, s =>
    match s.dispatcher.next? now with
    | none => s
    | some a => serveFor r now fuel (s.act r a)

def serve (r : Receiver σ) (now : Instant) (s : Session σ) : Session σ :=
  serveFor r now (work s.dispatcher) s

/-- The answer to a call, taken. -/
def answer (r : Receiver σ) (s : Session σ) (call : Nat) : Session σ × Reply :=
  (s.act r (.finish call), (s.dispatcher.answered.lookup call).getD (.error .closed))

/-- The answers to calls, taken one after the other. -/
def answers (r : Receiver σ) : Session σ → List Nat → Session σ × List Reply
  | s, [] => (s, [])
  | s, call :: rest =>
    let first := s.answer r call
    let others := answers r first.1 rest
    (others.1, first.2 :: others.2)

/-- Calls that are all begun before the first one is served, with their answers. -/
def askAll (r : Receiver σ) (now : Instant) (requests : List Request) (s : Session σ) :
    Session σ × List Reply :=
  let first := s.dispatcher.calls
  let begun := requests.foldl (fun s request => s.act r (.call request)) s
  (begun.serve r now).answers r (List.range' first requests.length)

def ask (r : Receiver σ) (now : Instant) (request : Request) (s : Session σ) :
    Session σ × Reply :=
  let call := s.dispatcher.calls
  ((s.act r (.call request)).serve r now).answer r call

/-- Calls that are given up as soon as they have begun: those that find room are served. -/
def offer (r : Receiver σ) (now : Instant) (requests : List Request) (s : Session σ) :
    Session σ :=
  let offered := requests.foldl
    (fun s request =>
      let call := s.dispatcher.calls
      ((s.act r (.call request)).act r (.accept call)).act r (.abandon call)) s
  offered.serve r now

def sweeps (r : Receiver σ) (now : Instant) : Nat → Session σ → Session σ
  | 0, s => s
  | n + 1, s => sweeps r now n (s.act r (.sweep now))

def advance (r : Receiver σ) (now : Instant) (ms : Nat) (s : Session σ) : Session σ :=
  let interval := s.dispatcher.interval
  let due := (s.elapsed + ms) / interval - s.elapsed / interval
  let s := (s.serve r now).sweeps r now due
  { s with elapsed := s.elapsed + ms }

def awaitSweep (r : Receiver σ) (now : Instant) (s : Session σ) : Session σ :=
  let interval := s.dispatcher.interval
  s.advance r now (interval - s.elapsed % interval)

def close (r : Receiver σ) (now : Instant) (s : Session σ) : Session σ :=
  (s.act r .close).serve r now

end Session

end Alerting
