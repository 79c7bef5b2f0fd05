import Alerting.Log.Entry

/-!
# Receivers

A receiver takes summaries and answers each with success or a failure. It may remember what it was
told before, and it may tell something in the log.
-/

namespace Alerting

structure Receiver.Response (σ : Type) where
  /-- What the receiver knows afterwards. -/
  receiver : σ
  answer : Answer
  log : List Log.Entry := []

/-- Somebody who takes summaries, with what it knows in `σ`. -/
structure Receiver (σ : Type) where
  receive : σ → Summary → Receiver.Response σ

/-- What the log tells about the answer to a summary. -/
def Summary.verdict (s : Summary) : Answer → Log.Entry
  | .ok () => .sent s.fingerprint s.events.length
  | .error (.retryable message) => .deferred s.fingerprint (.retryable message)
  | .error (.permanent message) => .dropped s.fingerprint (.permanent message)

/-- Something that others can see of a step: a summary with its answer, or an entry of the log. -/
inductive Effect where
  | call (summary : Summary) (answer : Answer)
  | log (entry : Log.Entry)

namespace Effect

def summary? : Effect → Option Summary
  | .call summary _ => some summary
  | .log _ => none

def entry? : Effect → Option Log.Entry
  | .call _ _ => none
  | .log entry => some entry

end Effect

namespace Receiver

/-- The receiver that writes each summary into the log and remembers nothing of it. -/
def log {σ : Type} : Receiver σ := ⟨fun w summary => ⟨w, .ok (), [.notification summary]⟩⟩

/-- The answers that a scripted receiver is going to give. -/
structure Script where
  /-- The failure in force, if there is one. -/
  failure : Option Failure := none
  /-- What comes into force at the next calls, one after the other. -/
  outcomes : List (Option Failure) := []
  deriving DecidableEq

/-- The receiver that answers as a script says. An outcome stays in force until the next one
comes. -/
def scripted : Receiver Script :=
  ⟨fun script _ =>
    let next : Script := match script.outcomes with
      | [] => script
      | outcome :: rest => ⟨outcome, rest⟩
    ⟨next, match next.failure with
      | none => .ok ()
      | some failure => .error failure, []⟩⟩

end Receiver

end Alerting
