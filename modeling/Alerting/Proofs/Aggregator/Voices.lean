import Alerting.Proofs.Aggregator.Lifetime

/-!
# What a receiver tells on its own

A receiver may tell things in the log while it takes a summary. Nobody heeds them: with a receiver that
keeps silent a run is the same, and its log lacks just these entries, which stand right behind the call.
-/

namespace Alerting

namespace Receiver

variable {σ : Type} {r : Receiver σ}

/-- The receiver without what it tells on its own. -/
def muted (r : Receiver σ) : Receiver σ := ⟨fun w summary => { r.receive w summary with log := [] }⟩

/-- What a receiver knows after the calls among these effects. -/
def hears (r : Receiver σ) : σ → List Effect → σ
  | w, [] => w
  | w, .call summary _ :: rest => hears r (r.receive w summary).receiver rest
  | w, .log _ :: rest => hears r w rest

/-- These effects, and behind each call what the receiver tells on its own about it. -/
def voiced (r : Receiver σ) : σ → List Effect → List Effect
  | _, [] => []
  | w, .call summary answer :: rest =>
    let response := r.receive w summary
    .call summary answer :: (response.log.map .log ++ voiced r response.receiver rest)
  | w, .log entry :: rest => .log entry :: voiced r w rest

@[simp] theorem hears_append (w : σ) (l₁ l₂ : List Effect) :
    r.hears w (l₁ ++ l₂) = r.hears (r.hears w l₁) l₂ := by
  induction l₁ generalizing w with
  | nil => rfl
  | cons effect rest ih => cases effect <;> exact ih _

@[simp] theorem voiced_append (w : σ) (l₁ l₂ : List Effect) :
    r.voiced w (l₁ ++ l₂) = r.voiced w l₁ ++ r.voiced (r.hears w l₁) l₂ := by
  induction l₁ generalizing w with
  | nil => rfl
  | cons effect rest ih => cases effect <;> simp [voiced, hears, ih]

@[simp] theorem hears_log (w : σ) (entries : List Log.Entry) :
    r.hears w (entries.map .log) = w := by
  induction entries with
  | nil => rfl
  | cons entry rest ih => exact ih

@[simp] theorem voiced_log (w : σ) (entries : List Log.Entry) :
    r.voiced w (entries.map .log) = entries.map .log := by
  induction entries with
  | nil => rfl
  | cons entry rest ih => exact congrArg (_ :: ·) ih

end Receiver

namespace Aggregator

open Receiver

variable {σ α : Type}

/-- A turn comes to the same as with the muted receiver, and adds what the receiver tells on its
own. -/
structure Voices (r : Receiver σ) (w : σ) (quiet loud : Turn σ α) : Prop where
  eq : loud = { quiet with effects := r.voiced w quiet.effects }
  hears : quiet.receiver = r.hears w quiet.effects

theorem voices_silent (r : Receiver σ) (w : σ) (g : Aggregator) (entries : List Log.Entry) (x : α) :
    Voices r w ⟨g, w, entries.map .log, x⟩ ⟨g, w, entries.map .log, x⟩ :=
  ⟨by simp, by simp⟩

theorem send_voices (r : Receiver σ) (w : σ) (a : Aggregation) :
    let quiet := a.send r.muted w
    a.send r w = { quiet with effects := r.voiced w quiet.effects } ∧
      quiet.receiver = r.hears w quiet.effects := by
  cases h : a.dispatch with
  | sent => simp [Aggregation.send, h, voiced, Receiver.hears]
  | unsent => simp [Aggregation.send, h, voiced, Receiver.hears, muted]

theorem take_voices (r : Receiver σ) (now : Instant) (g : Aggregator) (w : σ) (e : Event) :
    Voices r w (g.take r.muted now w e) (g.take r now w e) := by
  unfold take
  cases SharedRule.firstMatch? g.rules e with
  | none => exact voices_silent r w _ [] ()
  | some rule =>
    obtain ⟨hsend, hhears⟩ := send_voices r w (g.land rule now e).aggregation
    dsimp only
    rw [hsend]
    constructor
    · simp [settle]
    · simp [hhears]

theorem takeAll_voices (r : Receiver σ) (now : Instant) (g : Aggregator) (w : σ)
    (events : List Event) : Voices r w (takeAll r.muted now g w events) (takeAll r now g w events) := by
  induction events generalizing g w with
  | nil => exact voices_silent r w g [] ()
  | cons e rest ih =>
    obtain ⟨hfirst, hheard⟩ := take_voices r now g w e
    obtain ⟨hothers, hhears⟩ :=
      ih (g.take r.muted now w e).aggregator (g.take r.muted now w e).receiver
    constructor
    · simp only [takeAll, hfirst, hothers, voiced_append, ← hheard]
    · simp only [takeAll, hears_append, ← hheard, ← hhears]

theorem perform_voices (r : Receiver σ) (g : Aggregator) (w : σ) (op : Operation) :
    Voices r w (g.perform r.muted w op) (g.perform r w op) := by
  cases op with
  | aggregate events now =>
    simp only [perform, aggregate]
    split
    · exact voices_silent r w g [] _
    · obtain ⟨htaken, hhears⟩ := takeAll_voices r now _ w events
      constructor
      · rw [htaken]
        rfl
      · exact hhears
  | replaceRules rules => exact voices_silent r w _ [_] _
  | sweep now => exact voices_silent r w _ [_] _

/-- A run does not depend on what the receiver tells on its own. -/
theorem performAll_voices (r : Receiver σ) (g : Aggregator) (w : σ) (ops : List Operation) :
    Voices r w (performAll r.muted g w ops) (performAll r g w ops) := by
  induction ops generalizing g w with
  | nil => exact voices_silent r w g [] []
  | cons op rest ih =>
    obtain ⟨hfirst, hheard⟩ := perform_voices r g w op
    obtain ⟨hothers, hhears⟩ :=
      ih (g.perform r.muted w op).aggregator (g.perform r.muted w op).receiver
    constructor
    · simp only [performAll, hfirst, hothers, voiced_append, ← hheard]
    · simp only [performAll, hears_append, ← hheard, ← hhears]

end Aggregator

end Alerting
