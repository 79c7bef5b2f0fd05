import Alerting.Proofs.Aggregator.Balance
import Alerting.Proofs.Aggregator.Rules

/-!
# Batches in parts

How events are cut into batches does not matter. Within a batch nobody looks at what has been
received or at the gauge, so both may as well be brought up to date between two parts of it. Only
the log shows that there was more than one batch: each part announces itself. A batch of no events
has no parts, and changes nothing.
-/

namespace Alerting.Aggregator

variable {σ : Type}

/-- The aggregator with other numbers for what it has received and for its gauge. -/
def recount (received active : UInt64) (g : Aggregator) : Aggregator :=
  { g with counters := { g.counters with received, active } }

theorem land_recount (g : Aggregator) (rule : SharedRule) (now : Instant) (e : Event)
    (received active : UInt64) :
    (g.recount received active).land rule now e =
      let landing := g.land rule now e
      { landing with aggregator := landing.aggregator.recount received active } := by
  simp only [land, reach, recount]
  cases g.table.get? e.fingerprint <;> rfl

theorem settle_recount (g : Aggregator) (f : Fingerprint) (attempt : Aggregation.Attempt σ)
    (received active : UInt64) :
    (g.recount received active).settle f attempt = (g.settle f attempt).recount received active := by
  simp only [settle]
  cases attempt.sending <;> rfl

theorem take_recount (r : Receiver σ) (now : Instant) (g : Aggregator) (w : σ) (e : Event)
    (received active : UInt64) :
    (g.recount received active).take r now w e =
      let turn := g.take r now w e
      { turn with aggregator := turn.aggregator.recount received active } := by
  have hrules : (g.recount received active).rules = g.rules := rfl
  cases hrule : SharedRule.firstMatch? g.rules e with
  | none => simp only [take, hrule, recount]
  | some rule => simp only [take, hrules, hrule, land_recount, settle_recount]

theorem takeAll_recount (r : Receiver σ) (now : Instant) (g : Aggregator) (w : σ)
    (events : List Event) (received active : UInt64) :
    takeAll r now (g.recount received active) w events =
      let turn := takeAll r now g w events
      { turn with aggregator := turn.aggregator.recount received active } := by
  induction events generalizing g w with
  | nil => rfl
  | cons e rest ih => simp only [takeAll, take_recount, ih]

theorem takeAll_append (r : Receiver σ) (now : Instant) (g : Aggregator) (w : σ)
    (xs ys : List Event) :
    takeAll r now g w (xs ++ ys) =
      let first := takeAll r now g w xs
      let others := takeAll r now first.aggregator first.receiver ys
      { others with effects := first.effects ++ others.effects } := by
  simp only [← doAll_takes, List.map_append, doAll_append]

theorem rules_takeAll (r : Receiver σ) (now : Instant) (g : Aggregator) (w : σ)
    (events : List Event) : (takeAll r now g w events).aggregator.rules = g.rules := by
  induction events generalizing g w with
  | nil => rfl
  | cons e rest ih => exact (ih _ _).trans (rules_take r now g w e)

theorem aggregate_of_rules (r : Receiver σ) (now : Instant) {g : Aggregator}
    (hrules : ¬g.rules.isEmpty) (w : σ) (events : List Event) :
    g.aggregate r now events w =
      let taken := takeAll r now g w events
      { aggregator := taken.aggregator.recount (g.counters.received + .ofNat events.length)
          (.ofNat taken.aggregator.table.length)
        receiver := taken.receiver
        effects := .log (.batchStarted events.length) :: taken.effects
        result := .ok () } := by
  have htaken := takeAll_recount r now g w events (g.counters.received + .ofNat events.length)
    g.counters.active
  rw [aggregate, if_neg hrules]
  dsimp only [recount, gauge] at htaken ⊢
  rw [htaken]

/-! ## Parts -/

/-- What a batch tells about itself in the log; a rejected one tells nothing. -/
def announcement (g : Aggregator) (events : List Event) : List Effect :=
  if g.rules.isEmpty then [] else [.log (.batchStarted events.length)]

theorem announcement_congr {g h : Aggregator} (hrules : g.rules = h.rules) :
    g.announcement = h.announcement := by
  funext events
  rw [announcement, announcement, hrules]

/-- A batch in two parts: both are answered as the whole is, and they lead where the whole leads. -/
theorem perform_append (r : Receiver σ) (g : Aggregator) (w : σ) (now : Instant)
    (xs ys : List Event) :
    let whole := g.perform r w (.aggregate (xs ++ ys) now)
    let first := g.perform r w (.aggregate xs now)
    let second := first.aggregator.perform r first.receiver (.aggregate ys now)
    second.aggregator = whole.aggregator ∧ second.receiver = whole.receiver ∧
      first.result = whole.result ∧ second.result = whole.result ∧
      ∃ front back, first.effects = g.announcement xs ++ front ∧
        second.effects = g.announcement ys ++ back ∧
        whole.effects = g.announcement (xs ++ ys) ++ (front ++ back) := by
  by_cases hrules : g.rules.isEmpty
  · simp [perform, aggregate, announcement, hrules]
  · have hagain : ∀ m n, ¬((takeAll r now g w xs).aggregator.recount m n).rules.isEmpty := by
      intro m n
      rwa [recount, rules_takeAll]
    have hreceived : g.counters.received + .ofNat xs.length + .ofNat ys.length =
        g.counters.received + .ofNat (xs ++ ys).length := by
      rw [List.length_append, UInt64.ofNat_add, UInt64.add_assoc]
    have hannounced : ∀ events, g.announcement events = [.log (.batchStarted events.length)] :=
      fun events => if_neg hrules
    let front := takeAll r now g w xs
    let back := takeAll r now front.aggregator front.receiver ys
    simp only [perform, aggregate_of_rules r now hrules, aggregate_of_rules r now (hagain _ _),
      takeAll_recount, takeAll_append, hannounced, ← hreceived]
    exact ⟨rfl, trivial, trivial, trivial, front.effects, back.effects, rfl, rfl, rfl⟩

/-- The parts of a batch, handed over one by one, come to what the whole comes to, but for the
announcements in the log. -/
structure Merges (g : Aggregator) (parts : List (List Event)) (whole : Turn σ Outcome)
    (run : Turn σ (List Outcome)) : Prop where
  aggregator_eq : run.aggregator = whole.aggregator
  receiver_eq : run.receiver = whole.receiver
  result_eq : run.result = parts.map fun _ => whole.result
  calls_eq : Effect.calls run.effects = Effect.calls whole.effects
  effects_eq : ∃ told : List (List Effect), told.length = parts.length ∧
    whole.effects = g.announcement parts.flatten ++ told.flatten ∧
    run.effects = (List.zipWith (fun part effects => g.announcement part ++ effects) parts told).flatten

theorem calls_announcement (g : Aggregator) (events : List Event) :
    Effect.calls (g.announcement events) = [] := by
  unfold announcement
  split <;> rfl

theorem merges (r : Receiver σ) (g : Aggregator) (w : σ) (now : Instant) (part : List Event)
    (parts : List (List Event)) :
    Merges g (part :: parts) (g.perform r w (.aggregate (part :: parts).flatten now))
      (performAll r g w ((part :: parts).map (.aggregate · now))) := by
  induction parts generalizing g w part with
  | nil =>
    obtain ⟨-, -, -, -, front, -, hfront, -, -⟩ := g.perform_append r w now part []
    have hrun : (performAll r g w [.aggregate part now]).effects =
        (g.perform r w (.aggregate part now)).effects := List.append_nil _
    rw [List.flatten_singleton]
    refine ⟨rfl, rfl, rfl, congrArg Effect.calls hrun, [front], rfl, ?_, ?_⟩
    · simpa using hfront
    · simpa using hrun.trans hfront
  | cons next parts ih =>
    have hparts := ih (g.perform r w (.aggregate part now)).aggregator
      (g.perform r w (.aggregate part now)).receiver next
    obtain ⟨haggregator, hreceiver, hfirst, hsecond, front, back, hfront, hback, hwhole⟩ :=
      g.perform_append r w now part (next :: parts).flatten
    obtain ⟨told, hlength, hlater, hrun⟩ := hparts.effects_eq
    have hresult := hparts.result_eq
    have hcalls := hparts.calls_eq
    rw [announcement_congr (rules_aggregate r g w part now)] at hlater hrun
    obtain rfl : back = told.flatten := List.append_cancel_left (hback.symm.trans hlater)
    rw [List.flatten_cons (l := part)]
    constructor
    · exact hparts.aggregator_eq.trans haggregator
    · exact hparts.receiver_eq.trans hreceiver
    · rw [hsecond] at hresult
      exact congrArg₂ List.cons hfirst hresult
    · rw [hback, Effect.calls_append, calls_announcement, List.nil_append] at hcalls
      calc Effect.calls ((g.perform r w (.aggregate part now)).effects ++ (performAll r _ _ _).effects)
        _ = Effect.calls front ++ Effect.calls told.flatten := by
          rw [Effect.calls_append, hcalls, hfront, Effect.calls_append, calls_announcement,
            List.nil_append]
        _ = _ := by
          rw [hwhole, Effect.calls_append, calls_announcement, List.nil_append, Effect.calls_append]
    · refine ⟨front :: told, congrArg Nat.succ hlength, hwhole, ?_⟩
      calc (g.perform r w (.aggregate part now)).effects ++ (performAll r _ _ _).effects
        _ = _ := by rw [hfront, hrun]; rfl

theorem perform_empty (r : Receiver σ) {g : Aggregator} (w : σ) (now : Instant)
    (hactive : g.counters.active = .ofNat g.table.length) :
    let turn := g.perform r w (.aggregate [] now)
    turn.aggregator = g ∧ turn.receiver = w ∧ turn.effects = g.announcement [] := by
  by_cases hrules : g.rules.isEmpty
  · simp [perform, aggregate, announcement, hrules]
  · have hreceived : g.counters.received + (.ofNat ([] : List Event).length) = g.counters.received :=
      UInt64.add_zero _
    simp only [perform, aggregate_of_rules r now hrules, takeAll, recount, announcement,
      if_neg hrules, hreceived, ← hactive, and_self]

/-- **Batches in parts.** A batch comes to what its parts come to one after the other, down to
single events. -/
theorem batches_merge (r : Receiver σ) (g : Aggregator) (w : σ) (now : Instant) :
    (∀ xs ys, Merges g [xs, ys] (g.perform r w (.aggregate (xs ++ ys) now))
      (performAll r g w [.aggregate xs now, .aggregate ys now])) ∧
    (∀ e rest, Merges g ((e :: rest).map ([·])) (g.perform r w (.aggregate (e :: rest) now))
      (performAll r g w ((e :: rest).map fun e => .aggregate [e] now))) ∧
    ∀ (grace : Span) (v : σ) (ops : List Operation),
      let reached := (performAll r (.new grace) v ops).aggregator
      let turn := reached.perform r w (.aggregate [] now)
      turn.aggregator = reached ∧ turn.receiver = w ∧ turn.effects = reached.announcement [] := by
  refine ⟨fun xs ys => ?_, fun e rest => ?_, fun grace v ops => ?_⟩
  · have htwo := merges r g w now xs [ys]
    rwa [List.flatten_cons, List.flatten_singleton] at htwo
  · have hone := merges r g w now [e] (rest.map ([·]))
    rw [← List.map_cons (f := ([·])), ← List.flatMap_def, List.flatMap_singleton',
      List.map_map] at hone
    exact hone
  · exact perform_empty r w now (active_performAll r v ops rfl)

end Alerting.Aggregator
