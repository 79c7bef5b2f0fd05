import Alerting.Proofs.Aggregator.Firsts
import Alerting.Proofs.Basic
import Alerting.Proofs.Daemon.Basic
import Alerting.Proofs.Dispatcher.Course
import Mathlib.Data.List.Forall2

/-!
# What a run notifies

A run on a text and without sweeps ends well, notifies the first claimed event of each fingerprint
by itself, and tells at its end how many events came in and what became of them. Lines that are
blank or no batch add no events and so change none of this.
-/

namespace Alerting

/-- The events of a line that is taken at `now`; none of a line that is no batch. -/
def Batch.eventsOf (now : Instant) (line : String) : List Event :=
  match ofLine line with
  | .ok (some drafts) => drafts.map (·.dated now)
  | _ => []

theorem SharedRule.number_ne_nil (first : Nat) {rules : List Rule} (h : rules ≠ []) :
    number first rules ≠ [] := by
  cases rules with
  | nil => exact absurd rfl h
  | cons rule rest => exact List.cons_ne_nil _ _

namespace Daemon

open Aggregator SharedRule

/-- The events of lines, the `n`th of them taken at `clock n`. -/
def eventsOf (clock : Nat → Instant) : Nat → List String → List Event
  | _, [] => []
  | n, line :: rest => Batch.eventsOf (clock n) line ++ eventsOf clock (n + 1) rest

def notified (log : List Log.Line) : List Summary := log.filterMap fun line => line.entry.summary?

theorem notified_append (l₁ l₂ : List Log.Line) :
    notified (l₁ ++ l₂) = notified l₁ ++ notified l₂ :=
  List.filterMap_append

theorem notified_cons (line : Log.Line) (log : List Log.Line) :
    notified (line :: log) = line.entry.summary?.toList ++ notified log := by
  unfold notified
  cases hsummary : line.entry.summary? with
  | none => exact List.filterMap_cons_none hsummary
  | some summary => exact List.filterMap_cons_some hsummary

/-- The daemon has taken these events, and its dispatcher waits for more. -/
structure Serves (rules : List SharedRule) (events : List Event) (d : Daemon) : Prop where
  session : ∃ g capacity interval calls, 0 < capacity ∧
    Tallied rules events (.ofNat events.length)
      (.ofNat (Event.firsts (claimed rules events)).length) g ∧
    d.session = { dispatcher := .idle g () capacity interval calls }
  notified : notified d.log = notices rules events

variable {rules : List SharedRule} {events : List Event} {d : Daemon}

theorem notified_tell (d : Daemon) {entry : Log.Entry} (h : entry.summary? = none) :
    notified (d.tell entry).log = notified d.log := by
  rw [tell, notified_append]
  simp [notified, h]

theorem notified_hear (d : Daemon) (s : Session Unit) :
    notified (d.hear s).log = notified d.log ++ Effect.notified s.effects := by
  rw [hear, notified_append]
  congr 1
  rw [notified, List.filterMap_map, List.filterMap_filterMap, Effect.notified]
  rfl

theorem Serves.tell (h : Serves rules events d) {entry : Log.Entry}
    (hentry : entry.summary? = none) : Serves rules events (d.tell entry) :=
  ⟨h.session, (notified_tell d hentry).trans h.notified⟩

theorem serves_start {settings : Settings} {dispatcher : Dispatcher Unit}
    (hnew : Dispatcher.new? settings () = some dispatcher) (rules : List Rule) (path : String)
    (now : Instant) : Serves (number 0 rules) [] (start dispatcher rules path now) := by
  obtain ⟨-, rfl⟩ := Dispatcher.new?_eq_some_iff.1 hnew
  have hroom : 0 < max settings.requestBuffer.toNat 1 := by omega
  have hask := Session.ask_first_rules Receiver.log (max (settings.sweepInterval.toNat * 1000) 1) now
    (.new (.ofSeconds settings.evictionGrace.toNat)) () hroom (number 0 rules)
  unfold start
  simp only [Daemon.tell, hask]
  exact ⟨⟨_, _, _, 1, hroom, tallied_new _ _, rfl⟩, rfl⟩

/-! ## Taking the lines -/

theorem Serves.receive (h : Serves rules events d) (hrules : rules ≠ []) (now : Instant)
    (batch : List Event) : Serves rules (events ++ batch) (d.receive now batch) := by
  obtain ⟨g, capacity, interval, calls, hroom, htallied, hsession⟩ := h.session
  obtain ⟨htaken, hnotices, hresult⟩ := htallied.aggregate hrules () now batch
  have hask := Session.ask_batch .log interval now g () calls hroom batch
  rw [← hsession] at hask
  unfold Daemon.receive
  rw [hask]
  simp only [hresult]
  refine ⟨⟨_, capacity, interval, calls + 1, hroom, htaken, rfl⟩, ?_⟩
  rw [notified_hear, h.notified, hnotices]

theorem Serves.feed (h : Serves rules events d) (hrules : rules ≠ []) (now : Instant)
    (line : String) : Serves rules (events ++ Batch.eventsOf now line) (d.feed now line) := by
  unfold Daemon.feed Batch.eventsOf
  cases Batch.ofLine line with
  | error fault =>
    rw [List.append_nil]
    exact h.tell rfl
  | ok batch =>
    cases batch with
    | none =>
      rw [List.append_nil]
      exact h
    | some drafts => exact h.receive hrules now _

theorem Serves.feedTexts (h : Serves rules events d) (hrules : rules ≠ []) (clock : Nat → Instant)
    (n : Nat) (lines : List String) :
    Serves rules (events ++ eventsOf clock n lines) (d.feedTexts clock n lines) := by
  induction lines generalizing n events d with
  | nil =>
    rw [eventsOf, List.append_nil]
    exact h
  | cons line lines ih =>
    rw [eventsOf, ← List.append_assoc]
    exact ih (h.feed hrules (clock n) line) (n + 1)

/-- The input closes after the last notification, and the counters are told last. -/
theorem Serves.finish (h : Serves rules events d) (now : Instant) :
    Daemon.notified (d.finish now).log = notices rules events ∧
      (d.finish now).log.getLast? = some ⟨false, .flushed
        { received := .ofNat events.length
          unmatched := .ofNat (unclaimed rules events).length
          created := .ofNat (Event.firsts (claimed rules events)).length
          active := .ofNat (Event.firsts (claimed rules events)).length
          sent := .ofNat (Event.firsts (claimed rules events)).length }⟩ := by
  obtain ⟨g, capacity, interval, calls, -, htallied, hsession⟩ := h.session
  have hclose : (d.session.close .log now).dispatcher.aggregator = g ∧
      (d.session.close .log now).effects = [.log (.stopped g.table.length)] := by
    rw [hsession]
    exact Session.close_idle .log interval now g () calls
  unfold Daemon.finish
  constructor
  · rw [notified_tell _ (rfl : (Log.Entry.flushed _).summary? = none), notified_hear,
      notified_tell d rfl, h.notified]
    show _ ++ Effect.notified (d.session.close .log now).effects = _
    rw [hclose.2]
    exact List.append_nil _
  · -- closing leaves the counters as the last batch left them
    rw [← htallied.counters, ← hclose.1]
    exact List.getLast?_concat

/-! ## What the log shows -/

theorem passes_upTo (level : Log.Level) (within : Bool) (entry : Log.Entry) :
    (Log.Filter.upTo level).passes within entry = decide (entry.level ≤ level) := by
  simp [Log.Filter.upTo, Log.Filter.passes, Log.Directive.coversWithin, Log.Directive.covers,
    Log.Directive.isStatic, Log.Directive.coversTarget, Log.Directive.limitOf]
  rfl

theorem summary?_eq_some {entry : Log.Entry} {summary : Summary} :
    entry.summary? = some summary ↔ entry = .notification summary := by
  cases entry <;> simp [Log.Entry.summary?]

theorem isNotification_iff (entry : Log.Entry) :
    entry.fields.lookup "event" = some (.text "notification") ↔ entry.summary?.isSome := by
  cases entry <;>
    simp [Log.Entry.fields, Log.Entry.named, Log.Entry.summary?, List.lookup_cons, Counters.toList]

theorem passes_of_info (a : CommandLine.Arguments) {environment : String → Option String}
    (hfilter : environment filterVariable = none) {line : Log.Line}
    (h : line.entry.level = .info) : line.passes (filter a environment) = true := by
  unfold Log.Line.passes filter
  rw [hfilter, Option.bind_none, Option.getD_none, passes_upTo, h]
  cases a.verbose <;> rfl

def Run.shown (r : Run) (f : Log.Filter) : List Log.Line := r.log.filter (·.passes f)

/-- The fields of the entries that are marked as notifications. -/
def notificationsIn (lines : List Log.Line) : List (List (String × Log.Value)) :=
  (lines.map (·.entry.fields)).filter fun fields =>
    fields.lookup "event" = some (.text "notification")

/-- The marked entries are the notifications, and each of them is shown. -/
theorem notificationsIn_shown {f : Log.Filter}
    (hshown : ∀ line : Log.Line, line.entry.level = .info → line.passes f) (log : List Log.Line) :
    notificationsIn (log.filter (·.passes f)) =
      (notified log).map fun summary => (Log.Entry.notification summary).fields := by
  induction log with
  | nil => rfl
  | cons line log ih =>
    unfold notificationsIn at *
    have hmarked := isNotification_iff line.entry
    rw [notified_cons]
    cases hsummary : line.entry.summary? with
    | some summary =>
      have hentry := summary?_eq_some.1 hsummary
      have hpasses : line.passes f := hshown line (by rw [hentry]; rfl)
      rw [List.filter_cons_of_pos hpasses, List.map_cons,
        List.filter_cons_of_pos (by simp [hmarked, hsummary]), ih, hentry]
      rfl
    | none =>
      -- shown or not, the entry is not marked
      rw [Option.toList_none, List.nil_append, ← ih, List.filter_cons]
      split
      · rw [List.map_cons, List.filter_cons_of_neg (by simp [hmarked, hsummary])]
      · rfl

theorem notices_forall₂ (rules : List SharedRule) (events : List Event) :
    List.Forall₂ (fun summary e => ∃ rule, firstMatch? rules e = some rule ∧
      summary = ⟨rule, e.fingerprint, [e]⟩) (notices rules events)
      (Event.firsts (claimed rules events)) := by
  have hclaimed : ∀ e ∈ Event.firsts (claimed rules events), (firstMatch? rules e).isSome :=
    fun e he => (List.mem_filter.1 ((Event.firsts_sublist _).subset he)).2
  unfold notices
  generalize Event.firsts (claimed rules events) = firsts at hclaimed
  induction firsts with
  | nil => exact .nil
  | cons e firsts ih =>
    obtain ⟨rule, hrule⟩ := Option.isSome_iff_exists.1 (hclaimed e List.mem_cons_self)
    rw [List.filterMap_cons, hrule]
    exact .cons ⟨rule, hrule, rfl⟩ (ih fun x hx => hclaimed x (List.mem_cons_of_mem e hx))

/-- What a run on a text and without sweeps notifies and counts. -/
theorem run_notifies_firsts {arguments : List String} {environment : String → Option String}
    {read : String → Option ByteArray} {a : CommandLine.Arguments} {file : RulesFile}
    (hargs : CommandLine.Arguments.of arguments environment = .ok a)
    (hload : RulesFile.load (read a.rules) = .ok file) (hrules : file.rules ≠ [])
    (hroom : (a.settings file.settings).requestBuffer.toNat ≤ Dispatcher.capacityLimit)
    (hfilter : environment filterVariable = none) (text : String) (clock : Nat → Instant) :
    let run := Daemon.run arguments environment read text.toUTF8.data.toList clock
    let shown := run.shown (filter a environment)
    let rules := number 0 file.rules
    let events := eventsOf clock 0 (textLines text)
    let firsts := Event.firsts (claimed rules events)
    run.ending = .finished ∧ run.ending.status = 0 ∧
      List.Forall₂ (fun fields e => ∃ rule, firstMatch? rules e = some rule ∧ fields =
          [("event", .text "notification"), ("rule", .shown rule.rule.displayName),
           ("fingerprint", .shown e.fingerprint.hex), ("count", .number 1),
           ("events", .shown (Event.listToJson [e]).compact)])
        (notificationsIn shown) firsts ∧
      (firsts.map (·.fingerprint)).Nodup ∧
      (∀ f, f ∈ firsts.map (·.fingerprint) ↔ f ∈ (claimed rules events).map (·.fingerprint)) ∧
      shown.getLast? = some ⟨false, .flushed
        { received := .ofNat events.length
          unmatched := .ofNat (unclaimed rules events).length
          created := .ofNat firsts.length
          active := .ofNat firsts.length
          sent := .ofNat firsts.length }⟩ := by
  intro run shown rules events firsts
  have hsome : rules ≠ [] := number_ne_nil 0 hrules
  obtain ⟨dispatcher, hnew⟩ : ∃ dispatcher,
      Dispatcher.new? (a.settings file.settings) () = some dispatcher := ⟨_, if_pos hroom⟩
  have hserves := (serves_start hnew file.rules a.rules (clock 0)).feedTexts
    hsome clock 0 (textLines text)
  rw [List.nil_append] at hserves
  obtain ⟨hnotified, hlast⟩ := hserves.finish (clock 0)
  have hrun : run = { ending := .finished
                      log := (((start dispatcher file.rules a.rules (clock 0)).feedTexts clock 0
                        (textLines text)).finish (clock 0)).log } := by
    simp only [run, Daemon.run, hargs, runWith, hload, hnew, feedAll_toUTF8]
  have hshown : ∀ line : Log.Line, line.entry.level = .info →
      line.passes (filter a environment) := fun line => passes_of_info a hfilter
  refine ⟨by rw [hrun], by rw [hrun]; rfl, ?_, Event.nodup_fingerprints_firsts _,
    fun f => Event.mem_fingerprints_firsts f _, ?_⟩
  · have hmarked : notificationsIn shown =
        (notices rules events).map fun summary => (Log.Entry.notification summary).fields := by
      rw [← hnotified, ← notificationsIn_shown hshown]
      simp only [shown, hrun, Run.shown]
    rw [hmarked, List.forall₂_map_left_iff]
    refine (notices_forall₂ rules events).imp ?_
    rintro summary e ⟨rule, hrule, rfl⟩
    exact ⟨rule, hrule, rfl⟩
  · simp only [shown, hrun, Run.shown]
    exact getLast?_filter hlast (hshown _ rfl)

/-- An event, a blank line, broken JSON and two equal events make two notifications. -/
theorem run_notifies_firsts_of_two :
    let text :=
      "\x7b\"labels\":\x7b\"service\":\"db\"\x7d\x7d\n\n\x7bnot json\n[\x7b\x7d,\x7b\x7d]\n"
    let environment (_ : String) : Option String := none
    let read (_ : String) := some "[[rules]]\n".toUTF8
    let run := Daemon.run ["--rules", "rules.toml"] environment read text.toUTF8.data.toList
      fun _ => .epoch
    let shown := run.shown (filter { rules := "rules.toml" } environment)
    run.ending.status = 0 ∧ (notificationsIn shown).length = 2 := by
  intro text environment read run shown
  have hargs : CommandLine.Arguments.of ["--rules", "rules.toml"] environment =
      .ok { rules := "rules.toml" } := by decide +kernel
  have hfile : (RulesFile.load (read "rules.toml")).toOption = some { rules := [{}] } := by
    decide +kernel
  have hload : RulesFile.load (read "rules.toml") = .ok { rules := [{}] } := by
    cases h : RulesFile.load (read "rules.toml") with
    | error e => rw [h] at hfile; cases hfile
    | ok file => rw [h] at hfile; cases hfile; rfl
  have hfirsts : (Event.firsts (claimed (number 0 [{}])
      (eventsOf (fun _ => .epoch) 0 (textLines text)))).length = 2 := by decide +kernel
  obtain ⟨-, hstatus, hnotified, -⟩ := run_notifies_firsts hargs hload (List.cons_ne_nil _ _)
    (by decide +kernel) rfl text fun _ => .epoch
  exact ⟨hstatus, hnotified.length_eq.trans hfirsts⟩

end Daemon

end Alerting
