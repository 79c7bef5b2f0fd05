import Alerting.Daemon

/-!
# Lines and sweeps

What comes to a running daemon is a line or a sweep, each at its instant. A line that is text but no
batch costs one warning and nothing else: the run without that line is the same but for the warning,
and it ends well and tells its counters last if nothing that follows is unreadable. A line that is
not UTF-8 ends the daemon with a failure, and costs all that comes after it, the end included.
-/

namespace Alerting.Daemon

/-- Something that comes to a running daemon. -/
inductive Occurrence where
  | line (now : Instant) (bytes : List UInt8)
  | sweep (now : Instant)

def textOf? (bytes : List UInt8) : Option String := String.fromUTF8? ⟨bytes.toArray⟩

/-- The occurrence is not a line, or it is one of UTF-8. -/
def Occurrence.IsReadable : Occurrence → Prop
  | .line _ bytes => (textOf? bytes).isSome
  | .sweep _ => True

/-- The occurrences one after the other, up to a line that is not UTF-8, which is told by
`false`. -/
def follow : Daemon → List Occurrence → Daemon × Bool
  | d, [] => (d, true)
  | d, .line now bytes :: rest =>
    match textOf? bytes with
    | none => (d, false)
    | some text => follow (d.feed now text) rest
  | d, .sweep now :: rest => follow (d.sweep now) rest

/-- A run from the first line or sweep on; `stop` is the instant of its end. -/
def complete (stop : Instant) (d : Daemon) (occurrences : List Occurrence) : Run :=
  match d.follow occurrences with
  | (d, false) => { ending := .unreadable, log := d.log }
  | (d, true) => { ending := .finished, log := (d.finish stop).log }

/-- A run with arguments, on which sweeps come due between the lines. -/
def runOn (arguments : CommandLine.Arguments) (read : String → Option ByteArray)
    (opening stop : Instant) (occurrences : List Occurrence) : Run :=
  match RulesFile.load (read arguments.rules) with
  | .error _ => { ending := .unloaded arguments.rules }
  | .ok file =>
    match Dispatcher.new? (arguments.settings file.settings) () with
    | none =>
      { ending := .oversized
        log := [⟨false, .rulesLoaded file.rules.length arguments.rules⟩] }
    | some dispatcher =>
      (start dispatcher file.rules arguments.rules opening).complete stop occurrences

/-- The lines of an input, the `n`th one at `clock n`, without sweeps. -/
def unswept (clock : Nat → Instant) (n : Nat) (lines : List (List UInt8)) : List Occurrence :=
  (lines.zipIdx n).map fun line => .line (clock line.2) line.1

theorem feedAll_eq_follow (clock : Nat → Instant) (n : Nat) (d : Daemon)
    (lines : List (List UInt8)) : feedAll clock n d lines = d.follow (unswept clock n lines) := by
  induction lines generalizing n d with
  | nil => rfl
  | cons line lines ih =>
    show feedAll clock n d (line :: lines) =
      d.follow (.line (clock n) line :: unswept clock (n + 1) lines)
    unfold feedAll follow textOf?
    cases String.fromUTF8? ⟨line.toArray⟩ with
    | none => rfl
    | some text => exact ih (n + 1) _

/-- A run on which no sweep comes due is such a run. -/
theorem runWith_eq_runOn (arguments : CommandLine.Arguments) (read : String → Option ByteArray)
    (input : List UInt8) (clock : Nat → Instant) :
    runWith arguments read input clock =
      runOn arguments read (clock 0) (clock 0) (unswept clock 0 (lines input)) := by
  unfold runWith runOn
  simp only [feedAll_eq_follow]
  cases RulesFile.load (read arguments.rules) with
  | error e => rfl
  | ok file =>
    simp only
    cases Dispatcher.new? (arguments.settings file.settings) () with
    | none => rfl
    | some dispatcher => rfl

/-! ## Nothing reads the log -/

def after (told : List Log.Line) (d : Daemon) : Daemon := { d with log := told ++ d.log }

@[simp] theorem session_after (told : List Log.Line) (d : Daemon) :
    (d.after told).session = d.session := rfl

theorem tell_after (told : List Log.Line) (d : Daemon) (entry : Log.Entry) :
    (d.after told).tell entry = (d.tell entry).after told := by
  simp [after, tell]

theorem hear_after (told : List Log.Line) (d : Daemon) (s : Session Unit) :
    (d.after told).hear s = (d.hear s).after told := by
  simp [after, hear]

theorem receive_after (told : List Log.Line) (d : Daemon) (now : Instant) (events : List Event) :
    (d.after told).receive now events = (d.receive now events).after told := by
  unfold receive
  simp only [session_after, hear_after]
  cases (d.session.ask .log now (.batch events)).2 with
  | ok _ => rfl
  | error rejection => exact tell_after told _ _

theorem feed_after (told : List Log.Line) (d : Daemon) (now : Instant) (line : String) :
    (d.after told).feed now line = (d.feed now line).after told := by
  unfold feed
  cases Batch.ofLine line with
  | error fault => exact tell_after told d _
  | ok batch =>
    cases batch with
    | none => rfl
    | some drafts => exact receive_after told d now _

theorem sweep_after (told : List Log.Line) (d : Daemon) (now : Instant) :
    (d.after told).sweep now = (d.sweep now).after told := hear_after told d _

theorem finish_after (told : List Log.Line) (d : Daemon) (now : Instant) :
    (d.after told).finish now = (d.finish now).after told := by
  unfold finish
  simp only [tell_after, hear_after]
  rfl

theorem follow_after (told : List Log.Line) (d : Daemon) (occurrences : List Occurrence) :
    (d.after told).follow occurrences =
      ((d.follow occurrences).1.after told, (d.follow occurrences).2) := by
  induction occurrences generalizing d with
  | nil => rfl
  | cons o occurrences ih =>
    cases o with
    | line now bytes =>
      unfold follow
      cases textOf? bytes with
      | none => rfl
      | some text => simp only [feed_after, ih]
    | sweep now => rw [follow, follow, sweep_after, ih]

theorem complete_after (told : List Log.Line) (stop : Instant) (d : Daemon)
    (occurrences : List Occurrence) :
    (d.after told).complete stop occurrences =
      { d.complete stop occurrences with log := told ++ (d.complete stop occurrences).log } := by
  unfold complete
  rw [follow_after]
  cases hfollow : d.follow occurrences with
  | mk d' readable =>
    cases readable with
    | false => rfl
    | true => simp only [finish_after]; rfl

/-! ## Lines that are no batch -/

theorem follow_append {d : Daemon} {past : List Occurrence} (hpast : ∀ o ∈ past, o.IsReadable)
    (rest : List Occurrence) : d.follow (past ++ rest) = (d.follow past).1.follow rest := by
  induction past generalizing d with
  | nil => rfl
  | cons o past ih =>
    have hlater : ∀ o ∈ past, o.IsReadable := fun o ho => hpast o (List.mem_cons_of_mem _ ho)
    cases o with
    | line now bytes =>
      obtain ⟨text, htext⟩ := Option.isSome_iff_exists.1 (hpast _ List.mem_cons_self)
      rw [List.cons_append, follow, follow]
      simp only [htext, ih hlater]
    | sweep now => rw [List.cons_append, follow, follow, ih hlater]

theorem follow_readable {d : Daemon} {occurrences : List Occurrence}
    (h : ∀ o ∈ occurrences, o.IsReadable) : (d.follow occurrences).2 = true := by
  have happend := follow_append (d := d) h []
  rw [List.append_nil] at happend
  rw [happend]
  rfl

/-- A daemon that has told nothing yet. -/
def silent (d : Daemon) : Daemon := { session := d.session }

theorem after_silent (d : Daemon) : d.silent.after d.log = d := by
  cases d
  simp [silent, after]

theorem tell_eq_after_silent (d : Daemon) (entry : Log.Entry) :
    d.tell entry = d.silent.after (d.log ++ [⟨false, entry⟩]) := by
  simp [silent, after, tell]

theorem complete_append {d : Daemon} {past : List Occurrence} (hpast : ∀ o ∈ past, o.IsReadable)
    (stop : Instant) (rest : List Occurrence) :
    d.complete stop (past ++ rest) = (d.follow past).1.complete stop rest := by
  unfold complete
  rw [follow_append hpast]

theorem complete_readable {d : Daemon} {occurrences : List Occurrence}
    (h : ∀ o ∈ occurrences, o.IsReadable) (stop : Instant) :
    d.complete stop occurrences =
      { ending := .finished, log := ((d.follow occurrences).1.finish stop).log } := by
  have hend := follow_readable (d := d) h
  unfold complete
  cases hfollow : d.follow occurrences with
  | mk d' readable =>
    rw [hfollow] at hend
    obtain rfl : readable = true := hend
    rfl

theorem getLast?_log_finish (d : Daemon) (stop : Instant) :
    ∃ counters, (d.finish stop).log.getLast? = some ⟨false, .flushed counters⟩ :=
  ⟨_, List.getLast?_concat⟩

theorem runOn_of_load {arguments : CommandLine.Arguments} {read : String → Option ByteArray}
    {file : RulesFile} (hload : RulesFile.load (read arguments.rules) = .ok file)
    (hroom : (arguments.settings file.settings).requestBuffer.toNat ≤ Dispatcher.capacityLimit)
    (opening stop : Instant) :
    ∃ d : Daemon, ∀ occurrences,
      runOn arguments read opening stop occurrences = d.complete stop occurrences := by
  obtain ⟨dispatcher, hnew⟩ : ∃ dispatcher,
      Dispatcher.new? (arguments.settings file.settings) () = some dispatcher :=
    ⟨_, if_pos hroom⟩
  refine ⟨start dispatcher file.rules arguments.rules opening, fun occurrences => ?_⟩
  simp only [runOn, hload, hnew]

/-- What a line that is no batch costs: a warning, or the whole rest of the run if it is not UTF-8.
-/
theorem bad_line_cost {arguments : CommandLine.Arguments} {read : String → Option ByteArray}
    {file : RulesFile} (hload : RulesFile.load (read arguments.rules) = .ok file)
    (hroom : (arguments.settings file.settings).requestBuffer.toNat ≤ Dispatcher.capacityLimit)
    (opening stop now : Instant) {past later : List Occurrence} {bad : List UInt8}
    (hpast : ∀ o ∈ past, o.IsReadable)
    (hbad : ∀ text batch, textOf? bad = some text → Batch.ofLine text ≠ .ok batch) :
    let without := runOn arguments read opening stop (past ++ later)
    let run := runOn arguments read opening stop (past ++ .line now bad :: later)
    ∃ told rest, without.log = told ++ rest ∧
      ((∀ o ∈ later, o.IsReadable) → without.ending = .finished ∧ without.ending.status = 0 ∧
        ∃ counters, rest.getLast? = some ⟨false, .flushed counters⟩) ∧
      (∀ text, textOf? bad = some text → ∃ fault, Batch.ofLine text = .error fault ∧
        run.ending = without.ending ∧
        run.log = told ++ ⟨false, .lineSkipped (Batch.describe text fault)⟩ :: rest) ∧
      (textOf? bad = none →
        run.ending = .unreadable ∧ run.ending.status = 1 ∧ run.log = told) := by
  obtain ⟨d, hrun⟩ := runOn_of_load hload hroom opening stop
  simp only [hrun, complete_append hpast]
  -- from the line on, both runs are those of one daemon, and what it told before stays in front
  generalize (d.follow past).1 = d
  have hwithout : d.complete stop later = (d.silent.after d.log).complete stop later := by
    rw [after_silent]
  refine ⟨d.log, (d.silent.complete stop later).log, ?_, fun hlater => ?_, fun text htext => ?_,
    fun hnone => ?_⟩
  · rw [hwithout, complete_after]
  · simp only [complete_readable hlater]
    exact ⟨trivial, rfl, getLast?_log_finish _ stop⟩
  · obtain ⟨fault, hfault⟩ : ∃ fault, Batch.ofLine text = .error fault := by
      cases hline : Batch.ofLine text with
      | error fault => exact ⟨fault, rfl⟩
      | ok batch => exact absurd hline (hbad text batch htext)
    have hskip : d.complete stop (.line now bad :: later) =
        (d.silent.after (d.log ++ [⟨false, .lineSkipped (Batch.describe text fault)⟩])).complete
          stop later := by
      rw [← tell_eq_after_silent]
      simp only [complete, follow, htext, feed, hfault]
    refine ⟨fault, hfault, ?_, ?_⟩
    · rw [hskip, hwithout, complete_after, complete_after]
    · rw [hskip, complete_after, List.append_assoc, List.singleton_append]
  · have hstop : d.complete stop (.line now bad :: later) =
        { ending := .unreadable, log := d.log } := by
      simp only [complete, follow, hnone]
    rw [hstop]
    exact ⟨rfl, rfl, rfl⟩

/-- Broken JSON between two events costs a warning. -/
theorem bad_line_cost_broken_json :
    let arguments : CommandLine.Arguments := { rules := "rules.toml" }
    let read (_ : String) := some "[[rules]]\n".toUTF8
    let past := [Occurrence.line .epoch "\x7b\x7d".toUTF8.data.toList]
    let later := [Occurrence.sweep .epoch, .line .epoch "[\x7b\x7d]".toUTF8.data.toList]
    let bad := "\x7bnot json".toUTF8.data.toList
    ∃ told rest reason,
      (runOn arguments read .epoch .epoch (past ++ later)).log = told ++ rest ∧
      (runOn arguments read .epoch .epoch (past ++ .line .epoch bad :: later)).log =
        told ++ ⟨false, .lineSkipped reason⟩ :: rest := by
  intro arguments read past later bad
  have hfile : (RulesFile.load (read arguments.rules)).toOption = some { rules := [{}] } := by
    decide +kernel
  have hload : RulesFile.load (read arguments.rules) = .ok { rules := [{}] } := by
    cases h : RulesFile.load (read arguments.rules) with
    | error e => rw [h] at hfile; cases hfile
    | ok file => rw [h] at hfile; cases hfile; rfl
  have htext : textOf? bad = some "\x7bnot json" := by decide +kernel
  have hpast : ∀ o ∈ past, o.IsReadable := by
    intro o ho
    rw [List.mem_singleton.1 ho]
    exact (by decide +kernel : (textOf? "\x7b\x7d".toUTF8.data.toList).isSome = true)
  have hbad : ∀ text batch, textOf? bad = some text → Batch.ofLine text ≠ .ok batch := by
    rintro text batch h
    obtain rfl := Option.some.inj (htext.symm.trans h)
    have hline : (Batch.ofLine "\x7bnot json").isOk = false := by decide +kernel
    intro hok
    rw [hok] at hline
    exact absurd hline nofun
  obtain ⟨told, rest, hlog, -, hcost, -⟩ :=
    bad_line_cost hload (by decide +kernel) .epoch .epoch .epoch hpast hbad
  obtain ⟨fault, -, -, hwith⟩ := hcost _ htext
  exact ⟨told, rest, _, hlog, hwith⟩

/-- A line that is not UTF-8 ends the daemon with a failure, and the event after it is lost. -/
theorem unreadable_line_ends_run :
    let event (service : String) : List UInt8 :=
      ("\x7b\"labels\":\x7b\"service\":\"" ++ service ++ "\"\x7d\x7d\n").toUTF8.data.toList
    let runOf (input : List UInt8) : Run :=
      run ["--rules", "rules.toml"] (fun _ => none) (fun _ => some "[[rules]]\n".toUTF8) input
        fun _ => .epoch
    let notices (r : Run) : Nat :=
      r.log.countP fun line => line.entry.fields.lookup "event" = some (.text "notification")
    (runOf (event "db" ++ event "web")).ending.status = 0 ∧
      notices (runOf (event "db" ++ event "web")) = 2 ∧
      (runOf (event "db" ++ [0xFF, 10] ++ event "web")).ending.status = 1 ∧
      notices (runOf (event "db" ++ [0xFF, 10] ++ event "web")) = 1 := by
  decide +kernel

end Alerting.Daemon
