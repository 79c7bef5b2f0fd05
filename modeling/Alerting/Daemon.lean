import Alerting.CommandLine.Help
import Alerting.Dispatcher.Session
import Alerting.Event.Batch
import Alerting.Log.Printer
import Alerting.RulesFile.Toml

/-!
# The daemon

The daemon loads a rules file and feeds the lines of its input to a dispatcher whose receiver writes
notifications into the log. A line that is no batch is told in the log and skipped. At the end of
the input the dispatcher is closed and the counters are told. Input that is not UTF-8 ends the
daemon at once.
-/

namespace Alerting

structure Daemon where
  session : Session Unit
  /-- What was told, oldest first. -/
  log : List Log.Line := []

namespace Daemon

def tell (d : Daemon) (entry : Log.Entry) : Daemon :=
  { d with log := d.log ++ [⟨false, entry⟩] }

/-- Takes over what the dispatcher told. -/
def hear (d : Daemon) (s : Session Unit) : Daemon :=
  { session := { s with effects := [] }
    log := d.log ++ (s.effects.filterMap Effect.entry?).map fun entry => ⟨true, entry⟩ }

/-- Starts with a dispatcher that has not run yet, and installs the rules. -/
def start (dispatcher : Dispatcher Unit) (rules : List Rule) (path : String) (now : Instant) :
    Daemon :=
  let d : Daemon := { session := { dispatcher } }
  let d := d.tell (.rulesLoaded rules.length path)
  d.hear (d.session.ask .log now (.rules (SharedRule.number 0 rules))).1

def receive (d : Daemon) (now : Instant) (events : List Event) : Daemon :=
  let asked := d.session.ask .log now (.batch events)
  let d := d.hear asked.1
  match asked.2 with
  | .ok () => d
  | .error rejection => d.tell (.batchRejected rejection)

/-- Takes a line of input. The clock is read once for it: events without a time get the instant at
which their batch is served. -/
def feed (d : Daemon) (now : Instant) (line : String) : Daemon :=
  match Batch.ofLine line with
  | .ok none => d
  | .ok (some drafts) => d.receive now (drafts.map (·.dated now))
  | .error fault => d.tell (.lineSkipped (Batch.describe line fault))

def sweep (d : Daemon) (now : Instant) : Daemon := d.hear (d.session.act .log (.sweep now))

def finish (d : Daemon) (now : Instant) : Daemon :=
  let d := d.tell .inputClosed
  let d := d.hear (d.session.close .log now)
  d.tell (.flushed d.session.dispatcher.aggregator.counters)

/-! ## Whole runs -/

/-- The lines of an input. The last one need not be ended. -/
def lines : List UInt8 → List (List UInt8)
  | [] => []
  | b :: bytes =>
    if b = 10 then [] :: lines bytes
    else
      match lines bytes with
      | [] => [[b]]
      | line :: rest => (b :: line) :: rest

/-- Takes one line after the other, the `n`th one at `clock n`, up to one that is not UTF-8, which
is told by `false`. -/
def feedAll (clock : Nat → Instant) : Nat → Daemon → List (List UInt8) → Daemon × Bool
  | _, d, [] => (d, true)
  | n, d, line :: rest =>
    match String.fromUTF8? ⟨line.toArray⟩ with
    | none => (d, false)
    | some text => feedAll clock (n + 1) (d.feed (clock n) text) rest

inductive Ending where
  /-- At the end of the input. -/
  | finished
  /-- At input that is not UTF-8. -/
  | unreadable
  /-- There are no rules to be had at the path. -/
  | unloaded (path : String)
  /-- The settings ask for more room than there can be. -/
  | oversized
  | notStarted (stop : CommandLine.Stop)
  deriving DecidableEq

namespace Ending

def status : Ending → Nat
  | .finished | .notStarted .help | .notStarted .version => 0
  | .unreadable | .unloaded _ => 1
  | .notStarted (.misuse _) => 2
  | .oversized => 101

def message? : Ending → Option String
  | .finished | .oversized | .notStarted .help | .notStarted .version => none
  | .unreadable => some "Error: Failed to read stdin"
  | .unloaded path => some ("Error: Failed to load rules from " ++ path)
  | .notStarted (.misuse m) => some ("error: " ++ m.describe)

/-- What a run prints that only shows something. -/
def output (environment : String → Option String) : Ending → String
  | .notStarted .help => CommandLine.helpText environment
  | .notStarted .version => CommandLine.versionText
  | _ => ""

end Ending

def filterVariable : String := "RUST_LOG"

/-- The filter of the log: that of the environment, or else one by level. -/
def filter (arguments : CommandLine.Arguments) (environment : String → Option String) :
    Log.Filter :=
  let default := Log.Filter.upTo (if arguments.verbose then .debug else .info)
  ((environment filterVariable).bind Log.Filter.ofString?).getD default

structure Run where
  ending : Ending
  /-- Everything that was told, before it is filtered. -/
  log : List Log.Line := []

/-- A run with arguments and input on which no sweep comes due. -/
def runWith (arguments : CommandLine.Arguments) (read : String → Option ByteArray)
    (input : List UInt8) (clock : Nat → Instant) : Run :=
  match RulesFile.load (read arguments.rules) with
  | .error _ => { ending := .unloaded arguments.rules }
  | .ok file =>
    match Dispatcher.new? (arguments.settings file.settings) () with
    | none =>
      { ending := .oversized
        log := [⟨false, .rulesLoaded file.rules.length arguments.rules⟩] }
    | some dispatcher =>
      let d := start dispatcher file.rules arguments.rules (clock 0)
      match feedAll clock 0 d (lines input) with
      | (d, false) => { ending := .unreadable, log := d.log }
      | (d, true) => { ending := .finished, log := (d.finish (clock 0)).log }

def run (arguments : List String) (environment : String → Option String)
    (read : String → Option ByteArray) (input : List UInt8) (clock : Nat → Instant) : Run :=
  match CommandLine.Arguments.of arguments environment with
  | .error stop => { ending := .notStarted stop }
  | .ok arguments => runWith arguments read input clock

end Daemon

end Alerting
