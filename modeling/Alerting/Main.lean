import Alerting.Daemon
import Std.Time.DateTime.Timestamp

/-!
# The program

Reads standard input line by line, keeps the clock, and writes the log to standard error.
-/

namespace Alerting.Program

def now : IO Instant := do
  let t := (← Std.Time.Timestamp.now).toNanosecondsSinceUnixEpoch.val
  return (Instant.of? (t / 1000000000) (t % 1000000000).toNat).getD .epoch

structure Console where
  filter : Log.Filter
  json : Bool

/-- Writes what was told and has not been written yet. -/
def Console.write (c : Console) (d : Daemon) : IO Daemon := do
  let time ← now
  for line in d.log do
    if line.passes c.filter then
      IO.eprintln (line.print c.filter c.json time)
  return { d with log := [] }

/-- A daemon and the time at which its next sweep is due, in milliseconds. -/
structure Running where
  daemon : Daemon
  due : Nat

/-- Makes up for the sweeps that have come due. -/
partial def Running.sweepDue (c : Console) (r : Running) : IO Running := do
  if (← IO.monoMsNow) < r.due then return r
  let daemon ← c.write (r.daemon.sweep (← now))
  sweepDue c ⟨daemon, r.due + daemon.session.dispatcher.interval⟩

/-- Takes one line; none if it is not UTF-8. -/
def Running.feed (c : Console) (r : Running) (line : ByteArray) : IO (Option Running) := do
  let r ← r.sweepDue c
  match String.fromUTF8? line with
  | none => return none
  | some text => return some { r with daemon := ← c.write (r.daemon.feed (← now) text) }

/-- Takes lines until the input ends, with what was read of the next line in `line`; none if one of
them is not UTF-8. -/
partial def Running.feedAll (c : Console) (input : IO.FS.Stream) (r : Running)
    (line : ByteArray) : IO (Option Running) := do
  let bytes ← input.read 65536
  if bytes.isEmpty then
    if line.isEmpty then return some r else r.feed c line
  else
    let mut r := r
    let mut line := line
    for b in bytes.toList do
      if b = 10 then
        match ← r.feed c line with
        | none => return none
        | some next => r := next
        line := .empty
      else line := line.push b
    r.feedAll c input line

def serve (arguments : CommandLine.Arguments) (c : Console) : IO Daemon.Ending := do
  let contents ← try
      pure (some (← IO.FS.readBinFile arguments.rules))
    catch _ => pure none
  match RulesFile.load contents with
  | .error _ => return .unloaded arguments.rules
  | .ok file =>
    match Dispatcher.new? (arguments.settings file.settings) () with
    | none => return .oversized
    | some dispatcher =>
      let daemon ← c.write (Daemon.start dispatcher file.rules arguments.rules (← now))
      let due := (← IO.monoMsNow) + dispatcher.interval
      match ← Running.feedAll c (← IO.getStdin) ⟨daemon, due⟩ .empty with
      | none => return .unreadable
      | some r =>
        let _ ← c.write (r.daemon.finish (← now))
        return .finished

/-- The variables of the environment that count. -/
def environment : IO (String → Option String) := do
  let names := Daemon.filterVariable :: CommandLine.Setting.all.map (·.variableName)
  let entries ← names.filterMapM fun name => return (← IO.getEnv name).map (name, ·)
  return fun name => entries.lookup name

end Alerting.Program

open Alerting in
def main (arguments : List String) : IO UInt32 := do
  let environment ← Program.environment
  let ending ← match CommandLine.Arguments.of arguments environment with
    | .error stop => pure (.notStarted stop)
    | .ok a => Program.serve a ⟨Daemon.filter a environment, a.json⟩
  IO.print (ending.output environment)
  if let some message := ending.message? then IO.eprintln message
  return .ofNat ending.status
