import Alerting.RulesFile.Basic
import Alerting.Text.Basic

/-!
# The command line

Settings take a value, as the next argument or behind an equals sign; switches take none. Arguments
are read from left to right. A value that is an argument of its own is looked at when the next
setting or switch comes, or at the end, so a fault further on can be noticed before it. A setting
that is not given is taken from the environment.
-/

namespace Alerting.CommandLine

open Text

/-- What takes a value. -/
inductive Setting where
  | rules
  | sweepInterval
  | evictionGrace
  deriving DecidableEq

/-- What takes none. -/
inductive Switch where
  | json
  | verbose
  | help
  | version
  deriving DecidableEq

namespace Setting

/-- The settings in the order in which the environment is consulted. -/
def all : List Setting := [.rules, .sweepInterval, .evictionGrace]

def name : Setting → String
  | .rules => "rules"
  | .sweepInterval => "sweep-interval-secs"
  | .evictionGrace => "eviction-grace-secs"

/-- What stands for the value in messages. -/
def valueName : Setting → String
  | .rules => "RULES"
  | .sweepInterval => "SWEEP_INTERVAL_SECS"
  | .evictionGrace => "EVICTION_GRACE_SECS"

def variableName : Setting → String
  | .rules => "ALERTAGG_RULES"
  | .sweepInterval => "ALERTAGG_SWEEP_INTERVAL_SECS"
  | .evictionGrace => "ALERTAGG_EVICTION_GRACE_SECS"

/-- A setting with its value, as messages show it. -/
def shown (s : Setting) : String := "--" ++ s.name ++ " <" ++ s.valueName ++ ">"

end Setting

namespace Switch

def name : Switch → String
  | .json => "json"
  | .verbose => "verbose"
  | .help => "help"
  | .version => "version"

def letter? : Switch → Option Char
  | .json => none
  | .verbose => some 'v'
  | .help => some 'h'
  | .version => some 'V'

def all : List Switch := [.json, .verbose, .help, .version]

def shown (s : Switch) : String := "--" ++ s.name

end Switch

/-! ## Refusals -/

inductive NumberFault where
  | empty
  | notDigit
  | tooLarge
  deriving DecidableEq

def NumberFault.describe : NumberFault → String
  | .empty => "cannot parse integer from empty string"
  | .notDigit => "invalid digit found in string"
  | .tooLarge => "number too large to fit in target type"

inductive Misuse where
  | unknown (argument : String)
  | surplusValue (switch : Switch) (value : String)
  | repeated (shown : String)
  | missingValue (setting : Setting)
  | notNumber (setting : Setting) (value : String) (fault : NumberFault)
  | missingRules
  deriving DecidableEq

def Misuse.describe : Misuse → String
  | .unknown argument => "unexpected argument '" ++ argument ++ "' found"
  | .surplusValue switch value =>
    "unexpected value '" ++ value ++ "' for '" ++ switch.shown ++ "' found; no more were expected"
  | .repeated shown => "the argument '" ++ shown ++ "' cannot be used multiple times"
  | .missingValue setting =>
    "a value is required for '" ++ setting.shown ++ "' but none was supplied"
  | .notNumber setting value fault =>
    "invalid value '" ++ value ++ "' for '" ++ setting.shown ++ "': " ++ fault.describe
  | .missingRules => "the following required arguments were not provided:"

/-- Why the program does not start. -/
inductive Stop where
  | help
  | version
  | misuse (m : Misuse)
  deriving DecidableEq

/-! ## Reading -/

/-- Adds the digits of a number below 2^64 to `n`. The first character that does not fit counts. -/
def wordFrom (n : Nat) : List Char → Except NumberFault UInt64
  | [] => .ok (.ofNat n)
  | c :: cs =>
    if ¬c.isDigit then .error .notDigit
    else if Nat.pow 2 64 ≤ 10 * n + digitValue c then .error .tooLarge
    else wordFrom (10 * n + digitValue c) cs

/-- The number below 2^64 that a text writes, with a plus sign or without. -/
def wordOf (s : String) : Except NumberFault UInt64 :=
  match s.toList with
  | [] => .error .empty
  | ['+'] => .error .notDigit
  | '+' :: cs => wordFrom 0 cs
  | cs => wordFrom 0 cs

/-- What has been given so far. -/
structure Given where
  rules : Option String := none
  sweepInterval : Option UInt64 := none
  evictionGrace : Option UInt64 := none
  json : Bool := false
  verbose : Bool := false
  /-- A setting whose value was not looked at yet, with the value if it has come. -/
  pending : Option (Setting × Option String) := none
  deriving DecidableEq

namespace Given

def has (g : Given) : Setting → Bool
  | .rules => g.rules.isSome
  | .sweepInterval => g.sweepInterval.isSome
  | .evictionGrace => g.evictionGrace.isSome

def put (g : Given) (s : Setting) (value : String) : Except Stop Given :=
  let number (set : UInt64 → Given) : Except Stop Given :=
    match wordOf value with
    | .ok n => .ok (set n)
    | .error fault => .error (.misuse (.notNumber s value fault))
  if g.has s then .error (.misuse (.repeated s.shown))
  else
    match s with
    | .rules =>
      if value = "" then .error (.misuse (.missingValue s)) else .ok { g with rules := some value }
    | .sweepInterval => number fun n => { g with sweepInterval := some n }
    | .evictionGrace => number fun n => { g with evictionGrace := some n }

/-- Looks at the value that was put off. -/
def settle (g : Given) : Except Stop Given :=
  match g.pending with
  | none => .ok g
  | some (s, none) => .error (.misuse (.missingValue s))
  | some (s, some value) => { g with pending := none }.put s value

def turnOn (g : Given) (s : Switch) : Except Stop Given := do
  let g ← g.settle
  match s with
  | .json => if g.json then .error (.misuse (.repeated s.shown)) else .ok { g with json := true }
  | .verbose =>
    if g.verbose then .error (.misuse (.repeated s.shown)) else .ok { g with verbose := true }
  | .help => .error .help
  | .version => .error .version

/-- Reads an argument after its two hyphens. -/
def readName (g : Given) (cs : List Char) : Except Stop Given :=
  let name := String.ofList (cs.takeWhile (· ≠ '='))
  let value := match cs.dropWhile (· ≠ '=') with
    | _ :: rest => some (String.ofList rest)
    | [] => none
  match Setting.all.find? fun s => s.name = name, Switch.all.find? fun s => s.name = name with
  | some s, _ => do
    let g ← g.settle
    match value with
    | some value => g.put s value
    | none => .ok { g with pending := some (s, none) }
  | none, some s =>
    match value with
    | some value => .error (.misuse (.surplusValue s value))
    | none => g.turnOn s
  | none, none => .error (.misuse (.unknown ("--" ++ name)))

/-- Reads the letters of an argument after its hyphen. -/
def readLetters (g : Given) : List Char → Except Stop Given
  | [] => .ok g
  | c :: cs =>
    match Switch.all.find? fun s => s.letter? = some c with
    | some s => do readLetters (← g.turnOn s) cs
    | none => .error (.misuse (.unknown (String.ofList ['-', c])))

/-- Reads an argument that is neither a setting nor a switch: it can only be a value. -/
def readValue (g : Given) (value : String) : Except Stop Given :=
  match g.pending with
  | some (s, none) => .ok { g with pending := some (s, some value) }
  | _ => .error (.misuse (.unknown value))

/-- Reads the arguments. After two hyphens alone nothing may follow. -/
def read (g : Given) : List String → Except Stop Given
  | [] => g.settle
  | argument :: rest =>
    match argument.toList with
    | ['-', '-'] =>
      match rest with
      | [] => g.settle
      | next :: _ => .error (.misuse (.unknown next))
    | '-' :: '-' :: cs => do read (← g.readName cs) rest
    | '-' :: c :: cs => do read (← g.readLetters (c :: cs)) rest
    | _ => do read (← g.readValue argument) rest

/-- Takes a setting from the environment, unless it was given. -/
def consult (environment : String → Option String) (g : Given) (s : Setting) :
    Except Stop Given :=
  if g.has s then .ok g
  else
    match environment s.variableName with
    | none => .ok g
    | some value => g.put s value

end Given

/-- What the program is asked to do. -/
structure Arguments where
  rules : String
  /-- The log is written as JSON. -/
  json : Bool := false
  /-- The log tells more. -/
  verbose : Bool := false
  /-- Seconds between two sweeps, in place of the rules file's. -/
  sweepInterval : Option UInt64 := none
  /-- Seconds of grace, in place of the rules file's. -/
  evictionGrace : Option UInt64 := none
  deriving DecidableEq

namespace Arguments

/-- What the arguments and the environment ask for. -/
def of (arguments : List String) (environment : String → Option String) :
    Except Stop Arguments := do
  let g ← Given.read {} arguments
  let g ← Setting.all.foldlM (Given.consult environment) g
  match g.rules with
  | none => .error (.misuse .missingRules)
  | some rules =>
    .ok
      { rules := rules
        json := g.json
        verbose := g.verbose
        sweepInterval := g.sweepInterval
        evictionGrace := g.evictionGrace }

/-- The settings of the rules file, but for those that are given in their place. -/
def settings (a : Arguments) (file : Settings) : Settings :=
  { file with
    sweepInterval := a.sweepInterval.getD file.sweepInterval
    evictionGrace := a.evictionGrace.getD file.evictionGrace }

end Arguments

end Alerting.CommandLine
