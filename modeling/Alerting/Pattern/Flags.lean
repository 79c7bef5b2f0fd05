/-!
# Flags

What the letters of a flag group such as `(?i-u)` switch on and off.
-/

namespace Alerting.Pattern

/-- A flag, by what it is written for. -/
inductive Flag where
  | ignoreCase
  | multiLine
  | dotAll
  | swapGreed
  | unicode
  | crlf
  | verbose
  deriving DecidableEq

def Flag.ofChar? (c : Char) : Option Flag :=
  if c = 'i' then some .ignoreCase
  else if c = 'm' then some .multiLine
  else if c = 's' then some .dotAll
  else if c = 'U' then some .swapGreed
  else if c = 'u' then some .unicode
  else if c = 'R' then some .crlf
  else if c = 'x' then some .verbose
  else none

/-- The flags that a group switches on, and those that it switches off. -/
structure FlagChange where
  on : List Flag
  off : List Flag
  deriving DecidableEq

namespace FlagChange

def keep : FlagChange := ⟨[], []⟩

def apply (f : FlagChange) (flag : Flag) (before : Bool) : Bool :=
  if flag ∈ f.on then true else if flag ∈ f.off then false else before

end FlagChange

/-- The flags that bear on what an expression matches. -/
structure Flags where
  ignoreCase : Bool := false
  multiLine : Bool := false
  dotAll : Bool := false
  unicode : Bool := true
  crlf : Bool := false
  deriving DecidableEq

def Flags.change (flags : Flags) (f : FlagChange) : Flags :=
  { ignoreCase := f.apply .ignoreCase flags.ignoreCase
    multiLine := f.apply .multiLine flags.multiLine
    dotAll := f.apply .dotAll flags.dotAll
    unicode := f.apply .unicode flags.unicode
    crlf := f.apply .crlf flags.crlf }

end Alerting.Pattern
