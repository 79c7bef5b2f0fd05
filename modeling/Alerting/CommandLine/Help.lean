import Alerting.CommandLine.Basic

/-!
# Help

What is shown when help or the version is asked for. Every line below an argument is indented by ten
blanks and broken so that a whole line has no more than a hundred characters.
-/

namespace Alerting.CommandLine

def version : String := "0.1.0"

def versionText : String := "alertaggd " ++ version ++ "\n"

def Setting.about : Setting → String
  | .rules => "Rules file (TOML)"
  | .sweepInterval => "Override the sweep interval from the rules file"
  | .evictionGrace => "Override the eviction grace period from the rules file"

def Switch.about : Switch → String
  | .json => "Emit JSON-formatted log lines"
  | .verbose => "Enable verbose output"
  | .help => "Print help"
  | .version => "Print version"

/-- A word and the blanks behind it. -/
structure Word where
  letters : List Char
  blanks : Nat

/-- The words of a text. Blanks in front are a word without letters. -/
def Word.ofChars : List Char → List Word
  | [] => []
  | ' ' :: cs =>
    match ofChars cs with
    | ⟨[], n⟩ :: rest => ⟨[], n + 1⟩ :: rest
    | rest => ⟨[], 1⟩ :: rest
  | c :: cs =>
    match ofChars cs with
    | ⟨letters, n⟩ :: rest => ⟨c :: letters, n⟩ :: rest
    | [] => [⟨[c], 0⟩]

/-- Breaks words into lines of at most `width` characters; the `gap` blanks at the end of a line are
dropped. -/
def breakLines (width : Nat) (line : List Char) (gap : Nat) : List Word → List (List Char)
  | [] => [line]
  | w :: rest =>
    if line.length + gap + w.letters.length ≤ width ∨ line.isEmpty then
      breakLines width (line ++ List.replicate gap ' ' ++ w.letters) w.blanks rest
    else line :: breakLines width w.letters w.blanks rest

def entryLines (heading : String) (about : String) : List String :=
  heading :: (breakLines 90 [] 0 (Word.ofChars about.toList)).map fun line =>
    String.ofList (List.replicate 10 ' ' ++ line)

/-- The lines of a setting, with its variable and what that holds. -/
def settingLines (environment : String → Option String) (s : Setting) : List String :=
  let value := (environment s.variableName).getD ""
  entryLines ("      " ++ s.shown) (s.about ++ " [env: " ++ s.variableName ++ "=" ++ value ++ "]")

def switchLines (s : Switch) : List String :=
  let letter := match s.letter? with
    | some c => String.ofList ['-', c, ',', ' ']
    | none => "    "
  entryLines ("  " ++ letter ++ s.shown) s.about

def helpText (environment : String → Option String) : String :=
  let lines :=
    ["Aggregate newline-delimited JSON events into notifications", "",
     "Usage: alertaggd [OPTIONS] --rules <RULES>", "", "Options:"] ++
    settingLines environment .rules ++ switchLines .json ++ switchLines .verbose ++
    settingLines environment .sweepInterval ++ settingLines environment .evictionGrace ++
    switchLines .help ++ switchLines .version
  String.join (lines.map (· ++ "\n"))

end Alerting.CommandLine
