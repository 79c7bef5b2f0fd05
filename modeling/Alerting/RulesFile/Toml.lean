import Alerting.RulesFile.Basic
import Alerting.Toml.Parser

/-!
# Rules files as TOML

A rules file is a TOML document in UTF-8. Items of a list beyond the fields of a record are ignored.
-/

namespace Alerting.RulesFile

inductive Refusal where
  | missing
  /-- The file is not UTF-8. -/
  | notText
  /-- The text is no document, or not the document of a rules file; the reason is told where there
  is more to say. -/
  | malformed (reason : Option String)
  deriving DecidableEq

/-- The rules file that a document writes. -/
def ofToml (cs : List Char) : Except Refusal RulesFile :=
  match Toml.Value.ofChars? cs with
  | none => .error (.malformed none)
  | some document =>
    match shape.fit .ignored document.toJson with
    | .error e => .error (.malformed e.reason)
    | .ok fitted => .ok (ofJson fitted)

/-- The rules file of a file with these bytes, or of no file. -/
def load : Option ByteArray → Except Refusal RulesFile
  | none => .error .missing
  | some contents =>
    match String.fromUTF8? contents with
    | none => .error .notText
    | some text => ofToml text.toList

end Alerting.RulesFile
