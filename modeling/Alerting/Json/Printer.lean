import Alerting.Json.Quoted
import Alerting.Json.Value

/-!
# Writing JSON

The compact form: no blanks, members in their order.
-/

namespace Alerting.Json

open Text

def Number.print : Number → List Char
  | .natural n => decimal n
  | .decimal negative significand exponent =>
    (if negative then ['-'] else []) ++ decimal significand ++
      'e' :: (if exponent < 0 then ['-'] else []) ++ decimal exponent.natAbs

mutual

def print : Json → List Char
  | .null => "null".toList
  | .bool true => "true".toList
  | .bool false => "false".toList
  | .number n => Number.print n
  | .text s => quote s
  | .list items => '[' :: printItems items ++ [']']
  | .object members => '\x7b' :: printMembers members ++ ['\x7d']

def printItems : List Json → List Char
  | [] => []
  | [item] => print item
  | item :: rest => print item ++ ',' :: printItems rest

def printMembers : List (String × Json) → List Char
  | [] => []
  | [(name, value)] => quote name ++ ':' :: print value
  | (name, value) :: rest => quote name ++ ':' :: print value ++ ',' :: printMembers rest

end

def compact (j : Json) : String := String.ofList j.print

end Alerting.Json
