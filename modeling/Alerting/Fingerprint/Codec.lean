import Alerting.Digest.Sha256
import Alerting.Json.Shape.Reader
import Alerting.Text.Basic
import Alerting.TextMap

/-!
# Fingerprints

A fingerprint is the grouping key of a set of labels: the first eight bytes of the SHA-256 digest of
the labels written one after another, each name and each value closed by the byte 0xFF. That byte
occurs in no UTF-8 text, so different label sets are written differently. As JSON it is a natural
number below 2^64.
-/

namespace Alerting

/-- The grouping key of a set of labels. -/
structure Fingerprint where
  value : UInt64
  deriving DecidableEq

namespace Fingerprint

/-- The byte that closes each name and each value. -/
def terminator : UInt8 := 0xFF

/-- The bytes of a text and the byte that closes it. -/
def closed (s : String) : List UInt8 := Text.bytes s.toList ++ [terminator]

/-- What is hashed for a set of labels: name and value of each label, in the order of the names. -/
def preimage (labels : TextMap) : List UInt8 :=
  labels.entries.flatMap fun e => closed e.1 ++ closed e.2

/-- The number that the first eight of `bytes` write, highest first. -/
def ofBytes (bytes : List UInt8) : Fingerprint :=
  ⟨(bytes.take 8).foldl (fun n b => (n <<< 8) ||| b.toUInt64) 0⟩

def ofLabels (labels : TextMap) : Fingerprint := ofBytes (Sha256.digest (preimage labels))

/-- Sixteen hexadecimal digits. -/
def hex (f : Fingerprint) : String := String.ofList (Text.paddedHex 16 f.value.toNat)

end Fingerprint

end Alerting

namespace Alerting.Fingerprint

/-! ## As JSON -/

def toJson (f : Fingerprint) : Json := .natural f.value.toNat

def ofNat (n : Nat) : Fingerprint := ⟨UInt64.ofNat n⟩

def ofString (text : String) : Except Json.Fault Fingerprint :=
  (Json.Shape.natural.ofString text).map fun j => ofNat (j.natural?.getD 0)

end Alerting.Fingerprint
