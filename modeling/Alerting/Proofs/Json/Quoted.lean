import Alerting.Json.Quoted

/-!
# Texts in quotes, read back

What is written for a character is read as that character, and it holds no control character.
-/

namespace Alerting.Json

open Text

theorem length_le_byteLength (cs : List Char) : cs.length ≤ byteLength cs := by
  have hfold : ∀ n, n + cs.length ≤ cs.foldl (fun n c => n + c.utf8Size) n := by
    induction cs with
    | nil => exact fun n => Nat.le_refl n
    | cons c cs ih =>
      intro n
      have hsize : 0 < c.utf8Size := c.utf8Size_pos
      have hrec := ih (n + c.utf8Size)
      rw [List.foldl_cons, List.length_cons]
      omega
  have hzero := hfold 0
  rwa [Nat.zero_add] at hzero

/-! ## Control characters -/

theorem paddedHex_of_control : ∀ n < 0x20,
    paddedHex 4 n = ['0', '0', (n / 16).digitChar, (n % 16).digitChar] := by
  decide

theorem hexValue4?_of_control : ∀ n < 0x20,
    hexValue4? '0' '0' (n / 16).digitChar (n % 16).digitChar = some n := by
  decide

theorem codeUnit_paddedHex {n : Nat} (h : n < 0x20) (rest : List Char) :
    codeUnit (paddedHex 4 n ++ rest) = .ok (n, rest) := by
  have hlong : ∀ a b c d : Char, ¬byteLength (a :: b :: c :: d :: rest) < 4 := by
    intro a b c d
    have hlength := length_le_byteLength (a :: b :: c :: d :: rest)
    simp only [List.length_cons] at hlength
    omega
  rw [paddedHex_of_control n h]
  simp only [List.cons_append, List.nil_append, codeUnit, hlong, if_false,
    hexValue4?_of_control n h]

theorem hexEscape_paddedHex {c : Char} (h : c.toNat < 0x20) (rest : List Char) :
    hexEscape (paddedHex 4 c.toNat ++ rest) = .ok (c, rest) := by
  have hlow : ¬(0xDC00 ≤ c.toNat ∧ c.toNat ≤ 0xDFFF) := by omega
  have hhigh : ¬(0xD800 ≤ c.toNat ∧ c.toNat ≤ 0xDBFF) := by omega
  rw [hexEscape, codeUnit_paddedHex h]
  simp only [Except.bind, bind, hlow, hhigh, if_false, Char.ofNat_toNat]

/-! ## Characters -/

/-- The ways to write a character in quotes: with an escape of one letter, with its number, or as
it stands. -/
inductive Escaped (c : Char) : List Char → Prop
  | short {letter : Char} (hletter : shortEscape? letter = some c) (hu : letter ≠ 'u')
      (hplain : 0x20 ≤ letter.toNat) : Escaped c ['\\', letter]
  | control (h : c.toNat < 0x20) : Escaped c ('\\' :: 'u' :: paddedHex 4 c.toNat)
  | plain (hquote : c ≠ '"') (hbackslash : c ≠ '\\') (h : 0x20 ≤ c.toNat) : Escaped c [c]

theorem escaped_escape (c : Char) : Escaped c (escape c) := by
  have hshort : ∀ d letter : Char, c = d → shortEscape? letter = some d → letter ≠ 'u' →
      0x20 ≤ letter.toNat → Escaped c ['\\', letter] := by
    rintro d letter rfl hletter hu hplain
    exact .short hletter hu hplain
  unfold escape
  split
  · exact hshort _ '"' ‹_› rfl (by decide) (by decide)
  split
  · exact hshort _ '\\' ‹_› rfl (by decide) (by decide)
  split
  · exact hshort _ 'b' ‹_› rfl (by decide) (by decide)
  split
  · exact hshort _ 't' ‹_› rfl (by decide) (by decide)
  split
  · exact hshort _ 'n' ‹_› rfl (by decide) (by decide)
  split
  · exact hshort _ 'f' ‹_› rfl (by decide) (by decide)
  split
  · exact hshort _ 'r' ‹_› rfl (by decide) (by decide)
  split
  · exact .control ‹_›
  · rename_i hquote hbackslash _ _ _ _ _ hcontrol
    exact .plain hquote hbackslash (Nat.le_of_not_lt hcontrol)

theorem quotedChar_escape (c : Char) (rest : List Char) :
    quotedChar (escape c ++ rest) = .ok (some c, rest) := by
  have hwritten := escaped_escape c
  generalize escape c = written at hwritten
  cases hwritten with
  | short hletter hu _ => simp [quotedChar, escaped, hletter, hu, bind, Except.bind]
  | control h => simp [quotedChar, escaped, hexEscape_paddedHex h, bind, Except.bind]
  | plain hquote hbackslash h => simp [quotedChar, hquote, hbackslash, Nat.not_lt.2 h]

theorem not_control_of_mem_escape {c d : Char} (h : d ∈ escape c) : 0x20 ≤ d.toNat := by
  have hdigit : ∀ n < 16, 0x20 ≤ n.digitChar.toNat := by decide
  have hwritten := escaped_escape c
  generalize escape c = written at hwritten h
  cases hwritten with
  | short _ _ hplain =>
    simp only [List.mem_cons, List.not_mem_nil, or_false] at h
    rcases h with rfl | rfl
    · decide
    · exact hplain
  | control hcontrol =>
    rw [paddedHex_of_control _ hcontrol] at h
    simp only [List.mem_cons, List.not_mem_nil, or_false] at h
    rcases h with rfl | rfl | rfl | rfl | rfl | rfl
    · decide
    · decide
    · decide
    · decide
    · exact hdigit _ (by omega)
    · exact hdigit _ (by omega)
  | plain _ _ hplain =>
    rw [List.mem_singleton.1 h]
    exact hplain

/-! ## Texts -/

theorem quotedRest_escaped {cs read : List Char} {fuel : Nat} (rest : List Char)
    (hfuel : cs.length < fuel) :
    quotedRest fuel read (cs.flatMap escape ++ '"' :: rest) =
      .ok (String.ofList (read.reverse ++ cs), rest) := by
  induction cs generalizing read fuel with
  | nil =>
    obtain ⟨fuel, rfl⟩ := Nat.exists_eq_add_one.2 hfuel
    rw [List.append_nil]
    rfl
  | cons c cs ih =>
    obtain ⟨fuel, rfl⟩ := Nat.exists_eq_add_one.2 (Nat.zero_lt_of_lt hfuel)
    rw [List.flatMap_cons, List.append_assoc, quotedRest, quotedChar_escape]
    simp only [ih (Nat.lt_of_succ_lt_succ hfuel), List.reverse_cons,
      List.append_assoc, List.singleton_append]

theorem quotedRest_quote {s : String} {fuel : Nat} (rest : List Char)
    (hfuel : s.toList.length < fuel) :
    quotedRest fuel [] (s.toList.flatMap escape ++ '"' :: rest) = .ok (s, rest) := by
  rw [quotedRest_escaped rest hfuel, List.reverse_nil, List.nil_append, String.ofList_toList]

theorem not_control_of_mem_quote {s : String} {d : Char} (h : d ∈ quote s) : 0x20 ≤ d.toNat := by
  simp only [quote, List.cons_append, List.mem_cons, List.mem_append, List.mem_flatMap,
    List.not_mem_nil, or_false] at h
  rcases h with rfl | ⟨c, -, hd⟩ | rfl
  · decide
  · exact not_control_of_mem_escape hd
  · decide

end Alerting.Json
