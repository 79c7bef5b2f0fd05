import Alerting.Text.Basic

/-!
# Blanks, digits and bytes

A text is trimmed already if its first character and its last one are no blanks. Decimal digits write
the number that they are read as, with or without zeros in front. A text is known by its bytes, and
most bytes tell what stands there: those of an ASCII character occur in no other one, and the highest
ones occur in no text at all.
-/

namespace Alerting.Text

/-! ## Trimming -/

theorem isBlank_of_isDigit {c : Char} (h : c.isDigit = true) : isBlank c = false := by
  have hbounds : 48 ≤ c.toNat ∧ c.toNat ≤ 57 := by
    simpa [Char.isDigit, UInt32.le_iff_toNat_le] using h
  simp only [isBlank, Bool.or_eq_false_iff, Bool.and_eq_false_iff, decide_eq_false_iff_not,
    beq_eq_false_iff_ne]
  omega

theorem trimFront_cons {c : Char} (cs : List Char) (h : isBlank c = false) :
    trimFront (c :: cs) = c :: cs := by
  rw [trimFront, List.dropWhile_cons_of_neg (by simp [h])]

theorem trim_eq_self {first last : Char} {cs inner before : List Char} (hfirst : cs = first :: inner)
    (hlast : cs = before ++ [last]) (hblank : isBlank first = false) (hblank' : isBlank last = false) :
    trim cs = cs := by
  have hfront : trimFront cs = cs := by rw [hfirst, trimFront_cons _ hblank]
  have hback : cs.reverse = last :: before.reverse := by rw [hlast, List.reverse_concat]
  rw [trim, hfront, hback, trimFront_cons _ hblank', ← hback, List.reverse_reverse]

/-! ## Digits -/

theorem digitsValue_eq_ofDigitChars (cs : List Char) :
    digitsValue cs = Nat.ofDigitChars 10 cs 0 := rfl

theorem digitsValue_decimal (n : Nat) : digitsValue (decimal n) = n := by
  rw [digitsValue_eq_ofDigitChars, decimal, Nat.ofDigitChars_ten_toDigits]

theorem isDigit_of_mem_decimal {n : Nat} {c : Char} (h : c ∈ decimal n) : c.isDigit = true :=
  Nat.isDigit_of_mem_toDigits (by decide) (by decide) h

theorem decimal_ne_nil (n : Nat) : decimal n ≠ [] := Nat.toDigits_ne_nil

theorem decimal_eq_cons (n : Nat) : ∃ d digits, decimal n = d :: digits ∧ d.isDigit = true := by
  obtain ⟨d, digits, hd⟩ := List.exists_cons_of_ne_nil (decimal_ne_nil n)
  exact ⟨d, digits, hd, isDigit_of_mem_decimal (hd ▸ List.mem_cons_self)⟩

theorem head?_decimal_ne_zero {n : Nat} (h : n ≠ 0) : (decimal n).head? ≠ some '0' := by
  induction n using Nat.strongRecOn with
  | ind n ih =>
    unfold decimal at ih ⊢
    rw [Nat.toDigits_eq_if (by decide)]
    split
    · simpa using h
    · rename_i hlarge
      rw [List.head?_append, Option.or_of_isSome (List.isSome_head?.2 Nat.toDigits_ne_nil)]
      exact ih (n / 10) (by omega) (by omega)

/-! ## Zeros in front -/

theorem isDigit_of_mem_paddedDecimal {width n : Nat} {c : Char} (h : c ∈ paddedDecimal width n) :
    c.isDigit = true := by
  rcases List.mem_append.1 h with h | h
  · rw [List.eq_of_mem_replicate h]
    rfl
  · exact isDigit_of_mem_decimal h

theorem digitsValue_paddedDecimal (width n : Nat) : digitsValue (paddedDecimal width n) = n := by
  rw [digitsValue_eq_ofDigitChars, paddedDecimal, Nat.ofDigitChars_append,
    Nat.ofDigitChars_replicate_zero, Nat.mul_zero, decimal, Nat.ofDigitChars_ten_toDigits]

theorem length_paddedDecimal {width n : Nat} (hwidth : 0 < width) (hn : n < Nat.pow 10 width) :
    (paddedDecimal width n).length = width := by
  have hlength : (decimal n).length ≤ width := (Nat.length_toDigits_le_iff (by decide) hwidth).2 hn
  rw [paddedDecimal, List.length_append, List.length_replicate, Nat.sub_add_cancel hlength]

theorem paddedDecimal_ne_nil (width n : Nat) : paddedDecimal width n ≠ [] :=
  List.append_ne_nil_of_right_ne_nil _ (decimal_ne_nil n)

/-! ## UTF-8 -/

theorem bytes_cons (c : Char) (cs : List Char) :
    bytes (c :: cs) = String.utf8EncodeChar c ++ bytes cs :=
  List.flatMap_cons

theorem bytes_eq_toUTF8 (text : String) : bytes text.toList = text.toUTF8.data.toList := by
  rw [String.toUTF8_eq_toByteArray, ← String.utf8Encode_toList, List.utf8Encode,
    List.toList_data_toByteArray, bytes]

theorem fromUTF8?_bytes (cs : List Char) :
    String.fromUTF8? ⟨(bytes cs).toArray⟩ = some (String.ofList cs) := by
  have hbytes : (⟨(bytes cs).toArray⟩ : ByteArray) = (String.ofList cs).toByteArray := by
    rw [String.toByteArray_ofList, List.utf8Encode, ← List.data_toByteArray]
    rfl
  unfold String.fromUTF8?
  rw [hbytes, dif_pos (String.ofList cs).isValidUTF8]
  rfl

theorem bytes_injective {cs cs' : List Char} (h : bytes cs = bytes cs') : cs = cs' := by
  have htext := fromUTF8?_bytes cs
  rw [h, fromUTF8?_bytes] at htext
  exact (String.ofList_injective (Option.some.inj htext)).symm

/-- An ASCII character is its own byte, and the bytes of any other one lie between 128 and 247. -/
theorem toNat_of_mem_utf8EncodeChar {b : UInt8} {c : Char} (h : b ∈ String.utf8EncodeChar c) :
    b.toNat = c.val.toNat ∧ b.toNat < 128 ∨ 128 ≤ b.toNat ∧ b.toNat < 248 := by
  simp only [String.utf8EncodeChar] at h
  split at h
  · rw [List.mem_singleton.1 h, UInt8.toNat_ofNat']
    omega
  split at h
  · simp only [List.mem_cons, List.not_mem_nil, or_false] at h
    rcases h with rfl | rfl <;> rw [UInt8.toNat_ofNat'] <;> omega
  split at h
  · simp only [List.mem_cons, List.not_mem_nil, or_false] at h
    rcases h with rfl | rfl | rfl <;> rw [UInt8.toNat_ofNat'] <;> omega
  · simp only [List.mem_cons, List.not_mem_nil, or_false] at h
    rcases h with rfl | rfl | rfl | rfl <;> rw [UInt8.toNat_ofNat'] <;> omega

end Alerting.Text
