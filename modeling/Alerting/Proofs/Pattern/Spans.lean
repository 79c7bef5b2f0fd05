import Alerting.Pattern.Search
import Alerting.Proofs.Pattern.Bounds
import Mathlib.Data.Nat.Bitwise

/-!
# What a search finds

A regular expression spans a text from one place to another if it matches all that stands between
them. A search keeps the places that it spans to from any place so far, so it finds something exactly
if there are two places that it spans between.
-/

namespace Alerting.Pattern

variable {text : List Char} {R S : Nat → Nat → Prop} {f g : Nat → Nat} {length m n i j : Nat}

def charBefore (text : List Char) (i : Nat) : Option Char := (text.take i).getLast?

/-- From one place to another in `n` rounds. -/
def Rounds (R : Nat → Nat → Prop) : Nat → Nat → Nat → Prop
  | 0, i, j => i = j
  | n + 1, i, j => ∃ k, R i k ∧ Rounds R n k j

/-- The expression matches the text from the place `i` to the place `j`. -/
def Regex.Spans (text : List Char) : Regex → Nat → Nat → Prop
  | .empty, i, j => i = j
  | .chars s, i, j => j = i + 1 ∧ ∃ c, text[i]? = some c ∧ s.contains c.toNat
  | .look l, i, j => i = j ∧ i ≤ text.length ∧ l.holds (charBefore text i) text[i]?
  | .capture r, i, j => r.Spans text i j
  | .cat r₁ r₂, i, j => ∃ k, r₁.Spans text i k ∧ r₂.Spans text k j
  | .or r₁ r₂, i, j => r₁.Spans text i j ∨ r₂.Spans text i j
  | .repeated low high r, i, j =>
    ∃ n, low ≤ n ∧ (∀ h ∈ high, n ≤ h) ∧ Rounds (r.Spans text) n i j

/-! ## Rounds -/

theorem rounds_add : Rounds R (m + n) i j ↔ ∃ k, Rounds R m i k ∧ Rounds R n k j := by
  induction m generalizing i with
  | zero => simp [Rounds]
  | succ m ih =>
    rw [Nat.add_right_comm]
    simp only [Rounds, ih]
    constructor
    · rintro ⟨k, hk, l, hl, hj⟩
      exact ⟨l, ⟨k, hk, hl⟩, hj⟩
    · rintro ⟨l, ⟨k, hk, hl⟩, hj⟩
      exact ⟨k, hk, l, hl, hj⟩

theorem rounds_after (low : Nat) (P : Nat → Prop) :
    (∃ k, Rounds R low i k ∧ ∃ m, P m ∧ Rounds R m k j) ↔
      ∃ n, low ≤ n ∧ P (n - low) ∧ Rounds R n i j := by
  constructor
  · rintro ⟨k, hk, m, hm, hj⟩
    exact ⟨low + m, by omega, by rwa [Nat.add_sub_cancel_left], rounds_add.2 ⟨k, hk, hj⟩⟩
  · rintro ⟨n, hn, hm, hj⟩
    obtain ⟨m, rfl⟩ := Nat.exists_eq_add_of_le hn
    obtain ⟨k, hk, hj⟩ := rounds_add.1 hj
    exact ⟨k, hk, m, by rwa [Nat.add_sub_cancel_left] at hm, hj⟩

theorem rounds_optional : Rounds (fun i j => i = j ∨ R i j) n i j ↔ ∃ m ≤ n, Rounds R m i j := by
  induction n generalizing i with
  | zero => simp [Rounds]
  | succ n ih =>
    constructor
    · -- a round that stays is left out
      rintro ⟨k, hk, hrest⟩
      obtain ⟨m, hm, hrounds⟩ := ih.1 hrest
      rcases hk with rfl | hk
      · exact ⟨m, by omega, hrounds⟩
      · exact ⟨m + 1, by omega, k, hk, hrounds⟩
    · rintro ⟨m, hm, hrounds⟩
      cases m with
      | zero => exact ⟨i, .inl rfl, ih.2 ⟨0, by omega, hrounds⟩⟩
      | succ m =>
        obtain ⟨k, hk, hrest⟩ := hrounds
        exact ⟨k, .inr hk, ih.2 ⟨m, by omega, hrest⟩⟩

/-- A place goes to itself, or to one behind it in the text. -/
def Onward (length i j : Nat) : Prop := i = j ∨ i < j ∧ j ≤ length

theorem Onward.trans {k : Nat} (h₁ : Onward length i k) (h₂ : Onward length k j) :
    Onward length i j := by
  unfold Onward at *
  omega

theorem Rounds.onward (hR : ∀ i j, R i j → Onward length i j) (h : Rounds R n i j) :
    Onward length i j := by
  induction n generalizing i with
  | zero => exact .inl h
  | succ n ih =>
    obtain ⟨k, hk, hrest⟩ := h
    exact (hR i k hk).trans (ih hrest)

/-- Rounds that stay at a place can be left out, and each of the others moves on. -/
theorem Rounds.shorten (hR : ∀ i j, R i j → Onward length i j) (h : Rounds R n i j) :
    ∃ m ≤ j - i, Rounds R m i j := by
  induction n generalizing i with
  | zero => exact ⟨0, Nat.zero_le _, h⟩
  | succ n ih =>
    obtain ⟨k, hk, hrest⟩ := h
    obtain ⟨m, hm, hrounds⟩ := ih hrest
    rcases hR i k hk with rfl | ⟨hlt, -⟩
    · exact ⟨m, hm, hrounds⟩
    · have hkj : k ≤ j := by
        rcases hrest.onward hR with rfl | ⟨h, -⟩ <;> omega
      exact ⟨m + 1, by omega, k, hk, hrounds⟩

theorem rounds_bounded_iff (hR : ∀ i j, R i j → Onward length i j) :
    (∃ m ≤ length + 1, Rounds R m i j) ↔ ∃ m, Rounds R m i j := by
  constructor
  · rintro ⟨m, -, h⟩
    exact ⟨m, h⟩
  · rintro ⟨m, h⟩
    obtain ⟨m', hm', h'⟩ := h.shorten hR
    refine ⟨m', ?_, h'⟩
    rcases h.onward hR with rfl | ⟨-, hj⟩ <;> omega

theorem Regex.Spans.onward {r : Regex} (h : r.Spans text i j) : Onward text.length i j := by
  induction r generalizing i j with
  | empty => exact .inl h
  | chars s =>
    obtain ⟨rfl, c, hc, -⟩ := h
    have hi := (List.getElem?_eq_some_iff.1 hc).1
    exact .inr ⟨Nat.lt_succ_self i, hi⟩
  | look l => exact .inl h.1
  | capture r ih => exact ih h
  | cat r₁ r₂ ih₁ ih₂ =>
    obtain ⟨k, h₁, h₂⟩ := h
    exact (ih₁ h₁).trans (ih₂ h₂)
  | or r₁ r₂ ih₁ ih₂ =>
    rcases h with h | h
    · exact ih₁ h
    · exact ih₂ h
  | repeated low high r ih =>
    obtain ⟨n, -, -, h⟩ := h
    exact h.onward fun _ _ => ih

/-! ## Sets of places -/

theorem times_succ (f : Nat → Nat) (n places : Nat) : times f (n + 1) places = times f n (f places) := by
  simp only [times]
  split
  · -- nothing changes any more, so the rounds that are left change nothing either
    rename_i h
    rw [h]
    induction n with
    | zero => rfl
    | succ n ih => rw [times, if_pos h]
  · rfl

/-- The function takes a set of places to those that the relation reaches from it. -/
def Tracks (f : Nat → Nat) (R : Nat → Nat → Prop) : Prop :=
  ∀ places j, (f places).testBit j ↔ ∃ i, places.testBit i ∧ R i j

namespace Tracks

theorem congr (hf : Tracks f R) (h : ∀ i j, R i j ↔ S i j) : Tracks f S := by
  intro places j
  simp only [hf places j, h]

theorem stay : Tracks (fun places => places) (fun i j => i = j) := by
  intro places j
  simp

theorem comp (hf : Tracks f R) (hg : Tracks g S) :
    Tracks (fun places => g (f places)) (fun i j => ∃ k, R i k ∧ S k j) := by
  intro places j
  rw [hg]
  constructor
  · rintro ⟨k, hk, hj⟩
    obtain ⟨i, hi, hik⟩ := (hf places k).1 hk
    exact ⟨i, hi, k, hik, hj⟩
  · rintro ⟨i, hi, k, hik, hj⟩
    exact ⟨k, (hf places k).2 ⟨i, hi, hik⟩, hj⟩

theorem or (hf : Tracks f R) (hg : Tracks g S) :
    Tracks (fun places => f places ||| g places) (fun i j => R i j ∨ S i j) := by
  intro places j
  rw [Nat.testBit_or, Bool.or_eq_true, hf, hg, ← exists_or]
  simp only [and_or_left]

theorem rounds (hf : Tracks f R) (n : Nat) : Tracks (times f n) (Rounds R n) := by
  induction n with
  | zero => exact stay
  | succ n ih =>
    intro places j
    rw [times_succ]
    exact hf.comp ih places j

theorem atMost (hf : Tracks f R) (n : Nat) :
    Tracks (times (fun places => places ||| f places) n) (fun i j => ∃ m ≤ n, Rounds R m i j) :=
  ((stay.or hf).rounds n).congr fun _ _ => rounds_optional

theorem step {p : Char → Bool} {at' : Nat}
    (hat : ∀ i, at'.testBit i ↔ ∃ c, text[i]? = some c ∧ p c) :
    Tracks (fun places => (places &&& at') <<< 1)
      (fun i j => j = i + 1 ∧ ∃ c, text[i]? = some c ∧ p c) := by
  intro places j
  rw [Nat.testBit_shiftLeft, Nat.testBit_and, Bool.and_eq_true, Bool.and_eq_true, hat]
  constructor
  · rintro ⟨hj, hi, hc⟩
    have hj : 1 ≤ j := of_decide_eq_true hj
    exact ⟨j - 1, hi, by omega, hc⟩
  · rintro ⟨i, hi, rfl, hc⟩
    exact ⟨by simp, hi, hc⟩

theorem gate {p : Nat → Prop} {at' : Nat} (hat : ∀ i, at'.testBit i ↔ p i) :
    Tracks (fun places => places &&& at') (fun i j => i = j ∧ p i) := by
  intro places j
  rw [Nat.testBit_and, Bool.and_eq_true, hat]
  constructor
  · rintro ⟨hi, hp⟩
    exact ⟨j, hi, rfl, hp⟩
  · rintro ⟨i, hi, rfl, hp⟩
    exact ⟨hi, hp⟩

end Tracks

/-! ## Places by their neighbours -/

theorem testBit_single (b : Bool) (place i : Nat) :
    (if b then 1 <<< place else 0).testBit i ↔ b ∧ place = i := by
  cases b with
  | false => simp
  | true => simp [Nat.one_shiftLeft, Nat.testBit_two_pow]

@[simp]
theorem charBefore_append (pre cs : List Char) : charBefore (pre ++ cs) pre.length = pre.getLast? := by
  rw [charBefore, List.take_left]

@[simp]
theorem charBefore_length (text : List Char) : charBefore text text.length = text.getLast? := by
  rw [charBefore, List.take_length]

theorem testBit_placesWhere_append (p : Option Char → Option Char → Bool) (pre cs : List Char) (i : Nat) :
    (placesWhere p pre.length pre.getLast? cs).testBit i ↔
      pre.length ≤ i ∧ i ≤ (pre ++ cs).length ∧ p (charBefore (pre ++ cs) i) (pre ++ cs)[i]? := by
  -- what was passed goes over to the front, one character at a time
  induction cs generalizing pre with
  | nil =>
    rw [placesWhere, testBit_single, List.append_nil]
    constructor
    · rintro ⟨hp, rfl⟩
      simpa using hp
    · rintro ⟨hle, hge, hp⟩
      obtain rfl := Nat.le_antisymm hge hle
      simpa using hp
  | cons c cs ih =>
    have hrest := ih (pre ++ [c])
    rw [List.length_append, List.getLast?_concat, List.append_assoc, List.length_singleton,
      List.singleton_append] at hrest
    rw [placesWhere, Nat.testBit_or, Bool.or_eq_true, testBit_single, hrest]
    constructor
    · rintro (⟨hp, rfl⟩ | ⟨hle, hrest⟩)
      · simpa using hp
      · exact ⟨by omega, hrest⟩
    · rintro ⟨hle, hge, hp⟩
      rcases Nat.eq_or_lt_of_le hle with rfl | hlt
      · exact .inl ⟨by simpa using hp, rfl⟩
      · exact .inr ⟨hlt, hge, hp⟩

theorem testBit_placesWhere (p : Option Char → Option Char → Bool) (text : List Char) (i : Nat) :
    (placesWhere p 0 none text).testBit i ↔ i ≤ text.length ∧ p (charBefore text i) text[i]? := by
  simpa using testBit_placesWhere_append p [] text i

/-! ## The search -/

theorem tracks_follow (text : List Char) {r : Regex} (hr : r.Ordered) :
    Tracks ((r.route text).follow text.length) (r.Spans text) := by
  induction r with
  | empty => exact .stay
  | chars s =>
    refine .step fun i => ?_
    rw [testBit_placesWhere, Option.any_eq_true]
    constructor
    · exact And.right
    · intro ⟨c, hc, hs⟩
      exact ⟨(List.getElem?_eq_some_iff.1 hc).1.le, c, hc, hs⟩
  | look l => exact .gate fun i => testBit_placesWhere _ text i
  | capture r ih => exact ih hr
  | cat r₁ r₂ ih₁ ih₂ => exact (ih₁ hr.1).comp (ih₂ hr.2)
  | or r₁ r₂ ih₁ ih₂ => exact (ih₁ hr.1).or (ih₂ hr.2)
  | repeated low high r ih =>
    obtain ⟨hbounds, hr⟩ := hr
    have hleast := (ih hr).rounds low
    cases high with
    | none =>
      -- no place is new after a round for each place of the text
      refine (hleast.comp ((ih hr).atMost (text.length + 1))).congr fun i j => ?_
      simp only [rounds_bounded_iff fun _ _ => Regex.Spans.onward]
      simpa [Regex.Spans] using rounds_after low fun _ => True
    | some high =>
      have hle : low ≤ high := hbounds high rfl
      refine (hleast.comp ((ih hr).atMost (high - low))).congr fun i j => ?_
      rw [rounds_after low (· ≤ high - low)]
      refine exists_congr fun n => and_congr_right fun hn => and_congr_left' ?_
      simp
      omega

/-- **Searches.** A regular expression is found in a text exactly if it matches from one place of the
text to another. -/
theorem matchesIn_iff {r : Regex} (hr : r.Ordered) (text : List Char) :
    r.matchesIn text ↔ ∃ i j, i ≤ text.length ∧ r.Spans text i j := by
  have hall (i : Nat) : (Nat.pow 2 (text.length + 1) - 1).testBit i ↔ i ≤ text.length := by
    rw [Nat.pow_eq, Nat.testBit_two_pow_sub_one, decide_eq_true_iff, Nat.lt_succ_iff]
  rw [Regex.matchesIn, bne_iff_ne]
  constructor
  · intro h
    obtain ⟨j, hj⟩ := Nat.exists_testBit_of_ne_zero h
    obtain ⟨i, hi, hspans⟩ := (tracks_follow text hr _ j).1 hj
    exact ⟨i, j, (hall i).1 hi, hspans⟩
  · rintro ⟨i, j, hi, hspans⟩ h
    have hj := (tracks_follow text hr _ j).2 ⟨i, (hall i).2 hi, hspans⟩
    rw [h, Nat.zero_testBit] at hj
    cases hj

end Alerting.Pattern
