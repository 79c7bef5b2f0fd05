import Alerting.Proofs.Pattern.Anchored
import Alerting.Proofs.Pattern.Spans

/-!
# Patterns and whole texts

What the frame `^(?:` … `)$` finds spans the whole text. Its anchors stand outside the group of the
pattern, so neither the alternatives nor the flags of the pattern reach them, and what stands in the
group is what the pattern writes by itself.
-/

namespace Alerting.Pattern

variable {text : List Char} {pattern : String} {i j : Nat}

/-- The pattern, by itself, matches the text from its first place to its last. -/
def MatchesWhole (pattern value : String) : Prop :=
  ∃ r, Regex.ofChars pattern.toList = .ok r ∧ r.Spans value.toList 0 value.toList.length

/-- The expression within the frame. -/
def Expr.anchored (e : Expr) : Expr :=
  .cat (.anchor .lineStart) (.cat (.group .keep false e) (.anchor .lineEnd))

/-- The expression between the ends of a text. -/
def Regex.anchored (r : Regex) : Regex := .cat (.look .textStart) (.cat r (.look .textEnd))

/-! ## The ends of a text -/

theorem charBefore_eq_none_iff (hi : i ≤ text.length) : charBefore text i = none ↔ i = 0 := by
  rw [charBefore, List.getLast?_eq_none_iff, List.take_eq_nil_iff]
  constructor
  · rintro (rfl | rfl)
    · rfl
    · exact Nat.le_zero.1 hi
  · exact .inl

theorem spans_textStart_iff : (Regex.look .textStart).Spans text i j ↔ i = 0 ∧ j = 0 := by
  simp only [Regex.Spans, Look.holds, Option.isNone_iff_eq_none]
  constructor
  · rintro ⟨rfl, hi, hbefore⟩
    obtain rfl := (charBefore_eq_none_iff hi).1 hbefore
    exact ⟨rfl, rfl⟩
  · rintro ⟨rfl, rfl⟩
    exact ⟨rfl, Nat.zero_le _, rfl⟩

theorem spans_textEnd_iff :
    (Regex.look .textEnd).Spans text i j ↔ i = text.length ∧ j = text.length := by
  simp only [Regex.Spans, Look.holds, Option.isNone_iff_eq_none, List.getElem?_eq_none_iff]
  omega

theorem spans_anchored_iff {r : Regex} :
    r.anchored.Spans text i j ↔ i = 0 ∧ j = text.length ∧ r.Spans text 0 text.length := by
  constructor
  · rintro ⟨k, hstart, l, hspans, hend⟩
    obtain ⟨rfl, rfl⟩ := spans_textStart_iff.1 hstart
    obtain ⟨rfl, rfl⟩ := spans_textEnd_iff.1 hend
    exact ⟨rfl, rfl, hspans⟩
  · rintro ⟨rfl, rfl, hspans⟩
    exact ⟨0, spans_textStart_iff.2 ⟨rfl, rfl⟩, _, hspans, spans_textEnd_iff.2 ⟨rfl, rfl⟩⟩

/-! ## The frame around a pattern -/

theorem depth_le_anchored (e : Expr) : e.depth ≤ e.anchored.depth := by
  simp [Expr.anchored, Expr.depth, Expr.isCat]
  omega

theorem settle?_anchored (e : Expr) :
    e.anchored.settle? {} = (e.settle? {}).map fun s => (s.1.anchored, {}) := by
  cases h : e.settle? {} with
  | none => simp [Expr.anchored, Expr.settle?, Flags.change_keep, h]
  | some s => simp [Expr.anchored, Expr.settle?, Flags.change_keep, h, Anchor.settle, Regex.anchored]

theorem size_le_anchored (r : Regex) (backwards : Bool) :
    r.size backwards ≤ r.anchored.size backwards := by
  simp only [Regex.anchored, Regex.size]
  omega

theorem groupRest?_framed (fuel : Nat) (names : List (List Char)) (e : Expr) :
    groupRest? (fuel + 2) ⟨false, names⟩ (framed e) ['$'] =
      some ((e.anchored, ⟨false, names⟩), []) :=
  rfl

theorem reading?_anchored {e e' : Expr} {mode mode' : Mode}
    (hbody : reading? pattern.toList = some ((e, mode), []))
    (h : reading? (anchored pattern) = some ((e', mode'), [])) : e' = e.anchored := by
  have hanchored : anchored pattern = "^(?:".toList ++ (pattern.toList ++ ")$".toList) :=
    List.append_assoc _ _ _
  rw [hanchored, reading?_framed] at h
  obtain ⟨⟨⟨e'', mode''⟩, rest⟩, hlong, h⟩ := Option.bind_eq_some_iff.1 h
  obtain ⟨behind, hclosed, h⟩ := Option.bind_eq_some_iff.1 h
  have hagrees : Agrees ")$".toList ")$".toList.length (reading? pattern.toList)
      (reading? (pattern.toList ++ ")$".toList)) :=
    agrees_groupRest? .frame ⟨false, []⟩ .start (Nat.lt_succ_self _) (Nat.lt_succ_self _)
  rw [hbody, hlong] at hagrees
  rcases hagrees with ⟨a, r, h₁, h₂⟩ | ⟨a, h₁, h₂⟩ | ⟨h₁, -⟩
  · obtain ⟨rfl, rfl⟩ := Prod.mk.inj (Option.some.inj h₁)
    obtain ⟨heq, rfl⟩ := Prod.mk.inj (Option.some.inj h₂)
    obtain ⟨rfl, rfl⟩ := Prod.mk.inj heq
    obtain rfl : ['$'] = behind := Option.some.inj hclosed
    rw [groupRest?_framed] at h
    exact (Prod.mk.inj (Prod.mk.inj (Option.some.inj h)).1).1.symm
  · -- a comment swallows the end of the frame, and nothing is left to close its group
    cases h₂
    cases hclosed
  · cases h₁

/-- A pattern that stays a regular expression between its anchors comes to the same there. -/
theorem ofPattern_anchored {r' : Regex} (hpattern : IsRegex pattern.toList)
    (h : Regex.ofPattern pattern = .ok r') :
    ∃ r, Regex.ofChars pattern.toList = .ok r ∧ r' = r.anchored := by
  obtain ⟨e', flags, he', hsettle, hsize⟩ := Regex.ofChars_eq_ok_iff.1 h
  obtain ⟨⟨mode', hreading⟩, hdepth⟩ := Expr.ofChars?_eq_some_iff.1 he'
  obtain ⟨names, hfront⟩ := isRegex_iff.1 hpattern
  obtain ⟨e, mode, hbody, -⟩ := front?_eq_some_iff.1 hfront
  obtain rfl := reading?_anchored hbody hreading
  rw [settle?_anchored] at hsettle
  obtain ⟨⟨r, flags'⟩, hgroup, heq⟩ := Option.map_eq_some_iff.1 hsettle
  obtain ⟨rfl, -⟩ := Prod.mk.inj heq
  have he : Expr.ofChars? pattern.toList = some e :=
    Expr.ofChars?_eq_some_iff.2 ⟨⟨mode, hbody⟩, (depth_le_anchored e).trans hdepth⟩
  have hr : ¬r.IsTooLarge := fun hlarge =>
    hsize (hlarge.imp (·.trans_le (size_le_anchored r false)) (·.trans_le (size_le_anchored r true)))
  exact ⟨r, Regex.ofChars_eq_ok_iff.2 ⟨e, flags', he, hgroup, hr⟩, rfl⟩

/-- **Whole texts.** An accepted pattern is found between its anchors in the texts that it matches
as a whole by itself. -/
theorem matchesIn_iff_matchesWhole {r : Regex} (hpattern : IsRegex pattern.toList)
    (h : Regex.ofPattern pattern = .ok r) (value : String) :
    r.matchesIn value.toList ↔ MatchesWhole pattern value := by
  rw [matchesIn_iff (ofChars_ordered h)]
  obtain ⟨r, hr, rfl⟩ := ofPattern_anchored hpattern h
  simp only [spans_anchored_iff]
  constructor
  · rintro ⟨i, j, -, -, -, hspans⟩
    exact ⟨r, hr, hspans⟩
  · rintro ⟨r', hr', hspans⟩
    obtain rfl := Except.ok.inj (hr.symm.trans hr')
    exact ⟨0, _, Nat.zero_le _, rfl, rfl, hspans⟩

end Alerting.Pattern
