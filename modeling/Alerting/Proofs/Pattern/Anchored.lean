import Alerting.Pattern.Compiled
import Alerting.Proofs.Pattern.Names
import Alerting.Proofs.Pattern.Settling
import Alerting.Rule.Filter

/-!
# Patterns between their anchors

The frame `^(?:` … `)$` is put around a pattern as text. A pattern that is a regular expression
stays one unless it ends within a comment, which then swallows the end of the frame, or nests so
deep that the frame is too much. A pattern that is none becomes one if it closes the group of the
frame too early and goes on with what the frame then closes, where no name may come again. A filter
is refused as malformed exactly in the other cases.
-/

namespace Alerting

namespace Pattern

variable {t u cs : List Char}

/-- The regular expression that a text starts with: the names of its groups, and what stands behind
it. -/
def front? (cs : List Char) : Option (List (List Char) × List Char) :=
  (reading? cs).bind fun r => (r.1.1.settle? {}).map fun _ => (r.1.2.names, r.2)

/-- The text is a regular expression: nothing is left behind the one that it starts with. -/
def IsRegex (cs : List Char) : Prop := (front? cs).map (·.2) = some []

instance : DecidablePred IsRegex := fun _ => inferInstanceAs (Decidable (_ = some []))

/-- A comment at the end of the regular expression swallows what is put behind it. -/
def EndsInComment (cs : List Char) : Prop := IsRegex cs ∧ IsRegex (cs ++ ")$".toList)

/-- Behind a parenthesis that closes nothing stands what would make a regular expression with the
end of the frame. -/
def ClosesEarly (cs : List Char) : Prop :=
  ∃ names behind names', front? cs = some (names, ')' :: behind) ∧
    front? ("(?:)".toList ++ (behind ++ ")$".toList)) = some (names', []) ∧
    ∀ name ∈ names', name ∉ names

def NestsTooDeep (pattern : String) : Prop :=
  ∃ e mode, reading? (anchored pattern) = some ((e, mode), []) ∧ depthLimit < e.depth

/-! ## Fronts -/

theorem groupRest?_fuel {fuel₁ fuel₂ : Nat} (mode : Mode) (pending : Pending)
    (h₁ : cs.length < fuel₁) (h₂ : cs.length < fuel₂) :
    groupRest? fuel₁ mode pending cs = groupRest? fuel₂ mode pending cs := by
  have h := agrees_groupRest? .nothing mode pending h₁ ((List.append_nil cs).symm ▸ h₂)
  rw [List.append_nil] at h
  rcases h with ⟨a, r, h₁, h₂⟩ | ⟨a, h₁, h₂⟩ | ⟨h₁, hlong⟩
  · rw [h₁, h₂, List.append_nil]
  · rw [h₁, h₂]
  · rw [h₁]
    refine (Option.eq_none_iff_forall_ne_some.2 fun r hr => ?_).symm
    exact absurd (hlong r.1 r.2 hr) (Nat.not_lt_zero _)

theorem front?_eq_some_iff {names : List (List Char)} {rest : List Char} :
    front? cs = some (names, rest) ↔ ∃ e mode, reading? cs = some ((e, mode), rest) ∧
      (e.flagsBehind? {}).isSome ∧ mode.names = names := by
  constructor
  · intro h
    obtain ⟨⟨⟨e, mode⟩, r⟩, hreading, h⟩ := Option.bind_eq_some_iff.1 h
    obtain ⟨flags, hflags, heq⟩ := Option.map_eq_some_iff.1 h
    obtain ⟨rfl, rfl⟩ := Prod.mk.inj heq
    exact ⟨e, mode, hreading, by simp [Expr.flagsBehind?, hflags], rfl⟩
  · rintro ⟨e, mode, hreading, hsettles, rfl⟩
    rw [Expr.flagsBehind?, Option.isSome_map] at hsettles
    obtain ⟨flags, hflags⟩ := Option.isSome_iff_exists.1 hsettles
    simp [front?, hreading, hflags]

theorem isRegex_iff : IsRegex cs ↔ ∃ names, front? cs = some (names, []) := by
  simp [IsRegex, Option.map_eq_some_iff]

theorem front?_stops {names : List (List Char)} {rest : List Char}
    (h : front? cs = some (names, rest)) :
    rest <:+ cs ∧ (rest = [] ∨ ∃ behind, rest = ')' :: behind) := by
  obtain ⟨e, mode, h, -⟩ := front?_eq_some_iff.1 h
  exact groupRest?_stops _ h

theorem agrees_front? (ht : Tail t) (u : List Char) :
    Agrees t t.length (front? u) (front? (u ++ t)) := by
  have hreading : Agrees t t.length (reading? u) (reading? (u ++ t)) :=
    agrees_groupRest? ht ⟨false, []⟩ .start (Nat.lt_succ_self _) (Nat.lt_succ_self _)
  refine hreading.bind (fun r rest => ?_) fun {r rest names rest'} h => ?_
  · cases r.1.settle? {} with
    | none => exact .fails t _
    | some flags => exact .same t _ r.2.names rest
  · obtain ⟨flags, -, heq⟩ := Option.map_eq_some_iff.1 h
    obtain ⟨-, rfl⟩ := Prod.mk.inj heq
    exact List.suffix_refl _

/-! ## The frame -/

theorem Flags.change_keep (flags : Flags) : flags.change .keep = flags := rfl

theorem flagsBehind?_group (captures : Bool) (e : Expr) (flags : Flags) :
    (Expr.group .keep captures e).flagsBehind? flags = (e.flagsBehind? flags).map fun _ => flags := by
  unfold Expr.flagsBehind?
  simp only [Expr.settle?, Flags.change_keep]
  cases e.settle? flags <;> rfl

/-- What was read of the frame up to the end of its group. -/
def framed (e : Expr) : Pending :=
  (Pending.start.push (.anchor .lineStart)).push (.group .keep false e)

theorem framed_flags (e : Expr) (flags : Flags) :
    (framed e).flags? flags = (e.flagsBehind? flags).map fun _ => flags := by
  rw [framed, Pending.push_flags, Pending.push_flags]
  exact flagsBehind?_group false e flags

/-- What was read of an empty group. -/
def hollow : Pending := Pending.start.push (.group .keep false .empty)

theorem reading?_hollow {fuel : Nat} (hfuel : cs.length < fuel) :
    reading? ("(?:)".toList ++ cs) = groupRest? fuel ⟨false, []⟩ hollow cs := by
  have hlength : cs.length < cs.length + 3 + 1 := by omega
  exact groupRest?_fuel ⟨false, []⟩ hollow hlength hfuel

theorem reading?_framed (cs : List Char) :
    reading? ("^(?:".toList ++ cs) = (reading? cs).bind fun body =>
      (closed? body.2).bind fun rest =>
        groupRest? (cs.length + 3) ⟨false, body.1.2.names⟩ (framed body.1.1) rest := by
  have hbody : reading? cs = groupRest? (cs.length + 3) ⟨false, []⟩ .start cs :=
    groupRest?_fuel ⟨false, []⟩ .start (by omega) (by omega)
  rw [hbody]
  rfl

/-- What stands behind the group of the frame is read as behind an empty group, but for the names.
-/
theorem framed_rest_iff {e : Expr} {names : List (List Char)} {fuel : Nat} (hfuel : cs.length < fuel) :
    (∃ e' mode, groupRest? fuel ⟨false, names⟩ (framed e) cs = some ((e', mode), []) ∧
        (e'.flagsBehind? {}).isSome) ↔
      (e.flagsBehind? {}).isSome ∧ ∃ names', front? ("(?:)".toList ++ cs) = some (names', []) ∧
        ∀ name ∈ names', name ∉ names := by
  have halike : Pending.Alike {} ((e.flagsBehind? {}).map fun _ => {}) (some {}) (framed e) hollow :=
    ⟨⟨some, by rw [framed_flags, Option.bind_fun_some], rfl⟩, rfl⟩
  have hbeside : groupRest? fuel ⟨false, names⟩ (framed e) cs =
      (groupRest? fuel ⟨false, []⟩ (framed e) cs).bind (beside names) :=
    groupRest?_beside fuel false [] (framed e) cs nofun
  simp only [hbeside, front?_eq_some_iff, reading?_hollow hfuel]
  rcases groupRest?_continues {} _ _ fuel ⟨false, []⟩ _ _ cs halike with
    ⟨h₁, h₂⟩ | ⟨e₁, e₂, mode, rest, h₁, h₂, f, hf₁, hf₂⟩
  · simp [h₁, h₂]
  · have hsettles : (e₁.flagsBehind? {}).isSome ↔
        (e.flagsBehind? {}).isSome ∧ (e₂.flagsBehind? {}).isSome := by
      rw [hf₁, hf₂]
      cases e.flagsBehind? {} <;> simp
    rw [h₁, h₂, Option.bind_some]
    constructor
    · rintro ⟨e', mode', h, he'⟩
      rw [beside] at h
      split at h
      · rename_i hnames
        obtain ⟨heq, rfl⟩ := Prod.mk.inj (Option.some.inj h)
        obtain ⟨rfl, -⟩ := Prod.mk.inj heq
        obtain ⟨he, he₂⟩ := hsettles.1 he'
        exact ⟨he, mode.names, ⟨e₂, mode, rfl, he₂, rfl⟩, hnames⟩
      · cases h
    · rintro ⟨he, names', ⟨e', mode', h, he', rfl⟩, hnames⟩
      obtain ⟨heq, rfl⟩ := Prod.mk.inj (Option.some.inj h)
      obtain ⟨rfl, rfl⟩ := Prod.mk.inj heq
      exact ⟨e₁, _, if_pos hnames, hsettles.2 ⟨he, he'⟩⟩

/-- The end of the group is where the text behind the frame's opening closes one. -/
theorem isRegex_framed_iff :
    IsRegex ("^(?:".toList ++ cs) ↔ ∃ names behind names', front? cs = some (names, ')' :: behind) ∧
      front? ("(?:)".toList ++ behind) = some (names', []) ∧ ∀ name ∈ names', name ∉ names := by
  constructor
  · intro h
    obtain ⟨names, h⟩ := isRegex_iff.1 h
    obtain ⟨e', mode', h, he', -⟩ := front?_eq_some_iff.1 h
    rw [reading?_framed] at h
    obtain ⟨⟨⟨e, mode⟩, rest⟩, hbody, h⟩ := Option.bind_eq_some_iff.1 h
    obtain ⟨behind, hbehind, h⟩ := Option.bind_eq_some_iff.1 h
    obtain rfl : rest = ')' :: behind := closed?_eq hbehind
    have hlength := (groupRest?_stops _ hbody).1.length_le
    rw [List.length_cons] at hlength
    obtain ⟨he, names', hfront, hnames⟩ := (framed_rest_iff (by omega)).1 ⟨e', mode', h, he'⟩
    exact ⟨mode.names, behind, names', front?_eq_some_iff.2 ⟨e, mode, hbody, he, rfl⟩, hfront, hnames⟩
  · rintro ⟨names, behind, names', hbody, hfront, hnames⟩
    have hlength := (front?_stops hbody).1.length_le
    rw [List.length_cons] at hlength
    obtain ⟨e, mode, hread, he, rfl⟩ := front?_eq_some_iff.1 hbody
    have hlt : behind.length < cs.length + 3 := by omega
    obtain ⟨e', mode', h, he'⟩ := (framed_rest_iff hlt).2 ⟨he, names', hfront, hnames⟩
    refine isRegex_iff.2 ⟨mode'.names, front?_eq_some_iff.2 ⟨e', mode', ?_, he', rfl⟩⟩
    rw [reading?_framed, hread]
    exact h

theorem ClosesEarly.not_isRegex (h : ClosesEarly cs) : ¬IsRegex cs := by
  obtain ⟨names, behind, -, h, -⟩ := h
  simp [IsRegex, h]

theorem isRegex_anchored_iff (pattern : String) :
    IsRegex (anchored pattern) ↔
      IsRegex pattern.toList ∧ ¬EndsInComment pattern.toList ∨ ClosesEarly pattern.toList := by
  have hanchored : anchored pattern = "^(?:".toList ++ (pattern.toList ++ ")$".toList) :=
    List.append_assoc _ _ _
  rw [hanchored, isRegex_framed_iff]
  generalize pattern.toList = cs
  rcases agrees_front? .frame cs with ⟨names, rest, h₁, h₂⟩ | ⟨names, h₁, h₂⟩ | ⟨h₁, hlong⟩
  · obtain ⟨-, rfl | ⟨behind, rfl⟩⟩ := front?_stops h₁
    · -- the pattern ends where its text does, and the frame closes its group
      have hregex : IsRegex cs := isRegex_iff.2 ⟨names, h₁⟩
      have hcomment : ¬EndsInComment cs := by
        rintro ⟨-, h⟩
        obtain ⟨names', h⟩ := isRegex_iff.1 h
        cases h₂.symm.trans h
      have hdollar : front? ("(?:)".toList ++ ['$']) = some ([], []) := by decide +kernel
      exact ⟨fun _ => .inl ⟨hregex, hcomment⟩, fun _ => ⟨names, ['$'], [], h₂, hdollar, nofun⟩⟩
    · -- the pattern closes the group of the frame
      constructor
      · rintro ⟨names', behind', names'', h, hfront, hnames⟩
        obtain ⟨rfl, heq⟩ := Prod.mk.inj (Option.some.inj (h₂.symm.trans h))
        rw [← (List.cons.inj heq).2] at hfront
        exact .inr ⟨names, behind, names'', h₁, hfront, hnames⟩
      · rintro (⟨h, -⟩ | ⟨names', behind', names'', h, hfront, hnames⟩)
        · obtain ⟨names', h⟩ := isRegex_iff.1 h
          cases h₁.symm.trans h
        · obtain ⟨rfl, heq⟩ := Prod.mk.inj (Option.some.inj (h₁.symm.trans h))
          rw [← (List.cons.inj heq).2] at hfront
          exact ⟨names, _, names'', h₂, hfront, hnames⟩
  · -- a comment swallows the end of the frame
    have hcomment : EndsInComment cs := ⟨isRegex_iff.2 ⟨names, h₁⟩, isRegex_iff.2 ⟨names, h₂⟩⟩
    constructor
    · rintro ⟨names', behind, -, h, -⟩
      cases h₂.symm.trans h
    · rintro (⟨-, h⟩ | ⟨names', behind, -, h, -⟩)
      · exact absurd hcomment h
      · cases h₁.symm.trans h
  · -- the pattern is cut short, and no parenthesis is left to close the frame
    constructor
    · rintro ⟨names, behind, -, h, -⟩
      have hlength : behind.length + 1 < 2 := hlong _ _ h
      obtain ⟨front, hfront⟩ := (front?_stops h).1
      obtain rfl : behind = [] := List.length_eq_zero_iff.1 (by omega)
      have hlast := congrArg List.getLast? hfront
      simp at hlast
    · rintro (⟨h, -⟩ | ⟨names, behind, -, h, -⟩)
      · obtain ⟨names, h⟩ := isRegex_iff.1 h
        cases h₁.symm.trans h
      · cases h₁.symm.trans h

theorem ofChars_eq_malformed_iff :
    Regex.ofChars cs = .error .malformed ↔
      (∃ e mode, reading? cs = some ((e, mode), []) ∧ depthLimit < e.depth) ∨ ¬IsRegex cs := by
  have hofChars : Regex.ofChars cs = .error .malformed ↔
      (Expr.ofChars? cs).bind (·.settle? {}) = none := by
    unfold Regex.ofChars
    split
    · rename_i h
      exact ⟨fun _ => h, fun _ => rfl⟩
    · rename_i h
      rw [h]
      split <;> simp
  rw [hofChars]
  unfold IsRegex front? Expr.ofChars?
  cases reading? cs with
  | none => simp
  | some r =>
    obtain ⟨⟨e, mode⟩, rest⟩ := r
    cases rest with
    | cons c rest => cases h : e.settle? {} <;> simp [h]
    | nil =>
      by_cases hdepth : e.depth ≤ depthLimit
      · cases h : e.settle? {} <;> simp [h, hdepth, Nat.not_lt.2 hdepth]
      · simp [hdepth, Nat.lt_of_not_le hdepth]

end Pattern

open Pattern

namespace Filter

theorem of_eq_malformed_iff (name pattern : String) :
    of name pattern = .error ⟨name, pattern, .malformed⟩ ↔
      Regex.ofPattern pattern = .error .malformed := by
  unfold of
  split
  · rename_i h
    simp [h]
  · rename_i h
    simp [h]

/-- **Malformed filters.** A pattern is refused if it is none and does not close the frame early, or
if the frame spoils it. -/
theorem malformed_iff (name pattern : String) :
    of name pattern = .error ⟨name, pattern, .malformed⟩ ↔
      ¬IsRegex pattern.toList ∧ ¬ClosesEarly pattern.toList ∨ EndsInComment pattern.toList ∨
        NestsTooDeep pattern := by
  have hcomment : EndsInComment pattern.toList → IsRegex pattern.toList := And.left
  have hearly : EndsInComment pattern.toList → ¬ClosesEarly pattern.toList :=
    fun h hearly => hearly.not_isRegex h.1
  rw [of_eq_malformed_iff, Regex.ofPattern, ofChars_eq_malformed_iff, isRegex_anchored_iff,
    NestsTooDeep]
  grind

/-- A parenthesis may close the frame, and a comment may swallow its end. -/
theorem frame_shifts_regex :
    ¬IsRegex "a)(?:b".toList ∧ (of "service" "a)(?:b").isOk ∧
      IsRegex "(?x)a#c".toList ∧
        of "service" "(?x)a#c" = .error ⟨"service", "(?x)a#c", .malformed⟩ := by
  refine ⟨by decide +kernel, by decide +kernel, by decide +kernel, by decide +kernel⟩

end Filter

end Alerting
