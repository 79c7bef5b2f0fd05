import Alerting.Proofs.Pattern.Escapes
import Alerting.Proofs.Pattern.Openings

/-!
# Classes and what stands behind

A class ends with a bracket, and the tail has none. What is cut short inside a class may well take
some of the tail, but the class never ends.
-/

namespace Alerting.Pattern

open Text

variable {t u : List Char} {bound : Nat}

theorem caret_append (ht : Tail t) (u : List Char) :
    caret (u ++ t) = ((caret u).1, (caret u).2 ++ t) := by
  cases u with
  | nil => cases ht <;> rfl
  | cons c u =>
    by_cases hc : c = '^'
    · subst hc
      rfl
    · simp [caret, hc]

theorem asciiEnd?_append (ht : Tail t) (u : List Char) :
    asciiEnd? (u ++ t) = (asciiEnd? u).map (· ++ t) := by
  rcases u with _ | ⟨c, _ | ⟨d, u⟩⟩
  · cases ht <;> rfl
  · cases ht <;> simp [asciiEnd?]
  · by_cases hend : c = ':' ∧ d = ']'
    · obtain ⟨rfl, rfl⟩ := hend
      rfl
    · simp_all [asciiEnd?]

theorem asciiClass?_append (ht : Tail t) (u : List Char) :
    asciiClass? (u ++ t) = (asciiClass? u).map fun r => (r.1, r.2 ++ t) := by
  cases u with
  | nil => cases ht <;> rfl
  | cons c u =>
    by_cases hc : c = ':'
    · subst hc
      simp only [List.cons_append, asciiClass?, caret_append ht]
      cases hdrop : (caret u).2.dropWhile (· != ':') with
      | nil =>
        have htail : t.dropWhile (· != ':') = [] := by cases ht <;> rfl
        simp [List.dropWhile_append, hdrop, htail, asciiEnd?]
      | cons d rest =>
        obtain ⟨htake, hlong⟩ := while_append hdrop t
        rw [htake, hlong, ← List.cons_append, asciiEnd?_append ht]
        cases asciiEnd? (d :: rest) with
        | none => rfl
        | some after => simp [Function.comp_def]
    · simp [asciiClass?, hc]

theorem hyphens_tail (ht : Tail t) (verbose : Bool) (fuel : Nat) (items : List SetExpr) :
    hyphens verbose fuel items t = (items, t) := by
  cases ht <;> cases fuel <;> rfl

theorem agrees_hyphens (ht : Tail t) (verbose : Bool) {fuel₁ fuel₂ : Nat} (items : List SetExpr)
    (h₁ : u.length ≤ fuel₁) (h₂ : (u ++ t).length ≤ fuel₂) :
    Agrees t bound (some (hyphens verbose fuel₁ items u))
      (some (hyphens verbose fuel₂ items (u ++ t))) := by
  induction fuel₁ generalizing fuel₂ items u with
  | zero =>
    obtain rfl := List.length_eq_zero_iff.1 (Nat.le_zero.1 h₁)
    rw [List.nil_append, hyphens_tail ht]
    exact .same t bound items []
  | succ fuel₁ ih =>
    cases u with
    | nil =>
      rw [List.nil_append, hyphens_tail ht, hyphens_tail .nothing]
      exact .same t bound items []
    | cons c u =>
      obtain ⟨fuel₂, rfl⟩ := Nat.exists_eq_add_one.2 (Nat.lt_of_lt_of_le (Nat.zero_lt_succ _) h₂)
      simp only [List.cons_append, List.length_cons, Nat.add_le_add_iff_right] at h₁ h₂
      by_cases hc : c = '-'
      · subst hc
        refine .skip (f := fun r => some (hyphens verbose fuel₁ _ r))
          (g := fun r => some (hyphens verbose fuel₂ _ r)) ht verbose u (fun r hr => ih _ ?_ ?_) ?_
        · exact hr.length_le.trans h₁
        · exact (length_append_le hr t).trans h₂
        · rw [hyphens_tail .nothing, hyphens_tail .nothing]
          exact .swallowed t bound _
      · simpa [hyphens, hc] using Agrees.same t bound items (c :: u)

theorem agrees_leadingItems? (ht : Tail t) (verbose : Bool) (items : List SetExpr) (u : List Char) :
    Agrees t (t.length + 1) (leadingItems? verbose items u) (leadingItems? verbose items (u ++ t)) := by
  cases u with
  | nil => exact .stuck fun a r h => Nat.lt_succ_of_le (leadingItems?_suffix h).length_le
  | cons c u =>
    simp only [List.cons_append, leadingItems?]
    split
    · rcases skip_append ht verbose u with h | ⟨h₁, h₂⟩
      · rw [h]
        cases skip verbose u with
        | nil =>
          cases ht with
          | nothing => exact .fails _ _
          | frame =>
            refine .stuck fun a r h => ?_
            obtain ⟨-, rfl⟩ := Prod.mk.inj (Option.some.inj h)
            decide
        | cons d rest => exact .same t _ _ (d :: rest)
      · rw [h₁, h₂]
        exact .fails t _
    · exact .same t _ items (c :: u)

theorem agrees_leading? (ht : Tail t) (verbose : Bool) (u : List Char) :
    Agrees t (t.length + 1) (leading? verbose u) (leading? verbose (u ++ t)) := by
  have hhyphens : Agrees t 0 (some (hyphens verbose u.length [] u))
      (some (hyphens verbose (u ++ t).length [] (u ++ t))) :=
    agrees_hyphens ht verbose [] (Nat.le_refl _) (Nat.le_refl _)
  exact hhyphens.bind_exact (k := fun r => leadingItems? verbose r.1 r.2)
    (fun items r => agrees_leadingItems? ht verbose items r) fun _ => .fails t _

theorem agrees_openClass? (ht : Tail t) (verbose : Bool) (u : List Char) :
    Agrees t (t.length + 1) (openClass? verbose u) (openClass? verbose (u ++ t)) := by
  unfold openClass?
  rcases skip_append ht verbose u with h | ⟨h₁, h₂⟩
  · rw [h, caret_append ht]
    rcases caret (skip verbose u) with ⟨_ | _, rest⟩
    · exact (agrees_leading? ht verbose rest).map fun items => (false, items)
    · have hleading : Agrees t (t.length + 1) (leading? verbose (skip verbose rest))
          (leading? verbose (skip verbose (rest ++ t))) :=
        .skip ht verbose rest (fun r _ => agrees_leading? ht verbose r) (.fails t _)
      exact hleading.map fun items => (true, items)
  · rw [h₁, h₂]
    exact .fails t _

/-! ## Items -/

theorem agrees_classItem? (ht : Tail t) (verbose : Bool) (u : List Char) :
    Agrees t t.length (classItem? verbose u) (classItem? verbose (u ++ t)) := by
  cases u with
  | nil =>
    cases ht with
    | nothing => exact .fails _ _
    | frame => exact .stuck fun a r h => Nat.lt_succ_of_le (classItem?_suffix h).length_le
  | cons c u =>
    simp only [List.cons_append, classItem?]
    split
    · rcases agrees_escape? ht verbose u with h | ⟨h, r, hr, -⟩
      · refine h.bind (fun e r => ?_) fun {e r s r'} hs => ?_
        · cases e.toSet? with
          | none => exact .fails t _
          | some s => exact .same t _ s r
        · obtain ⟨s, -, heq⟩ := Option.map_eq_some_iff.1 hs
          obtain ⟨-, rfl⟩ := Prod.mk.inj heq
          exact List.suffix_refl _
      · -- the word boundary that is read with the tail may not stand in a class
        rw [h, hr]
        exact .fails t _
    · exact .same t _ _ u

theorem pastBlanks_append (ht : Tail t) (u : List Char) : pastBlanks (u ++ t) = pastBlanks u ++ t := by
  have hdrop (w : List Char) : (w ++ t).dropWhile isBlank = w.dropWhile isBlank ++ t :=
    trimFront_append ht w
  unfold pastBlanks
  rw [hdrop u]
  cases u.dropWhile isBlank with
  | nil => cases ht <;> rfl
  | cons c w =>
    by_cases hc : c = '#'
    · subst hc
      exact hdrop w
    · simp [hc]

theorem pastBlanks_cons {c : Char} (hblank : isBlank c = false) (hmark : c ≠ '#') (cs : List Char) :
    pastBlanks (c :: cs) = c :: cs := by
  unfold pastBlanks
  rw [List.dropWhile_cons_of_neg (by simp [hblank])]
  simp [hmark]

theorem peekAfter_append_eq_iff (ht : Tail t) (verbose : Bool) {c : Char} (hparen : c ≠ ')')
    (hblank : isBlank c = false) (hmark : c ≠ '#') (u : List Char) :
    peekAfter verbose (u ++ t) = some c ↔ peekAfter verbose u = some c := by
  unfold peekAfter
  split
  · rw [pastBlanks_append ht]
    cases hu : pastBlanks u with
    | nil =>
      cases ht with
      | nothing => rw [List.append_nil, List.append_nil]
      | frame =>
        have hne : u.head? ≠ some c := fun h => by
          obtain ⟨w, rfl⟩ := List.head?_eq_some_iff.1 h
          rw [pastBlanks_cons hblank hmark] at hu
          cases hu
        simp [hne, hparen.symm]
    | cons d w => exact Iff.rfl
  · exact head?_append_eq_iff ht hparen u

theorem isPlainHyphen_append (ht : Tail t) (verbose : Bool) (u : List Char) :
    isPlainHyphen verbose (u ++ t) = isPlainHyphen verbose u := by
  have hbracket := peekAfter_append_eq_iff ht verbose (c := ']') (by decide) (by decide) (by decide) u
  have hhyphen := peekAfter_append_eq_iff ht verbose (c := '-') (by decide) (by decide) (by decide) u
  rw [Bool.eq_iff_iff]
  simp only [isPlainHyphen, Bool.or_eq_true, beq_iff_eq, hbracket, hhyphen]

theorem agrees_rangeEnd? (ht : Tail t) (verbose : Bool) (first : SetExpr) (u : List Char) :
    Agrees t t.length (rangeEnd? verbose first u) (rangeEnd? verbose first (u ++ t)) := by
  refine (agrees_classItem? ht verbose u).bind (fun last r => ?_) fun {last r s r'} h => ?_
  · dsimp only
    split
    · split
      · exact .same t _ _ r
      · exact .fails t _
    · exact .fails t _
  · dsimp only at h
    split at h
    · split at h
      · obtain ⟨-, rfl⟩ := Prod.mk.inj (Option.some.inj h)
        exact List.suffix_refl _
      · cases h
    · cases h

theorem agrees_rangeRest? (ht : Tail t) (verbose : Bool) (first : SetExpr) (u : List Char) :
    Agrees t (t.length + 1) (rangeRest? verbose first u) (rangeRest? verbose first (u ++ t)) := by
  cases u with
  | nil => exact .stuck fun a r h => Nat.lt_succ_of_le (rangeRest?_suffix h).length_le
  | cons c u =>
    simp only [List.cons_append, rangeRest?, isPlainHyphen_append ht]
    split
    · have hend : Agrees t t.length (rangeEnd? verbose first (skip verbose u))
          (rangeEnd? verbose first (skip verbose (u ++ t))) :=
        .skip ht verbose u (fun r _ => agrees_rangeEnd? ht verbose first r) (.fails t _)
      exact hend.mono (Nat.le_succ _)
    · exact .same t _ first (c :: u)

theorem agrees_classRange? (ht : Tail t) (verbose : Bool) (u : List Char) :
    Agrees t (t.length + 1) (classRange? verbose u) (classRange? verbose (u ++ t)) := by
  have hitem := (agrees_classItem? ht verbose u).mono (Nat.le_succ t.length)
  refine hitem.bind (fun first r => ?_) fun {first r s r'} h => ?_
  · exact .skip ht verbose r (fun r _ => agrees_rangeRest? ht verbose first r) (.fails t _)
  · exact (rangeRest?_suffix h).trans (skip_suffix verbose r)

theorem setOp?_append (ht : Tail t) (u : List Char) :
    setOp? (u ++ t) = (setOp? u).map fun r => (r.1, r.2 ++ t) := by
  rcases u with _ | ⟨c, _ | ⟨d, u⟩⟩
  · cases ht <;> rfl
  · cases ht with
    | nothing => rfl
    | frame =>
      by_cases hc : c = ')'
      · subst hc
        rfl
      · simp [setOp?, hc]
  · simp only [List.cons_append, setOp?]
    split
    · cases SetOp.ofChar? c <;> rfl
    · rfl

/-! ## Whole classes -/

theorem classRest?_nil (verbose : Bool) (fuel : Nat) (waiting : Option (SetOp × SetExpr))
    (items : List SetExpr) : classRest? verbose fuel waiting items [] = none := by
  cases fuel <;> cases verbose <;> rfl

theorem classRest?_item {verbose : Bool} {cs w : List Char} {c : Char} (fuel : Nat)
    (waiting : Option (SetOp × SetExpr)) (items : List SetExpr) (hskip : skip verbose cs = c :: w)
    (hclose : c ≠ ']') (hopen : c ≠ '[') :
    classRest? verbose (fuel + 1) waiting items cs = match setOp? (c :: w) with
      | some (o, rest) => classRest? verbose fuel (some (o, closeClass waiting items)) [] rest
      | none =>
        (classRange? verbose (c :: w)).bind fun item =>
          classRest? verbose fuel waiting (item.1 :: items) item.2 := by
  rw [classRest?, hskip]
  split
  · contradiction
  · rename_i heq
    exact absurd (List.cons.inj heq).1 hclose
  · rename_i heq
    exact absurd (List.cons.inj heq).1 hopen
  · rfl

theorem agrees_nestedClass? (ht : Tail t) {verbose : Bool} {fuel₁ fuel₂ : Nat}
    (waiting : Option (SetOp × SetExpr)) (items : List SetExpr)
    (hrest : ∀ waiting items r, r <:+ u → Agrees t t.length (classRest? verbose fuel₁ waiting items r)
      (classRest? verbose fuel₂ waiting items (r ++ t))) :
    Agrees t t.length
      ((openClass? verbose u).bind fun start =>
        (classRest? verbose fuel₁ none start.1.2 start.2).bind fun inner =>
          classRest? verbose fuel₁ waiting (.bracketed start.1.1 inner.1 :: items) inner.2)
      ((openClass? verbose (u ++ t)).bind fun start =>
        (classRest? verbose fuel₂ none start.1.2 start.2).bind fun inner =>
          classRest? verbose fuel₂ waiting (.bracketed start.1.1 inner.1 :: items) inner.2) := by
  refine (agrees_openClass? ht verbose u).bind_within (fun start r hr => ?_) (fun start => ?_) ?_
  · have hr := openClass?_suffix hr
    refine (hrest _ _ r hr).bind_within (fun s r' hr' => ?_) (fun s => ?_) ?_
    · obtain ⟨d, hd⟩ := classRest?_suffix hr'
      have hr' := ((List.suffix_cons d r').trans hd).trans (skip_suffix verbose r)
      exact hrest _ _ r' (hr'.trans hr)
    · rw [classRest?_nil, classRest?_nil]
      exact .fails t _
    · exact fun hlt h => (classRest?_length h).trans hlt
  · rw [classRest?_nil, classRest?_nil]
    exact .fails t _
  · intro start r s r' hlt h
    obtain ⟨inner, hinner, h⟩ := Option.bind_eq_some_iff.1 h
    have hinner := classRest?_length hinner
    have h := classRest?_length h
    dsimp only at hinner
    omega

theorem agrees_classRest? (ht : Tail t) (verbose : Bool) {fuel₁ fuel₂ : Nat}
    (waiting : Option (SetOp × SetExpr)) (items : List SetExpr) (h₁ : u.length < fuel₁)
    (h₂ : (u ++ t).length < fuel₂) :
    Agrees t t.length (classRest? verbose fuel₁ waiting items u)
      (classRest? verbose fuel₂ waiting items (u ++ t)) := by
  induction fuel₁ generalizing fuel₂ waiting items u with
  | zero => exact absurd h₁ (Nat.not_lt_zero _)
  | succ fuel₁ ih =>
    obtain ⟨fuel₂, rfl⟩ := Nat.exists_eq_add_one.2 (Nat.lt_of_le_of_lt (Nat.zero_le _) h₂)
    rcases skip_append ht verbose u with hskip | ⟨hshort, hlong⟩
    · cases hw : skip verbose u with
      | nil =>
        rw [hw, List.nil_append] at hskip
        have hnone : classRest? verbose (fuel₁ + 1) waiting items u = none := by
          simp only [classRest?, hw]
        rw [hnone]
        refine .stuck fun s r h => ?_
        obtain ⟨c, hc⟩ := classRest?_suffix h
        rw [hskip] at hc
        exact hc.length_le
      | cons c w =>
        have hcons : c :: w <:+ u := hw ▸ skip_suffix verbose u
        have hih (waiting : Option (SetOp × SetExpr)) (items : List SetExpr) (r : List Char)
            (hr : r <:+ w) : Agrees t t.length (classRest? verbose fuel₁ waiting items r)
              (classRest? verbose fuel₂ waiting items (r ++ t)) := by
          have hlt := length_append_lt hcons hr [] (by rwa [List.append_nil])
          rw [List.append_nil] at hlt
          exact ih _ _ hlt (length_append_lt hcons hr t h₂)
        by_cases hclose : c = ']'
        · subst hclose
          simp only [classRest?, hskip, hw, List.cons_append]
          exact .same t _ _ w
        · by_cases hopen : c = '['
          · subst hopen
            simp only [classRest?, hskip, hw, List.cons_append, asciiClass?_append ht]
            cases hascii : asciiClass? w with
            | some r => exact hih _ _ _ (asciiClass?_suffix hascii)
            | none =>
              exact agrees_nestedClass? ht waiting items hih
          · rw [hw, List.cons_append] at hskip
            rw [classRest?_item fuel₁ waiting items hw hclose hopen,
              classRest?_item fuel₂ waiting items hskip hclose hopen, ← List.cons_append,
              setOp?_append ht]
            cases hop : setOp? (c :: w) with
            | some r => exact hih _ _ _ (setOp?_suffix hop)
            | none =>
              refine (agrees_classRange? ht verbose (c :: w)).bind_within (fun s r hr => ?_) ?_ ?_
              · exact hih _ _ _ (classRange?_suffix hr)
              · intro s
                rw [classRest?_nil, classRest?_nil]
                exact .fails t _
              · intro s r s' r' hlt h
                exact (classRest?_length h).trans_le (Nat.le_of_lt_succ hlt)
    · simp only [classRest?, hshort, hlong]
      exact .fails t _

theorem agrees_class? (ht : Tail t) (verbose : Bool) (u : List Char) :
    Agrees t t.length (class? verbose u) (class? verbose (u ++ t)) := by
  refine (agrees_openClass? ht verbose u).bind_within (fun start r _ => ?_) (fun start => ?_) ?_
  · have hrest := agrees_classRest? ht verbose none start.2 (Nat.lt_succ_self r.length)
      (Nat.lt_succ_self (r ++ t).length)
    exact hrest.map (SetExpr.bracketed start.1)
  · rw [classRest?_nil]
    exact .fails t _
  · intro start r s r' hlt h
    obtain ⟨inner, hinner, heq⟩ := Option.map_eq_some_iff.1 h
    obtain ⟨-, rfl⟩ := Prod.mk.inj heq
    exact (classRest?_length hinner).trans_le (Nat.le_of_lt_succ hlt)

end Alerting.Pattern
