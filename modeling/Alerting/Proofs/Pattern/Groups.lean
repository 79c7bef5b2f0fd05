import Alerting.Proofs.Pattern.Classes

/-!
# Groups and what stands behind

A group that is open at the end of the text takes the parenthesis of the tail, and what is left then is
too short to close anything. So a reader of groups agrees with itself on every text and its tail.
-/

namespace Alerting.Pattern

variable {t u : List Char} {bound : Nat}

theorem skipLazy_append (ht : Tail t) (u : List Char) : skipLazy (u ++ t) = skipLazy u ++ t := by
  cases u with
  | nil => cases ht <;> rfl
  | cons c u =>
    by_cases hc : c = '?'
    · subst hc
      rfl
    · simp [skipLazy, hc]

theorem agrees_repetition? (ht : Tail t) (verbose : Bool) (c : Char) (u : List Char) :
    repetition? verbose (c :: u) = none ∧ repetition? verbose (c :: (u ++ t)) = none ∨
      ∃ short long, repetition? verbose (c :: u) = some short ∧
        repetition? verbose (c :: (u ++ t)) = some long ∧ Agrees t 0 short long := by
  by_cases hone : c = '?'
  · subst hone
    simp only [repetition?, skipLazy_append ht]
    exact .inr ⟨_, _, rfl, rfl, .same t 0 _ _⟩
  · by_cases hmany : c = '*'
    · subst hmany
      simp only [repetition?, skipLazy_append ht]
      exact .inr ⟨_, _, rfl, rfl, .same t 0 _ _⟩
    · by_cases hsome : c = '+'
      · subst hsome
        simp only [repetition?, skipLazy_append ht]
        exact .inr ⟨_, _, rfl, rfl, .same t 0 _ _⟩
      · by_cases hbrace : c = '\x7b'
        · subst hbrace
          refine .inr ⟨_, _, rfl, rfl, ?_⟩
          rw [Option.map_eq_bind, Option.map_eq_bind]
          refine (agrees_bounds? ht verbose u).bind_exact (fun bounds r => ?_) fun bounds => ?_
          · refine .skip (f := fun r => some (bounds, skipLazy r))
              (g := fun r => some (bounds, skipLazy r)) ht verbose r (fun r _ => ?_) ?_
            · rw [skipLazy_append ht]
              exact .same t 0 bounds _
            · exact .swallowed t 0 bounds
          · cases verbose <;> exact .swallowed t 0 bounds
        · left
          simp [repetition?, hone, hmany, hsome, hbrace]

theorem agrees_atom? (ht : Tail t) (verbose : Bool) (c : Char) (u : List Char) :
    Agrees t t.length (atom? verbose (c :: u)) (atom? verbose (c :: (u ++ t))) ∨
      atom? verbose (c :: u) = none ∧
        ∃ e r, atom? verbose (c :: (u ++ t)) = some (e, r) ∧ IsVainBrace verbose r := by
  simp only [atom?]
  split
  · rcases agrees_escape? ht verbose u with h | ⟨h, r, hr, hvain⟩
    · exact .inl (h.map Escape.toExpr)
    · rw [h, hr]
      exact .inr ⟨rfl, _, r, rfl, hvain⟩
  · left
    split
    · exact .same t _ _ u
    · split
      · exact .same t _ _ u
      · split
        · exact .same t _ _ u
        · exact .same t _ _ u

theorem agrees_item? (ht : Tail t) (pending : Pending) (verbose : Bool) (c : Char) (u : List Char) :
    Agrees t t.length (pending.item? verbose (c :: u)) (pending.item? verbose (c :: (u ++ t))) ∨
      pending.item? verbose (c :: u) = none ∧
        ∃ p r, pending.item? verbose (c :: (u ++ t)) = some (p, r) ∧ IsVainBrace verbose r := by
  unfold Pending.item?
  rcases agrees_repetition? ht verbose c u with ⟨h₁, h₂⟩ | ⟨short, long, h₁, h₂, hbounds⟩
  · rw [h₁, h₂]
    rcases agrees_atom? ht verbose c u with h | ⟨h, e, r, hr, hvain⟩
    · exact .inl (h.map pending.push)
    · rw [h, hr]
      exact .inr ⟨rfl, _, r, rfl, hvain⟩
  · left
    rw [h₁, h₂]
    refine hbounds.bind_exact (fun bounds r => ?_) fun bounds => ?_
    · cases pending.repeat? bounds.1 bounds.2 with
      | none => exact .fails t _
      | some p => exact .same t _ p r
    · cases pending.repeat? bounds.1 bounds.2 with
      | none => exact .fails t _
      | some p => exact .swallowed t _ p

theorem agrees_read? (ht : Tail t) (pending : Pending) (verbose : Bool) (c : Char) (u : List Char) :
    Agrees t t.length (pending.read? verbose (c :: u)) (pending.read? verbose (c :: (u ++ t))) ∨
      pending.read? verbose (c :: u) = none ∧
        ∃ p r, pending.read? verbose (c :: (u ++ t)) = some (p, r) ∧ IsVainBrace verbose r := by
  simp only [Pending.read?]
  split
  · exact .inl (.same t _ pending.next u)
  · split
    · exact .inl ((agrees_class? ht verbose u).map fun s => pending.push (.set s))
    · exact agrees_item? ht pending verbose c u

/-! ## Groups -/

theorem groupRest?_nil {fuel : Nat} (hfuel : 0 < fuel) (mode : Mode) (pending : Pending) :
    groupRest? fuel mode pending [] = some ((pending.close, mode), []) := by
  obtain ⟨fuel, rfl⟩ := Nat.exists_eq_add_one.2 hfuel
  obtain ⟨verbose, names⟩ := mode
  cases verbose <;> rfl

theorem groupRest?_read {mode : Mode} {cs w : List Char} {c : Char} (fuel : Nat) (pending : Pending)
    (hskip : skip mode.verbose cs = c :: w) (hclose : c ≠ ')') (hopen : c ≠ '(') :
    groupRest? (fuel + 1) mode pending cs =
      (pending.read? mode.verbose (c :: w)).bind fun r => groupRest? fuel mode r.1 r.2 := by
  rw [groupRest?, hskip]
  split
  · contradiction
  · rename_i heq
    exact absurd (List.cons.inj heq).1 hclose
  · rename_i heq
    exact absurd (List.cons.inj heq).1 hopen
  · rfl

theorem groupRest?_vainBrace {mode : Mode} {cs : List Char} (fuel : Nat) (pending : Pending)
    (h : IsVainBrace mode.verbose cs) : groupRest? fuel mode pending cs = none := by
  obtain ⟨inside, rfl, hnumber⟩ := h
  cases fuel with
  | zero => rfl
  | succ fuel =>
    have hskip : skip mode.verbose ('\x7b' :: inside) = '\x7b' :: inside := by
      unfold skip
      split <;> rfl
    rw [groupRest?_read fuel pending hskip (by decide) (by decide)]
    simp [Pending.read?, Pending.item?, repetition?, bounds?, hnumber]

/-- A group that is open at the end of the text may take the parenthesis of the tail. -/
theorem agrees_openedRest? (ht : Tail t) {read₁ read₂ : GroupReader} (hstops₁ : read₁.Stops)
    (hstops₂ : read₂.Stops) (mode : Mode) (pending : Pending) (opening : Opening)
    (hread : ∀ mode pending r, r <:+ u →
      Agrees t t.length (read₁ mode pending r) (read₂ mode pending (r ++ t))) :
    Agrees t t.length (openedRest? read₁ mode pending u opening)
      (openedRest? read₂ mode pending (u ++ t) opening) := by
  cases opening with
  | directive f => exact hread _ _ u (List.suffix_refl u)
  | group f captures name =>
    simp only [openedRest?]
    split
    · exact .fails t _
    · refine (hread _ _ u (List.suffix_refl u)).bind_within (fun body r hbody => ?_) (fun body => ?_) ?_
      · obtain ⟨hr, rfl | ⟨behind, rfl⟩⟩ := hstops₁ hbody
        · cases ht with
          | nothing => exact .fails _ _
          | frame => exact .stuck fun b r h => Nat.lt_succ_of_le (hstops₂ h).1.length_le
        · exact hread _ _ behind ((List.suffix_cons _ _).trans hr)
      · exact .fails t _
      · intro body r b r' hlt h
        obtain ⟨behind, hbehind, h⟩ := Option.bind_eq_some_iff.1 h
        have hle := (hstops₂ h).1.length_le
        obtain rfl : r = ')' :: behind := closed?_eq hbehind
        rw [List.length_cons] at hlt
        omega

theorem agrees_openedRest?_nil {fuel₁ fuel₂ : Nat} (h₁ : 0 < fuel₁) (h₂ : 0 < fuel₂) (mode : Mode)
    (pending : Pending) (opening : Opening) :
    Agrees t bound (openedRest? (groupRest? fuel₁) mode pending [] opening)
      (openedRest? (groupRest? fuel₂) mode pending [] opening) := by
  cases opening with
  | directive f =>
    simp only [openedRest?, groupRest?_nil h₁, groupRest?_nil h₂]
    exact .swallowed t bound _
  | group f captures name =>
    simp only [openedRest?, groupRest?_nil h₁, groupRest?_nil h₂]
    split
    · exact .fails t bound
    · exact .fails t bound

theorem agrees_groupRest? (ht : Tail t) {fuel₁ fuel₂ : Nat} (mode : Mode) (pending : Pending)
    (h₁ : u.length < fuel₁) (h₂ : (u ++ t).length < fuel₂) :
    Agrees t t.length (groupRest? fuel₁ mode pending u)
      (groupRest? fuel₂ mode pending (u ++ t)) := by
  induction fuel₁ generalizing fuel₂ mode pending u with
  | zero => exact absurd h₁ (Nat.not_lt_zero _)
  | succ fuel₁ ih =>
    obtain ⟨fuel₂, rfl⟩ := Nat.exists_eq_add_one.2 (Nat.lt_of_le_of_lt (Nat.zero_le _) h₂)
    rcases skip_append ht mode.verbose u with hskip | ⟨hshort, hlong⟩
    · cases hw : skip mode.verbose u with
      | nil =>
        rw [hw] at hskip
        simp only [groupRest?, hskip, hw]
        cases ht <;> exact .same _ _ _ []
      | cons c w =>
        have hcons : c :: w <:+ u := hw ▸ skip_suffix mode.verbose u
        have hpos₁ : 0 < fuel₁ := by
          have := hcons.length_le
          rw [List.length_cons] at this
          omega
        have hpos₂ : 0 < fuel₂ := by
          have := length_append_le hcons t
          rw [List.cons_append, List.length_cons] at this
          omega
        have hih (mode : Mode) (pending : Pending) (r : List Char) (hr : r <:+ w) :
            Agrees t t.length (groupRest? fuel₁ mode pending r)
              (groupRest? fuel₂ mode pending (r ++ t)) := by
          have hlt := length_append_lt hcons hr [] (by rwa [List.append_nil])
          rw [List.append_nil] at hlt
          exact ih mode pending hlt (length_append_lt hcons hr t h₂)
        rw [hw, List.cons_append] at hskip
        by_cases hclose : c = ')'
        · subst hclose
          simp only [groupRest?, hskip, hw]
          exact .same t _ _ (')' :: w)
        · by_cases hopen : c = '('
          · subst hopen
            simp only [groupRest?, hskip, hw]
            refine (agrees_opening? ht mode.verbose w).bind_within (fun opening r hr => ?_) ?_ ?_
            · have hr := opening?_suffix hr
              exact agrees_openedRest? ht (groupRest?_stops fuel₁) (groupRest?_stops fuel₂) mode pending
                opening fun mode pending r' hr' => hih mode pending r' (hr'.trans hr)
            · exact agrees_openedRest?_nil hpos₁ hpos₂ mode pending
            · intro opening r b r' hlt h
              exact (openedRest?_stops (groupRest?_stops fuel₂) h).1.length_le.trans_lt hlt
          · rw [groupRest?_read fuel₁ pending hw hclose hopen,
              groupRest?_read fuel₂ pending hskip hclose hopen]
            rcases agrees_read? ht pending mode.verbose c w with hread | ⟨h, p, r, hr, hvain⟩
            · refine hread.bind_within (fun p r hr => hih mode p r (read?_suffix hr)) (fun p => ?_) ?_
              · rw [groupRest?_nil hpos₁, groupRest?_nil hpos₂]
                exact .swallowed t _ _
              · intro p r b r' hlt h
                exact (groupRest?_stops fuel₂ h).1.length_le.trans_lt hlt
            · rw [h, hr]
              simp [groupRest?_vainBrace fuel₂ p hvain, Agrees.fails]
    · simp only [groupRest?, hshort, hlong]
      exact .swallowed t _ _

end Alerting.Pattern
