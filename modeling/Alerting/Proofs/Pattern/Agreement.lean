import Alerting.Proofs.Pattern.Suffix

/-!
# Readers and what stands behind

A pattern is put in front of the end of its frame. A reader that comes to its own end before does not
notice. Otherwise it has run out of text, or it was about to skip a comment; then the frame gives it
more to read, and the parenthesis that should close the frame is gone.
-/

namespace Alerting.Pattern

open Text

/-- What stands behind a text: nothing, or the end of the frame. -/
inductive Tail : List Char → Prop
  | nothing : Tail []
  | frame : Tail [')', '$']

variable {α β : Type} {t u : List Char} {bound : Nat}

/-- A reader leaves the tail alone, skips all of it in a comment, or fails without it and reaches
into it. -/
def Agrees (t : List Char) (bound : Nat) (short long : Option (α × List Char)) : Prop :=
  (∃ a r, short = some (a, r) ∧ long = some (a, r ++ t)) ∨
  (∃ a, short = some (a, []) ∧ long = some (a, [])) ∨
  (short = none ∧ ∀ b r, long = some (b, r) → r.length < bound)

namespace Agrees

variable {short long : Option (α × List Char)}

theorem same (t : List Char) (bound : Nat) (a : α) (r : List Char) :
    Agrees t bound (some (a, r)) (some (a, r ++ t)) :=
  .inl ⟨a, r, rfl, rfl⟩

theorem swallowed (t : List Char) (bound : Nat) (a : α) :
    Agrees t bound (some (a, [])) (some (a, [])) :=
  .inr (.inl ⟨a, rfl, rfl⟩)

theorem stuck (h : ∀ b r, long = some (b, r) → r.length < bound) : Agrees t bound none long :=
  .inr (.inr ⟨rfl, h⟩)

theorem fails (t : List Char) (bound : Nat) : Agrees t bound (none : Option (α × List Char)) none :=
  stuck nofun

theorem mono {bound' : Nat} (h : Agrees t bound short long) (hle : bound ≤ bound') :
    Agrees t bound' short long := by
  rcases h with h | h | ⟨h, hlong⟩
  · exact .inl h
  · exact .inr (.inl h)
  · exact .inr (.inr ⟨h, fun b r hr => (hlong b r hr).trans_le hle⟩)

theorem of_nil {o : Option (α × List Char)} (h : ∀ a r, o = some (a, r) → r <:+ []) :
    Agrees t bound o o := by
  cases o with
  | none => exact fails t bound
  | some x =>
    obtain ⟨a, r⟩ := x
    obtain rfl := List.suffix_nil.1 (h a r rfl)
    exact swallowed t bound a

theorem map (f : α → β) (h : Agrees t bound short long) :
    Agrees t bound (short.map fun x => (f x.1, x.2)) (long.map fun x => (f x.1, x.2)) := by
  rcases h with ⟨a, r, rfl, rfl⟩ | ⟨a, rfl, rfl⟩ | ⟨rfl, hlong⟩
  · exact same t bound (f a) r
  · exact swallowed t bound (f a)
  · refine stuck fun b r hmap => ?_
    obtain ⟨⟨a, r'⟩, hx, heq⟩ := Option.map_eq_some_iff.1 hmap
    obtain ⟨-, rfl⟩ := Prod.mk.inj heq
    exact hlong a r' hx

theorem bind_within {bound' : Nat} {k k' : α × List Char → Option (β × List Char)}
    (h : Agrees t bound short long)
    (hk : ∀ a r, short = some (a, r) → Agrees t bound' (k (a, r)) (k' (a, r ++ t)))
    (hnil : ∀ a, Agrees t bound' (k (a, [])) (k' (a, [])))
    (hlost : ∀ {a r b r'}, r.length < bound → k' (a, r) = some (b, r') → r'.length < bound') :
    Agrees t bound' (short.bind k) (long.bind k') := by
  rcases h with ⟨a, r, rfl, rfl⟩ | ⟨a, rfl, rfl⟩ | ⟨rfl, hlong⟩
  · exact hk a r rfl
  · exact hnil a
  · refine stuck fun b r hbind => ?_
    obtain ⟨⟨a, r'⟩, hx, hr⟩ := Option.bind_eq_some_iff.1 hbind
    exact hlost (hlong a r' hx) hr

theorem bind {k : α × List Char → Option (β × List Char)} (h : Agrees t bound short long)
    (hk : ∀ a r, Agrees t bound (k (a, r)) (k (a, r ++ t)))
    (hsuffix : ∀ {a r b r'}, k (a, r) = some (b, r') → r' <:+ r) :
    Agrees t bound (short.bind k) (long.bind k) :=
  h.bind_within (fun a r _ => hk a r) (fun _ => of_nil fun _ _ hr => hsuffix hr)
    fun hlt hr => Nat.lt_of_le_of_lt (hsuffix hr).length_le hlt

theorem bind_exact {k : α × List Char → Option (β × List Char)} (h : Agrees t 0 short long)
    (hk : ∀ a r, Agrees t bound (k (a, r)) (k (a, r ++ t)))
    (hnil : ∀ a, Agrees t bound (k (a, [])) (k (a, []))) :
    Agrees t bound (short.bind k) (long.bind k) :=
  h.bind_within (fun a r _ => hk a r) hnil fun hlt => absurd hlt (Nat.not_lt_zero _)

end Agrees

/-! ## Blanks and comments -/

theorem skipVerbose_append (ht : Tail t) (comment : Bool) (u : List Char) :
    skipVerbose comment (u ++ t) = skipVerbose comment u ++ t ∨
      skipVerbose comment u = [] ∧ skipVerbose comment (u ++ t) = [] := by
  induction u generalizing comment with
  | nil =>
    cases ht with
    | nothing => exact .inl rfl
    | frame =>
      cases comment with
      | true => exact .inr ⟨rfl, by decide⟩
      | false => exact .inl (by decide)
  | cons c u ih =>
    simp only [List.cons_append, skipVerbose]
    split
    · exact ih _
    · split
      · exact ih _
      · split
        · exact ih _
        · exact .inl rfl

theorem skip_append (ht : Tail t) (verbose : Bool) (u : List Char) :
    skip verbose (u ++ t) = skip verbose u ++ t ∨
      skip verbose u = [] ∧ skip verbose (u ++ t) = [] := by
  unfold skip
  split
  · exact skipVerbose_append ht false u
  · exact .inl rfl

theorem Agrees.skip {f g : List Char → Option (α × List Char)} (ht : Tail t) (verbose : Bool)
    (u : List Char) (hfg : ∀ r, r <:+ u → Agrees t bound (f r) (g (r ++ t)))
    (hnil : Agrees t bound (f []) (g [])) :
    Agrees t bound (f (skip verbose u)) (g (skip verbose (u ++ t))) := by
  rcases skip_append ht verbose u with h | ⟨h₁, h₂⟩
  · rw [h]
    exact hfg _ (skip_suffix verbose u)
  · rw [h₁, h₂]
    exact hnil

theorem length_append_le {r : List Char} (hr : r <:+ u) (t : List Char) :
    (r ++ t).length ≤ (u ++ t).length := by
  rw [List.length_append, List.length_append]
  exact Nat.add_le_add_right hr.length_le _

theorem length_append_lt {c : Char} {w r : List Char} {fuel : Nat} (hcons : c :: w <:+ u)
    (hr : r <:+ w) (t : List Char) (h : (u ++ t).length < fuel + 1) : (r ++ t).length < fuel := by
  have hw := hcons.length_le
  have hr := hr.length_le
  rw [List.length_cons] at hw
  rw [List.length_append] at h ⊢
  omega

theorem while_append {p : Char → Bool} {c : Char} {r : List Char} (h : u.dropWhile p = c :: r)
    (t : List Char) :
    (u ++ t).takeWhile p = u.takeWhile p ∧ (u ++ t).dropWhile p = c :: (r ++ t) := by
  have hlength : (u.takeWhile p).length ≠ u.length := by
    have hu := congrArg List.length (List.takeWhile_append_dropWhile (p := p) (l := u))
    rw [h, List.length_append, List.length_cons] at hu
    omega
  rw [List.takeWhile_append, if_neg hlength, List.dropWhile_append, h]
  exact ⟨rfl, rfl⟩

/-! ## Numbers -/

theorem digitsThrough_nil (verbose : Bool) (fuel : Nat) : digitsThrough verbose fuel [] = ([], []) := by
  cases fuel <;> rfl

theorem digitsThrough_tail (ht : Tail t) (verbose : Bool) (fuel : Nat) :
    digitsThrough verbose fuel t = ([], t) := by
  cases ht with
  | nothing => exact digitsThrough_nil verbose fuel
  | frame => cases fuel <;> rfl

theorem agrees_digitsThrough (ht : Tail t) (verbose : Bool) {fuel₁ fuel₂ : Nat}
    (h₁ : u.length ≤ fuel₁) (h₂ : (u ++ t).length ≤ fuel₂) :
    Agrees t bound (some (digitsThrough verbose fuel₁ u))
      (some (digitsThrough verbose fuel₂ (u ++ t))) := by
  induction fuel₁ generalizing fuel₂ u with
  | zero =>
    obtain rfl := List.length_eq_zero_iff.1 (Nat.le_zero.1 h₁)
    rw [List.nil_append, digitsThrough_nil, digitsThrough_tail ht]
    exact .same t bound [] []
  | succ fuel₁ ih =>
    cases u with
    | nil =>
      rw [List.nil_append, digitsThrough_nil, digitsThrough_tail ht]
      exact .same t bound [] []
    | cons c u =>
      obtain ⟨fuel₂, rfl⟩ := Nat.exists_eq_add_one.2 (Nat.lt_of_lt_of_le (Nat.zero_lt_succ _) h₂)
      simp only [List.cons_append, List.length_cons, Nat.add_le_add_iff_right] at h₁ h₂
      simp only [List.cons_append, digitsThrough]
      split
      · have hrest : Agrees t bound (some (digitsThrough verbose fuel₁ (skip verbose u)))
            (some (digitsThrough verbose fuel₂ (skip verbose (u ++ t)))) := by
          refine .skip (f := fun r => some (digitsThrough verbose fuel₁ r))
            (g := fun r => some (digitsThrough verbose fuel₂ r)) ht verbose u (fun r hr => ih ?_ ?_) ?_
          · exact hr.length_le.trans h₁
          · exact (length_append_le hr t).trans h₂
          · rw [digitsThrough_nil, digitsThrough_nil]
            exact .swallowed t bound []
        exact hrest.map (c :: ·)
      · exact .same t bound [] (c :: u)

theorem blanksThrough_nil (verbose : Bool) (fuel : Nat) : blanksThrough verbose fuel [] = [] := by
  cases fuel <;> rfl

theorem blanksThrough_tail (ht : Tail t) (verbose : Bool) (fuel : Nat) :
    blanksThrough verbose fuel t = t := by
  cases ht with
  | nothing => exact blanksThrough_nil verbose fuel
  | frame => cases fuel <;> rfl

theorem agrees_blanksThrough (ht : Tail t) (verbose : Bool) (a : α) {fuel₁ fuel₂ : Nat}
    (h₁ : u.length ≤ fuel₁) (h₂ : (u ++ t).length ≤ fuel₂) :
    Agrees t bound (some (a, blanksThrough verbose fuel₁ u))
      (some (a, blanksThrough verbose fuel₂ (u ++ t))) := by
  induction fuel₁ generalizing fuel₂ u with
  | zero =>
    obtain rfl := List.length_eq_zero_iff.1 (Nat.le_zero.1 h₁)
    rw [List.nil_append, blanksThrough_nil, blanksThrough_tail ht]
    exact .same t bound a []
  | succ fuel₁ ih =>
    cases u with
    | nil =>
      rw [List.nil_append, blanksThrough_nil, blanksThrough_tail ht]
      exact .same t bound a []
    | cons c u =>
      obtain ⟨fuel₂, rfl⟩ := Nat.exists_eq_add_one.2 (Nat.lt_of_lt_of_le (Nat.zero_lt_succ _) h₂)
      simp only [List.cons_append, List.length_cons, Nat.add_le_add_iff_right] at h₁ h₂
      simp only [List.cons_append, blanksThrough]
      split
      · refine .skip (f := fun r => some (a, blanksThrough verbose fuel₁ r))
          (g := fun r => some (a, blanksThrough verbose fuel₂ r)) ht verbose u (fun r hr => ih ?_ ?_) ?_
        · exact hr.length_le.trans h₁
        · exact (length_append_le hr t).trans h₂
        · rw [blanksThrough_nil, blanksThrough_nil]
          exact .swallowed t bound a
      · exact .same t bound a (c :: u)

theorem trimFront_append (ht : Tail t) (u : List Char) : trimFront (u ++ t) = trimFront u ++ t := by
  unfold trimFront
  rw [List.dropWhile_append]
  split
  · rename_i hempty
    rw [List.isEmpty_iff.1 hempty]
    cases ht <;> rfl
  · rfl

theorem number?_eq (verbose : Bool) (cs : List Char) :
    number? verbose cs = (some (digitsThrough verbose cs.length (trimFront cs))).bind fun x =>
      if x.1 ≠ [] ∧ digitsValue x.1 < Nat.pow 2 32 then
        some (digitsValue x.1, blanksThrough verbose x.2.length x.2)
      else none := by
  unfold number?
  split
  · rename_i heq
    rw [heq]
    rfl
  · rename_i digits rest hne heq
    have hdigits : digits ≠ [] := fun h => hne h
    rw [heq]
    simp [hdigits]

theorem agrees_number? (ht : Tail t) (verbose : Bool) (u : List Char) :
    Agrees t bound (number? verbose u) (number? verbose (u ++ t)) := by
  rw [number?_eq, number?_eq, trimFront_append ht]
  have hdigits : Agrees t bound (some (digitsThrough verbose u.length (trimFront u)))
      (some (digitsThrough verbose (u ++ t).length (trimFront u ++ t))) := by
    have hsuffix := List.dropWhile_suffix (l := u) isBlank
    exact agrees_digitsThrough ht verbose hsuffix.length_le (length_append_le hsuffix t)
  refine hdigits.bind (fun digits r => ?_) ?_
  · dsimp only
    split
    · exact agrees_blanksThrough ht verbose _ (Nat.le_refl _) (Nat.le_refl _)
    · exact .fails t bound
  · intro a r b r' h
    dsimp only at h
    split at h
    · obtain ⟨-, rfl⟩ := Prod.mk.inj (Option.some.inj h)
      exact blanksThrough_suffix _ _
    · cases h

theorem agrees_closeBounds? (ht : Tail t) (low high : Nat) (u : List Char) :
    Agrees t bound (closeBounds? low high u) (closeBounds? low high (u ++ t)) := by
  cases u with
  | nil => cases ht <;> exact .fails _ bound
  | cons c u =>
    by_cases hc : c = '\x7d'
    · subst hc
      simp only [List.cons_append, closeBounds?]
      split
      · exact .same t bound _ u
      · exact .fails t bound
    · simpa [closeBounds?, hc] using Agrees.fails t bound

theorem agrees_upper? (ht : Tail t) (verbose : Bool) (low : Nat) (u : List Char) :
    Agrees t bound (upper? verbose low u) (upper? verbose low (u ++ t)) := by
  cases u with
  | nil => cases ht <;> exact .fails _ bound
  | cons c u =>
    by_cases hc : c = '\x7d'
    · subst hc
      exact .same t bound _ u
    · have hhigh := (agrees_number? ht verbose (c :: u)).bind_exact
        (k := fun r => closeBounds? low r.1 r.2)
        (fun high r => agrees_closeBounds? ht low high r) fun _ => .fails t bound
      simpa [upper?, hc] using hhigh

theorem agrees_bounds? (ht : Tail t) (verbose : Bool) (u : List Char) :
    Agrees t bound (bounds? verbose u) (bounds? verbose (u ++ t)) := by
  have hlow : Agrees t 0 (number? verbose (skip verbose u)) (number? verbose (skip verbose (u ++ t))) :=
    .skip ht verbose u (fun r _ => agrees_number? ht verbose r) (.fails t 0)
  refine hlow.bind_exact (fun low r => ?_) fun _ => .fails t bound
  cases r with
  | nil => cases ht <;> exact .fails _ bound
  | cons c r =>
    by_cases hbrace : c = '\x7d'
    · subst hbrace
      exact .same t bound _ r
    · by_cases hcomma : c = ','
      · subst hcomma
        exact .skip ht verbose r (fun r _ => agrees_upper? ht verbose low r) (.fails t bound)
      · simpa [hbrace, hcomma] using Agrees.fails t bound

end Alerting.Pattern
