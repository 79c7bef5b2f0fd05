import Alerting.Pattern.Compiled

/-!
# Bounds of repetitions

A repetition is read only if its lower bound is not above its upper one, so the same goes for every
expression that is read, and for what it settles to.
-/

namespace Alerting.Pattern

variable {cs : List Char} {p : Pending}

def BoundsOrdered (bounds : Nat × Option Nat) : Prop := ∀ high ∈ bounds.2, bounds.1 ≤ high

def Expr.Ordered : Expr → Prop
  | .group _ _ e => e.Ordered
  | .cat e₁ e₂ => e₁.Ordered ∧ e₂.Ordered
  | .or e₁ e₂ => e₁.Ordered ∧ e₂.Ordered
  | .repeated low high e => BoundsOrdered (low, high) ∧ e.Ordered
  | _ => True

def Regex.Ordered : Regex → Prop
  | .capture r => r.Ordered
  | .cat r₁ r₂ => r₁.Ordered ∧ r₂.Ordered
  | .or r₁ r₂ => r₁.Ordered ∧ r₂.Ordered
  | .repeated low high r => BoundsOrdered (low, high) ∧ r.Ordered
  | _ => True

/-! ## Bounds as they are written -/

theorem closeBounds?_ordered {low high : Nat} {r : (Nat × Option Nat) × List Char}
    (h : closeBounds? low high cs = some r) : BoundsOrdered r.1 := by
  unfold closeBounds? at h
  split at h
  · split at h
    · rename_i hle
      obtain rfl := Option.some.inj h
      simpa [BoundsOrdered] using hle
    · cases h
  · cases h

theorem upper?_ordered {verbose : Bool} {low : Nat} {r : (Nat × Option Nat) × List Char}
    (h : upper? verbose low cs = some r) : BoundsOrdered r.1 := by
  unfold upper? at h
  split at h
  · obtain rfl := Option.some.inj h
    exact nofun
  · obtain ⟨high, -, h⟩ := Option.bind_eq_some_iff.1 h
    exact closeBounds?_ordered h

theorem bounds?_ordered {verbose : Bool} {r : (Nat × Option Nat) × List Char}
    (h : bounds? verbose cs = some r) : BoundsOrdered r.1 := by
  obtain ⟨⟨low, cs⟩, -, h⟩ := Option.bind_eq_some_iff.1 h
  dsimp only at h
  split at h
  · obtain rfl := Option.some.inj h
    simp [BoundsOrdered]
  · exact upper?_ordered h
  · cases h

theorem repetition?_ordered {verbose : Bool} {r : (Nat × Option Nat) × List Char}
    (h : repetition? verbose cs = some (some r)) : BoundsOrdered r.1 := by
  unfold repetition? at h
  split at h
  · obtain rfl := Option.some.inj (Option.some.inj h)
    simp [BoundsOrdered]
  · obtain rfl := Option.some.inj (Option.some.inj h)
    exact nofun
  · obtain rfl := Option.some.inj (Option.some.inj h)
    exact nofun
  · obtain ⟨bounds, hbounds, rfl⟩ := Option.map_eq_some_iff.1 (Option.some.inj h)
    exact bounds?_ordered (r := bounds) hbounds
  · cases h

/-! ## What was read of a group -/

theorem ordered_ofSequence {es : List Expr} (h : ∀ e ∈ es, e.Ordered) :
    (Expr.ofSequence es).Ordered := by
  induction es with
  | nil => trivial
  | cons e es ih =>
    obtain ⟨he, hes⟩ := List.forall_mem_cons.1 h
    cases es with
    | nil => exact he
    | cons e' es => exact ⟨he, ih hes⟩

theorem ordered_ofAlternatives {es : List Expr} {last : Expr} (h : ∀ e ∈ es, e.Ordered)
    (hlast : last.Ordered) : (Expr.ofAlternatives es last).Ordered := by
  induction es with
  | nil => exact hlast
  | cons e es ih =>
    obtain ⟨he, hes⟩ := List.forall_mem_cons.1 h
    exact ⟨he, ih hes⟩

namespace Pending

structure Ordered (p : Pending) : Prop where
  alternatives : ∀ e ∈ p.alternatives, e.Ordered
  items : ∀ e ∈ p.items, e.Ordered

namespace Ordered

theorem start : Pending.start.Ordered := ⟨nofun, nofun⟩

theorem push (h : p.Ordered) {e : Expr} (he : e.Ordered) : (p.push e).Ordered :=
  ⟨h.alternatives, List.forall_mem_cons.2 ⟨he, h.items⟩⟩

theorem sequence (h : p.Ordered) : (Expr.ofSequence p.items.reverse).Ordered :=
  ordered_ofSequence fun e he => h.items e (List.mem_reverse.1 he)

theorem next (h : p.Ordered) : p.next.Ordered :=
  ⟨List.forall_mem_cons.2 ⟨h.sequence, h.alternatives⟩, nofun⟩

theorem close (h : p.Ordered) : p.close.Ordered :=
  ordered_ofAlternatives (fun e he => h.alternatives e (List.mem_reverse.1 he)) h.sequence

theorem repeat? (h : p.Ordered) {low : Nat} {high : Option Nat} {p' : Pending}
    (hbounds : BoundsOrdered (low, high)) (hp : p.repeat? low high = some p') : p'.Ordered := by
  obtain ⟨alternatives, _ | ⟨e, items⟩⟩ := p
  · cases hp
  · simp only [Pending.repeat?] at hp
    split at hp
    · cases hp
    · obtain rfl := Option.some.inj hp
      obtain ⟨he, hitems⟩ := List.forall_mem_cons.1 h.items
      exact ⟨h.alternatives, List.forall_mem_cons.2 ⟨⟨hbounds, he⟩, hitems⟩⟩

end Ordered

end Pending

theorem atom?_ordered {verbose : Bool} {atom : Expr × List Char} (h : atom? verbose cs = some atom) :
    atom.1.Ordered := by
  unfold atom? at h
  split at h
  · cases h
  · split at h
    · obtain ⟨⟨e, rest⟩, -, rfl⟩ := Option.map_eq_some_iff.1 h
      cases e <;> trivial
    · repeat' split at h
      all_goals
        obtain rfl := Option.some.inj h
        trivial

namespace Pending.Ordered

theorem item? (h : p.Ordered) {verbose : Bool} {r : Pending × List Char}
    (hr : p.item? verbose cs = some r) : r.1.Ordered := by
  unfold Pending.item? at hr
  split at hr
  · rename_i bounds hbounds
    obtain ⟨bounds, rfl, hr⟩ := Option.bind_eq_some_iff.1 hr
    obtain ⟨p', hp', rfl⟩ := Option.map_eq_some_iff.1 hr
    exact h.repeat? (repetition?_ordered hbounds) hp'
  · obtain ⟨atom, hatom, rfl⟩ := Option.map_eq_some_iff.1 hr
    exact h.push (atom?_ordered hatom)

theorem read? (h : p.Ordered) {verbose : Bool} {r : Pending × List Char}
    (hr : p.read? verbose cs = some r) : r.1.Ordered := by
  unfold Pending.read? at hr
  split at hr
  · cases hr
  · split at hr
    · obtain rfl := Option.some.inj hr
      exact h.next
    · split at hr
      · obtain ⟨set, -, rfl⟩ := Option.map_eq_some_iff.1 hr
        exact h.push trivial
      · exact h.item? hr

end Pending.Ordered

/-! ## The rest of a group -/

/-- What is read behind ordered bounds has its bounds ordered, too. -/
def GroupReader.KeepsOrder (read : GroupReader) : Prop :=
  ∀ mode pending cs r, pending.Ordered → read mode pending cs = some r → r.1.1.Ordered

theorem openedRest?_ordered {read : GroupReader} (hread : read.KeepsOrder) {mode : Mode}
    {opening : Opening} {r : (Expr × Mode) × List Char} (hp : p.Ordered)
    (h : openedRest? read mode p cs opening = some r) : r.1.1.Ordered := by
  cases opening with
  | directive f => exact hread _ (p.push (.flags f)) cs r (hp.push trivial) h
  | group f captures name =>
    simp only [openedRest?] at h
    split at h
    · cases h
    · obtain ⟨body, hbody, h⟩ := Option.bind_eq_some_iff.1 h
      obtain ⟨rest, -, h⟩ := Option.bind_eq_some_iff.1 h
      have he : body.1.1.Ordered := hread _ _ _ body .start hbody
      exact hread _ (p.push (.group f captures body.1.1)) rest r (hp.push he) h

theorem groupRest?_keepsOrder (fuel : Nat) : GroupReader.KeepsOrder (groupRest? fuel) := by
  induction fuel with
  | zero => exact fun _ _ _ _ _ h => by cases h
  | succ fuel ih =>
    intro mode pending cs r hp h
    rw [groupRest?] at h
    split at h
    · rw [← Option.some.inj h]
      exact hp.close
    · rw [← Option.some.inj h]
      exact hp.close
    · obtain ⟨opening, -, h⟩ := Option.bind_eq_some_iff.1 h
      exact openedRest?_ordered ih hp h
    · obtain ⟨r', hr', h⟩ := Option.bind_eq_some_iff.1 h
      exact ih _ _ _ _ (hp.read? hr') h

/-! ## Settling -/

theorem Literal.settle?_ordered {flags : Flags} {l : Literal} {r : Regex}
    (h : l.settle? flags = some r) : r.Ordered := by
  simp only [Literal.settle?] at h
  repeat' split at h
  all_goals
    cases h
    try trivial

theorem settle?_ordered {e : Expr} {flags : Flags} {r : Regex × Flags} (he : e.Ordered)
    (h : e.settle? flags = some r) : r.1.Ordered := by
  induction e generalizing flags r with
  | empty | anchor _ | flags _ =>
    obtain rfl := Option.some.inj h
    trivial
  | char c =>
    obtain ⟨r, hr, rfl⟩ := Option.map_eq_some_iff.1 h
    exact Literal.settle?_ordered hr
  | dot =>
    simp only [Expr.settle?] at h
    split at h
    · obtain rfl := Option.some.inj h
      trivial
    · cases h
  | set s =>
    obtain ⟨s, -, rfl⟩ := Option.map_eq_some_iff.1 h
    trivial
  | group f captures e ih =>
    obtain ⟨r, hr, h⟩ := Option.bind_eq_some_iff.1 h
    obtain rfl := Option.some.inj h
    have hbody : r.1.Ordered := ih he hr
    cases captures <;> exact hbody
  | cat e₁ e₂ ih₁ ih₂ | or e₁ e₂ ih₁ ih₂ =>
    obtain ⟨r₁, h₁, h⟩ := Option.bind_eq_some_iff.1 h
    obtain ⟨r₂, h₂, h⟩ := Option.bind_eq_some_iff.1 h
    obtain rfl := Option.some.inj h
    exact ⟨ih₁ he.1 h₁, ih₂ he.2 h₂⟩
  | repeated low high e ih =>
    obtain ⟨r, hr, h⟩ := Option.bind_eq_some_iff.1 h
    obtain rfl := Option.some.inj h
    exact ⟨he.1, ih he.2 hr⟩

theorem ofChars_ordered {r : Regex} (h : Regex.ofChars cs = .ok r) : r.Ordered := by
  obtain ⟨e, flags, he, hsettle, -⟩ := Regex.ofChars_eq_ok_iff.1 h
  obtain ⟨⟨mode, hreading⟩, -⟩ := Expr.ofChars?_eq_some_iff.1 he
  have hordered : e.Ordered := groupRest?_keepsOrder _ _ _ _ _ .start hreading
  exact settle?_ordered hordered hsettle

end Alerting.Pattern
