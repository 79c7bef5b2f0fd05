import Alerting.Pattern.Regex
import Alerting.Proofs.Pattern.Groups

/-!
# What was read before

Whether a pattern settles depends on what was read of a group in one way only, by the flags behind it.
What follows is read as it is behind anything else that can be repeated as well.
-/

namespace Alerting.Pattern

/-- The flags behind an expression that settles. -/
def Expr.flagsBehind? (e : Expr) (flags : Flags) : Option Flags := (e.settle? flags).map (·.2)

/-- The flags behind expressions one after another. -/
def flagsThrough? (es : List Expr) (flags : Flags) : Option Flags :=
  es.foldlM (fun flags e => e.flagsBehind? flags) flags

theorem flagsThrough?_cons (e : Expr) (es : List Expr) (flags : Flags) :
    flagsThrough? (e :: es) flags = (e.flagsBehind? flags).bind (flagsThrough? es) :=
  List.foldlM_cons

theorem flagsThrough?_append (es es' : List Expr) (flags : Flags) :
    flagsThrough? (es ++ es') flags = (flagsThrough? es flags).bind (flagsThrough? es') :=
  List.foldlM_append

theorem flagsThrough?_singleton (e : Expr) (flags : Flags) :
    flagsThrough? [e] flags = e.flagsBehind? flags := by
  simp [flagsThrough?]

theorem flagsBehind?_cat (e₁ e₂ : Expr) (flags : Flags) :
    (Expr.cat e₁ e₂).flagsBehind? flags = (e₁.flagsBehind? flags).bind e₂.flagsBehind? := by
  unfold Expr.flagsBehind?
  simp only [Expr.settle?]
  cases e₁.settle? flags with
  | none => rfl
  | some r => cases h : e₂.settle? r.2 <;> simp [h]

theorem flagsBehind?_or (e₁ e₂ : Expr) (flags : Flags) :
    (Expr.or e₁ e₂).flagsBehind? flags = (e₁.flagsBehind? flags).bind e₂.flagsBehind? := by
  unfold Expr.flagsBehind?
  simp only [Expr.settle?]
  cases e₁.settle? flags with
  | none => rfl
  | some r => cases h : e₂.settle? r.2 <;> simp [h]

theorem flagsBehind?_repeated (low : Nat) (high : Option Nat) (e : Expr) (flags : Flags) :
    (Expr.repeated low high e).flagsBehind? flags = e.flagsBehind? flags := by
  unfold Expr.flagsBehind?
  simp only [Expr.settle?]
  cases e.settle? flags <;> rfl

theorem flagsBehind?_ofSequence (es : List Expr) (flags : Flags) :
    (Expr.ofSequence es).flagsBehind? flags = flagsThrough? es flags := by
  induction es generalizing flags with
  | nil => rfl
  | cons e es ih =>
    cases es with
    | nil => exact (flagsThrough?_singleton e flags).symm
    | cons e' es =>
      rw [Expr.ofSequence, flagsBehind?_cat, flagsThrough?_cons]
      · exact congrArg _ (funext ih)
      · exact nofun

theorem flagsBehind?_ofAlternatives (es : List Expr) (last : Expr) (flags : Flags) :
    (Expr.ofAlternatives es last).flagsBehind? flags = flagsThrough? (es ++ [last]) flags := by
  induction es generalizing flags with
  | nil => exact (flagsThrough?_singleton last flags).symm
  | cons e es ih =>
    rw [Expr.ofAlternatives, flagsBehind?_or, List.cons_append, flagsThrough?_cons]
    exact congrArg _ (funext ih)

/-! ## What was read of a group -/

namespace Pending

def flags? (p : Pending) (flags : Flags) : Option Flags :=
  flagsThrough? (p.alternatives.reverse ++ p.items.reverse) flags

def isRepeatable (p : Pending) : Bool := p.items.head?.any (!·.isUnrepeatable)

theorem close_flags (p : Pending) (flags : Flags) : p.close.flagsBehind? flags = p.flags? flags := by
  rw [close, flagsBehind?_ofAlternatives, flagsThrough?_append, flags?, flagsThrough?_append]
  refine congrArg _ (funext fun flags => ?_)
  rw [flagsThrough?_singleton, flagsBehind?_ofSequence]

theorem push_flags (p : Pending) (e : Expr) (flags : Flags) :
    (p.push e).flags? flags = (p.flags? flags).bind e.flagsBehind? := by
  rw [flags?, push, List.reverse_cons, ← List.append_assoc, flagsThrough?_append, flags?]
  exact congrArg _ (funext fun flags => flagsThrough?_singleton e flags)

theorem next_flags (p : Pending) (flags : Flags) : p.next.flags? flags = p.flags? flags := by
  rw [flags?, next, List.reverse_cons, List.reverse_nil, List.append_nil, flagsThrough?_append, flags?,
    flagsThrough?_append]
  refine congrArg _ (funext fun flags => ?_)
  rw [flagsThrough?_singleton, flagsBehind?_ofSequence]

theorem repeat?_eq_none (p : Pending) (low : Nat) (high : Option Nat) :
    p.repeat? low high = none ↔ p.isRepeatable = false := by
  obtain ⟨alternatives, _ | ⟨e, items⟩⟩ := p
  · exact ⟨fun _ => rfl, fun _ => rfl⟩
  · cases he : e.isUnrepeatable <;> simp [repeat?, isRepeatable, he]

theorem repeat?_flags {p p' : Pending} {low : Nat} {high : Option Nat}
    (h : p.repeat? low high = some p') (flags : Flags) :
    p'.flags? flags = p.flags? flags ∧ p'.isRepeatable = true := by
  obtain ⟨alternatives, _ | ⟨e, items⟩⟩ := p
  · cases h
  · simp only [repeat?] at h
    split at h
    · cases h
    · obtain rfl := Option.some.inj h
      refine ⟨?_, rfl⟩
      have hrepeated := push_flags ⟨alternatives, items⟩ (.repeated low high e) flags
      have hplain := push_flags ⟨alternatives, items⟩ e flags
      rw [push] at hrepeated hplain
      rw [hrepeated, hplain]
      exact congrArg _ (funext fun flags => flagsBehind?_repeated low high e flags)

end Pending

/-- The flags go on in the same way from those before, if there were any. -/
def GoOn (before before' after after' : Option Flags) : Prop :=
  ∃ f, after = before.bind f ∧ after' = before'.bind f

theorem GoOn.bind {before before' after after' : Option Flags} (h : GoOn before before' after after')
    (f : Flags → Option Flags) : GoOn before before' (after.bind f) (after'.bind f) := by
  obtain ⟨g, rfl, rfl⟩ := h
  exact ⟨fun flags => (g flags).bind f, Option.bind_assoc _ _ _, Option.bind_assoc _ _ _⟩

namespace Pending

/-- Reading goes on in the same way behind either. -/
structure Alike (flags : Flags) (before before' : Option Flags) (p q : Pending) : Prop where
  flags_goOn : GoOn before before' (p.flags? flags) (q.flags? flags)
  isRepeatable_eq : p.isRepeatable = q.isRepeatable

namespace Alike

variable {flags : Flags} {before before' : Option Flags} {p q : Pending}

theorem push (h : Alike flags before before' p q) (e : Expr) :
    Alike flags before before' (p.push e) (q.push e) := by
  refine ⟨?_, rfl⟩
  rw [push_flags, push_flags]
  exact h.flags_goOn.bind e.flagsBehind?

theorem next (h : Alike flags before before' p q) : Alike flags before before' p.next q.next := by
  refine ⟨?_, rfl⟩
  rw [next_flags, next_flags]
  exact h.flags_goOn

theorem repeat? (h : Alike flags before before' p q) (low : Nat) (high : Option Nat) :
    p.repeat? low high = none ∧ q.repeat? low high = none ∨
      ∃ p' q', p.repeat? low high = some p' ∧ q.repeat? low high = some q' ∧
        Alike flags before before' p' q' := by
  cases hp : p.repeat? low high with
  | none =>
    have hq := (repeat?_eq_none p low high).1 hp
    rw [h.isRepeatable_eq, ← repeat?_eq_none q low high] at hq
    exact .inl ⟨rfl, hq⟩
  | some p' =>
    have hq : q.repeat? low high ≠ none := by
      rw [Ne, repeat?_eq_none, ← h.isRepeatable_eq, ← repeat?_eq_none p low high, hp]
      exact nofun
    obtain ⟨q', hq⟩ := Option.ne_none_iff_exists'.1 hq
    obtain ⟨hpflags, hprepeatable⟩ := repeat?_flags hp flags
    obtain ⟨hqflags, hqrepeatable⟩ := repeat?_flags hq flags
    refine .inr ⟨p', q', rfl, hq, ?_, hprepeatable.trans hqrepeatable.symm⟩
    rw [hpflags, hqflags]
    exact h.flags_goOn

theorem item? (h : Alike flags before before' p q) (verbose : Bool) (cs : List Char) :
    p.item? verbose cs = none ∧ q.item? verbose cs = none ∨
      ∃ p' q' rest, p.item? verbose cs = some (p', rest) ∧ q.item? verbose cs = some (q', rest) ∧
        Alike flags before before' p' q' := by
  unfold Pending.item?
  cases repetition? verbose cs with
  | none =>
    cases atom? verbose cs with
    | none => exact .inl ⟨rfl, rfl⟩
    | some atom => exact .inr ⟨_, _, atom.2, rfl, rfl, h.push atom.1⟩
  | some bounds =>
    cases bounds with
    | none => exact .inl ⟨rfl, rfl⟩
    | some bounds =>
      simp only [Option.bind_some]
      rcases h.repeat? bounds.1.1 bounds.1.2 with ⟨hp, hq⟩ | ⟨p', q', hp, hq, h'⟩
      · rw [hp, hq]
        exact .inl ⟨rfl, rfl⟩
      · rw [hp, hq]
        exact .inr ⟨p', q', bounds.2, rfl, rfl, h'⟩

theorem read? (h : Alike flags before before' p q) (verbose : Bool) (c : Char) (cs : List Char) :
    p.read? verbose (c :: cs) = none ∧ q.read? verbose (c :: cs) = none ∨
      ∃ p' q' rest, p.read? verbose (c :: cs) = some (p', rest) ∧
        q.read? verbose (c :: cs) = some (q', rest) ∧ Alike flags before before' p' q' := by
  simp only [Pending.read?]
  split
  · exact .inr ⟨_, _, cs, rfl, rfl, h.next⟩
  · split
    · cases class? verbose cs with
      | none => exact .inl ⟨rfl, rfl⟩
      | some set => exact .inr ⟨_, _, set.2, rfl, rfl, h.push (.set set.1)⟩
    · exact h.item? verbose (c :: cs)

end Alike

end Pending

/-! ## The rest of a group -/

/-- Two readings come to the same, and their flags go on in the same way. -/
def SameBehind (flags : Flags) (before before' : Option Flags)
    (one other : Option ((Expr × Mode) × List Char)) : Prop :=
  one = none ∧ other = none ∨
    ∃ e e' mode rest, one = some ((e, mode), rest) ∧ other = some ((e', mode), rest) ∧
      GoOn before before' (e.flagsBehind? flags) (e'.flagsBehind? flags)

/-- What is read behind what is alike comes to the same. -/
def GroupReader.Continues (flags : Flags) (before before' : Option Flags) (read : GroupReader) : Prop :=
  ∀ mode p q cs, Pending.Alike flags before before' p q →
    SameBehind flags before before' (read mode p cs) (read mode q cs)

variable {flags : Flags} {before before' : Option Flags} {p q : Pending}

theorem openedRest?_continues {read : GroupReader} (hread : read.Continues flags before before')
    (h : Pending.Alike flags before before' p q) (mode : Mode) (cs : List Char) (opening : Opening) :
    SameBehind flags before before' (openedRest? read mode p cs opening)
      (openedRest? read mode q cs opening) := by
  cases opening with
  | directive f => exact hread _ _ _ cs (h.push (.flags f))
  | group f captures name =>
    simp only [openedRest?]
    split
    · exact .inl ⟨rfl, rfl⟩
    · cases read ⟨f.apply .verbose mode.verbose, name.toList ++ mode.names⟩ .start cs with
      | none => exact .inl ⟨rfl, rfl⟩
      | some body =>
        simp only [Option.bind_some]
        cases closed? body.2 with
        | none => exact .inl ⟨rfl, rfl⟩
        | some rest => exact hread _ _ _ rest (h.push _)

theorem groupRest?_continues (flags : Flags) (before before' : Option Flags) (fuel : Nat) :
    GroupReader.Continues flags before before' (groupRest? fuel) := by
  induction fuel with
  | zero => exact fun _ _ _ _ _ => .inl ⟨rfl, rfl⟩
  | succ fuel ih =>
    intro mode p q cs h
    have hclose (rest : List Char) : SameBehind flags before before' (some ((p.close, mode), rest))
        (some ((q.close, mode), rest)) := by
      refine .inr ⟨_, _, mode, rest, rfl, rfl, ?_⟩
      rw [Pending.close_flags, Pending.close_flags]
      exact h.flags_goOn
    cases hw : skip mode.verbose cs with
    | nil =>
      simp only [groupRest?, hw]
      exact hclose []
    | cons c w =>
      by_cases hend : c = ')'
      · subst hend
        simp only [groupRest?, hw]
        exact hclose (')' :: w)
      · by_cases hopen : c = '('
        · subst hopen
          simp only [groupRest?, hw]
          cases opening? mode.verbose w with
          | none => exact .inl ⟨rfl, rfl⟩
          | some opening => exact openedRest?_continues ih h mode opening.2 opening.1
        · rw [groupRest?_read fuel p hw hend hopen, groupRest?_read fuel q hw hend hopen]
          rcases h.read? mode.verbose c w with ⟨hp, hq⟩ | ⟨p', q', rest, hp, hq, h'⟩
          · rw [hp, hq]
            exact .inl ⟨rfl, rfl⟩
          · rw [hp, hq]
            exact ih mode p' q' rest h'

end Alerting.Pattern
