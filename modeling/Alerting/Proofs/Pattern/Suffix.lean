import Alerting.Pattern.Parser
import Mathlib.Data.List.Infix

/-!
# What readers leave

Whatever reads a part of a pattern leaves an end of it.
-/

namespace Alerting.Pattern

open Text

variable {verbose : Bool} {cs rest : List Char}

theorem skipVerbose_suffix (comment : Bool) (cs : List Char) : skipVerbose comment cs <:+ cs := by
  induction cs generalizing comment with
  | nil => exact List.suffix_refl []
  | cons c cs ih =>
    unfold skipVerbose
    split
    · exact (ih _).trans (List.suffix_cons c cs)
    · split
      · exact (ih _).trans (List.suffix_cons c cs)
      · split
        · exact (ih _).trans (List.suffix_cons c cs)
        · exact List.suffix_refl _

theorem skip_suffix (verbose : Bool) (cs : List Char) : skip verbose cs <:+ cs := by
  unfold skip
  split
  · exact skipVerbose_suffix false cs
  · exact List.suffix_refl cs

/-! ## Numbers -/

theorem digitsThrough_suffix (verbose : Bool) (fuel : Nat) (cs : List Char) :
    (digitsThrough verbose fuel cs).2 <:+ cs := by
  induction fuel generalizing cs with
  | zero => exact List.suffix_refl cs
  | succ fuel ih =>
    cases cs with
    | nil => exact List.suffix_refl []
    | cons c cs =>
      unfold digitsThrough
      split
      · exact ((ih _).trans (skip_suffix verbose cs)).trans (List.suffix_cons c cs)
      · exact List.suffix_refl _

theorem blanksThrough_suffix (fuel : Nat) (cs : List Char) :
    blanksThrough verbose fuel cs <:+ cs := by
  induction fuel generalizing cs with
  | zero => exact List.suffix_refl cs
  | succ fuel ih =>
    cases cs with
    | nil => exact List.suffix_refl []
    | cons c cs =>
      unfold blanksThrough
      split
      · exact ((ih _).trans (skip_suffix verbose cs)).trans (List.suffix_cons c cs)
      · exact List.suffix_refl _

theorem number?_suffix {n : Nat} (h : number? verbose cs = some (n, rest)) : rest <:+ cs := by
  unfold number? at h
  split at h
  · cases h
  · rename_i digits left hdigits
    simp only [Option.ite_none_right_eq_some, Option.some.injEq, Prod.mk.injEq] at h
    obtain ⟨-, -, rfl⟩ := h
    have hleft := digitsThrough_suffix verbose cs.length (trimFront cs)
    rw [hdigits] at hleft
    exact ((blanksThrough_suffix _ _).trans hleft).trans (List.dropWhile_suffix _)

theorem closeBounds?_suffix {low high : Nat} {bounds : Nat × Option Nat}
    (h : closeBounds? low high cs = some (bounds, rest)) : rest <:+ cs := by
  unfold closeBounds? at h
  split at h
  · simp only [Option.ite_none_right_eq_some, Option.some.injEq, Prod.mk.injEq] at h
    obtain ⟨-, -, rfl⟩ := h
    exact List.suffix_cons _ _
  · cases h

theorem upper?_suffix {low : Nat} {bounds : Nat × Option Nat}
    (h : upper? verbose low cs = some (bounds, rest)) : rest <:+ cs := by
  unfold upper? at h
  split at h
  · obtain ⟨-, rfl⟩ := Prod.mk.inj (Option.some.inj h)
    exact List.suffix_cons _ _
  · obtain ⟨r, hhigh, h⟩ := Option.bind_eq_some_iff.1 h
    exact (closeBounds?_suffix h).trans (number?_suffix hhigh)

theorem bounds?_suffix {bounds : Nat × Option Nat} (h : bounds? verbose cs = some (bounds, rest)) :
    rest <:+ cs := by
  obtain ⟨⟨low, left⟩, hlow, h⟩ := Option.bind_eq_some_iff.1 h
  have hleft := (number?_suffix hlow).trans (skip_suffix verbose cs)
  dsimp only at h
  split at h
  · obtain ⟨-, rfl⟩ := Prod.mk.inj (Option.some.inj h)
    exact (List.suffix_cons _ _).trans hleft
  · rename_i behind
    refine (upper?_suffix h).trans ((skip_suffix verbose behind).trans ?_)
    exact (List.suffix_cons _ _).trans hleft
  · cases h

/-! ## Escapes -/

theorem hexFixed?_suffix {count n : Nat} {read : List Nat}
    (h : hexFixed? verbose count read cs = some (n, rest)) : rest <:+ cs := by
  induction count generalizing read cs with
  | zero =>
    obtain ⟨-, rfl⟩ := Prod.mk.inj (Option.some.inj h)
    exact List.suffix_refl cs
  | succ count ih =>
    cases cs with
    | nil => cases h
    | cons c cs =>
      unfold hexFixed? at h
      split at h
      · exact ((ih h).trans (skip_suffix verbose cs)).trans (List.suffix_cons c cs)
      · cases h

theorem hexBraced?_suffix {fuel n : Nat} {read : List Nat}
    (h : hexBraced? verbose fuel read cs = some (n, rest)) : rest <:+ cs := by
  induction fuel generalizing read cs with
  | zero => cases h
  | succ fuel ih =>
    cases cs with
    | nil => cases h
    | cons c cs =>
      unfold hexBraced? at h
      split at h
      · split at h
        · cases h
        · obtain ⟨-, rfl⟩ := Prod.mk.inj (Option.some.inj h)
          exact List.suffix_cons c cs
      · split at h
        · exact ((ih h).trans (skip_suffix verbose cs)).trans (List.suffix_cons c cs)
        · cases h

theorem hexDigits?_suffix {digits : Nat} {n : Nat × Bool}
    (h : hexDigits? verbose digits cs = some (n, rest)) : rest <:+ cs := by
  unfold hexDigits? at h
  split at h
  · rename_i inside
    obtain ⟨r, hr, heq⟩ := Option.map_eq_some_iff.1 h
    obtain ⟨-, rfl⟩ := Prod.mk.inj heq
    exact ((hexBraced?_suffix hr).trans (skip_suffix verbose inside)).trans (List.suffix_cons _ _)
  · obtain ⟨r, hr, heq⟩ := Option.map_eq_some_iff.1 h
    obtain ⟨-, rfl⟩ := Prod.mk.inj heq
    exact hexFixed?_suffix hr

theorem hexEscape?_suffix {digits : Nat} {l : Literal}
    (h : hexEscape? verbose digits cs = some (l, rest)) : rest <:+ cs := by
  obtain ⟨r, hr, h⟩ := Option.bind_eq_some_iff.1 h
  obtain ⟨c, -, heq⟩ := Option.map_eq_some_iff.1 h
  obtain ⟨-, rfl⟩ := Prod.mk.inj heq
  exact (hexDigits?_suffix hr).trans (skip_suffix verbose cs)

theorem braced?_suffix {fuel : Nat} {read name : List Char}
    (h : braced? verbose fuel read cs = some (name, rest)) : rest <:+ cs := by
  induction fuel generalizing read cs with
  | zero => cases h
  | succ fuel ih =>
    cases cs with
    | nil => cases h
    | cons c cs =>
      unfold braced? at h
      split at h
      · obtain ⟨-, rfl⟩ := Prod.mk.inj (Option.some.inj h)
        exact List.suffix_cons c cs
      · exact ((ih h).trans (skip_suffix verbose cs)).trans (List.suffix_cons c cs)

theorem propertyName?_suffix {negated : Bool} {s : SetExpr}
    (h : propertyName? verbose negated cs = some (s, rest)) : rest <:+ cs := by
  unfold propertyName? at h
  split at h
  · cases h
  · rename_i inside
    obtain ⟨r, hr, heq⟩ := Option.map_eq_some_iff.1 h
    obtain ⟨-, rfl⟩ := Prod.mk.inj heq
    exact ((braced?_suffix hr).trans (skip_suffix verbose inside)).trans (List.suffix_cons _ _)
  · split at h
    · cases h
    · obtain ⟨-, rfl⟩ := Prod.mk.inj (Option.some.inj h)
      exact List.suffix_cons _ _

theorem property?_suffix {negated : Bool} {s : SetExpr}
    (h : property? verbose negated cs = some (s, rest)) : rest <:+ cs :=
  (propertyName?_suffix h).trans (skip_suffix verbose cs)

theorem namedBoundary?_suffix {a : Anchor} (h : namedBoundary? verbose cs = some (a, rest)) :
    rest <:+ cs := by
  obtain ⟨r, hr, h⟩ := Option.bind_eq_some_iff.1 h
  have hleft := braced?_suffix hr
  repeat' split at h
  all_goals cases h
  all_goals exact hleft

theorem wordBoundary?_suffix {a : Anchor} (h : wordBoundary? verbose cs = some (a, rest)) :
    rest <:+ cs := by
  unfold wordBoundary? at h
  split at h
  · rename_i inside
    have hinside := (skip_suffix verbose inside).trans (List.suffix_cons '\x7b' inside)
    split at h
    · cases h
    · rename_i heq
      rw [heq] at hinside
      split at h
      · exact (namedBoundary?_suffix h).trans hinside
      · obtain ⟨-, rfl⟩ := Prod.mk.inj (Option.some.inj h)
        exact List.suffix_refl _
  · obtain ⟨-, rfl⟩ := Prod.mk.inj (Option.some.inj h)
    exact List.suffix_refl _

theorem escape?_suffix {c : Char} {e : Escape} (h : escape? verbose (c :: cs) = some (e, rest)) :
    rest <:+ cs := by
  obtain ⟨form, -, h⟩ := Option.bind_eq_some_iff.1 h
  cases form with
  | plain e =>
    obtain ⟨-, rfl⟩ := Prod.mk.inj (Option.some.inj h)
    exact List.suffix_refl cs
  | hex digits =>
    obtain ⟨r, hr, heq⟩ := Option.map_eq_some_iff.1 h
    obtain ⟨-, rfl⟩ := Prod.mk.inj heq
    exact hexEscape?_suffix hr
  | property negated =>
    obtain ⟨r, hr, heq⟩ := Option.map_eq_some_iff.1 h
    obtain ⟨-, rfl⟩ := Prod.mk.inj heq
    exact property?_suffix hr
  | wordBoundary =>
    obtain ⟨r, hr, heq⟩ := Option.map_eq_some_iff.1 h
    obtain ⟨-, rfl⟩ := Prod.mk.inj heq
    exact wordBoundary?_suffix hr

/-! ## Openings of groups -/

theorem flagChange?_suffix {on off : List Flag} {hyphen last : Bool} {f : FlagChange}
    (h : flagChange? on off hyphen last cs = some (f, rest)) : rest <:+ cs := by
  induction cs generalizing on off hyphen last with
  | nil => cases h
  | cons c cs ih =>
    have hcons := List.suffix_cons c cs
    unfold flagChange? at h
    split at h
    · split at h
      · cases h
      · obtain ⟨-, rfl⟩ := Prod.mk.inj (Option.some.inj h)
        exact List.suffix_refl _
    · split at h
      · split at h
        · cases h
        · exact (ih h).trans hcons
      · split at h
        · cases h
        · split at h
          · cases h
          · split at h
            · exact (ih h).trans hcons
            · exact (ih h).trans hcons

theorem groupName?_suffix {name : List Char} (h : groupName? cs = some (name, rest)) :
    rest <:+ cs := by
  unfold groupName? at h
  dsimp only at h
  split at h
  · rename_i heq
    simp only [Option.ite_none_right_eq_some, Option.some.injEq, Prod.mk.injEq] at h
    obtain ⟨-, -, rfl⟩ := h
    have hdrop := List.dropWhile_suffix (l := cs) (· != '>')
    rw [heq] at hdrop
    exact (List.suffix_cons _ _).trans hdrop
  · cases h

theorem nameMark?_suffix (h : nameMark? cs = some rest) : rest <:+ cs := by
  unfold nameMark? at h
  split at h
  · obtain rfl := Option.some.inj h
    exact List.tail_suffix cs
  · split at h
    · obtain rfl := Option.some.inj h
      exact (List.tail_suffix _).trans (List.tail_suffix cs)
    · cases h

theorem flagsEnd?_suffix {f : FlagChange} {o : Opening} (h : flagsEnd? f cs = some (o, rest)) :
    ∃ c, cs = c :: rest := by
  unfold flagsEnd? at h
  split at h
  · cases h
  · rename_i c behind
    refine ⟨c, ?_⟩
    split at h
    · split at h
      · cases h
      · obtain ⟨-, rfl⟩ := Prod.mk.inj (Option.some.inj h)
        rfl
    · obtain ⟨-, rfl⟩ := Prod.mk.inj (Option.some.inj h)
      rfl

theorem flagged?_suffix {o : Opening} (h : flagged? cs = some (o, rest)) : rest <:+ cs := by
  obtain ⟨⟨f, left⟩, hf, h⟩ := Option.bind_eq_some_iff.1 h
  obtain ⟨c, rfl⟩ := flagsEnd?_suffix h
  exact (List.suffix_cons c rest).trans (flagChange?_suffix hf)

theorem opening?_suffix {o : Opening} (h : opening? verbose cs = some (o, rest)) : rest <:+ cs := by
  unfold opening? at h
  have hskip := skip_suffix verbose cs
  split at h
  · rename_i inside heq
    rw [heq] at hskip
    have hinside := (List.suffix_cons _ _).trans hskip
    split at h
    · cases h
    · split at h
      · rename_i hmark
        obtain ⟨r, hr, hopening⟩ := Option.map_eq_some_iff.1 h
        obtain ⟨-, rfl⟩ := Prod.mk.inj hopening
        exact ((groupName?_suffix hr).trans (nameMark?_suffix hmark)).trans hinside
      · exact (flagged?_suffix h).trans hinside
  · obtain ⟨-, rfl⟩ := Prod.mk.inj (Option.some.inj h)
    exact hskip

/-! ## Classes -/

theorem caret_suffix (cs : List Char) : (caret cs).2 <:+ cs := by
  unfold caret
  split
  · exact List.suffix_cons _ _
  · exact List.suffix_refl cs

theorem asciiEnd?_suffix (h : asciiEnd? cs = some rest) : rest <:+ cs := by
  unfold asciiEnd? at h
  split at h
  · obtain rfl := Option.some.inj h
    exact List.suffix_append [_, _] _
  · cases h

theorem asciiClass?_suffix {s : SetExpr} (h : asciiClass? cs = some (s, rest)) : rest <:+ cs := by
  unfold asciiClass? at h
  split at h
  · rename_i inside
    obtain ⟨after, hafter, h⟩ := Option.bind_eq_some_iff.1 h
    obtain ⟨c, -, heq⟩ := Option.map_eq_some_iff.1 h
    obtain ⟨-, rfl⟩ := Prod.mk.inj heq
    exact ((asciiEnd?_suffix hafter).trans (List.dropWhile_suffix _)).trans
      ((caret_suffix inside).trans (List.suffix_cons _ _))
  · cases h

theorem hyphens_suffix (verbose : Bool) (fuel : Nat) (items : List SetExpr) (cs : List Char) :
    (hyphens verbose fuel items cs).2 <:+ cs := by
  induction fuel generalizing items cs with
  | zero => exact List.suffix_refl cs
  | succ fuel ih =>
    unfold hyphens
    split
    · rename_i behind heq
      obtain rfl := Nat.succ.inj heq
      exact ((ih _ _).trans (skip_suffix verbose behind)).trans (List.suffix_cons _ _)
    · exact List.suffix_refl _

theorem leadingItems?_suffix {hyphens items : List SetExpr}
    (h : leadingItems? verbose hyphens cs = some (items, rest)) : rest <:+ cs := by
  cases cs with
  | nil => cases h
  | cons c cs =>
    simp only [leadingItems?] at h
    have hskip := (skip_suffix verbose cs).trans (List.suffix_cons c cs)
    split at h
    · split at h
      · cases h
      · rename_i heq
        obtain ⟨-, rfl⟩ := Prod.mk.inj (Option.some.inj h)
        exact heq ▸ hskip
    · obtain ⟨-, rfl⟩ := Prod.mk.inj (Option.some.inj h)
      exact List.suffix_refl _

theorem leading?_suffix {items : List SetExpr} (h : leading? verbose cs = some (items, rest)) :
    rest <:+ cs :=
  (leadingItems?_suffix h).trans (hyphens_suffix verbose cs.length [] cs)

theorem openClass?_suffix {start : Bool × List SetExpr}
    (h : openClass? verbose cs = some (start, rest)) : rest <:+ cs := by
  unfold openClass? at h
  have hcaret := (caret_suffix (skip verbose cs)).trans (skip_suffix verbose cs)
  split at h
  · rename_i behind heq
    rw [heq] at hcaret
    obtain ⟨r, hr, hstart⟩ := Option.map_eq_some_iff.1 h
    obtain ⟨-, rfl⟩ := Prod.mk.inj hstart
    exact ((leading?_suffix hr).trans (skip_suffix verbose behind)).trans hcaret
  · rename_i heq
    rw [heq] at hcaret
    obtain ⟨r, hr, hstart⟩ := Option.map_eq_some_iff.1 h
    obtain ⟨-, rfl⟩ := Prod.mk.inj hstart
    exact (leading?_suffix hr).trans hcaret

theorem classItem?_suffix {c : Char} {s : SetExpr}
    (h : classItem? verbose (c :: cs) = some (s, rest)) : rest <:+ cs := by
  simp only [classItem?] at h
  split at h
  · obtain ⟨e, he, h⟩ := Option.bind_eq_some_iff.1 h
    obtain ⟨s, -, heq⟩ := Option.map_eq_some_iff.1 h
    obtain ⟨-, rfl⟩ := Prod.mk.inj heq
    cases cs with
    | nil => cases he
    | cons d cs => exact (escape?_suffix he).trans (List.suffix_cons d cs)
  · obtain ⟨-, rfl⟩ := Prod.mk.inj (Option.some.inj h)
    exact List.suffix_refl cs

theorem rangeEnd?_suffix {first s : SetExpr} (h : rangeEnd? verbose first cs = some (s, rest)) :
    rest <:+ cs := by
  obtain ⟨⟨last, left⟩, hlast, hend⟩ := Option.bind_eq_some_iff.1 h
  cases cs with
  | nil => cases hlast
  | cons c cs =>
    have hleft := (classItem?_suffix hlast).trans (List.suffix_cons c cs)
    split at hend
    · split at hend
      · obtain ⟨-, rfl⟩ := Prod.mk.inj (Option.some.inj hend)
        exact hleft
      · cases hend
    · cases hend

theorem rangeRest?_suffix {first s : SetExpr} (h : rangeRest? verbose first cs = some (s, rest)) :
    rest <:+ cs := by
  cases cs with
  | nil => cases h
  | cons c cs =>
    simp only [rangeRest?] at h
    split at h
    · exact (rangeEnd?_suffix h).trans ((skip_suffix verbose cs).trans (List.suffix_cons c cs))
    · obtain ⟨-, rfl⟩ := Prod.mk.inj (Option.some.inj h)
      exact List.suffix_refl _

theorem classRange?_suffix {c : Char} {s : SetExpr}
    (h : classRange? verbose (c :: cs) = some (s, rest)) : rest <:+ cs := by
  obtain ⟨first, hfirst, h⟩ := Option.bind_eq_some_iff.1 h
  exact ((rangeRest?_suffix h).trans (skip_suffix verbose first.2)).trans (classItem?_suffix hfirst)

theorem setOp?_suffix {c : Char} {o : SetOp} (h : setOp? (c :: cs) = some (o, rest)) : rest <:+ cs := by
  cases cs with
  | nil => cases h
  | cons d cs =>
    simp only [setOp?] at h
    split at h
    · obtain ⟨o, -, heq⟩ := Option.map_eq_some_iff.1 h
      obtain ⟨-, rfl⟩ := Prod.mk.inj heq
      exact List.suffix_cons d cs
    · cases h

theorem classRest?_suffix {fuel : Nat} {waiting : Option (SetOp × SetExpr)} {items : List SetExpr}
    {s : SetExpr} (h : classRest? verbose fuel waiting items cs = some (s, rest)) :
    ∃ c, c :: rest <:+ skip verbose cs := by
  induction fuel generalizing waiting items cs s rest with
  | zero => cases h
  | succ fuel ih =>
    have hskip {r : List Char} : skip verbose r <:+ r := skip_suffix verbose r
    unfold classRest? at h
    split at h
    · cases h
    · rename_i heq
      obtain ⟨-, rfl⟩ := Prod.mk.inj (Option.some.inj h)
      rw [heq]
      exact ⟨']', List.suffix_refl _⟩
    · rename_i inside heq
      have hinside : inside <:+ skip verbose cs := heq ▸ List.suffix_cons _ _
      split at h
      · rename_i hascii
        obtain ⟨c, hc⟩ := ih h
        exact ⟨c, ((hc.trans hskip).trans (asciiClass?_suffix hascii)).trans hinside⟩
      · obtain ⟨start, hopen, h⟩ := Option.bind_eq_some_iff.1 h
        obtain ⟨inner, hinner, h⟩ := Option.bind_eq_some_iff.1 h
        obtain ⟨c, hc⟩ := ih h
        obtain ⟨d, hd⟩ := ih hinner
        refine ⟨c, ((hc.trans hskip).trans (List.suffix_cons d _)).trans ?_⟩
        exact ((hd.trans hskip).trans (openClass?_suffix hopen)).trans hinside
    · cases hw : skip verbose cs with
      | nil =>
        rw [hw] at h
        cases h
      | cons d left =>
        rw [hw] at h
        have hleft := List.suffix_cons d left
        split at h
        · rename_i hop
          obtain ⟨c, hc⟩ := ih h
          exact ⟨c, ((hc.trans hskip).trans (setOp?_suffix hop)).trans hleft⟩
        · obtain ⟨item, hitem, h⟩ := Option.bind_eq_some_iff.1 h
          obtain ⟨c, hc⟩ := ih h
          exact ⟨c, ((hc.trans hskip).trans (classRange?_suffix hitem)).trans hleft⟩

theorem classRest?_length {fuel : Nat} {waiting : Option (SetOp × SetExpr)} {items : List SetExpr}
    {s : SetExpr} (h : classRest? verbose fuel waiting items cs = some (s, rest)) :
    rest.length < cs.length := by
  obtain ⟨c, hc⟩ := classRest?_suffix h
  exact (hc.trans (skip_suffix verbose cs)).length_le

theorem class?_suffix {s : SetExpr} (h : class? verbose cs = some (s, rest)) : rest <:+ cs := by
  obtain ⟨start, hopen, h⟩ := Option.bind_eq_some_iff.1 h
  obtain ⟨r, hr, heq⟩ := Option.map_eq_some_iff.1 h
  obtain ⟨-, rfl⟩ := Prod.mk.inj heq
  obtain ⟨c, hc⟩ := classRest?_suffix hr
  exact (((List.suffix_cons c _).trans hc).trans (skip_suffix verbose start.2)).trans
    (openClass?_suffix hopen)

/-! ## Expressions -/

theorem skipLazy_suffix (cs : List Char) : skipLazy cs <:+ cs := by
  unfold skipLazy
  split
  · exact List.suffix_cons _ _
  · exact List.suffix_refl cs

theorem repetition?_suffix {c : Char} {bounds : Nat × Option Nat}
    (h : repetition? verbose (c :: cs) = some (some (bounds, rest))) : rest <:+ cs := by
  unfold repetition? at h
  split at h
  iterate 3
    · rename_i heq
      obtain ⟨rfl, rfl⟩ := List.cons.inj heq
      obtain ⟨-, rfl⟩ := Prod.mk.inj (Option.some.inj (Option.some.inj h))
      exact skipLazy_suffix _
  · rename_i heq
    obtain ⟨rfl, rfl⟩ := List.cons.inj heq
    obtain ⟨r, hr, hbounds⟩ := Option.map_eq_some_iff.1 (Option.some.inj h)
    obtain ⟨-, rfl⟩ := Prod.mk.inj hbounds
    exact (skipLazy_suffix _).trans ((skip_suffix verbose r.2).trans (bounds?_suffix hr))
  · cases h

theorem atom?_suffix {c : Char} {e : Expr} (h : atom? verbose (c :: cs) = some (e, rest)) :
    rest <:+ cs := by
  simp only [atom?] at h
  split at h
  · obtain ⟨e, he, heq⟩ := Option.map_eq_some_iff.1 h
    obtain ⟨-, rfl⟩ := Prod.mk.inj heq
    cases cs with
    | nil => cases he
    | cons d cs => exact (escape?_suffix he).trans (List.suffix_cons d cs)
  · repeat' split at h
    all_goals
      obtain ⟨-, rfl⟩ := Prod.mk.inj (Option.some.inj h)
      exact List.suffix_refl _

theorem item?_suffix {c : Char} {pending pending' : Pending}
    (h : pending.item? verbose (c :: cs) = some (pending', rest)) : rest <:+ cs := by
  unfold Pending.item? at h
  split at h
  · rename_i hrepetition
    obtain ⟨bounds, hbounds, h⟩ := Option.bind_eq_some_iff.1 h
    obtain ⟨p, -, heq⟩ := Option.map_eq_some_iff.1 h
    obtain ⟨-, rfl⟩ := Prod.mk.inj heq
    rw [hbounds] at hrepetition
    exact repetition?_suffix hrepetition
  · obtain ⟨atom, hatom, heq⟩ := Option.map_eq_some_iff.1 h
    obtain ⟨-, rfl⟩ := Prod.mk.inj heq
    exact atom?_suffix hatom

theorem read?_suffix {c : Char} {pending pending' : Pending}
    (h : pending.read? verbose (c :: cs) = some (pending', rest)) : rest <:+ cs := by
  simp only [Pending.read?] at h
  split at h
  · obtain ⟨-, rfl⟩ := Prod.mk.inj (Option.some.inj h)
    exact List.suffix_refl _
  · split at h
    · obtain ⟨set, hset, heq⟩ := Option.map_eq_some_iff.1 h
      obtain ⟨-, rfl⟩ := Prod.mk.inj heq
      exact class?_suffix hset
    · exact item?_suffix h

theorem closed?_eq (h : closed? cs = some rest) : cs = ')' :: rest := by
  unfold closed? at h
  split at h
  · cases h
  · split at h
    · rename_i hc
      rw [hc, Option.some.inj h]
    · cases h

/-- A group leaves nothing, or the parenthesis that closes it and what stands behind. -/
def GroupReader.Stops (read : GroupReader) : Prop :=
  ∀ ⦃mode pending cs result rest⦄, read mode pending cs = some (result, rest) →
    rest <:+ cs ∧ (rest = [] ∨ ∃ behind, rest = ')' :: behind)

theorem openedRest?_stops {read : GroupReader} (hread : read.Stops) {mode : Mode} {pending : Pending}
    {opening : Opening} {result : Expr × Mode}
    (h : openedRest? read mode pending cs opening = some (result, rest)) :
    rest <:+ cs ∧ (rest = [] ∨ ∃ behind, rest = ')' :: behind) := by
  cases opening with
  | directive f => exact hread h
  | group f captures name =>
    simp only [openedRest?] at h
    split at h
    · cases h
    · obtain ⟨body, hbody, h⟩ := Option.bind_eq_some_iff.1 h
      obtain ⟨behind, hbehind, h⟩ := Option.bind_eq_some_iff.1 h
      obtain ⟨hrest, hclosed⟩ := hread h
      have hbody := (hread hbody).1
      rw [closed?_eq hbehind] at hbody
      exact ⟨hrest.trans ((List.suffix_cons _ _).trans hbody), hclosed⟩

theorem groupRest?_stops (fuel : Nat) : GroupReader.Stops (groupRest? fuel) := by
  induction fuel with
  | zero => exact fun _ _ _ _ _ h => by cases h
  | succ fuel ih =>
    intro mode pending cs result rest h
    have hskip := skip_suffix mode.verbose cs
    rw [groupRest?] at h
    split at h
    · obtain ⟨-, rfl⟩ := Prod.mk.inj (Option.some.inj h)
      exact ⟨List.nil_suffix, .inl rfl⟩
    · rename_i behind heq
      obtain ⟨-, rfl⟩ := Prod.mk.inj (Option.some.inj h)
      exact ⟨heq ▸ hskip, .inr ⟨behind, rfl⟩⟩
    · rename_i inside heq
      rw [heq] at hskip
      obtain ⟨opening, hopening, h⟩ := Option.bind_eq_some_iff.1 h
      obtain ⟨hrest, hclosed⟩ := openedRest?_stops ih h
      have hopening := (opening?_suffix hopening).trans (List.suffix_cons '(' inside)
      exact ⟨hrest.trans (hopening.trans hskip), hclosed⟩
    · obtain ⟨⟨pending', behind⟩, hread, h⟩ := Option.bind_eq_some_iff.1 h
      obtain ⟨hrest, hclosed⟩ := ih h
      cases hw : skip mode.verbose cs with
      | nil => contradiction
      | cons c left =>
        rw [hw] at hread hskip
        have hbehind := (read?_suffix hread).trans (List.suffix_cons c left)
        exact ⟨hrest.trans (hbehind.trans hskip), hclosed⟩

end Alerting.Pattern
