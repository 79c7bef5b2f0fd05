import Alerting.Proofs.Json.Scalars
import Mathlib.Data.List.DropRight

/-!
# What a value that was read consists of

A list or an object that could be read is told item by item and member by member, without the steps
that were left and what had been gathered so far.
-/

namespace Alerting.Json

theorem length_skipSpace_le (cs : List Char) : (skipSpace cs).length ≤ cs.length :=
  (List.dropWhile_sublist isSpace).length_le

theorem skipSpace_skipSpace (cs : List Char) : skipSpace (skipSpace cs) = skipSpace cs :=
  List.dropWhile_idempotent isSpace cs

/-! ## Items and members -/

theorem nextItem_eq_false {first : Bool} {cs cs₁ : List Char}
    (h : nextItem first cs = .ok (false, cs₁)) : ∃ rest, skipSpace cs = ']' :: rest ∧ cs₁ = ']' :: rest := by
  unfold nextItem at h
  split at h
  · cases h
  · rename_i rest hspace
    cases h
    exact ⟨rest, hspace, rfl⟩
  split at h
  · cases h
  split at h
  · split at h <;> cases h
  · cases h

theorem nextItem_eq_true {first : Bool} {cs cs₁ : List Char}
    (h : nextItem first cs = .ok (true, cs₁)) :
    (first = true ∧ ∃ c rest, skipSpace cs = c :: rest ∧ c ≠ ']' ∧ cs₁ = c :: rest) ∨
      first = false ∧ ∃ rest, skipSpace cs = ',' :: rest ∧ cs₁ = skipSpace rest := by
  unfold nextItem at h
  split at h
  · cases h
  · cases h
  rename_i c rest hclose hspace
  split at h
  · rename_i hfirst
    cases h
    exact .inl ⟨hfirst, c, rest, hspace, hclose, rfl⟩
  rename_i hfirst
  split at h
  · rename_i hcomma
    rw [hcomma] at hspace
    split at h
    · cases h
    · cases h
    · cases h
      exact .inr ⟨Bool.eq_false_iff.2 hfirst, rest, hspace, rfl⟩
  · cases h

theorem nextMember_eq_ok {first more : Bool} {cs rest : List Char}
    (h : nextMember first cs = .ok (more, rest)) :
    (more = false ∧ skipSpace cs = '\x7d' :: rest) ∨
      (more = true ∧ first = true ∧ skipSpace cs = '"' :: rest) ∨
      more = true ∧ first = false ∧ ∃ cs₁, skipSpace cs = ',' :: cs₁ ∧ skipSpace cs₁ = '"' :: rest := by
  unfold nextMember at h
  dsimp only at h
  split at h
  · cases h
  rename_i c cs₁ hspace
  split at h
  · rename_i hc
    cases h
    exact .inl ⟨rfl, by rw [hspace, hc]⟩
  split at h
  · rename_i hfirst
    split at h
    · rename_i hquote
      cases h
      exact .inr (.inl ⟨rfl, hfirst, by rw [hspace, hquote]⟩)
    · cases h
  rename_i hfirst
  split at h
  · rename_i hcomma
    rw [hcomma] at hspace
    split at h
    · cases h
    rename_i d cs₂ hspace'
    split at h
    · rename_i hquote
      cases h
      exact .inr (.inr ⟨rfl, Bool.eq_false_iff.2 hfirst, cs₁, hspace, by rw [hspace', hquote]⟩)
    split at h <;> cases h
  · cases h

theorem length_nextMember {first : Bool} {cs rest : List Char}
    (h : nextMember first cs = .ok (true, rest)) : rest.length < cs.length := by
  have hlength := length_skipSpace_le cs
  obtain ⟨⟨⟩, -⟩ | ⟨-, -, hspace⟩ | ⟨-, -, cs₁, hspace, hspace'⟩ := nextMember_eq_ok h
  · rw [hspace, List.length_cons] at hlength
    omega
  · have hlength' := length_skipSpace_le cs₁
    rw [hspace, List.length_cons] at hlength
    rw [hspace', List.length_cons] at hlength'
    omega

theorem length_colon {cs rest : List Char} (h : colon cs = .ok ((), rest)) :
    rest.length < cs.length := by
  have hspace := length_skipSpace_le cs
  unfold colon at h
  split at h
  · cases h
  rename_i c cs₁ hc
  split at h
  · cases h
    rw [hc] at hspace
    exact hspace
  · cases h

/-- The items of a list up to its end, and the text behind it. The first item follows no comma. -/
inductive Items (item : Reader Json) : Bool → List Char → List Json → List Char → Prop
  | done {first : Bool} {cs cs₁ rest : List Char} (hnext : nextItem first cs = .ok (false, cs₁))
    (hend : listEnd cs₁ = .ok ((), rest)) : Items item first cs [] rest
  | more {first : Bool} {cs cs₁ cs₂ rest : List Char} {j : Json} {items : List Json}
    (hnext : nextItem first cs = .ok (true, cs₁)) (hitem : item cs₁ = .ok (j, cs₂))
    (hlater : Items item false cs₂ items rest) : Items item first cs (j :: items) rest

/-- The members of an object up to its end, and the text behind it. -/
inductive Members (value : Reader Json) (fuel : Nat) :
    Bool → List Char → List (String × Json) → List Char → Prop
  | done {first : Bool} {cs rest : List Char} (hnext : nextMember first cs = .ok (false, rest)) :
    Members value fuel first cs [] rest
  | more {first : Bool} {cs cs₁ cs₂ cs₃ cs₄ rest : List Char} {name : String} {j : Json}
    {members : List (String × Json)} (hnext : nextMember first cs = .ok (true, cs₁))
    (hname : quotedText fuel cs₁ = .ok (name, cs₂)) (hcolon : colon cs₂ = .ok ((), cs₃))
    (hvalue : value cs₃ = .ok (j, cs₄)) (hlater : Members value fuel false cs₄ members rest) :
    Members value fuel first cs ((name, j) :: members) rest

/-- The text begins with a value of at most so many levels, behind which `rest` is left. -/
inductive Begins (fuel : Nat) : Nat → List Char → Json → List Char → Prop
  | scalar {depth : Nat} {cs rest : List Char} {j : Json}
    (h : Scalar fuel (skipSpace cs) j rest) : Begins fuel depth cs j rest
  | list {depth : Nat} {cs inner rest : List Char} {items : List Json}
    (hopen : skipSpace cs = '[' :: inner) (h : Items (anyValue fuel depth) true inner items rest) :
    Begins fuel (depth + 1) cs (.list items) rest
  | object {depth : Nat} {cs inner rest : List Char} {members : List (String × Json)}
    (hopen : skipSpace cs = '\x7b' :: inner) (hfew : members.length < fuel)
    (h : Members (anyValue fuel depth) fuel true inner members rest) :
    Begins fuel (depth + 1) cs (.object members) rest

theorem items_of_listItems {item : Reader Json} {fuel : Nat} {read out : List Json}
    {cs rest : List Char} (h : listItems item fuel read cs = .ok (out, rest)) :
    ∃ items, out = read.reverse ++ items ∧ Items item read.isEmpty cs items rest := by
  induction fuel generalizing read cs with
  | zero => cases h
  | succ fuel ih =>
    unfold listItems at h
    split at h
    · cases h
    · rename_i cs₁ hnext
      obtain ⟨⟨_, rest'⟩, hend, heq⟩ := map_eq_ok_iff.1 h
      cases heq
      exact ⟨[], (List.append_nil _).symm, .done hnext hend⟩
    · rename_i cs₁ hnext
      split at h
      · cases h
      · rename_i j cs₂ hitem
        obtain ⟨items, rfl, hlater⟩ := ih h
        exact ⟨j :: items, by simp, .more hnext hitem hlater⟩

theorem members_of_objectMembers {value : Reader Json} {textFuel fuel : Nat} {first : Bool}
    {read out : List (String × Json)} {cs rest : List Char}
    (h : objectMembers (anyMember value) textFuel fuel first read cs = .ok (out, rest)) :
    ∃ members, out = members.reverse ++ read ∧ members.length < fuel ∧
      Members value textFuel first cs members rest := by
  induction fuel generalizing first read cs with
  | zero => cases h
  | succ fuel ih =>
    unfold objectMembers at h
    split at h
    · cases h
    · rename_i hnext
      cases h
      exact ⟨[], rfl, Nat.succ_pos fuel, .done hnext⟩
    · rename_i cs₁ hnext
      split at h
      · cases h
      rename_i name cs₂ hname
      unfold anyMember at h
      split at h
      · cases h
      rename_i read' cs₄ hmember
      split at hmember
      · cases hmember
      rename_i u cs₃ hcolon
      obtain ⟨⟨j, _⟩, hvalue, heq⟩ := map_eq_ok_iff.1 hmember
      cases heq
      obtain ⟨members, rfl, hfew, hlater⟩ := ih h
      exact ⟨(name, j) :: members, by simp, Nat.succ_lt_succ hfew,
        .more hnext hname hcolon hvalue hlater⟩

theorem valueWith_scalar {fuel : Nat} {inner : Option (Reader Json)} {cs : List Char}
    (hlist : ∀ rest, skipSpace cs ≠ '[' :: rest) (hobject : ∀ rest, skipSpace cs ≠ '\x7b' :: rest) :
    valueWith fuel inner cs = scalar fuel (skipSpace cs) := by
  unfold valueWith
  split
  · exact absurd ‹_› (hlist _)
  · exact absurd ‹_› (hobject _)
  · exact absurd ‹_› (hlist _)
  · exact absurd ‹_› (hobject _)
  · rfl

theorem begins_of_anyValue {fuel depth : Nat} {cs rest : List Char} {j : Json}
    (h : anyValue fuel depth cs = .ok (j, rest)) : Begins fuel depth cs j rest := by
  by_cases hlist : ∃ inner, skipSpace cs = '[' :: inner
  · obtain ⟨inner, hopen⟩ := hlist
    cases depth with
    | zero =>
      simp only [anyValue, valueWith, hopen] at h
      cases h
    | succ depth =>
      simp only [anyValue, valueWith, hopen] at h
      obtain ⟨⟨out, _⟩, hitems, heq⟩ := map_eq_ok_iff.1 h
      cases heq
      obtain ⟨items, rfl, hread⟩ := items_of_listItems hitems
      exact .list hopen hread
  by_cases hobject : ∃ inner, skipSpace cs = '\x7b' :: inner
  · obtain ⟨inner, hopen⟩ := hobject
    cases depth with
    | zero =>
      simp only [anyValue, valueWith, hopen] at h
      cases h
    | succ depth =>
      simp only [anyValue, valueWith, hopen] at h
      obtain ⟨⟨out, _⟩, hmembers, heq⟩ := map_eq_ok_iff.1 h
      cases heq
      obtain ⟨members, rfl, hfew, hread⟩ := members_of_objectMembers hmembers
      rw [List.append_nil, List.reverse_reverse]
      exact .object hopen hfew hread
  · have hlist' := not_exists.1 hlist
    have hobject' := not_exists.1 hobject
    refine .scalar (scalar_of_ok ?_)
    cases depth with
    | zero => rwa [anyValue, valueWith_scalar hlist' hobject'] at h
    | succ depth => rwa [anyValue, valueWith_scalar hlist' hobject'] at h

end Alerting.Json
