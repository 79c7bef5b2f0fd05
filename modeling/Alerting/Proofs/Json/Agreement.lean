import Alerting.Json.Shape.Reader
import Alerting.Proofs.Json.Fitting
import Alerting.Proofs.Json.Skipping

/-!
# Reading a shape and fitting a value

Where a value can be read in full, reading one of a shape finds what fitting that value finds. This is
shown for texts, and for records of such fields that are written as objects: a member that is not asked
for is skipped in one case and left out in the other, which ends at the same place.
-/

namespace Alerting.Json

/-! ## Members -/

theorem Members.agrees {σ : Type} {value : Reader Json} {textFuel fuel : Nat} {first : Bool}
    {cs rest : List Char} {members : List (String × Json)}
    (h : Members value textFuel first cs members rest) (member : σ → String → Reader σ)
    (step : σ → String × Json → Except Misfit σ)
    (hvalue : ∀ cs j rest, value cs = .ok (j, rest) → cs.length < textFuel → rest.length < cs.length)
    (hmember : ∀ g name cs cs' j rest, colon cs = .ok ((), cs') → value cs' = .ok (j, rest) →
      cs'.length < textFuel → Agrees (member g name cs) rest (step g (name, j)))
    (hfuel : cs.length < textFuel) (hfew : members.length < fuel) (g : σ) :
    Agrees (objectMembers member textFuel fuel first g cs) rest (members.foldlM step g) := by
  induction h generalizing fuel g with
  | @done first cs rest hnext =>
    obtain ⟨fuel, rfl⟩ := Nat.exists_eq_add_one.2 hfew
    rw [objectMembers, hnext]
    exact .found g
  | @more first cs cs₁ cs₂ cs₃ cs₄ rest name j members hnext hname hcolon hj hlater ih =>
    obtain ⟨fuel, rfl⟩ := Nat.exists_eq_add_one.2 (Nat.zero_lt_of_lt hfew)
    have hshort := length_nextMember hnext
    obtain ⟨-, hshort'⟩ :=
      skipQuotedRest_of_quotedRest hname (show cs₁.length < textFuel by omega)
    have hshort'' := length_colon hcolon
    have hshort''' := hvalue cs₃ j cs₄ hj (by omega)
    have hread := hmember g name cs₂ cs₃ j cs₄ hcolon hj (by omega)
    rw [objectMembers, hnext, List.foldlM_cons]
    simp only [hname]
    cases hstep : step g (name, j) with
    | ok g' =>
      rw [hread.eq_ok hstep]
      exact ih (by omega) (Nat.lt_of_succ_lt_succ hfew) g'
    | error e =>
      refine .misfit e fun r hr => ?_
      split at hr
      · cases hr
      · rename_i g' cs₅ hok
        exact hread.ne_ok hstep _ hok

namespace Shape

theorem refuse_ne_ok {α : Type} {fuel : Nat} {cs : List Char} (a : α) : refuse fuel cs ≠ .ok a := by
  intro h
  unfold refuse at h
  split at h
  · cases h
  · cases h
  · split at h <;> cases h

variable {fuel depth : Nat} {cs rest : List Char} {j : Json}

theorem readText_agrees (accepts : String → Bool) (surplus : Surplus)
    (h : Begins fuel depth cs j rest) :
    Agrees (readText fuel accepts cs) rest ((Shape.text accepts).fit surplus j) := by
  have hother : (∀ inner, skipSpace cs ≠ '"' :: inner) → (∀ s, j ≠ .text s) →
      Agrees (readText fuel accepts cs) rest ((Shape.text accepts).fit surplus j) := by
    intro hquote htext
    refine .refused (fun r => ?_) fun a ha => ?_
    · unfold readText
      split
      · exact absurd ‹_› (hquote _)
      · exact refuse_ne_ok r
    · obtain ⟨⟨s, hs, -⟩, -⟩ := fit_text_eq_ok_iff.1 ha
      exact htext s hs
  cases h with
  | scalar h =>
    generalize hspace : skipSpace cs = front at h
    cases h with
    | text h =>
      rw [readText, hspace, fit]
      simp only [h]
      split
      · exact .found _
      · exact .errors _ _
    | number hc h =>
      refine hother (fun inner hinner => ?_) (by simp)
      rw [hspace] at hinner
      exact ne_of_opens_number hc (by decide) (List.cons.inj hinner).1
    | null h | true h | false h => exact hother (by simp [hspace]) (by simp)
  | list hopen h | object hopen _ h => exact hother (by simp [hopen]) (by simp)

/-- A member of an object of texts, put in front of the others. -/
def fitText (surplus : Surplus) (found : List (String × Json)) (m : String × Json) :
    Except Misfit (List (String × Json)) :=
  (anyText.fit surplus m.2).map fun a => (m.1, a) :: found

theorem foldlM_fitText (surplus : Surplus) (members found : List (String × Json)) :
    (members.foldlM (fitText surplus) found).map List.reverse =
      (fitTexts members).map (found.reverse ++ ·) := by
  induction members generalizing found with
  | nil => simp [fitTexts, Except.map, pure, Except.pure]
  | cons m members ih =>
    obtain ⟨name, value⟩ := m
    rw [List.foldlM_cons]
    cases value with
    | text s =>
      show (members.foldlM (fitText surplus) ((name, .text s) :: found)).map List.reverse = _
      rw [ih, fitTexts]
      cases fitTexts members <;> simp [Except.map]
    | null | bool | number | list | object => rfl

theorem length_lt_of_anyValue (cs : List Char) (j : Json) (rest : List Char)
    (h : anyValue fuel depth cs = .ok (j, rest)) (hfuel : cs.length < fuel) :
    rest.length < cs.length :=
  (skips_of_anyValue h hfuel).shorter

theorem texts_agrees (surplus : Surplus) (h : anyValue fuel depth cs = .ok (j, rest))
    (hfuel : cs.length < fuel) :
    Agrees (Shape.texts.read fuel depth cs) rest (Shape.texts.fit surplus j) := by
  have hother : (∀ inner, skipSpace cs ≠ '\x7b' :: inner) → (∀ members, j ≠ .object members) →
      Agrees (Shape.texts.read fuel depth cs) rest (Shape.texts.fit surplus j) := by
    intro hspace hobject
    refine .refused (fun r => ?_) fun a ha => ?_
    · unfold read
      split
      · exact absurd ‹_› (hspace _)
      · exact refuse_ne_ok r
    · obtain ⟨⟨members, hmembers, -⟩, -⟩ := fit_texts_eq_ok_iff.1 ha
      exact hobject members hmembers
  cases begins_of_anyValue h with
  | scalar h => exact hother (fun inner => (h.ne_cons inner).2) h.ne_object
  | list hopen h => exact hother (by simp [hopen]) (by simp)
  | @object depth _ inner _ members hopen hfew h =>
    have hlength := length_skipSpace_le cs
    rw [hopen, List.length_cons] at hlength
    have hmembers := h.agrees (textMember fuel) (fitText surplus) length_lt_of_anyValue
      (fun g name cs cs' j rest hcolon hvalue _ => by
        simp only [textMember, hcolon]
        exact (readText_agrees (fun _ => true) surplus (begins_of_anyValue hvalue)).map
          fun a => (name, a) :: g)
      (by omega) hfew []
    have hfit : (members.foldlM (fitText surplus) []).map (fun g => Json.object g.reverse) =
        (fitTexts members).map .object := by
      rw [← map_map _ List.reverse Json.object, foldlM_fitText, map_map]
      rfl
    simp only [read, hopen, opened, fit]
    rw [← hfit]
    exact hmembers.map fun g => Json.object g.reverse

/-! ## Records -/

/-- A member of a record, put in front of the fields that were found. -/
def fitMember (fields : List String) (fit : String → Json → Except Misfit Json)
    (found : List (String × Json)) (m : String × Json) : Except Misfit (List (String × Json)) :=
  if m.1 ∈ fields then
    if (found.lookup m.1).isSome then .error ⟨none⟩
    else (fit m.1 m.2).map fun a => (m.1, a) :: found
  else .ok found

theorem foldlM_fitMember (fields : List String) (fit : String → Json → Except Misfit Json)
    (members found : List (String × Json)) :
    (members.foldlM (fitMember fields fit) found).map List.reverse =
      fitMembers fields fit found members := by
  induction members generalizing found with
  | nil => rfl
  | cons m members ih =>
    obtain ⟨name, value⟩ := m
    rw [List.foldlM_cons, fitMembers]
    simp only [fitMember]
    split
    · split
      · rfl
      · cases hfit : fit name value with
        | ok a => exact ih _
        | error e => rfl
    · exact ih _

theorem closeRead_agrees (required : List String) (problem : List (String × Json) → Option String)
    (found : List (String × Json)) (rest : List Char) :
    Agrees (closeRead required problem (found, rest)) rest (close required problem found) := by
  unfold closeRead
  cases close required problem found with
  | ok j => exact .found j
  | error e => exact .errors _ _

/-- A record that is written as an object is read as it is fitted, if the values of its fields are. -/
theorem record_agrees (fields : List String) (shapeOf : String → Shape) (required : List String)
    (problem : List (String × Json) → Option String) {surplus : Surplus}
    {members : List (String × Json)}
    (hfields : ∀ name ∈ fields, ∀ depth cs j rest, anyValue fuel depth cs = .ok (j, rest) →
      cs.length < fuel → Agrees ((shapeOf name).read fuel depth cs) rest ((shapeOf name).fit surplus j))
    (h : anyValue fuel depth cs = .ok (.object members, rest)) (hfuel : cs.length < fuel) :
    Agrees ((Shape.record fields shapeOf required problem).read fuel depth cs) rest
      ((Shape.record fields shapeOf required problem).fit surplus (.object members)) := by
  cases begins_of_anyValue h with
  | scalar h => exact absurd rfl (h.ne_object members)
  | @object depth _ inner _ _ hopen hfew h =>
    have hlength := length_skipSpace_le cs
    rw [hopen, List.length_cons] at hlength
    have hmembers := h.agrees
      (recordMember fuel fields fun name => (shapeOf name).read fuel depth)
      (fitMember fields fun name => (shapeOf name).fit surplus)
      length_lt_of_anyValue
      (fun g name cs cs' j rest hcolon hvalue hshort => by
        unfold recordMember fitMember
        split
        · rename_i hname
          split
          · exact .errors _ _
          · rw [hcolon]
            exact (hfields name hname depth cs' j rest hvalue hshort).map fun a => (name, a) :: g
        · simp only [hcolon, skipValue_of_anyValue hvalue hshort]
          exact .found g)
      (by omega) hfew []
    have hfit := foldlM_fitMember fields (fun name => (shapeOf name).fit surplus) members []
    simp only [Shape.read, hopen, opened, Shape.fit]
    rw [← hfit]
    cases hfold : members.foldlM (fitMember fields fun name => (shapeOf name).fit surplus) [] with
    | error e =>
      refine .misfit e fun r hr => ?_
      split at hr
      · cases hr
      · exact hmembers.ne_ok hfold _ ‹_›
    | ok found =>
      rw [hmembers.eq_ok hfold]
      exact closeRead_agrees required problem found.reverse rest

end Shape

end Alerting.Json
