import Mathlib.Data.List.Forall2
import Alerting.Proofs.Json.Outcome
import Alerting.TextMap

/-!
# What fits a record

A record all of whose fields are optional and are kept as they are is written by an object that has
none of its fields twice, or by a list of at most as many items as it has fields. What else an
object holds does not matter.
-/

namespace Alerting.Json

def known (fields : List String) (members : List (String × Json)) : List (String × Json) :=
  members.filter (·.1 ∈ fields)

/-- A value writes these members of a record, whose fields hold what `suits` them. -/
inductive Writes (fields : List String) (suits : String → Json → Prop) :
    Json → List (String × Json) → Prop
  | object {members : List (String × Json)}
    (once : ((known fields members).map (·.1)).Nodup)
    (held : ∀ m ∈ known fields members, suits m.1 m.2) :
    Writes fields suits (.object members) (known fields members)
  | list {items : List Json} (few : items.length ≤ fields.length)
    (held : ∀ m ∈ fields.zip items, suits m.1 m.2) :
    Writes fields suits (.list items) (fields.zip items)

theorem known_cons_of_mem {fields : List String} {m : String × Json} (h : m.1 ∈ fields)
    (members : List (String × Json)) : known fields (m :: members) = m :: known fields members :=
  List.filter_cons_of_pos (by simpa using h)

theorem known_cons_of_not_mem {fields : List String} {m : String × Json} (h : m.1 ∉ fields)
    (members : List (String × Json)) : known fields (m :: members) = known fields members :=
  List.filter_cons_of_neg (by simpa using h)

namespace Shape

theorem fitTexts_eq_ok_iff {members out : List (String × Json)} :
    fitTexts members = .ok out ↔ (∀ m ∈ members, ∃ s, m.2 = .text s) ∧ out = members := by
  induction members generalizing out with
  | nil => simp [fitTexts, eq_comm]
  | cons m members ih =>
    obtain ⟨name, value⟩ := m
    cases value with
    | text s =>
      simp only [fitTexts, map_eq_ok_iff, ih, List.forall_mem_cons]
      constructor
      · rintro ⟨a, ⟨htexts, rfl⟩, rfl⟩
        exact ⟨⟨⟨s, rfl⟩, htexts⟩, rfl⟩
      · rintro ⟨⟨-, htexts⟩, rfl⟩
        exact ⟨members, ⟨htexts, rfl⟩, rfl⟩
    | null | bool | number | list | object => simp [fitTexts]

theorem fit_texts_eq_ok_iff {surplus : Surplus} {v a : Json} :
    Shape.texts.fit surplus v = .ok a ↔
      (∃ members, v = .object members ∧ ∀ m ∈ members, ∃ s, m.2 = .text s) ∧ a = v := by
  cases v <;> simp [fit, map_eq_ok_iff, fitTexts_eq_ok_iff]

theorem fit_text_eq_ok_iff {accepts : String → Bool} {surplus : Surplus} {v a : Json} :
    (Shape.text accepts).fit surplus v = .ok a ↔ (∃ s, v = .text s ∧ accepts s) ∧ a = v := by
  cases v with
  | text s =>
    simp only [fit, Json.text.injEq]
    split
    · rename_i hs
      simp [hs, eq_comm (a := a)]
    · rename_i hs
      simp [hs]
  | null | bool | number | list | object => simp [fit]

theorem fitItems_eq_ok_iff {fit : Json → Except Misfit Json} {items out : List Json} :
    fitItems fit items = .ok out ↔ List.Forall₂ (fun item a => fit item = .ok a) items out := by
  induction items generalizing out with
  | nil => simp [fitItems, eq_comm]
  | cons item items ih =>
    simp only [fitItems, List.forall₂_cons_left_iff]
    cases hitem : fit item with
    | error e => simp
    | ok a => simp [map_eq_ok_iff, ih]

section Records

variable {fields : List String} {fit : String → Json → Except Misfit Json}
  {suits : String → Json → Prop}

theorem fitMembers_eq_ok_iff (hfit : ∀ name v a, fit name v = .ok a ↔ suits name v ∧ a = v)
    {found members out : List (String × Json)} :
    fitMembers fields fit found members = .ok out ↔
      ((∀ m ∈ known fields members, found.lookup m.1 = none) ∧
        ((known fields members).map (·.1)).Nodup) ∧
        (∀ m ∈ known fields members, suits m.1 m.2) ∧
        out = found.reverse ++ known fields members := by
  induction members generalizing found with
  | nil =>
    have hnil : known fields [] = [] := rfl
    rw [fitMembers, hnil, List.append_nil]
    simp [eq_comm (a := out)]
  | cons m members ih =>
    obtain ⟨name, value⟩ := m
    by_cases hname : name ∈ fields
    · rw [fitMembers, if_pos hname, known_cons_of_mem hname]
      simp only [List.forall_mem_cons, List.map_cons, List.nodup_cons]
      cases hfound : found.lookup name with
      | some v => simp
      | none =>
        cases hitem : fit name value with
        | error e =>
          have hnot : ¬suits name value := fun h => by
            rw [(hfit name value value).2 ⟨h, rfl⟩] at hitem
            exact absurd hitem nofun
          simp [hnot]
        | ok a =>
          obtain ⟨hsuits, rfl⟩ := (hfit name value a).1 hitem
          have hfresh : (∀ m ∈ known fields members, ((name, a) :: found).lookup m.1 = none) ↔
              (∀ m ∈ known fields members, found.lookup m.1 = none) ∧
                name ∉ (known fields members).map (·.1) := by
            simp only [lookup_cons, List.mem_map, not_exists, not_and]
            constructor
            · intro h
              refine ⟨fun m hm => ?_, fun m hm heq => by simpa [heq] using h m hm⟩
              have hm := h m hm
              split at hm
              · cases hm
              · exact hm
            · rintro ⟨hnone, hne⟩ m hm
              rw [if_neg (hne m hm), hnone m hm]
          simp only [Option.isSome_none, Bool.false_eq_true, if_false, ih, hfresh, hsuits,
            true_and, List.reverse_cons, List.append_assoc, List.singleton_append, and_assoc]
    · rw [fitMembers, if_neg hname, known_cons_of_not_mem hname, ih]

theorem fitFields_eq_ok_iff (hfit : ∀ name v a, fit name v = .ok a ↔ suits name v ∧ a = v)
    {items : List Json} {out : List (String × Json)} :
    fitFields .refused fit fields items = .ok out ↔
      items.length ≤ fields.length ∧ (∀ m ∈ fields.zip items, suits m.1 m.2) ∧
        out = fields.zip items := by
  induction fields generalizing items out with
  | nil => cases items <;> simp [fitFields, eq_comm]
  | cons name fields ih =>
    cases items with
    | nil => simp [fitFields, eq_comm]
    | cons item items =>
      simp only [fitFields, List.zip_cons_cons, List.forall_mem_cons, List.length_cons,
        Nat.add_le_add_iff_right]
      cases hitem : fit name item with
      | error e =>
        have hnot : ¬suits name item := fun h => by
          rw [(hfit name item item).2 ⟨h, rfl⟩] at hitem
          exact absurd hitem nofun
        simp [hnot]
      | ok a =>
        obtain ⟨hsuits, rfl⟩ := (hfit name item a).1 hitem
        simp only [map_eq_ok_iff, ih, hsuits, true_and]
        constructor
        · rintro ⟨found, ⟨hfew, hheld, rfl⟩, rfl⟩
          exact ⟨hfew, hheld, rfl⟩
        · rintro ⟨hfew, hheld, rfl⟩
          exact ⟨_, ⟨hfew, hheld, rfl⟩, rfl⟩

end Records

/-- A record fits exactly the values that write it. -/
theorem fit_record_eq_ok_iff {fields : List String} {shapeOf : String → Shape}
    {suits : String → Json → Prop}
    (hfit : ∀ name v a, (shapeOf name).fit .refused v = .ok a ↔ suits name v ∧ a = v)
    {j fitted : Json} :
    (Shape.record fields shapeOf [] fun _ => none).fit .refused j = .ok fitted ↔
      ∃ found, Writes fields suits j found ∧ fitted = .object found := by
  have hclose : ∀ found, close [] (fun _ => none) found = .ok (.object found) := fun _ => rfl
  constructor
  · intro h
    cases j with
    | object members =>
      simp only [fit, hclose] at h
      split at h
      · cases h
      · rename_i found hfound
        obtain ⟨⟨-, honce⟩, hheld, rfl⟩ := (fitMembers_eq_ok_iff hfit).1 hfound
        cases h
        exact ⟨_, .object honce hheld, rfl⟩
    | list items =>
      simp only [fit, hclose] at h
      split at h
      · cases h
      · rename_i found hfound
        obtain ⟨hfew, hheld, rfl⟩ := (fitFields_eq_ok_iff hfit).1 hfound
        cases h
        exact ⟨_, .list hfew hheld, rfl⟩
    | null | bool | number | text => simp [fit] at h
  · rintro ⟨found, hwrites, rfl⟩
    cases hwrites with
    | @object members honce hheld =>
      have hfound : fitMembers fields _ [] members = .ok ([] ++ known fields members) :=
        (fitMembers_eq_ok_iff hfit).2 ⟨⟨fun _ _ => rfl, honce⟩, hheld, rfl⟩
      simp only [fit, hclose, hfound, List.nil_append]
    | @list items hfew hheld =>
      have hfound := (fitFields_eq_ok_iff hfit).2 ⟨hfew, hheld, rfl⟩
      simp only [fit, hclose, hfound]

end Shape

end Alerting.Json
