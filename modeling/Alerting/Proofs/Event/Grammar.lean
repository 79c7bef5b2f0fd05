import Alerting.Event.Batch
import Alerting.Proofs.Json.Fitting

/-!
# Which lines are batches

A line is a batch if it is JSON and writes a list of events or else one event. An event is written
by an object, and also by a list of the values of its fields, so a list of texts may be one event
and the items of a list of events may be lists themselves.
-/

namespace Alerting

open Json

namespace Draft

def fields : List String := ["summary", "description", "labels", "payload", "created_at"]

/-- What is asked for in a field. -/
def fieldShape (name : String) : Json.Shape :=
  if name = "labels" ∨ name = "payload" then .texts
  else if name = "created_at" then .text fun s => (Instant.ofString? s).isSome
  else .anyText

theorem shape_eq : shape = .record fields fieldShape [] fun _ => none := rfl

/-- Labels and payload hold an object of texts, the date the text of an instant, and the other
fields a text. -/
def MayHold (name : String) (v : Json) : Prop :=
  if name = "labels" ∨ name = "payload" then
    ∃ members, v = .object members ∧ ∀ m ∈ members, ∃ s, m.2 = .text s
  else if name = "created_at" then ∃ s, v = .text s ∧ (Instant.ofString? s).isSome
  else ∃ s, v = .text s

def IsWrittenBy (d : Draft) (j : Json) : Prop :=
  ∃ found, Writes fields MayHold j found ∧ d = ofJson (.object found)

theorem fit_shape_eq_ok_iff {j fitted : Json} :
    shape.fit .refused j = .ok fitted ↔
      ∃ found, Writes fields MayHold j found ∧ fitted = .object found := by
  refine shape_eq ▸ Shape.fit_record_eq_ok_iff fun name v a => ?_
  unfold fieldShape MayHold
  split
  · exact Shape.fit_texts_eq_ok_iff
  split
  · exact Shape.fit_text_eq_ok_iff
  · simp only [Shape.anyText, Shape.fit_text_eq_ok_iff, and_true]

theorem isWrittenBy_iff {d : Draft} {j : Json} :
    d.IsWrittenBy j ↔ ∃ fitted, shape.fit .refused j = .ok fitted ∧ d = ofJson fitted := by
  simp only [IsWrittenBy, fit_shape_eq_ok_iff]
  constructor
  · rintro ⟨found, hwrites, rfl⟩
    exact ⟨_, ⟨found, hwrites, rfl⟩, rfl⟩
  · rintro ⟨_, ⟨found, hwrites, rfl⟩, rfl⟩
    exact ⟨found, hwrites, rfl⟩

theorem not_isWrittenBy_text (d : Draft) (s : String) : ¬d.IsWrittenBy (.text s) := by
  rintro ⟨found, hwrites, -⟩
  cases hwrites

end Draft

namespace Batch

/-- The value writes the events. A list of no events is also a list of no fields, but counts as the
first. -/
inductive IsWrittenBy : List Draft → Json → Prop
  | events {drafts : List Draft} {items : List Json}
    (h : List.Forall₂ Draft.IsWrittenBy drafts items) : IsWrittenBy drafts (.list items)
  | object {d : Draft} {members : List (String × Json)}
    (h : d.IsWrittenBy (.object members)) : IsWrittenBy [d] (.object members)
  | fields {d : Draft} {first : Json} {others : List Json}
    (h : d.IsWrittenBy (.list (first :: others))) : IsWrittenBy [d] (.list (first :: others))

theorem fit_list_eq_ok_iff {j fitted : Json} :
    (Shape.list Draft.shape).fit .refused j = .ok fitted ↔
      ∃ items out, j = .list items ∧
        List.Forall₂ (fun item a => Draft.shape.fit .refused item = .ok a) items out ∧
        fitted = .list out := by
  cases j <;> simp [Shape.fit, map_eq_ok_iff, Shape.fitItems_eq_ok_iff]

theorem forall₂_isWrittenBy_iff {drafts : List Draft} {items : List Json} :
    List.Forall₂ Draft.IsWrittenBy drafts items ↔
      ∃ out, List.Forall₂ (fun item a => Draft.shape.fit .refused item = .ok a) items out ∧
        drafts = out.map Draft.ofJson := by
  induction items generalizing drafts with
  | nil => simp
  | cons item items ih =>
    simp only [List.forall₂_cons_right_iff, List.forall₂_cons_left_iff, ih, Draft.isWrittenBy_iff]
    constructor
    · rintro ⟨d, rest, ⟨a, ha, rfl⟩, ⟨out, hout, rfl⟩, rfl⟩
      exact ⟨a :: out, ⟨a, out, ha, hout, rfl⟩, rfl⟩
    · rintro ⟨_, ⟨a, out, ha, hout, rfl⟩, rfl⟩
      exact ⟨_, _, ⟨a, ha, rfl⟩, ⟨out, hout, rfl⟩, rfl⟩

theorem fit_list_iff_events {j : Json} {drafts : List Draft} :
    (∃ fitted, (Shape.list Draft.shape).fit .refused j = .ok fitted ∧
        drafts = fitted.items.map Draft.ofJson) ↔
      ∃ items, j = .list items ∧ List.Forall₂ Draft.IsWrittenBy drafts items := by
  simp only [fit_list_eq_ok_iff, forall₂_isWrittenBy_iff]
  constructor
  · rintro ⟨_, ⟨items, out, rfl, hout, rfl⟩, rfl⟩
    exact ⟨items, rfl, out, hout, rfl⟩
  · rintro ⟨items, rfl, out, hout, rfl⟩
    exact ⟨_, ⟨items, out, rfl, hout, rfl⟩, rfl⟩

theorem not_events_of_isWrittenBy {d : Draft} {items : List Json} (h : d.IsWrittenBy (.list items))
    (hne : items ≠ []) (drafts : List Draft) : ¬List.Forall₂ Draft.IsWrittenBy drafts items := by
  intro hevents
  obtain ⟨found, hwrites, -⟩ := h
  cases hwrites with
  | list _ held =>
    obtain ⟨first, others, rfl⟩ := List.exists_cons_of_ne_nil hne
    have hfirst : Draft.MayHold "summary" first := held ("summary", first) List.mem_cons_self
    obtain ⟨s, rfl⟩ : ∃ s, first = .text s := hfirst
    obtain ⟨e, -, he, -⟩ := List.forall₂_cons_right_iff.1 hevents
    exact e.not_isWrittenBy_text s he

theorem isWrittenBy_iff {j : Json} {drafts : List Draft} :
    IsWrittenBy drafts j ↔
      (∃ items, j = .list items ∧ List.Forall₂ Draft.IsWrittenBy drafts items) ∨
        j ≠ .list [] ∧ ∃ d, d.IsWrittenBy j ∧ drafts = [d] := by
  constructor
  · intro h
    cases h with
    | events h => exact .inl ⟨_, rfl, h⟩
    | object h => exact .inr ⟨nofun, _, h, rfl⟩
    | fields h => exact .inr ⟨by simp, _, h, rfl⟩
  · rintro (⟨items, rfl, h⟩ | ⟨hne, d, h, rfl⟩)
    · exact .events h
    · have hkind := h
      obtain ⟨found, hwrites, -⟩ := hkind
      cases hwrites with
      | object => exact .object h
      | @list items =>
        cases items with
        | nil => exact absurd rfl hne
        | cons first others => exact .fields h

theorem ofJson?_eq_some_iff {j : Json} {drafts : List Draft} :
    ofJson? j = some drafts ↔ IsWrittenBy drafts j := by
  have hevents (drafts : List Draft) := @fit_list_iff_events j drafts
  rw [isWrittenBy_iff, ← hevents]
  unfold ofJson?
  cases hlist : (Shape.list Draft.shape).fit .refused j with
  | ok fitted =>
    simp only [hlist, Except.ok.injEq, exists_eq_left', Option.some.injEq] at hevents ⊢
    obtain ⟨items, rfl, hitems⟩ := (hevents _).1 rfl
    constructor
    · exact fun h => .inl h.symm
    · rintro (h | ⟨hne, d, hd, rfl⟩)
      · exact h.symm
      · exact absurd hitems (not_events_of_isWrittenBy hd (fun h => hne (h ▸ rfl)) _)
  | error e =>
    have hne : j ≠ .list [] := by
      rintro rfl
      simp [Shape.fit, Shape.fitItems, Except.map] at hlist
    simp only [reduceCtorEq, false_and, exists_false, false_or, ne_eq, hne, not_false_eq_true,
      true_and, Draft.isWrittenBy_iff]
    cases Draft.shape.fit .refused j with
    | ok fitted => simp [eq_comm (a := drafts)]
    | error e => simp

theorem whole_read_eq_ok_iff {cs : List Char} {drafts : List Draft} :
    whole read cs = .ok drafts ↔ ∃ j, Json.ofChars cs = .ok j ∧ ofJson? j = some drafts := by
  have hread : ∀ rest, read (cs.length + 1) cs = .ok (drafts, rest) ↔
      ∃ j, anyValue (cs.length + 1) depthLimit cs = .ok (j, rest) ∧ ofJson? j = some drafts := by
    intro rest
    unfold read
    cases anyValue (cs.length + 1) depthLimit cs with
    | error e => simp
    | ok r =>
      obtain ⟨j, rest⟩ := r
      cases hdrafts : ofJson? j with
      | none => simp [hdrafts]
      | some found => simp [hdrafts, and_comm]
  simp only [Json.ofChars, whole_eq_ok_iff, hread]
  constructor
  · rintro ⟨rest, ⟨j, hj, hdrafts⟩, hrest⟩
    exact ⟨j, ⟨rest, hj, hrest⟩, hdrafts⟩
  · rintro ⟨j, ⟨rest, hj, hrest⟩, hdrafts⟩
    exact ⟨rest, ⟨j, hj, hdrafts⟩, hrest⟩

theorem ofLine_eq_some_iff {line : String} {drafts : List Draft} :
    ofLine line = .ok (some drafts) ↔
      ∃ j, Json.ofChars (Text.trim line.toList) = .ok j ∧ ofJson? j = some drafts := by
  have hblank : ∀ j, Json.ofChars [] ≠ .ok j := nofun
  unfold ofLine
  cases Text.trim line.toList with
  | nil => simp [hblank]
  | cons c cs =>
    simp only [← whole_read_eq_ok_iff]
    cases whole read (c :: cs) <;> simp [Except.map]

theorem ofLine_eq_none_iff {line : String} :
    ofLine line = .ok none ↔ Text.trim line.toList = [] := by
  unfold ofLine
  cases Text.trim line.toList with
  | nil => simp
  | cons c cs =>
    simp only [reduceCtorEq, iff_false]
    cases whole read (c :: cs) <;> simp [Except.map]

/-- A line is passed over if it is blank, and a batch exactly if it is JSON that writes one. -/
theorem ofLine_exact (line : String) :
    (ofLine line = .ok none ↔ Text.trim line.toList = []) ∧
      ∀ drafts, ofLine line = .ok (some drafts) ↔
        ∃ j, Json.ofChars (Text.trim line.toList) = .ok j ∧ IsWrittenBy drafts j := by
  refine ⟨ofLine_eq_none_iff, fun drafts => ?_⟩
  simp only [ofLine_eq_some_iff, ofJson?_eq_some_iff]

/-- A list of texts is taken for the fields of one event, and lists within a list for events. -/
theorem ofLine_field_lists :
    ofLine "[\"disk full\",\"details\"]" =
        .ok (some [⟨"disk full", "details", ∅, ∅, none⟩]) ∧
      ofLine "[[\"disk full\"],[]]" =
        .ok (some [⟨"disk full", "", ∅, ∅, none⟩, ⟨"", "", ∅, ∅, none⟩]) := by
  decide +kernel

end Batch

end Alerting
