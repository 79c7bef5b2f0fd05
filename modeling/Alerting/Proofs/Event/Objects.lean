import Alerting.Proofs.Event.Grammar
import Alerting.Proofs.Json.Agreement
import Alerting.Proofs.Text.Basic

/-!
# One object, decoded in two ways

An object is decoded as an event by itself, or as a line that is a batch of one. As a line it is
read in full before it is fitted, so a member that is not asked for has to be readable too; by
itself it is only skipped. Apart from that the two decode the same: they differ by what may be
skipped but not read, which is numbers out of range, single surrogates, and nesting beyond the
limit.
-/

namespace Alerting

open Json

namespace Draft

theorem fieldShape_agrees (name : String) {fuel depth : Nat} {cs rest : List Char} {j : Json}
    (h : anyValue fuel depth cs = .ok (j, rest)) (hfuel : cs.length < fuel) :
    Agrees ((fieldShape name).read fuel depth cs) rest ((fieldShape name).fit .refused j) := by
  unfold fieldShape
  split
  · exact Shape.texts_agrees .refused h hfuel
  split
  · exact Shape.readText_agrees _ .refused (begins_of_anyValue h)
  · exact Shape.readText_agrees _ .refused (begins_of_anyValue h)

/-- An object that can be read in full is decoded as its value is fitted. -/
theorem ofChars_shape_iff {cs : List Char} {members : List (String × Json)}
    (h : Json.ofChars cs = .ok (.object members)) (a : Json) :
    shape.ofChars cs = .ok a ↔ shape.fit .refused (.object members) = .ok a := by
  obtain ⟨rest, hread, hrest⟩ := whole_eq_ok_iff.1 h
  have hagrees := Shape.record_agrees fields fieldShape [] (fun _ => none)
    (fun name _ depth cs j rest h hfuel => fieldShape_agrees name h hfuel) hread (Nat.lt_add_one _)
  rw [← shape_eq] at hagrees
  rw [Shape.ofChars, whole_eq_ok_iff]
  simp only [hagrees a]
  constructor
  · rintro ⟨_, ⟨hfit, -⟩, -⟩
    exact hfit
  · exact fun hfit => ⟨rest, ⟨hfit, rfl⟩, hrest⟩

end Draft

namespace Batch

theorem exists_object {cs inner : List Char} {j : Json} (hcs : cs = '\x7b' :: inner)
    (h : Json.ofChars cs = .ok j) : ∃ members, j = .object members := by
  obtain ⟨rest, hread, -⟩ := whole_eq_ok_iff.1 h
  have hspace : skipSpace cs = '\x7b' :: inner := by rw [hcs]; rfl
  cases begins_of_anyValue hread with
  | scalar h => exact absurd hspace (h.ne_cons inner).2
  | list hopen h =>
    rw [hspace] at hopen
    cases hopen
  | @object _ _ _ _ members hopen hfew h => exact ⟨members, rfl⟩

theorem isWrittenBy_object_iff {drafts : List Draft} {members : List (String × Json)} :
    IsWrittenBy drafts (.object members) ↔
      ∃ fitted, Draft.shape.fit .refused (.object members) = .ok fitted ∧
        drafts = [Draft.ofJson fitted] := by
  constructor
  · intro h
    cases h with
    | object h =>
      obtain ⟨fitted, hfit, rfl⟩ := Draft.isWrittenBy_iff.1 h
      exact ⟨fitted, hfit, rfl⟩
  · rintro ⟨fitted, hfit, rfl⟩
    exact .object (Draft.isWrittenBy_iff.2 ⟨fitted, hfit, rfl⟩)

/-- **One object.** The text of one object is a batch of one event exactly if it is that event and
readable in full. -/
theorem ofLine_object {t : String} (hopen : t.toList.head? = some '\x7b')
    (hclose : t.toList.getLast? = some '\x7d') :
    (∀ d, ofLine t = .ok (some [d]) ↔
      Draft.ofString t = .ok d ∧ ∃ j, Json.ofString t = .ok j) ∧
    ∀ batch, ofLine t = .ok batch → ∃ d, batch = some [d] := by
  obtain ⟨inner, hfirst⟩ := List.head?_eq_some_iff.1 hopen
  obtain ⟨before, hlast⟩ := List.getLast?_eq_some_iff.1 hclose
  have htrim := Text.trim_eq_self hfirst hlast (by decide) (by decide)
  have hbatch (drafts : List Draft) : ofLine t = .ok (some drafts) ↔
      ∃ members, Json.ofString t = .ok (.object members) ∧
        ∃ fitted, Draft.shape.fit .refused (.object members) = .ok fitted ∧
          drafts = [Draft.ofJson fitted] := by
    rw [ofLine_eq_some_iff, htrim]
    constructor
    · rintro ⟨j, hj, hdrafts⟩
      obtain ⟨members, rfl⟩ := exists_object hfirst hj
      exact ⟨members, hj, isWrittenBy_object_iff.1 (ofJson?_eq_some_iff.1 hdrafts)⟩
    · rintro ⟨members, hj, hfit⟩
      exact ⟨_, hj, ofJson?_eq_some_iff.2 (isWrittenBy_object_iff.2 hfit)⟩
  refine ⟨fun d => ?_, fun batch h => ?_⟩
  · rw [hbatch, Draft.ofString, map_eq_ok_iff]
    constructor
    · rintro ⟨members, hj, fitted, hfit, hd⟩
      exact ⟨⟨fitted, (Draft.ofChars_shape_iff hj fitted).2 hfit, List.singleton_inj.1 hd⟩, _, hj⟩
    · rintro ⟨⟨fitted, hread, rfl⟩, j, hj⟩
      obtain ⟨members, rfl⟩ := exists_object hfirst hj
      exact ⟨members, hj, fitted, (Draft.ofChars_shape_iff hj fitted).1 hread, rfl⟩
  · cases batch with
    | none =>
      rw [ofLine_eq_none_iff, htrim, hfirst] at h
      cases h
    | some drafts =>
      obtain ⟨members, -, fitted, -, rfl⟩ := (hbatch drafts).1 h
      exact ⟨_, rfl⟩

/-- Labels of one name twice, and members that are not asked for. -/
theorem ofLine_object_labelled :
    let t := "\x7b\"x\":[\x7b\x7d,1.5],\"labels\":\x7b\"a\":\"1\",\"a\":\"2\"\x7d,\"summary\":\"s\"\x7d"
    t.toList.head? = some '\x7b' ∧ t.toList.getLast? = some '\x7d' ∧
      ofLine t = .ok (some [⟨"s", "", .ofList [("a", "2")], ∅, none⟩]) := by
  intro t
  have hopen : t.toList.head? = some '\x7b' := by decide +kernel
  have hclose : t.toList.getLast? = some '\x7d' := by decide +kernel
  have hevent : Draft.ofString t = .ok ⟨"s", "", .ofList [("a", "2")], ∅, none⟩ := by decide +kernel
  have hread : ∃ j, Json.ofString t = .ok j := by
    have hok : (Json.ofString t).isOk = true := by decide +kernel
    cases h : Json.ofString t with
    | ok j => exact ⟨j, rfl⟩
    | error e =>
      rw [h] at hok
      cases hok
  exact ⟨hopen, hclose, ((ofLine_object hopen hclose).1 _).2 ⟨hevent, hread⟩⟩

/-- A number out of range and a single surrogate, in members that are not asked for. -/
theorem ofLine_refuses_unasked :
    Draft.ofString "\x7b\"x\":1e999\x7d" = .ok ⟨"", "", ∅, ∅, none⟩ ∧
    ofLine "\x7b\"x\":1e999\x7d" = .error (.malformed .numberOutOfRange 1) ∧
    Draft.ofString "\x7b\"x\":\"\\ud800\"\x7d" = .ok ⟨"", "", ∅, ∅, none⟩ ∧
    ofLine "\x7b\"x\":\"\\ud800\"\x7d" = .error (.malformed .brokenSurrogatePair 1) := by
  decide +kernel

end Batch

end Alerting
