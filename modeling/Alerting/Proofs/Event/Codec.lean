import Alerting.Log.Entry
import Alerting.Proofs.Event.Grammar
import Alerting.Proofs.Json.Shape
import Alerting.Proofs.Text.Map
import Alerting.Proofs.Time.Instant

/-!
# Events, read back

What a notification tells about its events in the log is one line of JSON, and as a line of input it
is the batch of those events. An event by itself is read back from its own JSON text.
-/

namespace Alerting

open Json

theorem Json.texts_ofTexts (entries : List (String × String)) :
    (Json.ofTexts entries).texts = entries := by
  rw [Json.ofTexts, Json.texts, List.filterMap_map]
  exact (List.filterMap_congr fun e _ => rfl).trans List.filterMap_some

namespace Event

def draft (e : Event) : Draft := ⟨e.summary, e.description, e.labels, e.payload, some e.createdAt⟩

@[simp] theorem dated_draft (e : Event) (now : Instant) : e.draft.dated now = e := rfl

def members (e : Event) : List (String × Json) :=
  [("summary", .text e.summary), ("description", .text e.description),
   ("labels", .ofTexts e.labels.entries), ("payload", .ofTexts e.payload.entries),
   ("created_at", .text e.createdAt.toText)]

theorem known_members (e : Event) : known Draft.fields e.members = e.members := by
  simp [known, members, Draft.fields]

theorem ofJson_toJson (e : Event) : Draft.ofJson e.toJson = e.draft := by
  simp [Draft.ofJson, toJson, Draft.textOf, Draft.textsOf, Json.member?, lookup_cons, Json.text?,
    Json.texts_ofTexts, TextMap.ofList_entries, Instant.ofString?_toText, draft]

theorem mayHold_member (e : Event) : ∀ m ∈ e.members, Draft.MayHold m.1 m.2 := by
  simp [members, Draft.MayHold, Json.ofTexts, Instant.ofString?_toText]

theorem isWrittenBy_toJson (e : Event) : e.draft.IsWrittenBy e.toJson := by
  refine ⟨e.members, ?_, (ofJson_toJson e).symm⟩
  have hwrites : Writes Draft.fields Draft.MayHold (.object e.members)
      (known Draft.fields e.members) := by
    refine .object ?_ ?_
    · rw [known_members]
      simp [members]
    · rw [known_members]
      exact mayHold_member e
  rwa [known_members] at hwrites

theorem kept_member (e : Event) (depth : Nat) :
    ∀ m ∈ e.members, Shape.Kept (Draft.fieldShape m.1) (depth + 1) m.2 := by
  simp only [members, List.mem_cons, List.not_mem_nil, or_false]
  rintro m (rfl | rfl | rfl | rfl | rfl)
  · exact .text _ rfl
  · exact .text _ rfl
  · exact .texts _ _
  · exact .texts _ _
  · exact .text _ (by rw [Instant.ofString?_toText]; rfl)

theorem kept_toJson (e : Event) (depth : Nat) : Shape.Kept Draft.shape (depth + 2) e.toJson := by
  rw [Draft.shape_eq]
  exact .record (by simp [Draft.fields]) (by simp) rfl (e.kept_member depth)

theorem within_listToJson (depth : Nat) (events : List Event) :
    Within (depth + 3) (listToJson events) := by
  refine .list fun item hitem => ?_
  obtain ⟨e, -, rfl⟩ := List.mem_map.1 hitem
  exact (e.kept_toJson depth).within

/-! ## One event -/

theorem ofString_compact (e : Event) : Draft.ofString e.toJson.compact = .ok e.draft := by
  rw [Draft.ofString, Shape.ofString, compact, String.toList_ofList,
    (e.kept_toJson 125).ofChars_print]
  exact congrArg Except.ok (ofJson_toJson e)

/-! ## Lists of events -/

theorem trim_print_list (items : List Json) :
    Text.trim (print (.list items)) = print (.list items) :=
  Text.trim_eq_self (by rw [print, List.cons_append]) (by rw [print]) (by decide) (by decide)

theorem ofLine_listToJson (events : List Event) :
    Batch.ofLine (listToJson events).compact = .ok (some (events.map draft)) := by
  have hwritten : List.Forall₂ Draft.IsWrittenBy (events.map draft) (events.map toJson) := by
    simp only [List.forall₂_map_left_iff, List.forall₂_map_right_iff]
    exact List.forall₂_same.2 fun e _ => e.isWrittenBy_toJson
  refine Batch.ofLine_eq_some_iff.2
    ⟨listToJson events, ?_, Batch.ofJson?_eq_some_iff.2 (.events hwritten)⟩
  rw [compact, String.toList_ofList, listToJson, trim_print_list]
  exact ofChars_print (within_listToJson 124 events)

/-- What a notification tells about its events is one line and, taken as input, the batch of those
events. -/
theorem notified_events_read_back (rule : SharedRule) (f : Fingerprint) (events : List Event) :
    (∃ text,
      (Log.Entry.notification ⟨rule, f, events⟩).fields.lookup "events" = some (.shown text) ∧
      (∀ c ∈ text.toList, 0x20 ≤ c.toNat) ∧
      ∃ drafts, Batch.ofLine text = .ok (some drafts) ∧
        ∀ now, drafts.map (·.dated now) = events) ∧
    ∀ e : Event, ∃ d, Draft.ofString e.toJson.compact = .ok d ∧ ∀ now, d.dated now = e := by
  refine ⟨⟨(listToJson events).compact, rfl, ?_, events.map draft, ofLine_listToJson events, ?_⟩,
    fun e => ⟨e.draft, e.ofString_compact, e.dated_draft⟩⟩
  · rw [compact, String.toList_ofList]
    exact not_control_of_mem_print (within_listToJson 0 events)
  · intro now
    rw [List.map_map]
    exact (List.map_congr_left fun e _ => e.dated_draft now).trans (List.map_id events)

end Event

end Alerting
