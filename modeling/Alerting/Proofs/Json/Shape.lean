import Alerting.Json.Shape.Reader
import Alerting.Proofs.Json.Printed

/-!
# Values of a shape, read back

Reading keeps of a record only the members that are asked for, each of them once, and checks them as a
whole. A value that is such already is read back from the text that is written for it.
-/

namespace Alerting.Json.Shape

/-- A value as one of the shape is kept, with at most so many levels of nesting. -/
inductive Kept : Shape → Nat → Json → Prop
  | text {accepts : String → Bool} (depth : Nat) {s : String} (h : accepts s = true) :
    Kept (.text accepts) depth (.text s)
  | natural (depth : Nat) {n : Nat} (h : n < Nat.pow 2 64) : Kept .natural depth (Json.natural n)
  | null (s : Shape) (depth : Nat) : Kept (.optional s) depth .null
  | optional {s : Shape} {depth : Nat} {j : Json} (h : Kept s depth j) : Kept (.optional s) depth j
  | texts (depth : Nat) (entries : List (String × String)) :
    Kept .texts (depth + 1) (.ofTexts entries)
  | list {s : Shape} {depth : Nat} {items : List Json} (h : ∀ item ∈ items, Kept s depth item) :
    Kept (.list s) (depth + 1) (.list items)
  | record {fields required : List String} {shapeOf : String → Shape}
    {problem : List (String × Json) → Option String} {depth : Nat} {members : List (String × Json)}
    (known : ∀ m ∈ members, m.1 ∈ fields) (once : (members.map (·.1)).Nodup)
    (closes : close required problem members = .ok (.object members))
    (h : ∀ m ∈ members, Kept (shapeOf m.1) depth m.2) :
    Kept (.record fields shapeOf required problem) (depth + 1) (.object members)

theorem Kept.within {s : Shape} {depth : Nat} {j : Json} (h : Kept s depth j) : Within depth j := by
  induction h with
  | text depth _ => exact .text depth _
  | natural depth hn => exact .natural depth hn
  | null _ depth => exact .null depth
  | optional _ ih => exact ih
  | texts depth entries =>
    refine .object fun m hm => ?_
    obtain ⟨e, -, rfl⟩ := List.mem_map.1 hm
    exact .text depth e.2
  | list _ ih => exact .list ih
  | record _ _ _ _ ih => exact .object ih

variable {fuel depth : Nat}

/-! ## Scalars -/

theorem readNatural_print {n : Nat} (hn : n < Nat.pow 2 64)
    (hfuel : (print (Json.natural n)).length < fuel) {rest : List Char} (hrest : EndsNumber rest) :
    readNatural fuel (print (Json.natural n) ++ rest) = .ok (Json.natural n, rest) := by
  have hwithin : Within 0 (Json.natural n) := .natural 0 hn
  have hscalar := scalar_print hwithin nofun nofun hfuel hrest
  rw [readNatural, skipSpace_of_opens hwithin.opens, hscalar]
  rfl

theorem readText_print {accepts : String → Bool} {s : String} (haccepts : accepts s = true)
    (hfuel : (print (.text s)).length < fuel) (rest : List Char) :
    readText fuel accepts (print (.text s) ++ rest) = .ok (.text s, rest) := by
  have hlong : s.toList.length < fuel := by
    have hescaped := length_le_length_escaped s.toList
    simp only [print, quote, List.length_append, List.length_cons] at hfuel
    omega
  have hquoted : quotedText fuel (s.toList.flatMap escape ++ '"' :: rest) = .ok (s, rest) :=
    quotedRest_quote rest hlong
  simp only [print, quote, List.cons_append, List.append_assoc, List.nil_append]
  simp [readText, skipSpace_cons _ (show isSpace '"' = false from rfl), hquoted, haccepts]

theorem read_optional_print {s : Shape} {j : Json} (hwithin : Within depth j)
    {rest : List Char} (hread : read fuel s depth (print j ++ rest) = .ok (j, rest)) :
    read fuel (.optional s) depth (print j ++ rest) = .ok (j, rest) := by
  have hother {c : Char} {cs : List Char} (hprint : print j = c :: cs) (hspace : isSpace c = false)
      (hn : c ≠ 'n') : read fuel (.optional s) depth (print j ++ rest) = .ok (j, rest) := by
    rw [read, hprint, List.cons_append, skipSpace_cons _ hspace]
    split
    · exact absurd (List.cons.inj ‹_›).1 hn
    · rwa [hprint] at hread
  cases hwithin with
  | null => rfl
  | bool _ b => cases b <;> exact hother rfl rfl (by decide)
  | @natural _ n _ =>
    obtain ⟨d, digits, hprint, hdigit⟩ := Text.decimal_eq_cons n
    exact hother hprint (isSpace_of_isDigit hdigit) fun h => absurd (h ▸ hdigit) (by decide)
  | text | list | object => exact hother rfl rfl (by decide)

/-! ## Texts by name -/

theorem textMember_printed {name s : String} (hfuel : (print (.text s)).length < fuel)
    (read : List (String × Json)) (rest : List Char) :
    textMember fuel read.reverse name (':' :: (print (.text s) ++ rest)) =
      .ok ((read ++ [(name, Json.text s)]).reverse, rest) := by
  show (readText fuel (fun _ => true) (print (.text s) ++ rest)).map _ = _
  rw [readText_print rfl hfuel, List.reverse_append]
  rfl

theorem read_texts_print {entries : List (String × String)}
    (hfuel : (print (.ofTexts entries)).length < fuel) (rest : List Char) :
    read fuel .texts (depth + 1) (print (.ofTexts entries) ++ rest) =
      .ok (.ofTexts entries, rest) := by
  let members : List (String × Json) := entries.map fun e => (e.1, .text e.2)
  have hmembers : objectMembers (textMember fuel) fuel fuel true []
      (printMembers members ++ '\x7d' :: rest) = .ok (members.reverse, rest) :=
    objectMembers_print (fun read m later hsplit hshort rest _ => by
      have hm : m ∈ entries.map fun e => (e.1, Json.text e.2) :=
        hsplit ▸ List.mem_append_right _ List.mem_cons_self
      obtain ⟨e, -, rfl⟩ := List.mem_map.1 hm
      exact textMember_printed hshort read rest) hfuel rest
  simp only [Json.ofTexts, print, List.cons_append, List.append_assoc, List.nil_append]
  show (objectMembers (textMember fuel) fuel fuel true [] _).map _ = _
  rw [hmembers]
  simp only [Except.map, List.reverse_reverse, members]

/-! ## Lists -/

theorem read_list_print {s : Shape} {items : List Json} (hopens : ∀ item ∈ items, Opens (print item))
    (hread : ∀ item ∈ items, (print item).length < fuel → ∀ rest, EndsNumber rest →
      read fuel s depth (print item ++ rest) = .ok (item, rest))
    (hfuel : (print (.list items)).length < fuel) (rest : List Char) :
    read fuel (.list s) (depth + 1) (print (.list items) ++ rest) = .ok (.list items, rest) := by
  have hitems := listItems_print hopens hread hfuel rest
  simp only [print, List.cons_append, List.append_assoc, List.nil_append]
  show (listItems (read fuel s depth) fuel [] _).map _ = _
  rw [hitems]
  rfl

/-! ## Records -/

section Records

variable {fields required : List String} {problem : List (String × Json) → Option String}
  {shapeOf : String → Shape}

theorem recordMember_printed {value : String → Reader Json} {m : String × Json}
    {read : List (String × Json)} {rest : List Char} (hfield : m.1 ∈ fields)
    (hfresh : m.1 ∉ read.map (·.1)) (hread : value m.1 (print m.2 ++ rest) = .ok (m.2, rest)) :
    recordMember fuel fields value read.reverse m.1 (':' :: (print m.2 ++ rest)) =
      .ok ((read ++ [m]).reverse, rest) := by
  have hnone : read.reverse.lookup m.1 = none := by
    rw [List.lookup_eq_none_iff]
    intro p hp
    have hne : m.1 ≠ p.1 := fun h =>
      hfresh (List.mem_map.2 ⟨p, List.mem_reverse.1 hp, h.symm⟩)
    simpa using hne
  rw [recordMember, if_pos hfield, hnone, List.reverse_append]
  show (value m.1 (print m.2 ++ rest)).map _ = _
  rw [hread]
  rfl

/-- A record is read back if its fields are and it passes its check. -/
theorem read_record_print {members : List (String × Json)} (hfields : ∀ m ∈ members, m.1 ∈ fields)
    (honce : (members.map (·.1)).Nodup)
    (hclose : close required problem members = .ok (.object members))
    (hread : ∀ m ∈ members, (print m.2).length < fuel → ∀ rest, EndsNumber rest →
      read fuel (shapeOf m.1) depth (print m.2 ++ rest) = .ok (m.2, rest))
    (hfuel : (print (.object members)).length < fuel) (rest : List Char) :
    read fuel (.record fields shapeOf required problem) (depth + 1)
        (print (.object members) ++ rest) = .ok (.object members, rest) := by
  have hmembers :
      objectMembers (recordMember fuel fields fun name => read fuel (shapeOf name) depth)
        fuel fuel true [] (printMembers members ++ '\x7d' :: rest) = .ok (members.reverse, rest) :=
    objectMembers_print (fun before m later hsplit hshort rest hends => by
      have hm : m ∈ members := hsplit ▸ List.mem_append_right _ List.mem_cons_self
      have hfresh : m.1 ∉ before.map (·.1) := by
        rw [hsplit, List.map_append, List.map_cons] at honce
        exact fun h => (List.nodup_append.1 honce).2.2 m.1 h m.1 List.mem_cons_self rfl
      exact recordMember_printed (hfields m hm) hfresh (hread m hm hshort rest hends)) hfuel rest
  simp only [print, List.cons_append, List.append_assoc, List.nil_append]
  simp only [read, skipSpace_cons _ (show isSpace '\x7b' = false from rfl), opened, hmembers]
  simp [closeRead, hclose, settle, Except.map]

end Records

/-! ## Values -/

theorem Kept.read_print {s : Shape} {j : Json} (h : Kept s depth j)
    (hfuel : (print j).length < fuel) {rest : List Char} (hrest : EndsNumber rest) :
    read fuel s depth (print j ++ rest) = .ok (j, rest) := by
  induction h generalizing rest with
  | text _ haccepts => exact readText_print haccepts hfuel rest
  | natural _ hn => exact readNatural_print hn hfuel hrest
  | null => rfl
  | optional h ih => exact read_optional_print h.within (ih hfuel hrest)
  | texts => exact read_texts_print hfuel rest
  | list hitems ih =>
    exact read_list_print (fun item hitem => (hitems item hitem).within.opens)
      (fun item hitem hshort _ hends => ih item hitem hshort hends) hfuel rest
  | record hknown honce hcloses _ ih =>
    exact read_record_print hknown honce hcloses
      (fun m hm hshort _ hends => ih m hm hshort hends) hfuel rest

/-- The text of a value as it is kept writes that value of the shape and nothing else. -/
theorem Kept.ofChars_print {s : Shape} {j : Json} (h : Kept s depthLimit j) :
    s.ofChars (print j) = .ok j := by
  have hread := h.read_print (Nat.lt_add_one _) endsNumber_nil
  rw [List.append_nil] at hread
  exact whole_eq_ok_iff.2 ⟨[], hread, rfl⟩

end Alerting.Json.Shape
