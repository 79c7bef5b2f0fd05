import Alerting.Json.Parser
import Alerting.Json.Printer
import Alerting.Proofs.Json.Quoted
import Alerting.Proofs.Text.Basic

/-!
# Values, read back

A value whose numbers are natural is read back from its text, if it is nested no deeper than the
reader allows. The text of a value ends by itself, but for a number, which ends where no digit,
point or exponent follows.
-/

namespace Alerting.Json

open Text

/-- A value with natural numbers only and with at most so many levels of nesting. -/
inductive Within : Nat → Json → Prop
  | null (depth : Nat) : Within depth .null
  | bool (depth : Nat) (b : Bool) : Within depth (.bool b)
  | natural (depth : Nat) {n : Nat} (h : n < Nat.pow 2 64) : Within depth (natural n)
  | text (depth : Nat) (s : String) : Within depth (.text s)
  | list {depth : Nat} {items : List Json} (h : ∀ item ∈ items, Within depth item) :
    Within (depth + 1) (.list items)
  | object {depth : Nat} {members : List (String × Json)}
    (h : ∀ m ∈ members, Within depth m.2) : Within (depth + 1) (.object members)

/-- A number may end in front of this text. -/
def EndsNumber (cs : List Char) : Prop :=
  ∀ c ∈ cs.head?, c.isDigit = false ∧ c ≠ '.' ∧ c ≠ 'e' ∧ c ≠ 'E'

theorem endsNumber_nil : EndsNumber [] := fun _ h => absurd h (by simp)

theorem endsNumber_cons {c : Char} (cs : List Char)
    (h : c.isDigit = false ∧ c ≠ '.' ∧ c ≠ 'e' ∧ c ≠ 'E') : EndsNumber (c :: cs) := by
  intro d hd
  rwa [← Option.some.inj hd]

theorem endsNumber_flatMap {α : Type} (write : α → List Char) (later : List α) (closing : Char)
    (h : closing.isDigit = false ∧ closing ≠ '.' ∧ closing ≠ 'e' ∧ closing ≠ 'E')
    (rest : List Char) :
    EndsNumber (later.flatMap (fun a => ',' :: write a) ++ closing :: rest) := by
  cases later with
  | nil => exact endsNumber_cons _ h
  | cons a later => exact endsNumber_cons _ (by decide)

theorem skipSpace_cons {c : Char} (cs : List Char) (h : isSpace c = false) :
    skipSpace (c :: cs) = c :: cs := by
  rw [skipSpace, List.dropWhile_cons_of_neg (by simp [h])]

/-! ## Numbers -/

theorem spanDigits_decimal (n : Nat) {rest : List Char} (hrest : EndsNumber rest) :
    (decimal n ++ rest).takeWhile Char.isDigit = decimal n ∧
      (decimal n ++ rest).dropWhile Char.isDigit = rest := by
  have hall : ∀ c ∈ decimal n, c.isDigit = true := fun _ => isDigit_of_mem_decimal
  rw [List.takeWhile_append_of_pos hall, List.dropWhile_append_of_pos hall]
  cases rest with
  | nil => simp
  | cons c rest => simp [(hrest c rfl).1]

theorem wholeDigits_decimal (n : Nat) {rest : List Char} (hrest : EndsNumber rest) :
    wholeDigits (decimal n ++ rest) = .ok (decimal n, rest) := by
  obtain ⟨htake, hdrop⟩ := spanDigits_decimal n hrest
  by_cases hn : n = 0
  · -- A zero stands alone.
    subst hn
    cases rest with
    | nil => rfl
    | cons c rest =>
      have hc := (hrest c rfl).1
      simp [decimal, wholeDigits, hc]
  · obtain ⟨d, digits, hd, hdigit⟩ := decimal_eq_cons n
    have hzero : d ≠ '0' := fun h => head?_decimal_ne_zero hn (by rw [hd, h, List.head?_cons])
    rw [hd, List.cons_append, List.takeWhile_cons_of_pos hdigit] at htake
    rw [hd, List.cons_append, List.dropWhile_cons_of_pos hdigit] at hdrop
    rw [hd, List.cons_append, wholeDigits.eq_def]
    simp only [hzero, if_false, hdigit, if_true, htake, hdrop]

theorem fractionDigits_of_ends {rest : List Char} (hrest : EndsNumber rest) :
    fractionDigits rest = .ok (none, rest) := by
  unfold fractionDigits
  split
  · exact absurd rfl (hrest '.' rfl).2.1
  · rfl

theorem exponentPart_of_ends {rest : List Char} (hrest : EndsNumber rest) :
    exponentPart rest = .ok (none, rest) := by
  unfold exponentPart
  split
  case h_7 => rfl
  case h_1 | h_3 | h_5 => exact absurd rfl (hrest 'e' rfl).2.2.1
  case h_2 | h_4 | h_6 => exact absurd rfl (hrest 'E' rfl).2.2.2

theorem readNumber_decimal {n : Nat} (hn : n < Nat.pow 2 64) {rest : List Char}
    (hrest : EndsNumber rest) : readNumber (decimal n ++ rest) = .ok (.natural n, rest) := by
  obtain ⟨d, digits, hd, hdigit⟩ := decimal_eq_cons n
  have hsign : ∀ cs, decimal n ++ rest ≠ '-' :: cs := by
    intro cs h
    rw [hd, List.cons_append, List.cons.injEq] at h
    exact absurd (h.1 ▸ hdigit) (by decide)
  have hread : unsigned false (decimal n ++ rest) =
      .ok (⟨false, decimal n, none, none⟩, rest) := by
    simp only [unsigned, wholeDigits_decimal n hrest, fractionDigits_of_ends hrest,
      exponentPart_of_ends hrest, bind, Except.bind]
  have hvalue : Numeral.value? ⟨false, decimal n, none, none⟩ = some (.natural n) := by
    simp only [Numeral.value?, digitsValue_decimal]
    exact if_pos ⟨trivial, trivial, trivial, hn⟩
  unfold readNumber
  split
  · exact absurd ‹_› (hsign _)
  · simp only [hread, hvalue, bind, Except.bind]

/-! ## Lists -/

/-- A written form starts with a character that no reader takes for a blank or for the end of a
list. -/
def Opens (cs : List Char) : Prop := ∃ c rest, cs = c :: rest ∧ isSpace c = false ∧ c ≠ ']'

theorem skipSpace_of_opens {cs : List Char} (h : Opens cs) (rest : List Char) :
    skipSpace (cs ++ rest) = cs ++ rest := by
  obtain ⟨c, cs, rfl, hspace, -⟩ := h
  exact skipSpace_cons _ hspace

theorem nextItem_first {cs : List Char} (h : Opens cs) (rest : List Char) :
    nextItem true (cs ++ rest) = .ok (true, cs ++ rest) := by
  have hskip := skipSpace_of_opens h rest
  obtain ⟨c, cs, rfl, -, hclose⟩ := h
  simp only [List.cons_append] at hskip ⊢
  simp [nextItem, hskip]

theorem nextItem_comma {cs : List Char} (h : Opens cs) (rest : List Char) :
    nextItem false (',' :: (cs ++ rest)) = .ok (true, cs ++ rest) := by
  have hskip := skipSpace_of_opens h rest
  obtain ⟨c, cs, rfl, -, hclose⟩ := h
  simp only [List.cons_append] at hskip ⊢
  simp [nextItem, skipSpace_cons _ (show isSpace ',' = false from rfl), hskip, hclose]

section Lists

variable {α : Type} {item : Reader α} {write : α → List Char}

theorem listItems_rest {items read : List α} {fuel : Nat} (rest : List Char) (hread : read ≠ [])
    (hopens : ∀ a ∈ items, Opens (write a))
    (hitem : ∀ a ∈ items, ∀ rest, EndsNumber rest → item (write a ++ rest) = .ok (a, rest))
    (hfuel : items.length < fuel) :
    listItems item fuel read (items.flatMap (fun a => ',' :: write a) ++ ']' :: rest) =
      .ok (read.reverse ++ items, rest) := by
  induction items generalizing read fuel with
  | nil =>
    obtain ⟨fuel, rfl⟩ := Nat.exists_eq_add_one.2 hfuel
    rw [List.append_nil]
    rfl
  | cons a items ih =>
    obtain ⟨fuel, rfl⟩ := Nat.exists_eq_add_one.2 (Nat.zero_lt_of_lt hfuel)
    have hends := endsNumber_flatMap write items ']' (by decide) rest
    have hlater := ih (List.cons_ne_nil a read) (fun b hb => hopens b (List.mem_cons_of_mem _ hb))
      (fun b hb => hitem b (List.mem_cons_of_mem _ hb)) (Nat.lt_of_succ_lt_succ hfuel)
    simp only [List.flatMap_cons, List.cons_append, List.append_assoc]
    simp only [listItems, List.isEmpty_eq_false_iff.2 hread,
      nextItem_comma (hopens a List.mem_cons_self), hitem a List.mem_cons_self _ hends, hlater,
      List.reverse_cons, List.append_assoc, List.singleton_append]

theorem listItems_written {a : α} {items : List α} {fuel : Nat} (rest : List Char)
    (hopens : ∀ b ∈ a :: items, Opens (write b))
    (hitem : ∀ b ∈ a :: items, ∀ rest, EndsNumber rest → item (write b ++ rest) = .ok (b, rest))
    (hfuel : items.length + 1 < fuel) :
    listItems item fuel [] (write a ++ (items.flatMap (fun b => ',' :: write b) ++ ']' :: rest)) =
      .ok (a :: items, rest) := by
  obtain ⟨fuel, rfl⟩ := Nat.exists_eq_add_one.2 (Nat.zero_lt_of_lt hfuel)
  have hends := endsNumber_flatMap write items ']' (by decide) rest
  simp only [listItems, List.isEmpty_nil, nextItem_first (hopens a List.mem_cons_self),
    hitem a List.mem_cons_self _ hends]
  exact listItems_rest rest (List.cons_ne_nil a [])
    (fun b hb => hopens b (List.mem_cons_of_mem _ hb))
    (fun b hb => hitem b (List.mem_cons_of_mem _ hb)) (Nat.lt_of_succ_lt_succ hfuel)

end Lists

/-! ## Objects -/

def printMember (m : String × Json) : List Char := quote m.1 ++ ':' :: print m.2

theorem printMember_append (m : String × Json) (rest : List Char) :
    printMember m ++ rest =
      '"' :: (m.1.toList.flatMap escape ++ '"' :: ':' :: (print m.2 ++ rest)) := by
  simp only [printMember, quote, List.cons_append, List.append_assoc, List.nil_append]

theorem nextMember_first (m : String × Json) (rest : List Char) :
    nextMember true (printMember m ++ rest) =
      .ok (true, m.1.toList.flatMap escape ++ '"' :: ':' :: (print m.2 ++ rest)) := by
  rw [printMember_append]
  rfl

theorem nextMember_comma (m : String × Json) (rest : List Char) :
    nextMember false (',' :: (printMember m ++ rest)) =
      .ok (true, m.1.toList.flatMap escape ++ '"' :: ':' :: (print m.2 ++ rest)) := by
  rw [printMember_append]
  rfl

section Objects

variable {member : List (String × Json) → String → Reader (List (String × Json))}

theorem objectMembers_rest {before after : List (String × Json)} {textFuel fuel : Nat}
    (rest : List Char)
    (hname : ∀ m ∈ after, m.1.toList.length < textFuel)
    (hmember : ∀ read m later, after = read ++ m :: later → ∀ rest, EndsNumber rest →
      member (before ++ read).reverse m.1 (':' :: (print m.2 ++ rest)) =
        .ok ((before ++ read ++ [m]).reverse, rest))
    (hfuel : after.length < fuel) :
    objectMembers member textFuel fuel false before.reverse
        (after.flatMap (fun m => ',' :: printMember m) ++ '\x7d' :: rest) =
      .ok ((before ++ after).reverse, rest) := by
  induction after generalizing before fuel with
  | nil =>
    obtain ⟨fuel, rfl⟩ := Nat.exists_eq_add_one.2 hfuel
    rw [List.append_nil]
    rfl
  | cons m after ih =>
    obtain ⟨fuel, rfl⟩ := Nat.exists_eq_add_one.2 (Nat.zero_lt_of_lt hfuel)
    have hends := endsNumber_flatMap printMember after '\x7d' (by decide) rest
    have hfirst := hmember [] m after rfl _ hends
    have hlater := @ih (before ++ [m]) fuel
      (fun m hm => hname m (List.mem_cons_of_mem _ hm))
      (fun read k later hsplit => by
        simpa only [List.append_assoc, List.singleton_append] using
          hmember (m :: read) k later (by rw [hsplit, List.cons_append]))
      (Nat.lt_of_succ_lt_succ hfuel)
    rw [List.append_nil] at hfirst
    rw [List.append_assoc, List.singleton_append] at hlater
    simp only [List.flatMap_cons, List.cons_append, List.append_assoc]
    simp only [objectMembers, nextMember_comma, quotedText,
      quotedRest_quote _ (hname m List.mem_cons_self), hfirst, hlater]

theorem objectMembers_written {m : String × Json} {members : List (String × Json)}
    {textFuel fuel : Nat} (rest : List Char)
    (hname : ∀ k ∈ m :: members, k.1.toList.length < textFuel)
    (hmember : ∀ read k later, m :: members = read ++ k :: later → ∀ rest, EndsNumber rest →
      member read.reverse k.1 (':' :: (print k.2 ++ rest)) = .ok ((read ++ [k]).reverse, rest))
    (hfuel : members.length + 1 < fuel) :
    objectMembers member textFuel fuel true []
        (printMember m ++ (members.flatMap (fun m => ',' :: printMember m) ++ '\x7d' :: rest)) =
      .ok ((m :: members).reverse, rest) := by
  obtain ⟨fuel, rfl⟩ := Nat.exists_eq_add_one.2 (Nat.zero_lt_of_lt hfuel)
  have hends := endsNumber_flatMap printMember members '\x7d' (by decide) rest
  have hfirst := hmember [] m members rfl _ hends
  have hlater : objectMembers member textFuel fuel false [m].reverse
      (members.flatMap (fun m => ',' :: printMember m) ++ '\x7d' :: rest) =
        .ok (([m] ++ members).reverse, rest) :=
    objectMembers_rest rest (fun k hk => hname k (List.mem_cons_of_mem _ hk))
      (fun read k later hsplit => hmember (m :: read) k later (by rw [hsplit, List.cons_append]))
      (Nat.lt_of_succ_lt_succ hfuel)
  simp only [objectMembers, nextMember_first, quotedText,
    quotedRest_quote _ (hname m List.mem_cons_self)]
  rw [List.reverse_nil, List.nil_append] at hfirst
  simp only [hfirst, hlater, List.singleton_append]

end Objects

/-! ## Values -/

theorem printItems_cons (item : Json) (items : List Json) :
    printItems (item :: items) = print item ++ items.flatMap fun j => ',' :: print j := by
  induction items generalizing item with
  | nil => simp [printItems]
  | cons next items ih => rw [printItems, ih, List.flatMap_cons, List.cons_append]; simp

theorem printMembers_cons (m : String × Json) (members : List (String × Json)) :
    printMembers (m :: members) =
      printMember m ++ members.flatMap fun m => ',' :: printMember m := by
  induction members generalizing m with
  | nil => simp [printMembers, printMember]
  | cons next members ih => simp [printMembers, ih, printMember]

theorem isSpace_of_isDigit {c : Char} (h : c.isDigit = true) : isSpace c = false := by
  rw [isSpace, ← Bool.not_eq_true]
  simp only [Bool.or_eq_true, beq_iff_eq]
  rintro (((rfl | rfl) | rfl) | rfl) <;> exact absurd h (by decide)

theorem opens_decimal (n : Nat) : Opens (decimal n) := by
  obtain ⟨d, digits, hd, hdigit⟩ := decimal_eq_cons n
  exact ⟨d, digits, hd, isSpace_of_isDigit hdigit, fun h => absurd (h ▸ hdigit) (by decide)⟩

theorem Within.opens {depth : Nat} {j : Json} (h : Within depth j) : Opens (print j) := by
  cases h with
  | null => exact ⟨'n', "ull".toList, rfl, rfl, by decide⟩
  | bool _ b =>
    cases b
    · exact ⟨'f', "alse".toList, rfl, rfl, by decide⟩
    · exact ⟨'t', "rue".toList, rfl, rfl, by decide⟩
  | natural => exact opens_decimal _
  | text _ s => exact ⟨'"', _, rfl, rfl, by decide⟩
  | list => exact ⟨'[', _, rfl, rfl, by decide⟩
  | object => exact ⟨'\x7b', _, rfl, rfl, by decide⟩

theorem anyValue_scalar {fuel depth : Nat} {c : Char} (cs : List Char) (hspace : isSpace c = false)
    (hlist : c ≠ '[') (hobject : c ≠ '\x7b') :
    anyValue fuel depth (c :: cs) = scalar fuel (c :: cs) := by
  have hwith : ∀ inner, valueWith fuel inner (c :: cs) = scalar fuel (c :: cs) := by
    intro inner
    unfold valueWith
    rw [skipSpace_cons _ hspace]
    split
    · exact absurd (List.cons.inj ‹_›).1 hlist
    · exact absurd (List.cons.inj ‹_›).1 hobject
    · exact absurd (List.cons.inj ‹_›).1 hlist
    · exact absurd (List.cons.inj ‹_›).1 hobject
    · rfl
  cases depth <;> exact hwith _

theorem length_le_length_escaped (cs : List Char) : cs.length ≤ (cs.flatMap escape).length := by
  induction cs with
  | nil => exact Nat.le_refl 0
  | cons c cs ih =>
    have hpos : 0 < (escape c).length := by
      have hwritten := escaped_escape c
      generalize escape c = written at hwritten
      cases hwritten <;> simp
    rw [List.flatMap_cons, List.length_append, List.length_cons]
    omega

theorem length_le_length_flatMap {α : Type} (write : α → List Char) (items : List α) :
    items.length ≤ (items.flatMap fun a => ',' :: write a).length := by
  induction items with
  | nil => exact Nat.le_refl 0
  | cons a items ih =>
    rw [List.flatMap_cons, List.length_append, List.length_cons, List.length_cons]
    omega

theorem length_lt_length_flatMap {α : Type} (write : α → List Char) {items : List α} {a : α}
    (h : a ∈ items) : (write a).length < (items.flatMap fun a => ',' :: write a).length := by
  obtain ⟨before, after, rfl⟩ := List.append_of_mem h
  rw [List.flatMap_append, List.flatMap_cons, List.length_append, List.length_append,
    List.length_cons]
  omega

theorem scalar_print {depth fuel : Nat} {j : Json} (h : Within depth j)
    (hlist : ∀ items, j ≠ .list items) (hobject : ∀ members, j ≠ .object members)
    (hfuel : (print j).length < fuel) {rest : List Char} (hrest : EndsNumber rest) :
    scalar fuel (print j ++ rest) = .ok (j, rest) := by
  cases h with
  | null => simp [print, scalar, word, Except.map]
  | bool _ b => cases b <;> simp [print, scalar, word, Except.map]
  | natural _ hn =>
    rename_i n
    obtain ⟨d, digits, hd, hdigit⟩ := decimal_eq_cons n
    have hne : ∀ c : Char, c.isDigit = false → d ≠ c := fun c hc h => by simp [h, hc] at hdigit
    have hread := readNumber_decimal hn hrest
    rw [hd] at hread
    simp only [natural, print, Number.print, hd]
    simp only [List.cons_append] at hread ⊢
    simp only [scalar, hne 'n' rfl, hne 't' rfl, hne 'f' rfl, hne '"' rfl, hdigit, or_true,
      if_false, if_true, hread, Except.map]
  | text _ s =>
    have hlong : s.toList.length < fuel := by
      have hescaped := length_le_length_escaped s.toList
      simp only [print, quote, List.length_append, List.length_cons] at hfuel
      omega
    simp only [print, quote, List.cons_append, List.append_assoc, List.nil_append]
    simp [scalar, quotedText, quotedRest_quote rest hlong, Except.map]
  | list => exact absurd rfl (hlist _)
  | object => exact absurd rfl (hobject _)

theorem length_of_print_list {item : Json} {items : List Json} {fuel : Nat}
    (h : (print (.list (item :: items))).length < fuel) :
    items.length + 1 < fuel ∧ ∀ j ∈ item :: items, (print j).length < fuel := by
  have hlength : (print (.list (item :: items))).length =
      (print item).length + (items.flatMap fun j => ',' :: print j).length + 2 := by
    simp only [print, printItems_cons, List.length_append, List.length_cons, List.length_nil]
  have hmany := length_le_length_flatMap print items
  refine ⟨by omega, fun j hj => ?_⟩
  rcases List.mem_cons.1 hj with rfl | hj
  · omega
  · have hitem := length_lt_length_flatMap print hj
    omega

theorem length_of_print_object {m : String × Json} {members : List (String × Json)} {fuel : Nat}
    (h : (print (.object (m :: members))).length < fuel) :
    members.length + 1 < fuel ∧
      ∀ k ∈ m :: members, k.1.toList.length < fuel ∧ (print k.2).length < fuel := by
  have hlength : (print (.object (m :: members))).length =
      (printMember m).length + (members.flatMap fun m => ',' :: printMember m).length + 2 := by
    simp only [print, printMembers_cons, List.length_append, List.length_cons, List.length_nil]
  have hmany := length_le_length_flatMap printMember members
  have hmember : ∀ k ∈ m :: members, (printMember k).length + 1 < fuel := by
    intro k hk
    rcases List.mem_cons.1 hk with rfl | hk
    · omega
    · have hlt := length_lt_length_flatMap printMember hk
      omega
  refine ⟨by omega, fun k hk => ?_⟩
  have hname := length_le_length_escaped k.1.toList
  have hk := hmember k hk
  simp only [printMember, quote, List.length_append, List.length_cons] at hk
  omega

theorem listItems_print {item : Reader Json} {items : List Json} {fuel : Nat}
    (hopens : ∀ j ∈ items, Opens (print j))
    (hitem : ∀ j ∈ items, (print j).length < fuel → ∀ rest, EndsNumber rest →
      item (print j ++ rest) = .ok (j, rest))
    (hfuel : (print (.list items)).length < fuel) (rest : List Char) :
    listItems item fuel [] (printItems items ++ ']' :: rest) = .ok (items, rest) := by
  cases items with
  | nil =>
    obtain ⟨fuel, rfl⟩ := Nat.exists_eq_add_one.2 (Nat.zero_lt_of_lt hfuel)
    rfl
  | cons first items =>
    obtain ⟨hmany, hshort⟩ := length_of_print_list hfuel
    rw [printItems_cons, List.append_assoc]
    exact listItems_written rest hopens (fun j hj => hitem j hj (hshort j hj)) hmany

theorem anyValue_list {depth fuel : Nat} {items : List Json}
    (hopens : ∀ item ∈ items, Opens (print item))
    (hread : ∀ item ∈ items, (print item).length < fuel → ∀ rest, EndsNumber rest →
      anyValue fuel depth (print item ++ rest) = .ok (item, rest))
    (hfuel : (print (.list items)).length < fuel) (rest : List Char) :
    anyValue fuel (depth + 1) (print (.list items) ++ rest) = .ok (.list items, rest) := by
  have hitems := listItems_print hopens hread hfuel rest
  simp only [print, List.cons_append, List.append_assoc, List.nil_append]
  show (listItems (anyValue fuel depth) fuel [] _).map _ = _
  rw [hitems]
  rfl

theorem anyMember_printed {value : Reader Json} {m : String × Json} {rest : List Char}
    (h : value (print m.2 ++ rest) = .ok (m.2, rest)) (read : List (String × Json)) :
    anyMember value read.reverse m.1 (':' :: (print m.2 ++ rest)) =
      .ok ((read ++ [m]).reverse, rest) := by
  show (value (print m.2 ++ rest)).map _ = _
  rw [h, List.reverse_append]
  rfl

theorem objectMembers_print
    {member : List (String × Json) → String → Reader (List (String × Json))}
    {members : List (String × Json)} {fuel : Nat}
    (hmember : ∀ read m later, members = read ++ m :: later → (print m.2).length < fuel →
      ∀ rest, EndsNumber rest → member read.reverse m.1 (':' :: (print m.2 ++ rest)) =
        .ok ((read ++ [m]).reverse, rest))
    (hfuel : (print (.object members)).length < fuel) (rest : List Char) :
    objectMembers member fuel fuel true [] (printMembers members ++ '\x7d' :: rest) =
      .ok (members.reverse, rest) := by
  cases members with
  | nil =>
    obtain ⟨fuel, rfl⟩ := Nat.exists_eq_add_one.2 (Nat.zero_lt_of_lt hfuel)
    rfl
  | cons m members =>
    obtain ⟨hmany, hshort⟩ := length_of_print_object hfuel
    rw [printMembers_cons, List.append_assoc]
    exact objectMembers_written rest (fun k hk => (hshort k hk).1)
      (fun read k later hsplit => hmember read k later hsplit
        (hshort k (hsplit ▸ List.mem_append_right _ List.mem_cons_self)).2) hmany

theorem anyValue_object {depth fuel : Nat} {members : List (String × Json)}
    (hread : ∀ m ∈ members, (print m.2).length < fuel → ∀ rest, EndsNumber rest →
      anyValue fuel depth (print m.2 ++ rest) = .ok (m.2, rest))
    (hfuel : (print (.object members)).length < fuel) (rest : List Char) :
    anyValue fuel (depth + 1) (print (.object members) ++ rest) = .ok (.object members, rest) := by
  have hmembers : objectMembers (anyMember (anyValue fuel depth)) fuel fuel true []
      (printMembers members ++ '\x7d' :: rest) = .ok (members.reverse, rest) :=
    objectMembers_print (fun read m later hsplit hshort rest hends => by
      have hm : m ∈ members := hsplit ▸ List.mem_append_right _ List.mem_cons_self
      exact anyMember_printed (hread m hm hshort rest hends) read) hfuel rest
  simp only [print, List.cons_append, List.append_assoc, List.nil_append]
  show (objectMembers (anyMember (anyValue fuel depth)) fuel fuel true [] _).map _ = _
  rw [hmembers]
  simp only [Except.map, List.reverse_reverse]

/-- A value is read back from its text, whatever follows it. -/
theorem anyValue_print {depth fuel : Nat} {j : Json} (h : Within depth j)
    (hfuel : (print j).length < fuel) {rest : List Char} (hrest : EndsNumber rest) :
    anyValue fuel depth (print j ++ rest) = .ok (j, rest) := by
  induction h generalizing rest with
  | list hitems ih =>
    exact anyValue_list (fun item hitem => (hitems item hitem).opens)
      (fun item hitem hshort _ hends => ih item hitem hshort hends) hfuel rest
  | object _ ih =>
    exact anyValue_object (fun m hm hshort _ hends => ih m hm hshort hends) hfuel rest
  | null depth =>
    exact (anyValue_scalar _ rfl (by decide) (by decide)).trans
      (scalar_print (.null depth) nofun nofun hfuel hrest)
  | bool depth b =>
    have hscalar := scalar_print (.bool depth b) nofun nofun hfuel hrest
    cases b
    · exact (anyValue_scalar _ rfl (by decide) (by decide)).trans hscalar
    · exact (anyValue_scalar _ rfl (by decide) (by decide)).trans hscalar
  | @natural depth n hn =>
    have hscalar := scalar_print (.natural depth hn) nofun nofun hfuel hrest
    obtain ⟨d, digits, hd, hdigit⟩ := decimal_eq_cons n
    have hprint : print (natural n) = d :: digits := hd
    rw [hprint, List.cons_append] at hscalar ⊢
    rw [anyValue_scalar _ (isSpace_of_isDigit hdigit), hscalar] <;>
      exact fun h => absurd (h ▸ hdigit) (by decide)
  | text depth s =>
    exact (anyValue_scalar _ rfl (by decide) (by decide)).trans
      (scalar_print (.text depth s) nofun nofun hfuel hrest)

/-- The text of a value writes that value and nothing else. -/
theorem ofChars_print {j : Json} (h : Within depthLimit j) : ofChars (print j) = .ok j := by
  have hread := anyValue_print h (Nat.lt_add_one _) endsNumber_nil
  rw [List.append_nil] at hread
  exact whole_eq_ok_iff.2 ⟨[], hread, rfl⟩

/-! ## Control characters -/

theorem not_control_of_all {cs : List Char} (h : cs.all fun c => 0x20 ≤ c.toNat) :
    ∀ c ∈ cs, 0x20 ≤ c.toNat := by
  simpa using h

theorem not_control_of_mem_enclosed {α : Type} {write : α → List Char} {a : α} {items : List α}
    (h : ∀ b ∈ a :: items, ∀ c ∈ write b, 0x20 ≤ c.toNat) {opening closing : Char}
    (hopening : 0x20 ≤ opening.toNat) (hclosing : 0x20 ≤ closing.toNat) :
    ∀ c ∈ opening :: (write a ++ items.flatMap fun b => ',' :: write b) ++ [closing],
      0x20 ≤ c.toNat := by
  simp only [List.mem_append, List.mem_cons, List.mem_flatMap, List.not_mem_nil, or_false]
  rintro c ((rfl | hc | ⟨b, hb, rfl | hc⟩) | rfl)
  · exact hopening
  · exact h a List.mem_cons_self c hc
  · decide
  · exact h b (List.mem_cons_of_mem a hb) c hc
  · exact hclosing

/-- The text of a value is one line: it has no control character. -/
theorem not_control_of_mem_print {depth : Nat} {j : Json} (h : Within depth j) :
    ∀ c ∈ print j, 0x20 ≤ c.toNat := by
  induction h with
  | null => exact not_control_of_all (by decide : "null".toList.all _)
  | bool _ b =>
    cases b
    · exact not_control_of_all (by decide : "false".toList.all _)
    · exact not_control_of_all (by decide : "true".toList.all _)
  | natural =>
    intro c hc
    have hdigit := isDigit_of_mem_decimal hc
    simp only [Char.isDigit, Bool.and_eq_true, decide_eq_true_eq] at hdigit
    exact Nat.le_trans (by decide) (show 48 ≤ c.toNat from hdigit.1)
  | text _ s => exact fun c hc => not_control_of_mem_quote hc
  | @list _ items _ ih =>
    cases items with
    | nil => exact not_control_of_all (by decide)
    | cons item items =>
      rw [print, printItems_cons]
      exact not_control_of_mem_enclosed ih (by decide) (by decide)
  | @object _ members _ ih =>
    have hmember : ∀ m ∈ members, ∀ c ∈ printMember m, 0x20 ≤ c.toNat := by
      intro m hm c hc
      rcases List.mem_append.1 hc with hc | hc
      · exact not_control_of_mem_quote hc
      · rcases List.mem_cons.1 hc with rfl | hc
        · decide
        · exact ih m hm c hc
    cases members with
    | nil => exact not_control_of_all (by decide)
    | cons m members =>
      rw [print, printMembers_cons]
      exact not_control_of_mem_enclosed hmember (by decide) (by decide)

end Alerting.Json
