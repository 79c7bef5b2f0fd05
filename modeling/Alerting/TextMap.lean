/-!
# Texts by name

A map from names to texts, kept in the order of its names. Names are compared by code point, which
is also the order of their UTF-8 bytes. The map is a list in strictly rising order, so two maps with
the same entries are equal.
-/

namespace Alerting

/-- Texts by name, in the order of their names. -/
structure TextMap where
  entries : List (String × String)
  ascending : entries.Pairwise (·.1 < ·.1)
  deriving DecidableEq

theorem lookup_cons {α β : Type} [DecidableEq α] (a : α) (e : α × β) (rest : List (α × β)) :
    (e :: rest).lookup a = if a = e.1 then some e.2 else rest.lookup a := by
  rw [List.lookup_cons]
  by_cases h : a = e.1
  · rw [if_pos h, beq_iff_eq.2 h]
  · rw [if_neg h, beq_eq_false_iff_ne.2 h]

namespace TextMap

instance : EmptyCollection TextMap := ⟨⟨[], .nil⟩⟩

/-- Puts `value` under `name` into a list in the order of its names. -/
def place (name value : String) : List (String × String) → List (String × String)
  | [] => [(name, value)]
  | e :: rest =>
    if name < e.1 then (name, value) :: e :: rest
    else if e.1 < name then e :: place name value rest
    else (name, value) :: rest

theorem fst_of_mem_place {name value : String} {entries : List (String × String)}
    {e : String × String} (h : e ∈ place name value entries) : e.1 = name ∨ e ∈ entries := by
  induction entries with
  | nil => simp [place] at h; simp [h]
  | cons x rest ih =>
    unfold place at h
    split at h
    · rcases List.mem_cons.1 h with rfl | h
      · exact .inl rfl
      · exact .inr h
    · split at h
      · rcases List.mem_cons.1 h with rfl | h
        · exact .inr List.mem_cons_self
        · exact (ih h).imp id (List.mem_cons_of_mem _)
      · rcases List.mem_cons.1 h with rfl | h
        · exact .inl rfl
        · exact .inr (List.mem_cons_of_mem _ h)

theorem ascending_place (name value : String) {entries : List (String × String)}
    (h : entries.Pairwise (·.1 < ·.1)) : (place name value entries).Pairwise (·.1 < ·.1) := by
  induction entries with
  | nil => simp [place]
  | cons x rest ih =>
    have hx := (List.pairwise_cons.1 h).1
    have hrest := (List.pairwise_cons.1 h).2
    unfold place
    split
    · rename_i hlt
      refine List.pairwise_cons.2 ⟨fun e he => ?_, h⟩
      rcases List.mem_cons.1 he with rfl | he
      · exact hlt
      · exact String.lt_trans hlt (hx e he)
    · split
      · rename_i _ hlt
        refine List.pairwise_cons.2 ⟨fun e he => ?_, ih hrest⟩
        rcases fst_of_mem_place he with h | h
        · exact h ▸ hlt
        · exact hx e h
      · rename_i h₁ h₂
        -- Neither name comes first, so they are the same.
        have heq : x.1 = name := String.le_antisymm (String.not_lt.1 h₁) (String.not_lt.1 h₂)
        exact List.pairwise_cons.2 ⟨fun e he => heq ▸ hx e he, hrest⟩

theorem lookup_place (name value n : String) (entries : List (String × String)) :
    (place name value entries).lookup n = if n = name then some value else entries.lookup n := by
  induction entries with
  | nil => simp [place, lookup_cons]
  | cons x rest ih =>
    unfold place
    split
    · simp [lookup_cons]
    · split
      · rename_i _ hlt
        have hne : x.1 ≠ name := fun e => String.lt_irrefl _ (e ▸ hlt)
        simp only [lookup_cons, ih]
        by_cases hn : n = x.1
        · subst hn
          simp [hne]
        · simp [hn]
      · rename_i h₁ h₂
        have heq : x.1 = name := String.le_antisymm (String.not_lt.1 h₁) (String.not_lt.1 h₂)
        simp only [lookup_cons, heq]
        split <;> rfl

/-- The map with `value` under `name`; an earlier text under that name is replaced. -/
def insert (m : TextMap) (name value : String) : TextMap :=
  ⟨place name value m.entries, ascending_place name value m.ascending⟩

/-- The map of a list of pairs; of several texts under one name the last one stays. -/
def ofList (pairs : List (String × String)) : TextMap :=
  pairs.foldl (fun m p => m.insert p.1 p.2) ∅

def get? (m : TextMap) (name : String) : Option String := m.entries.lookup name

@[simp] theorem entries_empty : (∅ : TextMap).entries = [] := rfl

@[simp] theorem entries_insert (m : TextMap) (name value : String) :
    (m.insert name value).entries = place name value m.entries := rfl

theorem get?_insert (m : TextMap) (name value n : String) :
    (m.insert name value).get? n = if n = name then some value else m.get? n :=
  lookup_place name value n m.entries

end TextMap

end Alerting
