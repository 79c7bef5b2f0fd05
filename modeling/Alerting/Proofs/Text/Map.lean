import Alerting.TextMap
import Mathlib.Data.List.Nodup

/-!
# Maps of texts and the pairs that make them

A map is known by the text that it gives each name. A list of pairs gives a name the last text that it
has for it, so two lists make the same map exactly if the last texts under each name are the same.
-/

namespace Alerting

theorem lookup_eq_some_iff_mem {α β : Type} [DecidableEq α] {l : List (α × β)}
    (h : (l.map (·.1)).Nodup) {a : α} {b : β} : l.lookup a = some b ↔ (a, b) ∈ l := by
  induction l with
  | nil => simp
  | cons e rest ih =>
    obtain ⟨hnew, hrest⟩ := List.nodup_cons.1 h
    rw [lookup_cons, List.mem_cons]
    split
    · rename_i ha
      subst ha
      have hnot : (e.1, b) ∉ rest := fun hmem => hnew (List.mem_map.2 ⟨_, hmem, rfl⟩)
      simp [Prod.ext_iff, hnot, eq_comm]
    · rename_i ha
      simp [Prod.ext_iff, ha, ih hrest]

namespace TextMap

theorem eq_of_entries {m n : TextMap} (h : m.entries = n.entries) : m = n := by
  cases m
  cases n
  cases h
  rfl

theorem nodup_names (m : TextMap) : (m.entries.map (·.1)).Nodup := by
  rw [List.Nodup, List.pairwise_map]
  refine m.ascending.imp fun {e d} hlt heq => ?_
  rw [heq] at hlt
  exact String.lt_irrefl _ hlt

theorem eq_of_get? {m n : TextMap} (h : ∀ name, m.get? name = n.get? name) : m = n := by
  have hmem : ∀ e, e ∈ m.entries ↔ e ∈ n.entries := by
    rintro ⟨name, value⟩
    rw [← lookup_eq_some_iff_mem m.nodup_names, ← lookup_eq_some_iff_mem n.nodup_names]
    exact iff_of_eq (congrArg (· = some value) (h name))
  have hperm : m.entries.Perm n.entries :=
    (List.perm_ext_iff_of_nodup m.nodup_names.of_map n.nodup_names.of_map).2 hmem
  refine eq_of_entries (hperm.eq_of_pairwise ?_ m.ascending n.ascending)
  exact fun e d _ _ hlt hgt => absurd hgt (String.lt_asymm hlt)

/-! ## Lists of pairs -/

/-- The last text that a list of pairs has under a name. -/
def lastUnder (name : String) (pairs : List (String × String)) : Option String :=
  pairs.reverse.lookup name

theorem lastUnder_append (name : String) (ps qs : List (String × String)) :
    lastUnder name (ps ++ qs) = (lastUnder name qs).or (lastUnder name ps) := by
  rw [lastUnder, List.reverse_append, List.lookup_append, lastUnder, lastUnder]

theorem lastUnder_cons (name : String) (p : String × String) (ps : List (String × String)) :
    lastUnder name (p :: ps) = (lastUnder name ps).or (if name = p.1 then some p.2 else none) := by
  rw [← List.singleton_append, lastUnder_append]
  congr 1
  exact lookup_cons name p []

theorem get?_ofList (pairs : List (String × String)) (name : String) :
    (ofList pairs).get? name = lastUnder name pairs := by
  have hfold : ∀ (pairs : List (String × String)) (m : TextMap),
      (pairs.foldl (fun m p => m.insert p.1 p.2) m).get? name =
        (lastUnder name pairs).or (m.get? name) := by
    intro pairs
    induction pairs with
    | nil => exact fun m => rfl
    | cons p rest ih =>
      intro m
      rw [List.foldl_cons, ih, get?_insert, lastUnder_cons, Option.or_assoc]
      split <;> rfl
  exact (hfold pairs ∅).trans (Option.or_none ..)

theorem ofList_eq_iff {ps qs : List (String × String)} :
    ofList ps = ofList qs ↔ ∀ name, lastUnder name ps = lastUnder name qs := by
  simp only [← get?_ofList]
  exact ⟨fun h name => by rw [h], eq_of_get?⟩

theorem lastUnder_of_perm {ps qs : List (String × String)} (h : ps.Perm qs)
    (hnames : (ps.map (·.1)).Nodup) (name : String) : lastUnder name ps = lastUnder name qs := by
  have hreverse : ∀ l : List (String × String), (l.map (·.1)).Nodup →
      (l.reverse.map (·.1)).Nodup := fun l hl => by
    rw [List.map_reverse]
    exact List.nodup_reverse.2 hl
  ext value
  rw [lastUnder, lastUnder, lookup_eq_some_iff_mem (hreverse ps hnames),
    lookup_eq_some_iff_mem (hreverse qs ((h.map _).nodup_iff.1 hnames)), List.mem_reverse,
    List.mem_reverse, h.mem_iff]

/-- A pair does not matter if its name comes again behind it. -/
theorem lastUnder_of_overwritten (before : List (String × String)) {p : String × String}
    {after : List (String × String)} (h : p.1 ∈ after.map (·.1)) (name : String) :
    lastUnder name (before ++ p :: after) = lastUnder name (before ++ after) := by
  rw [lastUnder_append, lastUnder_append, lastUnder_cons]
  congr 1
  split
  · rename_i hname
    subst hname
    have hsome : lastUnder p.1 after ≠ none := by
      rw [lastUnder, ne_eq, List.lookup_eq_none_iff]
      obtain ⟨q, hq, hqp⟩ := List.mem_map.1 h
      exact fun hnone => by simpa [hqp] using hnone q (List.mem_reverse.2 hq)
    obtain ⟨value, hvalue⟩ := Option.ne_none_iff_exists'.1 hsome
    rw [hvalue]
    rfl
  · exact Option.or_none ..

theorem ofList_entries (m : TextMap) : ofList m.entries = m := by
  refine eq_of_get? fun name => ?_
  rw [get?_ofList, lastUnder_of_perm m.entries.reverse_perm.symm m.nodup_names, lastUnder,
    List.reverse_reverse]
  rfl

end TextMap

end Alerting
