import Alerting.Proofs.Json.Shape
import Alerting.Rule.Basic
import Alerting.RulesFile.Basic

/-!
# Rules files, read back

A rules file, be it from TOML or JSON, is read back from its JSON text as it was: nothing that a
filter, a rule or the settings hold is lost or put in another place. So for every event the first
rule that claims it is at the same place, as whatever objects the rules are installed.
-/

namespace Alerting

open Json

theorem kept_word (depth : Nat) (n : UInt64) : Shape.Kept .natural depth (.natural n.toNat) :=
  .natural depth n.toNat_lt

namespace Filter

theorem of_self (f : Filter) : of f.name f.pattern = .ok f := by
  unfold of
  split
  · exact congrArg Except.ok (eq_of rfl rfl)
  · rename_i e he
    exact absurd (f.regex_eq.symm.trans he) nofun

def members (f : Filter) : List (String × Json) := [("name", .text f.name), ("value", .text f.pattern)]

theorem of_members (f : Filter) : of (member "name" f.members) (member "value" f.members) = .ok f :=
  f.of_self

theorem problem_members (f : Filter) : problem f.members = none := by
  rw [problem, of_members]

theorem kept_toJson (f : Filter) (depth : Nat) : Shape.Kept shape (depth + 1) f.toJson := by
  refine .record (by simp) (by simp) ?_ ?_
  · rw [Shape.close, show problem [("name", _), ("value", _)] = none from f.problem_members]
    rfl
  · simp only [List.forall_mem_cons]
    exact ⟨.text depth rfl, .text depth rfl, nofun⟩

theorem ofJson?_toJson (f : Filter) : ofJson? f.toJson = some f :=
  congrArg Except.toOption f.of_members

end Filter

namespace Rule

theorem kept_toJson (r : Rule) (depth : Nat) : Shape.Kept shape (depth + 3) r.toJson := by
  have hfilters : Shape.Kept (.list Filter.shape) (depth + 2) (.list (r.filters.map Filter.toJson)) := by
    refine .list fun j hj => ?_
    obtain ⟨f, -, rfl⟩ := List.mem_map.1 hj
    exact f.kept_toJson depth
  have hrate := kept_word (depth + 2) r.repeatRate
  unfold toJson
  cases r.name with
  | none =>
    refine .record (by simp) (by simp) rfl ?_
    simp only [List.nil_append, List.forall_mem_cons]
    exact ⟨hfilters, hrate, nofun⟩
  | some name =>
    refine .record (by simp) (by simp) rfl ?_
    simp only [List.cons_append, List.nil_append, List.forall_mem_cons]
    exact ⟨.optional (.text _ rfl), hfilters, hrate, nofun⟩

theorem ofJson_toJson (r : Rule) : ofJson r.toJson = r := by
  have hfilters : (r.filters.map Filter.toJson).filterMap Filter.ofJson? = r.filters := by
    have hof : Filter.ofJson? ∘ Filter.toJson = some := funext Filter.ofJson?_toJson
    rw [List.filterMap_map, hof, List.filterMap_some]
  obtain ⟨name, filters, repeatRate⟩ := r
  cases name <;>
    simp [toJson, ofJson, wordOr, member?, lookup_cons, text?, items, natural?, natural, hfilters]

end Rule

namespace Settings

theorem kept_toJson (s : Settings) (depth : Nat) : Shape.Kept shape (depth + 1) s.toJson := by
  refine .record (by simp) (by simp) rfl ?_
  simp only [List.forall_mem_cons]
  exact ⟨kept_word _ _, kept_word _ _, kept_word _ _, nofun⟩

theorem ofJson_toJson (s : Settings) : ofJson s.toJson = s := by
  simp [toJson, ofJson, wordOr, member?, lookup_cons, natural?, natural]

end Settings

/-- Among rules as objects of their own, the first that claims an event stands where it stood. -/
theorem SharedRule.token_firstMatch?_number (first : Nat) (rules : List Rule) (e : Event) :
    (firstMatch? (number first rules) e).map (·.token) =
      (Rule.firstIndex? rules e).map (first + ·) := by
  unfold firstMatch? Rule.firstIndex?
  induction rules generalizing first with
  | nil => rfl
  | cons r rest ih =>
    rw [number, List.find?_cons, List.findIdx?_cons]
    cases r.handles e with
    | true => rfl
    | false =>
      simp only [ih, Bool.false_eq_true, if_false, Option.map_map]
      congr 1
      funext i
      simp only [Function.comp_apply]
      omega

namespace RulesFile

theorem kept_toJson (f : RulesFile) (depth : Nat) : Shape.Kept shape (depth + 5) f.toJson := by
  have hrules : Shape.Kept (.list Rule.shape) (depth + 4) (.list (f.rules.map Rule.toJson)) := by
    refine .list fun j hj => ?_
    obtain ⟨r, -, rfl⟩ := List.mem_map.1 hj
    exact r.kept_toJson depth
  refine .record (by simp) (by simp) rfl ?_
  simp only [List.forall_mem_cons]
  exact ⟨f.settings.kept_toJson _, hrules, nofun⟩

theorem ofJson_toJson (f : RulesFile) : ofJson f.toJson = f := by
  have hrules : (f.rules.map Rule.toJson).map Rule.ofJson = f.rules := by
    have hof : Rule.ofJson ∘ Rule.toJson = id := funext Rule.ofJson_toJson
    rw [List.map_map, hof, List.map_id]
  simp [toJson, ofJson, member?, lookup_cons, items, Settings.ofJson_toJson, hrules]

theorem ofString_compact (f : RulesFile) : ofString f.toJson.compact = .ok f := by
  rw [ofString, Shape.ofString, compact, String.toList_ofList, (f.kept_toJson 122).ofChars_print]
  exact congrArg Except.ok f.ofJson_toJson

/-- **Writing and reading again.** A rules file is read from its JSON text with the same settings
and rules, which write that text again. -/
theorem settings_and_rules_read_back (f : RulesFile) :
    ∃ f', ofString f.toJson.compact = .ok f' ∧ f'.settings = f.settings ∧ f'.rules = f.rules ∧
      f'.toJson.compact = f.toJson.compact ∧
      ∀ e first, (SharedRule.firstMatch? (SharedRule.number first f'.rules) e).map (·.token) =
        (Rule.firstIndex? f.rules e).map (first + ·) :=
  ⟨f, f.ofString_compact, rfl, rfl, rfl, fun e first =>
    SharedRule.token_firstMatch?_number first f.rules e⟩

end RulesFile

end Alerting
