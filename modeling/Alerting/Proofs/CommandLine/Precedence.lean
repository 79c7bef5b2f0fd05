import Alerting.Proofs.CommandLine.Options
import Mathlib.Data.List.Induction
import Mathlib.Data.List.Nodup
import Mathlib.Data.List.Perm.Basic

/-!
# Precedence

A setting has the value that its option gives, else the one of its variable, else the one of the
rules file; the variable of a setting that is given does not matter. The rules are those of their
option or of their variable, and the request buffer is always the file's. An accepted line gives no
option twice, and neither the order of its options nor how each of them is written makes a
difference, as long as no value that looks like an option is an argument of its own.

The variables of the settings that are not given are further choices behind those of the command
line, so that one condition tells which lines are accepted.
-/

namespace Alerting.CommandLine

/-- The setting or the switch that a choice is about. -/
def Choice.subject : Choice → Setting ⊕ Switch
  | .value s _ => .inl s
  | .on s => .inr s

/-- The value that a choice gives a setting, if it is about that one. -/
def Choice.text? (s : Setting) : Choice → Option String
  | .value t text => if t = s then some text else none
  | .on _ => none

/-- The value that choices give a setting, if they are about it. -/
def valueOf (choices : List Choice) (s : Setting) : Option String := choices.findSome? (·.text? s)

/-- No two of the choices are about the same, and each can be granted. -/
structure Consistent (choices : List Choice) : Prop where
  once : (choices.map Choice.subject).Nodup
  fine : ∀ c ∈ choices, c.Fine

def collected (choices : List Choice) : Given := choices.foldl Given.adding {}

theorem collected_snoc (choices : List Choice) (c : Choice) :
    collected (choices ++ [c]) = (collected choices).adding c :=
  List.foldl_concat ..

theorem consistent_snoc (choices : List Choice) (c : Choice) :
    Consistent (choices ++ [c]) ↔
      Consistent choices ∧ c.subject ∉ choices.map Choice.subject ∧ c.Fine := by
  constructor
  · rintro ⟨honce, hfine⟩
    rw [List.map_append, List.map_singleton, List.nodup_append_comm, List.singleton_append,
      List.nodup_cons] at honce
    rw [List.forall_mem_append, List.forall_mem_singleton] at hfine
    exact ⟨⟨honce.2, hfine.1⟩, honce.1, hfine.2⟩
  · rintro ⟨⟨honce, hfine⟩, hnew, hc⟩
    refine ⟨?_, List.forall_mem_append.2 ⟨hfine, List.forall_mem_singleton.2 hc⟩⟩
    rw [List.map_append, List.map_singleton, List.nodup_append_comm, List.singleton_append]
    exact List.nodup_cons.2 ⟨hnew, honce⟩

theorem pending_collected (choices : List Choice) : (collected choices).pending = none := by
  induction choices using List.reverseRecOn with
  | nil => rfl
  | append_singleton choices c ih => rw [collected_snoc, Given.pending_adding, ih]

theorem taken_adding (g : Given) {c : Choice} (hc : c.Fine) (d : Choice) :
    (g.adding c).taken d = true ↔ g.taken d = true ∨ d.subject = c.subject := by
  have hword : ∀ text, (∃ n, wordOf text = .ok n) ↔ (wordOf text).toOption.isSome = true := by
    intro text
    cases wordOf text <;> simp [Except.toOption]
  rcases c with ⟨_ | _ | _, text⟩ | _ | _ | _ | _ <;>
    rcases d with ⟨_ | _ | _, _⟩ | _ | _ | _ | _ <;>
    simp_all [Given.taken, Given.adding, Given.has, Choice.subject, Choice.Fine]

theorem taken_collected {choices : List Choice} (h : ∀ c ∈ choices, c.Fine) (d : Choice) :
    (collected choices).taken d = true ↔ d.subject ∈ choices.map Choice.subject := by
  induction choices using List.reverseRecOn with
  | nil => rcases d with ⟨_ | _ | _, _⟩ | _ | _ | _ | _ <;> simp [collected, Given.taken, Given.has]
  | append_singleton choices c ih =>
    rw [List.forall_mem_append, List.forall_mem_singleton] at h
    rw [collected_snoc, taken_adding _ h.2, ih h.1, List.map_append, List.mem_append,
      List.map_singleton, List.mem_singleton]

/-- Choices are granted one after the other just if they are consistent. -/
theorem grant_all_eq_ok_iff {choices : List Choice} {g : Given} :
    choices.foldlM Given.grant {} = .ok g ↔ Consistent choices ∧ g = collected choices := by
  induction choices using List.reverseRecOn generalizing g with
  | nil =>
    constructor
    · intro h
      exact ⟨⟨List.nodup_nil, nofun⟩, (Except.ok.inj h).symm⟩
    · rintro ⟨-, rfl⟩
      rfl
  | append_singleton choices c ih =>
    rw [List.foldlM_append, bind_eq_ok_iff, consistent_snoc, collected_snoc]
    simp only [ih, List.foldlM_cons, List.foldlM_nil, bind_pure]
    constructor
    · rintro ⟨_, ⟨hchoices, rfl⟩, hgrant⟩
      obtain ⟨htaken, hc, heq⟩ := (Given.grant_eq_ok_iff (pending_collected choices)).1 hgrant
      rw [← Bool.not_eq_true, taken_collected hchoices.fine] at htaken
      exact ⟨⟨hchoices, htaken, hc⟩, heq⟩
    · rintro ⟨⟨hchoices, hnew, hc⟩, heq⟩
      rw [← taken_collected hchoices.fine, Bool.not_eq_true] at hnew
      exact ⟨_, ⟨hchoices, rfl⟩,
        (Given.grant_eq_ok_iff (pending_collected choices)).2 ⟨hnew, hc, heq⟩⟩

/-! ## The environment -/

/-- What the environment chooses for a setting that is not given. -/
def missing? (environment : String → Option String) (g : Given) (s : Setting) : Option Choice :=
  if g.has s then none else (environment s.variableName).map (.value s)

def supplied (environment : String → Option String) (g : Given) : List Choice :=
  Setting.all.filterMap (missing? environment g)

theorem value_of_missing? {environment : String → Option String} {g : Given} {s : Setting} {c : Choice}
    (h : missing? environment g s = some c) : ∃ text, c = .value s text := by
  unfold missing? at h
  split at h
  · cases h
  · obtain ⟨text, -, rfl⟩ := Option.map_eq_some_iff.1 h
    exact ⟨text, rfl⟩

theorem missing?_adding (environment : String → Option String) (g : Given) {c : Choice} (hc : c.Fine)
    {s : Setting} (h : c.subject ≠ .inl s) :
    missing? environment (g.adding c) s = missing? environment g s := by
  have htaken := taken_adding g hc (.value s "")
  have hhas : (g.adding c).has s = g.has s := by
    rw [Bool.eq_iff_iff]
    exact htaken.trans (or_iff_left (Ne.symm h))
  rw [missing?, missing?, hhas]

/-- The variables of the settings that are not given are consulted like further options. -/
theorem consult_all (environment : String → Option String) {g : Given} (hg : g.pending = none)
    {settings : List Setting} (h : settings.Nodup) :
    settings.foldlM (Given.consult environment) g =
      (settings.filterMap (missing? environment g)).foldlM Given.grant g := by
  induction settings generalizing g with
  | nil => rfl
  | cons s rest ih =>
    obtain ⟨hs, hrest⟩ := List.nodup_cons.1 h
    rw [List.foldlM_cons, List.filterMap_cons, Given.consult]
    cases hhas : g.has s with
    | true =>
      have hmissing : missing? environment g s = none := if_pos hhas
      rw [hmissing]
      exact ih hg hrest
    | false =>
      have hmissing : missing? environment g s = (environment s.variableName).map (.value s) :=
        if_neg (by rw [hhas]; exact Bool.false_ne_true)
      rw [hmissing]
      cases environment s.variableName with
      | none => exact ih hg hrest
      | some text =>
        rw [Option.map_some, List.foldlM_cons]
        change (g.put s text >>= fun g => rest.foldlM (Given.consult environment) g) =
          g.put s text >>= _
        cases hput : g.put s text with
        | error stop => rfl
        | ok g' =>
          obtain ⟨-, hfine, rfl⟩ := Given.put_eq_ok_iff.1 hput
          have hsame : rest.filterMap (missing? environment (g.adding (.value s text))) =
              rest.filterMap (missing? environment g) :=
            List.filterMap_congr fun t ht => missing?_adding environment g hfine fun heq =>
              hs (Sum.inl.inj heq ▸ ht)
          exact (ih ((Given.pending_adding g _).trans hg) hrest).trans (by rw [hsame]; rfl)

/-- The choices of a command line and, behind them, those of the environment. -/
def inEffect (environment : String → Option String) (choices : List Choice) : List Choice :=
  choices ++ supplied environment (collected choices)

/-- What is asked for by what is given. -/
def asked (g : Given) : Except Stop Arguments :=
  match g.rules with
  | none => .error (.misuse .missingRules)
  | some rules => .ok ⟨rules, g.json, g.verbose, g.sweepInterval, g.evictionGrace⟩

theorem asked_ok {g : Given} {a : Arguments} (h : asked g = .ok a) :
    g.rules = some a.rules ∧ a.sweepInterval = g.sweepInterval ∧ a.evictionGrace = g.evictionGrace := by
  unfold asked at h
  split at h
  · cases h
  · rename_i rules hrules
    obtain rfl := Except.ok.inj h
    exact ⟨hrules, rfl, rfl⟩

theorem of_eq {options : List Written} {arguments : List String} (h : Spells options arguments)
    (environment : String → Option String) :
    Arguments.of arguments environment =
      (inEffect environment (options.map Written.choice)).foldlM Given.grant {} >>= asked := by
  rw [Arguments.of, Given.read_eq_of_spells h, inEffect, List.foldlM_append, bind_assoc]
  cases hread : (options.map Written.choice).foldlM Given.grant {} with
  | error stop => rfl
  | ok g =>
    obtain ⟨-, rfl⟩ := grant_all_eq_ok_iff.1 hread
    change (Setting.all.foldlM _ _ >>= asked) = (supplied _ _).foldlM _ _ >>= asked
    rw [consult_all environment (pending_collected _) (by decide), supplied]

theorem of_eq_ok_iff {options : List Written} {arguments : List String} {a : Arguments}
    (h : Spells options arguments) (environment : String → Option String) :
    Arguments.of arguments environment = .ok a ↔
      Consistent (inEffect environment (options.map Written.choice)) ∧
        asked (collected (inEffect environment (options.map Written.choice))) = .ok a := by
  rw [of_eq h, bind_eq_ok_iff]
  simp only [grant_all_eq_ok_iff]
  constructor
  · rintro ⟨_, ⟨hconsistent, rfl⟩, hasked⟩
    exact ⟨hconsistent, hasked⟩
  · rintro ⟨hconsistent, hasked⟩
    exact ⟨_, ⟨hconsistent, rfl⟩, hasked⟩

/-! ## Values -/

theorem valueOf_append (l₁ l₂ : List Choice) (s : Setting) :
    valueOf (l₁ ++ l₂) s = (valueOf l₁ s).or (valueOf l₂ s) :=
  List.findSome?_append ..

theorem text?_eq_some_iff {c : Choice} {s : Setting} {text : String} :
    c.text? s = some text ↔ c = .value s text := by
  cases c with
  | value t _ => by_cases h : t = s <;> simp [Choice.text?, h]
  | on _ => simp [Choice.text?]

theorem mem_of_valueOf {choices : List Choice} {s : Setting} {text : String}
    (h : valueOf choices s = some text) : .value s text ∈ choices := by
  obtain ⟨c, hc, htext⟩ := List.exists_of_findSome?_eq_some h
  rwa [← text?_eq_some_iff.1 htext]

theorem valueOf_eq_none_iff {choices : List Choice} {s : Setting} :
    valueOf choices s = none ↔ .inl s ∉ choices.map Choice.subject := by
  rw [valueOf, List.findSome?_eq_none_iff, List.mem_map, not_exists]
  refine forall_congr' fun c => ?_
  rw [not_and]
  refine imp_congr_right fun _ => ?_
  cases c <;> simp [Choice.text?, Choice.subject]

theorem has_collected {choices : List Choice} (h : ∀ c ∈ choices, c.Fine) (s : Setting) :
    (collected choices).has s = true ↔ valueOf choices s ≠ none := by
  rw [Ne, valueOf_eq_none_iff, not_not]
  exact taken_collected h (.value s "")

theorem valueOf_missing (environment : String → Option String) (g : Given) (settings : List Setting)
    (s : Setting) :
    valueOf (settings.filterMap (missing? environment g)) s =
      if s ∈ settings ∧ g.has s = false then environment s.variableName else none := by
  induction settings with
  | nil => rfl
  | cons t rest ih =>
    rw [List.filterMap_cons]
    by_cases ht : t = s
    · subst ht
      cases hhas : g.has t with
      | true => simpa [missing?, hhas] using ih
      | false =>
        cases htext : environment t.variableName with
        | none => simpa [missing?, hhas, htext] using ih
        | some text => simp [missing?, hhas, htext, valueOf, Choice.text?]
    · cases hmissing : missing? environment g t with
      | none => simpa [Ne.symm ht] using ih
      | some c =>
        obtain ⟨text, rfl⟩ := value_of_missing? hmissing
        simpa [valueOf, Choice.text?, ht, Ne.symm ht] using ih

theorem valueOf_supplied (environment : String → Option String) (g : Given) (s : Setting) :
    valueOf (supplied environment g) s = if g.has s = false then environment s.variableName else none := by
  have hs : s ∈ Setting.all := by cases s <;> decide
  simp [supplied, valueOf_missing, hs]

theorem valueOf_inEffect (environment : String → Option String) {choices : List Choice}
    (h : ∀ c ∈ choices, c.Fine) (s : Setting) :
    valueOf (inEffect environment choices) s =
      (valueOf choices s).or (environment s.variableName) := by
  rw [inEffect, valueOf_append, valueOf_supplied]
  cases hvalue : valueOf choices s with
  | none =>
    have hhas : ¬(collected choices).has s = true := mt (has_collected h s).1 (not_not.2 hvalue)
    rw [if_pos (Bool.not_eq_true _ ▸ hhas)]
  | some text => rfl

theorem collected_eq {choices : List Choice} (h : Consistent choices) :
    (collected choices).rules = valueOf choices .rules ∧
      (collected choices).sweepInterval =
        (valueOf choices .sweepInterval).bind (fun text => (wordOf text).toOption) ∧
      (collected choices).evictionGrace =
        (valueOf choices .evictionGrace).bind (fun text => (wordOf text).toOption) := by
  induction choices using List.reverseRecOn with
  | nil => exact ⟨rfl, rfl, rfl⟩
  | append_singleton choices c ih =>
    obtain ⟨hchoices, hnew, -⟩ := (consistent_snoc choices c).1 h
    obtain ⟨hrules, hsweep, hgrace⟩ := ih hchoices
    simp only [collected_snoc, valueOf_append]
    cases c with
    | on s => cases s <;> simpa [Given.adding, valueOf, Choice.text?] using ⟨hrules, hsweep, hgrace⟩
    | value s text =>
      have hnone := valueOf_eq_none_iff.2 hnew
      cases s <;> rw [hnone] <;> simp_all [Given.adding, valueOf, Choice.text?]

/-! ## Order -/

theorem adding_comm (g : Given) {c d : Choice} (h : c.subject ≠ d.subject) :
    (g.adding c).adding d = (g.adding d).adding c := by
  rcases c with ⟨_ | _ | _, _⟩ | _ | _ | _ | _ <;> rcases d with ⟨_ | _ | _, _⟩ | _ | _ | _ | _ <;>
    first
    | rfl
    | exact absurd rfl h

theorem collected_perm {choices choices' : List Choice} (h : Consistent choices)
    (hperm : choices.Perm choices') : collected choices = collected choices' := by
  refine hperm.foldl_eq' (fun c hc d hd g => ?_) ({} : Given)
  by_cases hsubject : c.subject = d.subject
  · rw [List.inj_on_of_nodup_map h.once hc hd hsubject]
  · exact adding_comm g hsubject

theorem Consistent.perm {choices choices' : List Choice} (h : Consistent choices)
    (hperm : choices.Perm choices') : Consistent choices' :=
  ⟨(hperm.map _).nodup_iff.1 h.once, fun c hc => h.fine c (hperm.mem_iff.2 hc)⟩

theorem Consistent.left {choices choices' : List Choice} (h : Consistent (choices ++ choices')) :
    Consistent choices :=
  ⟨(List.nodup_append.1 (List.map_append ▸ h.once)).1, fun c hc => h.fine c (List.mem_append_left _ hc)⟩

theorem inEffect_perm (environment : String → Option String) {choices choices' : List Choice}
    (h : Consistent choices) (hperm : choices.Perm choices') :
    (inEffect environment choices).Perm (inEffect environment choices') := by
  rw [inEffect, inEffect, ← collected_perm h hperm]
  exact hperm.append_right _

theorem inEffect_congr {environment environment' : String → Option String} {choices : List Choice}
    (hfine : ∀ c ∈ choices, c.Fine) (h : ∀ s : Setting, valueOf choices s = none →
      environment' s.variableName = environment s.variableName) :
    inEffect environment' choices = inEffect environment choices := by
  have hmissing : ∀ s, missing? environment' (collected choices) s =
      missing? environment (collected choices) s := by
    intro s
    unfold missing?
    split
    · rfl
    · rename_i hhas
      rw [h s (not_not.1 (mt (has_collected hfine s).2 hhas))]
  rw [inEffect, inEffect, supplied, supplied, List.filterMap_congr fun s _ => hmissing s]

/-! ## Precedence -/

/-- The number in effect is that of the option, else that of the variable, else that of the file. -/
def Prevails (option fallback : Option String) (file effective : UInt64) : Prop :=
  match option, fallback with
  | some text, _ | none, some text => wordOf text = .ok effective
  | none, none => effective = file

theorem prevails_of_consistent {environment : String → Option String} {choices : List Choice}
    (h : Consistent (inEffect environment choices)) {s : Setting} (hs : s ≠ .rules)
    {number : Option UInt64} (hnumber : number =
      (valueOf (inEffect environment choices) s).bind (fun text => (wordOf text).toOption))
    (file : UInt64) :
    Prevails (valueOf choices s) (environment s.variableName) file (number.getD file) := by
  have hfine : ∀ text, valueOf (inEffect environment choices) s = some text →
      ∃ n, wordOf text = .ok n := by
    intro text htext
    have hc := h.fine _ (mem_of_valueOf htext)
    cases s with
    | rules => exact absurd rfl hs
    | sweepInterval | evictionGrace => exact hc
  subst hnumber
  rw [valueOf_inEffect environment h.left.fine] at hfine ⊢
  generalize valueOf choices s = option at hfine ⊢
  generalize environment s.variableName = fallback at hfine ⊢
  cases option with
  | some text =>
    obtain ⟨n, hn⟩ := hfine text rfl
    simp [Prevails, hn, Except.toOption]
  | none =>
    cases fallback with
    | some text =>
      obtain ⟨n, hn⟩ := hfine text rfl
      simp [Prevails, hn, Except.toOption]
    | none => rfl

/-- **Precedence.** Each number in effect is that of its option, else of its variable, else of the
rules file, however the options are written. -/
theorem settings_precedence {arguments : List String} {environment : String → Option String}
    {a : Arguments} (h : Arguments.of arguments environment = .ok a) :
    (∃ options, Spells options arguments) ∧
    ∀ options, Spells options arguments →
      let choices := options.map Written.choice
      (choices.map Choice.subject).Nodup ∧
      (valueOf choices .rules).or (environment Setting.rules.variableName) = some a.rules ∧
      (∀ file : Settings,
        Prevails (valueOf choices .sweepInterval) (environment Setting.sweepInterval.variableName)
          file.sweepInterval (a.settings file).sweepInterval ∧
        Prevails (valueOf choices .evictionGrace) (environment Setting.evictionGrace.variableName)
          file.evictionGrace (a.settings file).evictionGrace ∧
        (a.settings file).requestBuffer = file.requestBuffer) ∧
      (∀ environment', (∀ s : Setting, valueOf choices s = none →
          environment' s.variableName = environment s.variableName) →
        Arguments.of arguments environment' = .ok a) ∧
      ∀ options' arguments', choices.Perm (options'.map Written.choice) →
        Spells options' arguments' → Arguments.of arguments' environment = .ok a := by
  constructor
  · obtain ⟨g, hread, -⟩ := bind_eq_ok_iff.1 h
    exact Given.exists_spells hread
  intro options hspells choices
  obtain ⟨hconsistent, hasked⟩ := (of_eq_ok_iff hspells environment).1 h
  have hchoices : Consistent choices := hconsistent.left
  obtain ⟨hrules, hsweep, hgrace⟩ := collected_eq hconsistent
  obtain ⟨hrules', hsweep', hgrace'⟩ := asked_ok hasked
  refine ⟨hchoices.once, ?_, fun file => ⟨?_, ?_, rfl⟩, fun environment' hsame => ?_,
    fun options' arguments' hperm hspells' => ?_⟩
  · rw [← valueOf_inEffect environment hchoices.fine, ← hrules, hrules']
  · exact prevails_of_consistent (s := .sweepInterval) hconsistent (by decide)
      (hsweep'.trans hsweep) file.sweepInterval
  · exact prevails_of_consistent (s := .evictionGrace) hconsistent (by decide)
      (hgrace'.trans hgrace) file.evictionGrace
  · rw [of_eq_ok_iff hspells, inEffect_congr hchoices.fine hsame]
    exact ⟨hconsistent, hasked⟩
  · have heffect := inEffect_perm environment hchoices hperm
    rw [of_eq_ok_iff hspells', ← collected_perm hconsistent heffect]
    exact ⟨hconsistent.perm heffect, hasked⟩

/-- The interval is that of the option, whatever the variable says; the grace is the variable's. -/
theorem settings_precedence_mixed :
    let arguments := ["--sweep-interval-secs=7", "--rules", "rules.toml", "-v"]
    let environment := fun name =>
      [("ALERTAGG_SWEEP_INTERVAL_SECS", "soon"), ("ALERTAGG_EVICTION_GRACE_SECS", "8")].lookup name
    ∃ a, Arguments.of arguments environment = .ok a ∧
      ∀ file : Settings, (a.settings file).sweepInterval = 7 ∧ (a.settings file).evictionGrace = 8 ∧
        (a.settings file).requestBuffer = file.requestBuffer := by
  intro arguments environment
  have haccepted : Arguments.of arguments environment =
      .ok ⟨"rules.toml", false, true, some 7, some 8⟩ := rfl
  have hspells : Spells [.joined .sweepInterval "7", .apart .rules "rules.toml", .letter] arguments := by
    refine ⟨?_, .inl rfl⟩
    simp [Written.Stands, LooksLikeOption]
  obtain ⟨-, -, hfile, -⟩ := (settings_precedence haccepted).2 _ hspells
  refine ⟨_, haccepted, fun file => ?_⟩
  obtain ⟨hsweep, hgrace, hbuffer⟩ := hfile file
  have hseven : wordOf "7" = .ok 7 := rfl
  have height : wordOf "8" = .ok 8 := rfl
  exact ⟨(Except.ok.inj (hseven.symm.trans hsweep)).symm,
    (Except.ok.inj (height.symm.trans hgrace)).symm, hbuffer⟩

/-- A value that looks like an option is one behind an equals sign, and none as an argument of its
own. -/
theorem hyphen_value_needs_equals :
    let joined : Written := .joined .rules "-x"
    let apart : Written := .apart .rules "-x"
    joined.choice = apart.choice ∧
      Arguments.of joined.arguments (fun _ => none) = .ok { rules := "-x" } ∧
      Arguments.of apart.arguments (fun _ => none) = .error (.misuse (.unknown "-x")) :=
  ⟨rfl, rfl, rfl⟩

end Alerting.CommandLine
