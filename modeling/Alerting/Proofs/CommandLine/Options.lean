import Alerting.CommandLine.Basic
import Alerting.Proofs.Basic
import Mathlib.Data.List.TakeWhile

/-!
# Options

An accepted command line is a list of options. Each of them chooses something, and what is read of the
line is what its choices come to, one after the other.
-/

namespace Alerting.CommandLine

/-- What an option asks for. -/
inductive Choice where
  /-- A setting gets this text for its value. -/
  | value (s : Setting) (text : String)
  | on (s : Switch)

/-- The text begins with a hyphen and is longer than it. -/
def LooksLikeOption (text : String) : Prop := ∃ c cs, text.toList = '-' :: c :: cs

/-- An option as it is written. -/
inductive Written where
  /-- A setting with its value behind an equals sign. -/
  | joined (s : Setting) (value : String)
  /-- A setting with its value as the next argument. -/
  | apart (s : Setting) (value : String)
  | named (s : Switch)
  /-- The letter of the switch for more in the log. The other letters end the program. -/
  | letter

namespace Written

def choice : Written → Choice
  | joined s value | apart s value => .value s value
  | named s => .on s
  | letter => .on .verbose

def arguments : Written → List String
  | joined s value => ["--" ++ s.name ++ "=" ++ value]
  | apart s value => ["--" ++ s.name, value]
  | named s => ["--" ++ s.name]
  | letter => ["-v"]

/-- No value that is an argument of its own is taken for an option. -/
def Stands : Written → Prop
  | apart _ value => ¬LooksLikeOption value
  | joined _ _ | named _ | letter => True

end Written

/-- The arguments are these options. Two hyphens alone may follow. -/
structure Spells (options : List Written) (arguments : List String) : Prop where
  stand : ∀ o ∈ options, o.Stands
  written : arguments = options.flatMap Written.arguments ∨
    arguments = options.flatMap Written.arguments ++ ["--"]

theorem spells_nil : Spells [] [] := ⟨nofun, .inl rfl⟩

theorem Spells.cons {o : Written} {options : List Written} {rest : List String} (ho : o.Stands)
    (h : Spells options rest) : Spells (o :: options) (o.arguments ++ rest) := by
  refine ⟨List.forall_mem_cons.2 ⟨ho, h.stand⟩, ?_⟩
  rw [List.flatMap_cons, List.append_assoc]
  exact h.written.imp (congrArg (o.arguments ++ ·)) (congrArg (o.arguments ++ ·))

/-- The choice can be granted: a value is what its setting needs, and a switch does not end the
program. -/
def Choice.Fine : Choice → Prop
  | .value .rules text => text ≠ ""
  | .value .sweepInterval text | .value .evictionGrace text => ∃ n, wordOf text = .ok n
  | .on s => s = .json ∨ s = .verbose

namespace Given

def grant (g : Given) : Choice → Except Stop Given
  | .value s text => g.put s text
  | .on s => g.turnOn s

def taken (g : Given) : Choice → Bool
  | .value s _ => g.has s
  | .on .json => g.json
  | .on .verbose => g.verbose
  | .on .help | .on .version => false

def adding (g : Given) : Choice → Given
  | .value .rules text => { g with rules := some text }
  | .value .sweepInterval text => { g with sweepInterval := (wordOf text).toOption }
  | .value .evictionGrace text => { g with evictionGrace := (wordOf text).toOption }
  | .on .json => { g with json := true }
  | .on .verbose => { g with verbose := true }
  | .on .help | .on .version => g

/-! ## Names -/

theorem exists_name (cs : List Char) : ∃ name : String, '=' ∉ name.toList ∧
    (cs = name.toList ∨ ∃ value : String, cs = name.toList ++ '=' :: value.toList) := by
  induction cs with
  | nil => exact ⟨"", by simp, .inl rfl⟩
  | cons c rest ih =>
    by_cases hc : c = '='
    · exact ⟨"", by simp, .inr ⟨.ofList rest, by simp [hc]⟩⟩
    · obtain ⟨name, hname, hrest⟩ := ih
      refine ⟨.ofList (c :: name.toList), by simp [Ne.symm hc, hname], ?_⟩
      rw [String.toList_ofList]
      rcases hrest with h | ⟨value, h⟩
      · exact .inl (congrArg (c :: ·) h)
      · exact .inr ⟨value, congrArg (c :: ·) h⟩

theorem all_ne_equals {name : String} (h : '=' ∉ name.toList) :
    ∀ c ∈ name.toList, decide (c ≠ '=') = true :=
  fun _ hc => decide_eq_true (ne_of_mem_of_not_mem hc h)

theorem readName_plain (g : Given) {name : String} (h : '=' ∉ name.toList) :
    g.readName name.toList =
      match Setting.all.find? fun s => s.name = name, Switch.all.find? fun s => s.name = name with
      | some s, _ => do
        let g ← g.settle
        .ok { g with pending := some (s, none) }
      | none, some s => g.turnOn s
      | none, none => .error (.misuse (.unknown ("--" ++ name))) := by
  have htake : name.toList.takeWhile (· ≠ '=') = name.toList :=
    List.takeWhile_eq_self_iff.2 (all_ne_equals h)
  have hdrop : name.toList.dropWhile (· ≠ '=') = [] := List.dropWhile_eq_nil_iff.2 (all_ne_equals h)
  have hread := readName.eq_def g name.toList
  simp only [htake, hdrop, String.ofList_toList] at hread
  exact hread

theorem readName_equals (g : Given) {name : String} (h : '=' ∉ name.toList) (value : String) :
    g.readName (name.toList ++ '=' :: value.toList) =
      match Setting.all.find? fun s => s.name = name, Switch.all.find? fun s => s.name = name with
      | some s, _ => do (← g.settle).put s value
      | none, some s => .error (.misuse (.surplusValue s value))
      | none, none => .error (.misuse (.unknown ("--" ++ name))) := by
  have hall := all_ne_equals h
  have htake : (name.toList ++ '=' :: value.toList).takeWhile (· ≠ '=') = name.toList := by
    rw [List.takeWhile_append_of_pos hall, List.takeWhile_cons_of_neg (by decide), List.append_nil]
  have hdrop : (name.toList ++ '=' :: value.toList).dropWhile (· ≠ '=') = '=' :: value.toList := by
    rw [List.dropWhile_append_of_pos hall, List.dropWhile_cons_of_neg (by decide)]
  have hread := readName.eq_def g (name.toList ++ '=' :: value.toList)
  simp only [htake, hdrop, String.ofList_toList] at hread
  exact hread

theorem find?_setting (s : Setting) : (Setting.all.find? fun t => t.name = s.name) = some s := by
  cases s <;> rfl

theorem find?_switch (s : Switch) : (Setting.all.find? fun t => t.name = s.name) = none ∧
    (Switch.all.find? fun t => t.name = s.name) = some s := by
  cases s <;> exact ⟨rfl, rfl⟩

theorem readName_joined (g : Given) (s : Setting) (value : String) :
    g.readName (s.name.toList ++ '=' :: value.toList) = g.settle >>= fun g => g.put s value := by
  rw [readName_equals g (by cases s <;> decide), find?_setting]

theorem readName_apart (g : Given) (s : Setting) :
    g.readName s.name.toList = g.settle >>= fun g => .ok { g with pending := some (s, none) } := by
  rw [readName_plain g (by cases s <;> decide), find?_setting]

theorem readName_named (g : Given) (s : Switch) : g.readName s.name.toList = g.turnOn s := by
  rw [readName_plain g (by cases s <;> decide), (find?_switch s).1, (find?_switch s).2]

/-! ## One argument -/

theorem read_name (g : Given) {argument : String} {cs : List Char} (rest : List String)
    (h : argument.toList = '-' :: '-' :: cs) (hcs : cs ≠ []) :
    g.read (argument :: rest) = g.readName cs >>= fun g => g.read rest := by
  obtain ⟨c, cs, rfl⟩ := List.exists_cons_of_ne_nil hcs
  rw [read.eq_def]
  simp only [h]

theorem read_letters (g : Given) {argument : String} {c : Char} {cs : List Char} (rest : List String)
    (h : argument.toList = '-' :: c :: cs) (hc : c ≠ '-') :
    g.read (argument :: rest) = g.readLetters (c :: cs) >>= fun g => g.read rest := by
  rw [read.eq_def]
  dsimp only
  rw [h]
  split
  · rename_i heq
    exact absurd (List.cons.inj (List.cons.inj heq).2).1 hc
  · rename_i heq
    exact absurd (List.cons.inj (List.cons.inj heq).2).1 hc
  · rename_i heq
    cases heq
    rfl
  · rename_i hnone
    exact absurd rfl (hnone c cs)

theorem read_value (g : Given) {argument : String} (rest : List String)
    (h : ¬LooksLikeOption argument) :
    g.read (argument :: rest) = g.readValue argument >>= fun g => g.read rest := by
  rw [read.eq_def]
  dsimp only
  split
  · rename_i heq
    exact absurd ⟨_, _, heq⟩ h
  · rename_i heq
    exact absurd ⟨_, _, heq⟩ h
  · rename_i heq
    exact absurd ⟨_, _, heq⟩ h
  · rfl

/-! ## What is put off -/

theorem settle_of_none {g : Given} (h : g.pending = none) : g.settle = .ok g := by
  unfold settle
  rw [h]

theorem put_eq_ok_iff {g g' : Given} {s : Setting} {text : String} :
    g.put s text = .ok g' ↔
      g.has s = false ∧ (Choice.value s text).Fine ∧ g' = g.adding (.value s text) := by
  unfold put
  cases hhas : g.has s with
  | true => simp
  | false =>
    cases s with
    | rules => by_cases htext : text = "" <;> simp [Choice.Fine, adding, htext, eq_comm]
    | sweepInterval | evictionGrace =>
      cases hword : wordOf text <;> simp [Choice.Fine, adding, hword, Except.toOption, eq_comm]

theorem turnOn_eq_ok_iff {g g' : Given} {s : Switch} (h : g.pending = none) :
    g.turnOn s = .ok g' ↔
      g.taken (.on s) = false ∧ (Choice.on s).Fine ∧ g' = g.adding (.on s) := by
  rw [turnOn, settle_of_none h]
  cases s with
  | json => cases hjson : g.json <;> simp [taken, Choice.Fine, adding, hjson, bind, Except.bind, eq_comm]
  | verbose =>
    cases hverbose : g.verbose <;>
      simp [taken, Choice.Fine, adding, hverbose, bind, Except.bind, eq_comm]
  | help | version => simp [Choice.Fine, bind, Except.bind]

theorem grant_eq_ok_iff {g g' : Given} {c : Choice} (h : g.pending = none) :
    g.grant c = .ok g' ↔ g.taken c = false ∧ c.Fine ∧ g' = g.adding c := by
  cases c with
  | value s text => exact put_eq_ok_iff
  | on s => exact turnOn_eq_ok_iff h

theorem pending_adding (g : Given) (c : Choice) : (g.adding c).pending = g.pending := by
  unfold adding
  split <;> rfl

theorem pending_put {g g' : Given} {s : Setting} {text : String} (h : g.put s text = .ok g') :
    g'.pending = g.pending := by
  rw [(put_eq_ok_iff.1 h).2.2, pending_adding]

theorem pending_settle {g g' : Given} (h : g.settle = .ok g') : g'.pending = none := by
  unfold settle at h
  split at h
  · rename_i hnone
    rw [← Except.ok.inj h, hnone]
  · cases h
  · exact pending_put h

theorem settle_settle {g : Given} {α : Type} (f : Given → Except Stop α) :
    (g.settle >>= fun g => g.settle >>= f) = g.settle >>= f := by
  cases h : g.settle with
  | error stop => rfl
  | ok g' => exact congrArg (· >>= f) (settle_of_none (pending_settle h))

theorem settle_grant {g : Given} (c : Choice) {α : Type} (f : Given → Except Stop α) :
    (g.settle >>= fun g => g.grant c >>= fun g => g.settle >>= f) =
      g.settle >>= fun g => g.grant c >>= f := by
  cases h : g.settle with
  | error stop => rfl
  | ok g₁ =>
    change (g₁.grant c >>= fun g => g.settle >>= f) = g₁.grant c >>= f
    cases hgrant : g₁.grant c with
    | error stop => rfl
    | ok g₂ =>
      obtain ⟨-, -, rfl⟩ := (grant_eq_ok_iff (pending_settle h)).1 hgrant
      exact congrArg (· >>= f) (settle_of_none ((pending_adding g₁ c).trans (pending_settle h)))

/-- A value that was put off is granted when it is looked at. -/
theorem settle_pending {g : Given} (s : Setting) (value : String) {α : Type}
    (f : Given → Except Stop α) :
    (g.settle >>= fun g => { g with pending := some (s, some value) }.settle >>= f) =
      g.settle >>= fun g => g.grant (.value s value) >>= f := by
  cases h : g.settle with
  | error stop => rfl
  | ok g₁ =>
    have hg₁ : { g₁ with pending := none } = g₁ := by rw [← pending_settle h]
    change ({ g₁ with pending := none }.put s value >>= f) = g₁.put s value >>= f
    rw [hg₁]

theorem turnOn_eq_bind (g : Given) (s : Switch) :
    g.turnOn s = g.settle >>= fun g => g.turnOn s :=
  (settle_settle _).symm

/-! ## All arguments -/

theorem read_joined (g : Given) (s : Setting) (value : String) (rest : List String) :
    g.read (("--" ++ s.name ++ "=" ++ value) :: rest) =
      g.settle >>= fun g => g.grant (.value s value) >>= fun g => g.read rest := by
  have h : ("--" ++ s.name ++ "=" ++ value).toList =
      '-' :: '-' :: (s.name.toList ++ '=' :: value.toList) := by simp
  rw [read_name g rest h (by simp), readName_joined, bind_assoc]
  rfl

theorem read_apart (g : Given) (s : Setting) {value : String} (hvalue : ¬LooksLikeOption value)
    (rest : List String) :
    g.read (("--" ++ s.name) :: value :: rest) =
      g.settle >>= fun g => { g with pending := some (s, some value) }.read rest := by
  have h : ("--" ++ s.name).toList = '-' :: '-' :: s.name.toList := by simp
  rw [read_name g (value :: rest) h (by cases s <;> simp [Setting.name]), readName_apart, bind_assoc]
  congr 1
  funext g
  change read { g with pending := some (s, none) } (value :: rest) = _
  rw [read_value _ rest hvalue]
  rfl

theorem read_named (g : Given) (s : Switch) (rest : List String) :
    g.read (("--" ++ s.name) :: rest) =
      g.settle >>= fun g => g.grant (.on s) >>= fun g => g.read rest := by
  have h : ("--" ++ s.name).toList = '-' :: '-' :: s.name.toList := by simp
  rw [read_name g rest h (by cases s <;> simp [Switch.name]), readName_named, turnOn_eq_bind, bind_assoc]
  rfl

theorem read_letter (g : Given) (rest : List String) :
    g.read ("-v" :: rest) =
      g.settle >>= fun g => g.grant (.on .verbose) >>= fun g => g.read rest := by
  have hletters : g.readLetters ['v'] = g.turnOn .verbose := by
    change (g.turnOn .verbose >>= fun g => readLetters g []) = _
    exact bind_pure _
  have h : "-v".toList = ['-', 'v'] := rfl
  rw [read_letters g rest h (by decide), hletters, turnOn_eq_bind, bind_assoc]
  rfl

/-- What is read of options is what they choose, one after the other. -/
theorem read_written (g : Given) {options : List Written} {tail : List String}
    (hstand : ∀ o ∈ options, o.Stands) (htail : tail = [] ∨ tail = ["--"]) :
    g.read (options.flatMap Written.arguments ++ tail) =
      g.settle >>= fun g => (options.map Written.choice).foldlM grant g := by
  induction options generalizing g with
  | nil =>
    have hsettle : g.read tail = g.settle := by
      rcases htail with rfl | rfl <;> rfl
    exact hsettle.trans (bind_pure _).symm
  | cons o rest ih =>
    obtain ⟨ho, hrest⟩ := List.forall_mem_cons.1 hstand
    rw [List.flatMap_cons, List.append_assoc, List.map_cons]
    simp only [List.foldlM_cons]
    cases o with
    | joined s value =>
      change g.read (_ :: (rest.flatMap Written.arguments ++ tail)) = _
      simp only [read_joined, ih _ hrest]
      exact settle_grant _ _
    | apart s value =>
      change g.read (_ :: _ :: (rest.flatMap Written.arguments ++ tail)) = _
      simp only [read_apart g s ho, ih _ hrest]
      exact settle_pending s value _
    | named s =>
      change g.read (_ :: (rest.flatMap Written.arguments ++ tail)) = _
      simp only [read_named, ih _ hrest]
      exact settle_grant _ _
    | letter =>
      change g.read (_ :: (rest.flatMap Written.arguments ++ tail)) = _
      simp only [read_letter, ih _ hrest]
      exact settle_grant _ _

/-! ## Nothing else is read -/

theorem turnOn_ok {g g' : Given} {s : Switch} (h : g.turnOn s = .ok g') :
    ∃ g₁, g.settle = .ok g₁ ∧ g'.pending = none ∧ g₁.taken (.on s) = false ∧ (Choice.on s).Fine ∧
      g' = g₁.adding (.on s) := by
  rw [turnOn_eq_bind] at h
  obtain ⟨g₁, hsettle, h⟩ := bind_eq_ok_iff.1 h
  have hnone := pending_settle hsettle
  obtain ⟨htaken, hfine, heq⟩ := (turnOn_eq_ok_iff hnone).1 h
  exact ⟨g₁, hsettle, by rw [heq, pending_adding, hnone], htaken, hfine, heq⟩

theorem not_awaits_of_settle {g g' : Given} (h : g.settle = .ok g') (s : Setting) :
    g.pending ≠ some (s, none) := by
  intro hpending
  unfold settle at h
  rw [hpending] at h
  cases h

theorem readLetters_cons {g g' : Given} {c : Char} {cs : List Char}
    (h : g.readLetters (c :: cs) = .ok g') :
    c = 'v' ∧ ∃ g₁, g.turnOn .verbose = .ok g₁ ∧ g₁.readLetters cs = .ok g' := by
  unfold readLetters at h
  split at h
  · rename_i s hs
    obtain ⟨g₁, hon, hrest⟩ := bind_eq_ok_iff.1 h
    obtain ⟨-, -, -, -, hfine, -⟩ := turnOn_ok hon
    have hletter : s.letter? = some c := by simpa using List.find?_some hs
    rcases hfine with rfl | rfl
    · cases hletter
    · exact ⟨(Option.some.inj hletter).symm, g₁, hon, hrest⟩
  · cases h

theorem readLetters_ok {g g' : Given} {c : Char} {cs : List Char}
    (h : g.readLetters (c :: cs) = .ok g') : c = 'v' ∧ cs = [] ∧ g.turnOn .verbose = .ok g' := by
  obtain ⟨rfl, g₁, hon, h⟩ := readLetters_cons h
  cases cs with
  | nil => exact ⟨rfl, rfl, hon.trans h⟩
  | cons c' cs =>
    obtain ⟨-, g₂, hagain, -⟩ := readLetters_cons h
    obtain ⟨g₀, -, hnone, -, -, rfl⟩ := turnOn_ok hon
    have hfree := ((turnOn_eq_ok_iff hnone).1 hagain).1
    cases hfree

theorem readName_ok {g g' : Given} {cs : List Char} (h : g.readName cs = .ok g') :
    (∃ (s : Setting) (value : String), cs = s.name.toList ++ '=' :: value.toList ∧
      (g.settle >>= fun g => g.put s value) = .ok g') ∨
    (∃ s : Setting, cs = s.name.toList ∧
      (g.settle >>= fun g => .ok { g with pending := some (s, none) }) = .ok g') ∨
    ∃ s : Switch, cs = s.name.toList ∧ g.turnOn s = .ok g' := by
  obtain ⟨name, hname, rfl | ⟨value, rfl⟩⟩ := exists_name cs
  · rw [readName_plain g hname] at h
    split at h
    · rename_i s hs
      have heq : s.name = name := by simpa using List.find?_some hs
      exact .inr (.inl ⟨s, by rw [heq], h⟩)
    · rename_i s _ hs
      have heq : s.name = name := by simpa using List.find?_some hs
      exact .inr (.inr ⟨s, by rw [heq], h⟩)
    · cases h
  · rw [readName_equals g hname] at h
    split at h
    · rename_i s hs
      have heq : s.name = name := by simpa using List.find?_some hs
      exact .inl ⟨s, value, by rw [heq], h⟩
    · cases h
    · cases h

/-- The arguments that are left are options, and if a setting waits for its value, that comes first. -/
structure Left (g : Given) (arguments : List String) : Prop where
  options : (∀ s, g.pending ≠ some (s, none)) → ∃ options, Spells options arguments
  value : ∀ s, g.pending = some (s, none) → ∃ value rest options, arguments = value :: rest ∧
    ¬LooksLikeOption value ∧ Spells options rest

namespace Left

variable {g g' : Given} {argument : String} {rest : List String}

theorem of_none (h : g.Left rest) (hg : g.pending = none) : ∃ options, Spells options rest :=
  h.options fun s hs => by rw [hg] at hs; cases hs

theorem of_settle (h : g.settle = .ok g') {options : List Written} (hspells : Spells options rest) :
    g.Left rest :=
  ⟨fun _ => ⟨options, hspells⟩, fun s hs => absurd hs (not_awaits_of_settle h s)⟩

theorem name {cs : List Char} (hargument : argument.toList = '-' :: '-' :: cs)
    (h : g.readName cs = .ok g') (hleft : g'.Left rest) : g.Left (argument :: rest) := by
  rcases readName_ok h with ⟨s, value, rfl, hput⟩ | ⟨s, rfl, hput⟩ | ⟨s, rfl, hon⟩
  · obtain ⟨g₁, hsettle, hput⟩ := bind_eq_ok_iff.1 hput
    obtain ⟨options, hspells⟩ := hleft.of_none ((pending_put hput).trans (pending_settle hsettle))
    have heq : argument = "--" ++ s.name ++ "=" ++ value := String.toList_inj.1 (by simp [hargument])
    rw [heq]
    exact of_settle hsettle (hspells.cons (o := .joined s value) trivial)
  · obtain ⟨g₁, hsettle, hput⟩ := bind_eq_ok_iff.1 hput
    obtain rfl := Except.ok.inj hput
    obtain ⟨value, rest, options, rfl, hvalue, hspells⟩ := hleft.value s rfl
    have heq : argument = "--" ++ s.name := String.toList_inj.1 (by simp [hargument])
    rw [heq]
    exact of_settle hsettle (hspells.cons (o := .apart s value) hvalue)
  · obtain ⟨g₁, hsettle, hnone, -⟩ := turnOn_ok hon
    obtain ⟨options, hspells⟩ := hleft.of_none hnone
    have heq : argument = "--" ++ s.name := String.toList_inj.1 (by simp [hargument])
    rw [heq]
    exact of_settle hsettle (hspells.cons (o := .named s) trivial)

theorem letters {c : Char} {cs : List Char} (hargument : argument.toList = '-' :: c :: cs)
    (h : g.readLetters (c :: cs) = .ok g') (hleft : g'.Left rest) : g.Left (argument :: rest) := by
  obtain ⟨rfl, rfl, hon⟩ := readLetters_ok h
  obtain ⟨g₁, hsettle, hnone, -⟩ := turnOn_ok hon
  obtain ⟨options, hspells⟩ := hleft.of_none hnone
  obtain rfl : argument = "-v" := String.toList_inj.1 hargument
  exact of_settle hsettle (hspells.cons (o := .letter) trivial)

theorem ofValue (hargument : ¬LooksLikeOption argument) (h : g.readValue argument = .ok g')
    (hleft : g'.Left rest) : g.Left (argument :: rest) := by
  unfold readValue at h
  split at h
  · rename_i s hpending
    obtain rfl := Except.ok.inj h
    obtain ⟨options, hspells⟩ := hleft.options nofun
    exact ⟨fun hfree => absurd hpending (hfree s), fun _ _ => ⟨_, _, options, rfl, hargument, hspells⟩⟩
  · cases h

end Left

/-- Whatever is read without a mistake is spelled by options. -/
theorem left_of_read {g g' : Given} {arguments : List String} (h : g.read arguments = .ok g') :
    g.Left arguments := by
  induction arguments generalizing g with
  | nil => exact .of_settle h spells_nil
  | cons argument rest ih =>
    by_cases hoption : LooksLikeOption argument
    · obtain ⟨c, cs, hargument⟩ := hoption
      by_cases hc : c = '-'
      · subst hc
        by_cases hcs : cs = []
        · subst hcs
          obtain rfl : argument = "--" := String.toList_inj.1 hargument
          cases rest with
          | nil =>
            have hspells : Spells [] ["--"] := ⟨nofun, .inr rfl⟩
            exact .of_settle h hspells
          | cons next rest => cases h
        · rw [read_name g rest hargument hcs] at h
          obtain ⟨g₁, hname, hrest⟩ := bind_eq_ok_iff.1 h
          exact .name hargument hname (ih hrest)
      · rw [read_letters g rest hargument hc] at h
        obtain ⟨g₁, hletters, hrest⟩ := bind_eq_ok_iff.1 h
        exact .letters hargument hletters (ih hrest)
    · rw [read_value g rest hoption] at h
      obtain ⟨g₁, hvalue, hrest⟩ := bind_eq_ok_iff.1 h
      exact .ofValue hoption hvalue (ih hrest)

theorem read_eq_of_spells {options : List Written} {arguments : List String}
    (h : Spells options arguments) :
    read {} arguments = (options.map Written.choice).foldlM grant {} := by
  rcases h.written with harguments | harguments
  · rw [harguments, ← List.append_nil (options.flatMap Written.arguments)]
    exact read_written {} h.stand (.inl rfl)
  · rw [harguments]
    exact read_written {} h.stand (.inr rfl)

theorem exists_spells {g : Given} {arguments : List String} (h : read {} arguments = .ok g) :
    ∃ options, Spells options arguments :=
  (left_of_read h).of_none rfl

end Given

end Alerting.CommandLine
