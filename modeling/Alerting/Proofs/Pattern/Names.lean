import Alerting.Proofs.Pattern.Groups

/-!
# Names of groups

Names that were taken before bear on what is read in one way only: none of them may come again.
-/

namespace Alerting.Pattern

variable {taken : List (List Char)}

/-- What is read where more names are taken. -/
def beside (taken : List (List Char)) (r : (Expr × Mode) × List Char) :
    Option ((Expr × Mode) × List Char) :=
  if ∀ name ∈ r.1.2.names, name ∉ taken then
    some ((r.1.1, ⟨r.1.2.verbose, r.1.2.names ++ taken⟩), r.2)
  else none

theorem beside_eq_none {r : (Expr × Mode) × List Char} {name : List Char} (hname : name ∈ r.1.2.names)
    (htaken : name ∈ taken) : beside taken r = none :=
  if_neg fun h => h name hname htaken

def GroupReader.KeepsNames (read : GroupReader) : Prop :=
  ∀ verbose names pending cs r, read ⟨verbose, names⟩ pending cs = some r → names ⊆ r.1.2.names

theorem group_names {read : GroupReader} (hread : read.KeepsNames) {mode : Mode} {pending : Pending}
    {cs : List Char} {f : FlagChange} {captures : Bool} {name : Option (List Char)}
    {r : (Expr × Mode) × List Char}
    (h : openedRest? read mode pending cs (.group f captures name) = some r) :
    name.toList ++ mode.names ⊆ r.1.2.names := by
  simp only [openedRest?] at h
  split at h
  · cases h
  · obtain ⟨body, hbody, h⟩ := Option.bind_eq_some_iff.1 h
    obtain ⟨behind, -, h⟩ := Option.bind_eq_some_iff.1 h
    exact List.Subset.trans (hread _ _ _ _ _ hbody) (hread _ _ _ _ _ h)

theorem openedRest?_names {read : GroupReader} (hread : read.KeepsNames) {mode : Mode}
    {pending : Pending} {cs : List Char} {opening : Opening} {r : (Expr × Mode) × List Char}
    (h : openedRest? read mode pending cs opening = some r) : mode.names ⊆ r.1.2.names := by
  cases opening with
  | directive f => exact hread _ _ _ cs r h
  | group f captures name =>
    exact List.Subset.trans (List.subset_append_right _ _) (group_names hread h)

theorem groupRest?_keepsNames (fuel : Nat) : GroupReader.KeepsNames (groupRest? fuel) := by
  induction fuel with
  | zero => exact fun _ _ _ _ _ h => by cases h
  | succ fuel ih =>
    intro verbose names pending cs r h
    rw [groupRest?] at h
    split at h
    · rw [← Option.some.inj h]
      exact List.Subset.refl _
    · rw [← Option.some.inj h]
      exact List.Subset.refl _
    · obtain ⟨opening, -, h⟩ := Option.bind_eq_some_iff.1 h
      exact openedRest?_names ih h
    · obtain ⟨p, -, h⟩ := Option.bind_eq_some_iff.1 h
      exact ih _ _ _ _ _ h

/-- Reading does the same where more names are taken, but for those that come again. -/
def GroupReader.ReadsBeside (taken : List (List Char)) (read : GroupReader) : Prop :=
  ∀ verbose names pending cs, (∀ name ∈ names, name ∉ taken) →
    read ⟨verbose, names ++ taken⟩ pending cs = (read ⟨verbose, names⟩ pending cs).bind (beside taken)

/-- What comes behind a name that is taken cannot take it back. -/
theorem GroupReader.KeepsNames.bind_beside_eq_none {read : GroupReader} (hkeeps : read.KeepsNames)
    {names : List (List Char)} {name : List Char} (hname : name ∈ names) (htaken : name ∈ taken)
    (verbose : Bool) (pending : Pending) (cs : List Char) :
    (read ⟨verbose, names⟩ pending cs).bind (beside taken) = none := by
  rw [Option.bind_eq_none_iff]
  exact fun r hr => beside_eq_none (hkeeps _ _ _ _ _ hr hname) htaken

theorem GroupReader.ReadsBeside.group {read : GroupReader} (hkeeps : read.KeepsNames)
    (hread : read.ReadsBeside taken) (verbose inner : Bool) {names : List (List Char)}
    (next : Expr → Pending) (cs : List Char) (hnames : ∀ name ∈ names, name ∉ taken) :
    ((read ⟨inner, names ++ taken⟩ .start cs).bind fun body => (closed? body.2).bind fun rest =>
        read ⟨verbose, body.1.2.names⟩ (next body.1.1) rest) =
      ((read ⟨inner, names⟩ .start cs).bind fun body => (closed? body.2).bind fun rest =>
        read ⟨verbose, body.1.2.names⟩ (next body.1.1) rest).bind (beside taken) := by
  rw [hread inner names .start cs hnames]
  cases read ⟨inner, names⟩ .start cs with
  | none => rfl
  | some body =>
    rw [Option.bind_some, Option.bind_some]
    by_cases hbody : ∀ name ∈ body.1.2.names, name ∉ taken
    · rw [beside, if_pos hbody, Option.bind_some]
      cases closed? body.2 with
      | none => rfl
      | some rest => exact hread verbose _ _ rest hbody
    · rw [beside, if_neg hbody, Option.bind_none]
      push Not at hbody
      obtain ⟨name, hname, htaken⟩ := hbody
      cases closed? body.2 with
      | none => rfl
      | some rest =>
        exact (hkeeps.bind_beside_eq_none hname htaken verbose _ rest).symm

theorem openedRest?_beside {read : GroupReader} (hkeeps : read.KeepsNames)
    (hread : read.ReadsBeside taken) (verbose : Bool) {names : List (List Char)} (pending : Pending)
    (cs : List Char) (opening : Opening) (hnames : ∀ name ∈ names, name ∉ taken) :
    openedRest? read ⟨verbose, names ++ taken⟩ pending cs opening =
      (openedRest? read ⟨verbose, names⟩ pending cs opening).bind (beside taken) := by
  cases opening with
  | directive f => exact hread _ _ _ _ hnames
  | group f captures name =>
    have hgroup {names : List (List Char)} (hnames : ∀ name ∈ names, name ∉ taken) :=
      hread.group hkeeps verbose (f.apply .verbose verbose)
        (fun e => pending.push (.group f captures e)) cs hnames
    cases name with
    | none => exact hgroup hnames
    | some name =>
      by_cases hname : name ∈ names
      · simp [openedRest?, hname]
      · by_cases htaken : name ∈ taken
        · -- the name is refused at once, or else at the end
          have hlate : (openedRest? read ⟨verbose, names⟩ pending cs
              (.group f captures (some name))).bind (beside taken) = none := by
            rw [Option.bind_eq_none_iff]
            intro r hr
            exact beside_eq_none (group_names hkeeps hr (List.mem_append_left _ (by simp))) htaken
          rw [hlate]
          simp [openedRest?, htaken]
        · have hmore : ∀ n ∈ name :: names, n ∉ taken := by simpa [htaken] using hnames
          simpa [openedRest?, hname, htaken] using hgroup hmore

theorem groupRest?_beside (fuel : Nat) : GroupReader.ReadsBeside taken (groupRest? fuel) := by
  induction fuel with
  | zero => exact fun _ _ _ _ _ => rfl
  | succ fuel ih =>
    intro verbose names pending cs hnames
    cases hw : skip verbose cs with
    | nil =>
      simp only [groupRest?, hw]
      exact (if_pos hnames).symm
    | cons c w =>
      by_cases hclose : c = ')'
      · subst hclose
        simp only [groupRest?, hw]
        exact (if_pos hnames).symm
      · by_cases hopen : c = '('
        · subst hopen
          simp only [groupRest?, hw]
          cases opening? verbose w with
          | none => rfl
          | some opening =>
            exact openedRest?_beside (groupRest?_keepsNames fuel) ih verbose pending _ _ hnames
        · rw [groupRest?_read fuel pending hw hclose hopen,
            groupRest?_read fuel pending hw hclose hopen]
          cases pending.read? verbose (c :: w) with
          | none => rfl
          | some p => exact ih verbose names _ _ hnames

end Alerting.Pattern
