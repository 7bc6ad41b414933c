/-
# Triage.Proofs.OwnNames -- by which of its names a label is found

A label is met by its full name, whatever marks stand in it, since query and label are divided in
one way.  The name within its group is divided once more when it is asked for: of `os.mac-arm` the
name `mac-arm` asks for a group `mac`, and the label is of the group `os`.  Such a name meets its
own label only if nothing follows the mark and the group is again that of the label
(`answers_shortName_iff`); it cannot be met through the rest of itself, which is shorter, and
lowering keeps it so (`lower_ne_of_split`).  Main statement: `holds_own_names`.
-/
import Triage.Expr.Selection
import Triage.Proofs.LowerForm

namespace Triage

set_option autoImplicit false

namespace Text

theorem length_toList_lower (text : String) :
    (lower text).toList.length = (text.toList.flatMap lowerChar).length := by
  rw [toList_lower, lowerChars, length_lowerWithin]

end Text

namespace Label

open Triage.Text

theorem eq_append_of_grouped {name : List Char} {parts : List Char × List Char}
    {group short : String} (divided : ∃ c, name = parts.1 ++ c :: parts.2)
    (same : grouped name parts = (some group, short)) :
    ∃ c, name = group.toList ++ c :: short.toList := by
  obtain ⟨front, back⟩ := parts
  cases front with
  | nil => cases same
  | cons d more =>
      cases same
      simpa using divided

/-- Group and short name are what the name was, but for the mark between them. -/
theorem eq_append_of_split {name group short : String} (parts : split name = (some group, short)) :
    ∃ mark, name.toList = group.toList ++ mark :: short.toList := by
  unfold split at parts
  split at parts
  · next point => exact eq_append_of_grouped ⟨_, (splitAt_eq_some_iff.mp point).1⟩ parts
  · split at parts
    · next hyphen => exact eq_append_of_grouped ⟨_, (splitAt_eq_some_iff.mp hyphen).1⟩ parts
    · cases parts

theorem eq_of_grouped_none {name : String} {parts : List Char × List Char} {short : String}
    (same : grouped name.toList parts = (none, short)) : short = name := by
  obtain ⟨front, back⟩ := parts
  cases front with
  | nil =>
      cases same
      exact String.ofList_toList
  | cons d more => cases same

/-- Without a group the short name is the whole. -/
theorem eq_of_split_none {name short : String} (parts : split name = (none, short)) :
    short = name := by
  unfold split at parts
  split at parts
  · exact eq_of_grouped_none parts
  · split at parts
    · exact eq_of_grouped_none parts
    · cases parts
      rfl

/-- The name within a group is never the whole name, not even in lower case. -/
theorem lower_ne_of_split {name group short : String} (parts : split name = (some group, short)) :
    lower name ≠ lower short := by
  intro same
  obtain ⟨mark, whole⟩ := eq_append_of_split parts
  have lengths := congrArg (fun s => s.toList.length) same
  simp only [length_toList_lower, whole, List.flatMap_append, List.flatMap_cons,
    List.length_append] at lengths
  have present := List.length_pos_iff.mpr (lowerChar_ne_nil mark)
  omega

/-- The name within the group has no group of its own, or it is the group of the label once more
with nothing behind it. -/
def IsMetByShortName (label : Label) : Prop :=
  ∀ group ∈ group? ⟨label.shortName⟩,
    shortName ⟨label.shortName⟩ = "" ∧ ∃ own ∈ label.group?, sameName own group = true

instance (label : Label) : Decidable label.IsMetByShortName :=
  inferInstanceAs (Decidable (∀ group ∈ group? _, _ ∧ ∃ own ∈ label.group?, _))

/-- Which labels are met by the name within their group. -/
theorem answers_shortName_iff {label : Label} :
    answers label.shortName label.name = true ↔ label.IsMetByShortName := by
  unfold answers IsMetByShortName group? shortName
  cases parts : split label.name with
  | mk own short =>
      cases again : split short with
      | mk group rest =>
          cases group with
          | none =>
              obtain rfl := eq_of_split_none again
              simp [sameName]
          | some group =>
              have longer : sameName short rest = false := by
                rw [sameName, decide_eq_false_iff_not]
                exact lower_ne_of_split again
              cases own <;> simp [longer, and_comm]

/-- An issue is found by the full name of each of its labels.  It is found by the name within the
group as well if the label is met by it, and no label is met by it otherwise. -/
theorem holds_own_names (catalog : Catalog) {issue : Issue} {label : Label}
    (attached : label.name ∈ issue.labels) :
    (Qualifier.ofText .label label.name).holds catalog issue = true ∧
    (label.IsMetByShortName →
      (Qualifier.ofText .label label.shortName).holds catalog issue = true) ∧
    (¬ label.IsMetByShortName → answers label.shortName label.name = false) := by
  refine ⟨?_, fun met => ?_, fun unmet => ?_⟩
  · exact List.any_eq_true.mpr ⟨label.name, attached, answers_self label.name⟩
  · exact List.any_eq_true.mpr ⟨label.name, attached, answers_shortName_iff.mpr met⟩
  · exact Bool.eq_false_iff.mpr fun answers => unmet (answers_shortName_iff.mp answers)

/-- A hyphen divides the name within the group, but not at the front of it. -/
theorem holds_own_names_hyphen :
    let dawn : Instant := ⟨⟨2024, 1, 1, by decide⟩, ⟨6, 0, 0, 0, by decide⟩⟩
    let issue : Issue :=
      { Issue.create 7 "Crash" "ada" dawn with labels := ["cpu.x86-64", "os.-mac-arm"] }
    let arm : Label := ⟨"os.-mac-arm"⟩
    let cpu : Label := ⟨"cpu.x86-64"⟩
    (arm.name ∈ issue.labels ∧ arm.IsMetByShortName ∧ cpu.name ∈ issue.labels ∧
      ¬ cpu.IsMetByShortName) ∧
    (Qualifier.ofText .label arm.name).holds {} issue = true ∧ arm.shortName = "-mac-arm" ∧
    (Qualifier.ofText .label arm.shortName).holds {} issue = true ∧
    answers cpu.shortName cpu.name = false := by
  intro dawn issue arm cpu
  have first : arm.name ∈ issue.labels := by decide
  have second : cpu.name ∈ issue.labels := by decide
  have met : arm.IsMetByShortName := by decide +kernel
  have unmet : ¬ cpu.IsMetByShortName := by decide +kernel
  obtain ⟨full, short, -⟩ := holds_own_names {} first
  exact ⟨⟨first, met, second, unmet⟩, full, by decide +kernel, short met,
    (holds_own_names {} second).2.2 unmet⟩

/-- The name within the group may be read as a group and a name, of another group than the label. -/
theorem not_found_by_short_name :
    ¬ ∀ (catalog : Catalog) (issue : Issue) (label : Label), label.name ∈ issue.labels →
      (Qualifier.ofText .label label.name).holds catalog issue = true ∧
      (Qualifier.ofText .label label.shortName).holds catalog issue = true := by
  intro found
  let dawn : Instant := ⟨⟨2024, 1, 1, by decide⟩, ⟨6, 0, 0, 0, by decide⟩⟩
  let issue : Issue := { Issue.create 7 "Crash" "ada" dawn with labels := ["os.mac-arm"] }
  have short := (found {} issue ⟨"os.mac-arm"⟩ (List.mem_singleton_self _)).2
  have lost : (Qualifier.ofText .label (shortName ⟨"os.mac-arm"⟩)).holds {} issue = false := by
    decide +kernel
  exact absurd (short.symm.trans lost) (by decide)

end Label

end Triage
