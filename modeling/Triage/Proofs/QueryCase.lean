/-
# Triage.Proofs.QueryCase -- other spellings of a query

What a query names is compared by its lower form, so that another spelling of the query asks for the
same issues (`matchesText_congr`).  A label query is divided before its parts are lowered, and a
capital sigma can have another form in its part than it has in the whole: `ΑΣ.Β` and `ασ.β` are one
name, but not one query.  Two spellings of a label ask for the same issues if they have the same
parts, and only then, since either of them may be attached (`sameParts_of_answers`).  Main
statement: `asksAlike_of_sameName`.
-/
import Triage.Proofs.OwnNames

namespace Triage

open Triage.Text

set_option autoImplicit false

/-! ## Queries that are compared as a whole -/

section Whole

variable {text other : String} (same : lower text = lower other)

include same

theorem mentions_congr (haystack : String) : mentions haystack text = mentions haystack other := by
  have needles : lowerChars text.toList = lowerChars other.toList := by
    rw [← toList_lower, ← toList_lower, same]
  rw [mentions, mentions, needles]

theorem sameName_congr (name : String) : sameName name text = sameName name other := by
  rw [sameName, sameName, same]

theorem Catalog.loginNamed_congr (catalog : Catalog) (login : String) :
    catalog.loginNamed login text = catalog.loginNamed login other := by
  simp only [loginNamed, User.isNamed, sameName_congr same]

theorem State.ofName?_congr : State.ofName? text = State.ofName? other := by
  rw [ofName?, ofName?, same]

theorem Issue.hasField?_congr (issue : Issue) : issue.hasField? text = issue.hasField? other := by
  rw [hasField?, hasField?, same]

theorem Issue.hasProperty_congr (issue : Issue) :
    issue.hasProperty text = issue.hasProperty other := by
  rw [hasProperty, hasProperty, same]

/-- Under every kind but the labels an issue matches a text in any spelling. -/
theorem Issue.matchesText_congr {kind : Kind} (whole : kind ≠ .label) (catalog : Catalog)
    (issue : Issue) :
    issue.matchesText catalog kind text = issue.matchesText catalog kind other := by
  cases kind with
  | keyword | title | body => simp only [matchesText, mentions_congr same]
  | milestone => simp only [matchesText, sameName_congr same]
  | label => exact absurd rfl whole
  | assignee | author | involves =>
      simp only [matchesText, assigneeNamed, Catalog.loginNamed_congr same]
  | state => simp only [matchesText, State.ofName?_congr same]
  | has | no => simp only [matchesText, Issue.hasField?_congr same]
  | is => simp only [matchesText, Issue.hasProperty_congr same]
  | id | created | updated => rfl

end Whole

/-! ## Label queries -/

/-- Two spellings of a name have the same parts if each of them, as a query, is met by the other. -/
theorem Label.sameParts_of_answers {name other : String} (same : sameName name other = true)
    (forth : answers name other = true) (back : answers other name = true) :
    SameParts name other := by
  unfold answers at forth back
  unfold SameParts
  cases parts : split name with
  | mk group short =>
      cases also : split other with
      | mk otherGroup otherShort =>
          rw [parts, also] at forth back
          cases group with
          | none =>
              cases otherGroup with
              | none =>
                  obtain rfl := eq_of_split_none parts
                  obtain rfl := eq_of_split_none also
                  exact ⟨rfl, sameName_iff.mp same⟩
              | some otherGroup => simp at back
          | some group =>
              cases otherGroup with
              | none => simp at forth
              | some otherGroup =>
                  simp only [Option.any_some, Bool.and_eq_true, Bool.or_eq_true, sameName_iff,
                    String.isEmpty_iff] at forth back
                  obtain ⟨groups, empty | shorts⟩ := forth
                  · obtain ⟨-, also | shorts⟩ := back
                    · exact ⟨congrArg some groups.symm, congrArg lower (empty.trans also.symm)⟩
                    · exact ⟨congrArg some groups.symm, shorts⟩
                  · exact ⟨congrArg some groups.symm, shorts.symm⟩

/-- The two spellings of a query of this kind are satisfied by the same issues. -/
def AsksAlike (kind : Kind) (text other : String) : Prop :=
  ∀ (catalog : Catalog) (issue : Issue),
    (Qualifier.ofText kind text).holds catalog issue =
      (Qualifier.ofText kind other).holds catalog issue

theorem Qualifier.holds_ofText (kind : Kind) (text : String) (catalog : Catalog) (issue : Issue) :
    (Qualifier.ofText kind text).holds catalog issue = issue.matchesText catalog kind text := by
  cases kind <;> rfl

/-- A label that is attached alone tells two label queries apart if it meets one of them only. -/
theorem asksAlike_label_iff {text other : String} :
    AsksAlike .label text other ↔
      ∀ attached, Label.answers text attached = Label.answers other attached := by
  simp only [AsksAlike, Qualifier.holds_ofText]
  constructor
  · intro alike attached
    let dawn : Instant := ⟨⟨2024, 1, 1, by decide⟩, ⟨6, 0, 0, 0, by decide⟩⟩
    let issue : Issue := { Issue.create 1 "Crash" "ada" dawn with labels := [attached] }
    simpa [Issue.matchesText, issue] using alike {} issue
  · intro alike catalog issue
    simp only [Issue.matchesText, alike]

/-- A query and another spelling of it ask for the same issues, unless it is for a label.  Two
spellings of a label query do so exactly if they have the same parts but for case; if the one
divides steadily, exactly if the other does. -/
theorem asksAlike_of_sameName {text other : String} (same : sameName text other = true) :
    (∀ kind, kind ≠ .label → AsksAlike kind text other) ∧
    (AsksAlike .label text other ↔ Label.SameParts text other) ∧
    (Label.dividesSteadily text = true →
      (AsksAlike .label text other ↔ Label.dividesSteadily other = true)) := by
  have labels : AsksAlike .label text other ↔ Label.SameParts text other := by
    rw [asksAlike_label_iff]
    refine ⟨fun alike => ?_, fun parts => Label.answers_congr parts⟩
    refine Label.sameParts_of_answers same ?_ ?_
    · rw [alike, Label.answers_self]
    · rw [← alike, Label.answers_self]
  refine ⟨fun kind whole catalog issue => ?_, labels, fun steady => ?_⟩
  · rw [Qualifier.holds_ofText, Qualifier.holds_ofText]
    exact Issue.matchesText_congr (sameName_iff.mp same) whole catalog issue
  · rw [labels, Label.sameParts_iff_of_dividesSteadily same steady]

/-- The sigma of `ΑΣ.Β` is not the last letter of the name, but it is the last one of the group. -/
theorem asksAlike_of_sameName_sigma :
    sameName "ασ.β" "ΑΣ.Β" = true ∧ AsksAlike .title "ασ.β" "ΑΣ.Β" ∧
    Label.dividesSteadily "ασ.β" = true ∧ ¬ AsksAlike .label "ασ.β" "ΑΣ.Β" ∧
    sameName "Saison.ÉTÉ" "SAISON.été" = true ∧ AsksAlike .label "Saison.ÉTÉ" "SAISON.été" := by
  have sigma : sameName "ασ.β" "ΑΣ.Β" = true := by decide +kernel
  have season : sameName "Saison.ÉTÉ" "SAISON.été" = true := by decide +kernel
  have steady : Label.dividesSteadily "ασ.β" = true := by decide +kernel
  have apart : ¬ Label.dividesSteadily "ΑΣ.Β" = true := by decide +kernel
  obtain ⟨others, -, labels⟩ := asksAlike_of_sameName sigma
  exact ⟨sigma, others .title (by decide), steady, mt (labels steady).mp apart, season,
    (asksAlike_of_sameName season).2.1.mpr (by decide +kernel)⟩

end Triage
