/-
# Triage.Proofs.SubstringSearch -- when a search finds what is there

A search lowers the text and what is looked for, each on its own, and then looks for the one in the
other.  A part of a text is sure to be found if it has the lower form, in its place, that it has
alone (`mentions_part`); with a capital sigma at one of its ends it need not, and then a cased
letter next to it can hide it.  Main statement: `found_wherever_it_stands`, the steady texts are
those that are found in every title and body, whatever stands around them.
-/
import Triage.Expr.Selection
import Triage.Proofs.LowerContext

namespace Triage

open Triage.Text

set_option autoImplicit false

namespace Text

/-! ## Parts of a text -/

/-- A part that has the same lower form alone as in its place is found. -/
theorem mentions_part {before text after : String}
    (alone : lowerWithin before.toList.reverse text.toList after.toList =
      lowerChars text.toList) : mentions (before ++ text ++ after) text = true := by
  rw [mentions_iff, String.toList_append, String.toList_append, List.append_assoc,
    lowerChars_append, lowerWithin_append, List.append_nil, alone]
  exact ⟨_, _, List.append_assoc ..⟩

section Shift

variable {c : Char} {needle text : List Char}

/-- What is as long as a text and occurs in it behind one more character is the text, unless it
begins with that character. -/
theorem eq_of_infix_cons (inside : needle <:+: c :: text) (same : needle.length = text.length)
    (unlike : needle.head? ≠ some c) : needle = text := by
  rcases List.infix_cons_iff.mp inside with front | within
  · rcases List.prefix_cons_iff.mp front with rfl | ⟨more, rfl, -⟩
    · exact (List.eq_nil_of_length_eq_zero same.symm).symm
    · exact absurd rfl unlike
  · exact within.eq_of_length same

/-- The same in front of one more character. -/
theorem eq_of_infix_concat (inside : needle <:+: text ++ [c])
    (same : needle.length = text.length) (unlike : needle.getLast? ≠ some c) : needle = text := by
  rw [← List.reverse_infix, List.reverse_concat] at inside
  have turned := eq_of_infix_cons inside (by simpa using same) (by rwa [List.head?_reverse])
  exact List.reverse_inj.mp turned

end Shift

/-- A cased letter that lowering leaves alone, other than a given one. -/
theorem exists_letter (c? : Option Char) :
    ∃ x : Char, c? ≠ some x ∧ (∀ before after, lowerWithin before [x] after = [x]) ∧
      beginsCased [x] = true := by
  have lowered (x : Char) (plain : x ≠ capitalSigma ∧ lowerChar x = [x])
      (before after : List Char) : lowerWithin before [x] after = [x] := by
    rw [lowerWithin, lowerWithin, if_neg plain.1, plain.2, List.append_nil]
  by_cases taken : c? = some 'a'
  · subst taken
    exact ⟨'b', by decide, lowered 'b' (by decide +kernel), by decide +kernel⟩
  · exact ⟨'a', taken, lowered 'a' (by decide +kernel), by decide +kernel⟩

/-- A text that is found wherever it stands is steady: a letter before it, and one behind it, leave
its lower form as it is. -/
theorem isSteady_of_mentions {text : String}
    (found : ∀ before after, mentions (before ++ text ++ after) text = true) :
    isSteady text.toList = true := by
  have lengths (before after : List Char) :
      (lowerChars text.toList).length = (lowerWithin before text.toList after).length := by
    rw [lowerChars, length_lowerWithin, length_lowerWithin]
  obtain ⟨x, first, lowerFirst, casedFirst⟩ := exists_letter (lowerChars text.toList).head?
  obtain ⟨y, last, lowerLast, casedLast⟩ := exists_letter (lowerChars text.toList).getLast?
  refine isSteady_of_lowerWithin casedFirst casedLast ?_ ?_
  · have inside := mentions_iff.mp (found (String.ofList [x]) "")
    rw [String.append_empty, String.toList_append, String.toList_ofList, lowerChars_append,
      lowerFirst] at inside
    exact (eq_of_infix_cons inside (lengths _ _) first).symm
  · have inside := mentions_iff.mp (found "" (String.ofList [y]))
    rw [String.empty_append, String.toList_append, String.toList_ofList, lowerChars_append,
      lowerLast] at inside
    exact (eq_of_infix_concat inside (lengths _ _) last).symm

end Text

/-! ## Titles and bodies -/

/-- Whoever searches titles or bodies for `text`, or both of them, finds it in an issue that has
`whole` there. -/
def IsFoundIn (text whole : String) : Prop :=
  ∀ (catalog : Catalog) (issue : Issue),
    (issue.title = whole → (Qualifier.ofText .title text).holds catalog issue = true ∧
      (Qualifier.ofText .keyword text).holds catalog issue = true) ∧
    (issue.body = whole → (Qualifier.ofText .body text).holds catalog issue = true ∧
      (Qualifier.ofText .keyword text).holds catalog issue = true)

theorem isFoundIn_iff {text whole : String} :
    IsFoundIn text whole ↔ mentions whole text = true := by
  constructor
  · intro found
    let dawn : Instant := ⟨⟨2024, 1, 1, by decide⟩, ⟨6, 0, 0, 0, by decide⟩⟩
    exact ((found {} (Issue.create 1 whole "ada" dawn)).1 rfl).1
  · intro mentioned catalog issue
    constructor
    · rintro rfl
      exact ⟨mentioned, (Bool.or_eq_true _ _).mpr (.inl mentioned)⟩
    · rintro rfl
      exact ⟨mentioned, (Bool.or_eq_true _ _).mpr (.inr mentioned)⟩

/-- A text is found in every title and every body that it is a part of exactly if it is steady.  One
that is not is still found where its lower form is, in its place, what it is alone. -/
theorem found_wherever_it_stands (text : String) :
    ((∀ before after, IsFoundIn text (before ++ text ++ after)) ↔
      isSteady text.toList = true) ∧
    ∀ before after : String,
      lowerWithin before.toList.reverse text.toList after.toList = lowerChars text.toList →
      IsFoundIn text (before ++ text ++ after) := by
  have inPlace (before after : String)
      (alone : lowerWithin before.toList.reverse text.toList after.toList =
        lowerChars text.toList) : IsFoundIn text (before ++ text ++ after) :=
    isFoundIn_iff.mpr (mentions_part alone)
  refine ⟨⟨fun found => isSteady_of_mentions fun before after =>
    isFoundIn_iff.mp (found before after), fun steady before after => ?_⟩, inPlace⟩
  exact inPlace before after (isSteady_iff.mp steady _ _)

/-- `ΑΣ` is found as a word of its own, but not at the front of `ΑΣΒ`, where its sigma is not the
last letter; with a letter on either side of its sigma `ΑΣΒ` is found anywhere. -/
theorem found_wherever_it_stands_sigma :
    lowerWithin "ΟΔ. ".toList.reverse "ΑΣ".toList " Β".toList = lowerChars "ΑΣ".toList ∧
    IsFoundIn "ΑΣ" ("ΟΔ. " ++ "ΑΣ" ++ " Β") ∧ isSteady "ΑΣ".toList = false ∧
    ¬ IsFoundIn "ΑΣ" ("" ++ "ΑΣ" ++ "Β") ∧ IsFoundIn "ΑΣΒ" ("ΟΔ" ++ "ΑΣΒ" ++ "Σ") := by
  have alone : lowerWithin "ΟΔ. ".toList.reverse "ΑΣ".toList " Β".toList =
      lowerChars "ΑΣ".toList := by decide +kernel
  have steady : isSteady "ΑΣΒ".toList = true := by decide +kernel
  refine ⟨alone, (found_wherever_it_stands "ΑΣ").2 _ _ alone, by decide +kernel, ?_,
    (found_wherever_it_stands "ΑΣΒ").1.mpr steady _ _⟩
  rw [isFoundIn_iff]
  decide +kernel

end Triage
