/-
# Triage.Proofs.LowerForm -- the parts of a lowered name

A punctuation mark below the letters is the lower form of itself alone, so that a lowered text is
divided where the text is (`splitAt_lowerChars`), into parts that are lowered where they stand.  A
capital sigma looks past a point, and its form in the name can be another one than in the part of
the name that it belongs to; a name divides steadily if this happens to none (`split_lower_iff`),
and a name without a capital sigma does.  Main statements: `answers_congr`, `split_lower_iff`, and
for names without a capital sigma `displaces_congr` and `answers_of_sameName`.
-/
import Mathlib.Data.List.TakeWhile
import Triage.Proofs.Attaching
import Triage.Proofs.LowerContext

namespace Triage

set_option autoImplicit false

namespace Text

/-- No capital sigma stands in the text, whose lower form depends on its neighbours. -/
def SigmaFree (text : String) : Prop := capitalSigma ∉ text.toList

instance (text : String) : Decidable (SigmaFree text) :=
  inferInstanceAs (Decidable (_ ∉ _))

theorem lowerWithin_of_sigmaFree {text : List Char} (free : capitalSigma ∉ text)
    (before after : List Char) : lowerWithin before text after = text.flatMap lowerChar := by
  induction text generalizing before with
  | nil => rfl
  | cons c rest ih =>
      have other : c ≠ capitalSigma := fun same => free (same ▸ List.mem_cons_self)
      have behind : capitalSigma ∉ rest := fun member => free (List.mem_cons_of_mem c member)
      rw [lowerWithin, if_neg other, ih behind, List.flatMap_cons]

theorem isSteady_of_sigmaFree {text : List Char} (free : capitalSigma ∉ text) :
    isSteady text = true :=
  isSteady_iff.mpr fun before after => by
    rw [lowerChars, lowerWithin_of_sigmaFree free, lowerWithin_of_sigmaFree free]

theorem toList_lower (text : String) : (lower text).toList = lowerChars text.toList :=
  String.toList_ofList

theorem lower_ofList (text : List Char) :
    lower (String.ofList text) = String.ofList (lowerChars text) := by
  rw [lower, String.toList_ofList]

/-! ## Marks -/

/-- A mark that stands in no lower form but its own. -/
def IsMark (mark : Char) : Prop := 0 < mark.toNat ∧ mark.toNat < 0x41

theorem capitalRuns_bounds : ∀ run ∈ capitalRuns, 0x41 ≤ run.first ∧ 0x61 ≤ run.target := by
  decide +kernel

theorem lowerChar_mark {mark : Char} (low : IsMark mark) : lowerChar mark = [mark] := by
  have plain : mark ≠ dottedCapital := by
    rintro rfl
    exact absurd low.2 (by decide)
  have none_ : capitalRuns.find? (fun run => run.holds mark.toNat) = none := by
    apply List.find?_eq_none.mpr
    intro run member
    have above := (capitalRuns_bounds run member).1
    have below := low.2
    simp only [CapitalRun.holds, Bool.and_eq_true, decide_eq_true_eq]
    omega
  rw [lowerChar, if_neg plain, none_]

theorem toNat_ofNat (code : Nat) :
    (Char.ofNat code).toNat = code ∨ (Char.ofNat code).toNat = 0 := by
  by_cases valid : code.isValidChar
  · left
    rw [Char.ofNat, dif_pos valid]
    rfl
  · right
    rw [Char.ofNat, dif_neg valid]
    rfl

theorem ofNat_ne_mark {mark : Char} (low : IsMark mark) {code : Nat} (high : 0x41 ≤ code) :
    mark ≠ Char.ofNat code := by
  rintro rfl
  have read := toNat_ofNat code
  have bounds := low
  unfold IsMark at bounds
  omega

theorem not_mem_lowerChar {mark c : Char} (low : IsMark mark) (other : c ≠ mark) :
    mark ∉ lowerChar c := by
  unfold lowerChar
  split
  · have letter : mark ≠ 'i' := ofNat_ne_mark low (by decide)
    have accent : mark ≠ Char.ofNat 0x307 := ofNat_ne_mark low (by decide)
    simp [letter, accent]
  · split
    · next run found =>
        have above := (capitalRuns_bounds run (List.mem_of_find?_eq_some found)).2
        have high : 0x41 ≤ run.lowerOf c.toNat := by
          unfold CapitalRun.lowerOf
          omega
        exact fun member => ofNat_ne_mark low high (List.mem_singleton.mp member)
    · exact fun member => other (List.mem_singleton.mp member).symm

theorem lowerChar_ne_nil (c : Char) : lowerChar c ≠ [] := by
  unfold lowerChar
  split
  · simp
  · split <;> simp

theorem flatMap_lowerChar_eq_nil {text : List Char} : text.flatMap lowerChar = [] ↔ text = [] := by
  cases text with
  | nil => simp
  | cons c rest => simp [lowerChar_ne_nil]

theorem mark_ne_capitalSigma {mark : Char} (low : IsMark mark) : mark ≠ capitalSigma :=
  ofNat_ne_mark low (by decide)

theorem mark_ne_lowerSigma {mark : Char} (low : IsMark mark) (before after : List Char) :
    mark ≠ lowerSigma before after := by
  unfold lowerSigma
  split <;> exact ofNat_ne_mark low (by decide)

/-! ## Parts of a text -/

theorem lowerWithin_eq_nil {before text after : List Char} :
    lowerWithin before text after = [] ↔ text = [] := by
  rw [← List.length_eq_zero_iff, length_lowerWithin, List.length_eq_zero_iff,
    flatMap_lowerChar_eq_nil]

/-- A text and its other spellings are empty together. -/
theorem isEmpty_congr {text other : String} (same : lower text = lower other) :
    text.isEmpty = other.isEmpty := by
  have empty_iff (text : String) : text.isEmpty = true ↔ (lower text).toList = [] := by
    rw [toList_lower, lowerChars, lowerWithin_eq_nil, String.toList_eq_nil_iff,
      String.isEmpty_iff]
  rw [Bool.eq_iff_iff, empty_iff, empty_iff, same]

theorem splitAt_eq_none_iff {mark : Char} {text : List Char} :
    Label.splitAt mark text = none ↔ mark ∉ text := by
  have behind : Label.splitAt mark text = none ↔ text.dropWhile (· ≠ mark) = [] := by
    unfold Label.splitAt
    split <;> simp_all
  rw [behind, List.dropWhile_eq_nil_iff]
  simp only [decide_eq_true_eq]
  constructor
  · exact fun apart member => apart mark member rfl
  · exact fun absent c member same => absent (same ▸ member)

/-- The first part is what stands before the first mark, and the second all that follows it. -/
theorem splitAt_eq_some_iff {mark : Char} {text front back : List Char} :
    Label.splitAt mark text = some (front, back) ↔ text = front ++ mark :: back ∧ mark ∉ front := by
  constructor
  · intro parts
    have whole := List.takeWhile_append_dropWhile (p := (· ≠ mark)) (l := text)
    have stops := List.head?_dropWhile_not (fun d => decide (d ≠ mark)) text
    unfold Label.splitAt at parts
    split at parts
    · cases parts
    · next c rest left =>
        cases parts
        rw [left] at whole stops
        have same : c = mark := by simpa using stops
        subst same
        refine ⟨whole.symm, fun member => ?_⟩
        simpa using List.mem_takeWhile_imp member
  · rintro ⟨rfl, absent⟩
    have apart : ∀ c ∈ front, decide (c ≠ mark) = true :=
      fun c member => decide_eq_true fun same => absent (same ▸ member)
    rw [Label.splitAt, List.dropWhile_append_of_pos apart, List.takeWhile_append_of_pos apart]
    simp

section Parts

variable {mark : Char} (low : IsMark mark)

include low

theorem not_mem_lowerWithin {text : List Char} (absent : mark ∉ text) (before after : List Char) :
    mark ∉ lowerWithin before text after := by
  induction text generalizing before with
  | nil => exact List.not_mem_nil
  | cons c rest ih =>
      obtain ⟨other, behind⟩ := not_or.mp (mt List.mem_cons.mpr absent)
      rw [lowerWithin, List.mem_append, not_or]
      refine ⟨?_, ih behind _⟩
      split
      · exact mt List.mem_singleton.mp (mark_ne_lowerSigma low _ _)
      · exact not_mem_lowerChar low (Ne.symm other)

/-- A lowered text is divided where the text is, into the lower forms that its parts have there. -/
theorem splitAt_lowerChars (text : List Char) :
    Label.splitAt mark (lowerChars text) =
      (Label.splitAt mark text).map fun parts =>
        (lowerWithin [] parts.1 (mark :: parts.2),
          lowerWithin (mark :: parts.1.reverse) parts.2 []) := by
  cases parts : Label.splitAt mark text with
  | none =>
      rw [Option.map_none, splitAt_eq_none_iff]
      exact not_mem_lowerWithin low (splitAt_eq_none_iff.mp parts) [] []
  | some both =>
      obtain ⟨front, back⟩ := both
      obtain ⟨rfl, absent⟩ := splitAt_eq_some_iff.mp parts
      rw [Option.map_some, splitAt_eq_some_iff, lowerChars_append, lowerWithin,
        if_neg (mark_ne_capitalSigma low), lowerChar_mark low]
      exact ⟨rfl, not_mem_lowerWithin low absent [] _⟩

end Parts

end Text

namespace Label

open Triage.Text

/-! ## Queries -/

/-- The groups of two names are the same but for case, and so are the names within them. -/
def SameParts (name other : String) : Prop :=
  (split name).1.map lower = (split other).1.map lower ∧
    lower (split name).2 = lower (split other).2

instance (name other : String) : Decidable (SameParts name other) :=
  inferInstanceAs (Decidable (_ ∧ _))

/-- Queries with the same parts are met by the same labels. -/
theorem answers_congr {query other : String} (same : SameParts query other) (attached : String) :
    answers query attached = answers other attached := by
  obtain ⟨groups, shorts⟩ := same
  unfold answers
  cases parts : split query with
  | mk group short =>
      cases also : split other with
      | mk otherGroup otherShort =>
          rw [parts, also] at groups shorts
          cases group with
          | none =>
              have none_ : otherGroup = none := by simpa using groups.symm
              simp [none_, sameName, show lower short = lower otherShort from shorts]
          | some group =>
              obtain ⟨own, rfl, spelled⟩ := Option.map_eq_some_iff.mp groups.symm
              simp [sameName, spelled, isEmpty_congr shorts,
                show lower short = lower otherShort from shorts]

/-- Every label is met by its full name. -/
theorem answers_self (name : String) : answers name name = true := by
  unfold answers
  cases split name with
  | mk group short => cases group <;> simp [sameName]

/-! ## Names and their lower forms -/

theorem isMark_point : IsMark '.' := by unfold IsMark; decide

theorem isMark_hyphen : IsMark '-' := by unfold IsMark; decide

/-- The parts on both sides of a point feel each other as if they stood side by side. -/
theorem lowerWithin_point_iff {group short : List Char} :
    (lowerWithin [] group ('.' :: short) = lowerChars group ∧
      lowerWithin ('.' :: group.reverse) short [] = lowerChars short) ↔
    (isSteadyRight group = true ∨ beginsCased short = false) ∧
      (isSteadyLeft short = true ∨ beginsCased group.reverse = false) := by
  have ignored : isCaseIgnorable '.' = true := by decide +kernel
  rw [lowerWithin_right_iff, lowerWithin_left_iff, beginsCased_cons, beginsCased_cons,
    if_pos ignored, if_pos ignored]

/-- The parts on both sides of a hyphen do not feel each other. -/
theorem lowerWithin_hyphen (group short : List Char) :
    lowerWithin [] group ('-' :: short) = lowerChars group ∧
      lowerWithin ('-' :: group.reverse) short [] = lowerChars short := by
  have heard : isCaseIgnorable '-' = false ∧ isCased '-' = false := by decide +kernel
  have plain (text : List Char) : beginsCased ('-' :: text) = false := by
    simp [beginsCased_cons, heard]
  exact ⟨lowerWithin_right_iff.mpr (.inr (plain short)),
    lowerWithin_left_iff.mpr (.inr (plain group.reverse))⟩

/-- No capital sigma of one part of a name owes its form to a letter beyond the point. -/
def dividesSteadily (name : String) : Bool :=
  match splitAt '.' name.toList with
  | some (c :: group, short) =>
    (isSteadyRight (c :: group) || !beginsCased short) &&
      (isSteadyLeft short || !beginsCased (c :: group).reverse)
  | _ => true

/-- A divided name and its lower form have the same parts, in lower case, if the group is empty or
the parts have in the name the lower forms that they have alone. -/
theorem grouped_lower_iff {name group short lowerGroup lowerShort : List Char}
    (empty : lowerGroup = [] ↔ group = []) :
    grouped (lowerChars name) (lowerGroup, lowerShort) =
        ((grouped name (group, short)).1.map lower, lower (grouped name (group, short)).2) ↔
      (group ≠ [] → lowerGroup = lowerChars group ∧ lowerShort = lowerChars short) := by
  cases group with
  | nil => simp [empty.mpr rfl, grouped, lower_ofList]
  | cons c rest =>
      cases lowerGroup with
      | nil => exact absurd (empty.mp rfl) (List.cons_ne_nil c rest)
      | cons d more =>
          simp only [grouped, lower_ofList, Option.map_some, Prod.mk.injEq, Option.some.injEq,
            String.ofList_inj, ne_eq, reduceCtorEq, not_false_eq_true, forall_const]

variable {name other : String}

/-- The parts of a lowered name are the lower forms of its parts exactly if it divides steadily. -/
theorem split_lower_iff :
    split (lower name) = ((split name).1.map lower, lower (split name).2) ↔
      dividesSteadily name = true := by
  unfold split dividesSteadily
  rw [toList_lower, splitAt_lowerChars isMark_point, splitAt_lowerChars isMark_hyphen]
  cases point : splitAt '.' name.toList with
  | some parts =>
      obtain ⟨group, short⟩ := parts
      rw [Option.map_some]
      refine (grouped_lower_iff lowerWithin_eq_nil).trans ?_
      cases group with
      | nil => simp
      | cons c group =>
          refine (imp_iff_right (List.cons_ne_nil c group)).trans (lowerWithin_point_iff.trans ?_)
          simp only [Bool.and_eq_true, Bool.or_eq_true, Bool.not_eq_true']
  | none =>
      cases hyphen : splitAt '-' name.toList with
      | some parts =>
          obtain ⟨group, short⟩ := parts
          rw [Option.map_none, Option.map_some]
          refine (grouped_lower_iff lowerWithin_eq_nil).trans ?_
          exact iff_of_true (fun _ => lowerWithin_hyphen group short) rfl
      | none => exact iff_of_true rfl rfl

theorem dividesSteadily_of_sigmaFree (free : SigmaFree name) : dividesSteadily name = true := by
  unfold dividesSteadily
  split
  · next c group short parts =>
      have whole := (splitAt_eq_some_iff.mp parts).1
      rw [SigmaFree, whole, List.mem_append, not_or] at free
      have behind : capitalSigma ∉ short := fun member => free.2 (List.mem_cons_of_mem '.' member)
      obtain ⟨-, right⟩ := (Bool.and_eq_true _ _).mp (isSteady_of_sigmaFree free.1)
      obtain ⟨left, -⟩ := (Bool.and_eq_true _ _).mp (isSteady_of_sigmaFree behind)
      rw [right, left]
      rfl
  · rfl

theorem exclusiveGroup?_eq (name : String) :
    exclusiveGroup? name = if (splitAt '.' name.toList).isSome then (split name).1 else none := by
  unfold exclusiveGroup? split
  cases splitAt '.' name.toList with
  | none => rfl
  | some parts =>
      obtain ⟨group, short⟩ := parts
      cases group <;> rfl

theorem exclusiveGroup?_lower (steady : dividesSteadily name = true) :
    exclusiveGroup? (lower name) = (exclusiveGroup? name).map lower := by
  rw [exclusiveGroup?_eq, exclusiveGroup?_eq, split_lower_iff.mpr steady, toList_lower,
    splitAt_lowerChars isMark_point, Option.isSome_map]
  split <;> rfl

/-! ## Names that are the same but for case -/

/-- Of two spellings of a name that divides steadily the other one divides steadily exactly if they
have the same parts. -/
theorem sameParts_iff_of_dividesSteadily (same : sameName name other = true)
    (steady : dividesSteadily name = true) :
    SameParts name other ↔ dividesSteadily other = true := by
  rw [← split_lower_iff, ← sameName_iff.mp same, split_lower_iff.mpr steady, Prod.mk.injEq]
  rfl

/-- A label and its other spellings are displaced by the same labels. -/
theorem displaces_congr (free : SigmaFree name) (also : SigmaFree other)
    (same : sameName name other = true) (later : String) :
    displaces later name = displaces later other := by
  have groups : (exclusiveGroup? name).map lower = (exclusiveGroup? other).map lower := by
    rw [← exclusiveGroup?_lower (dividesSteadily_of_sigmaFree free),
      ← exclusiveGroup?_lower (dividesSteadily_of_sigmaFree also), sameName_iff.mp same]
  have inGroup (group : String) : inExclusiveGroup group name = inExclusiveGroup group other := by
    have lowered (name : String) : inExclusiveGroup group name =
        ((exclusiveGroup? name).map lower).any fun own => decide (own = lower group) := by
      rw [inExclusiveGroup, Option.any_map]
      rfl
    rw [lowered, lowered, groups]
  simp only [displaces, inGroup]

/-- A label is met by any spelling of its name. -/
theorem answers_of_sameName (free : SigmaFree name) (also : SigmaFree other)
    (same : sameName name other = true) : answers other name = true := by
  have parts : SameParts name other :=
    (sameParts_iff_of_dividesSteadily same (dividesSteadily_of_sigmaFree free)).mpr
      (dividesSteadily_of_sigmaFree also)
  rw [← answers_congr parts, answers_self]

end Label

end Triage
