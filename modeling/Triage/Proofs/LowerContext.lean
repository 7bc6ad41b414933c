/-
# Triage.Proofs.LowerContext -- what the lower form of a text owes to its surroundings

Only the capital sigma has a lower form that depends on its neighbours, and all it asks of them is
whether a cased letter comes next, to the left and to the right.  So the lower form of a text
depends on two bits of its context (`lowerWithin_congr`).  A text that begins with a capital sigma,
but for case-ignorable characters, can feel the bit on its left, and one that ends with a capital
sigma the bit on its right, unless the sigma has another cased letter on the other side, or none at
all.  Main statement: `isSteady_iff`, which texts have the same lower form wherever they stand.
-/
import Mathlib.Data.List.Induction
import Triage.Text.Lowercase

namespace Triage.Text

set_option autoImplicit false

/-! ## The next cased letter -/

theorem beginsCased_cons (c : Char) (text : List Char) :
    beginsCased (c :: text) = if isCaseIgnorable c then beginsCased text else isCased c := by
  unfold beginsCased
  by_cases ignored : isCaseIgnorable c <;> simp [ignored]

theorem beginsCased_append_congr (front : List Char) {back other : List Char}
    (same : beginsCased back = beginsCased other) :
    beginsCased (front ++ back) = beginsCased (front ++ other) := by
  induction front with
  | nil => exact same
  | cons c front ih =>
      rw [List.cons_append, List.cons_append, beginsCased_cons, beginsCased_cons, ih]

/-- What follows a cased letter that is found makes no difference. -/
theorem beginsCased_append {front : List Char} (cased : beginsCased front = true)
    (back : List Char) : beginsCased (front ++ back) = true := by
  induction front with
  | nil => cases cased
  | cons c front ih =>
      rw [List.cons_append, beginsCased_cons]
      rw [beginsCased_cons] at cased
      split
      · next ignored => exact ih (by rwa [if_pos ignored] at cased)
      · next heard => rwa [if_neg heard] at cased

/-! ## Contexts -/

/-- A context counts for no more than the cased letters next to the text. -/
theorem lowerWithin_congr {before before' after after' : List Char}
    (left : beginsCased before = beginsCased before')
    (right : beginsCased after = beginsCased after') (text : List Char) :
    lowerWithin before text after = lowerWithin before' text after' := by
  induction text generalizing before before' with
  | nil => rfl
  | cons c rest ih =>
      have next : beginsCased (c :: before) = beginsCased (c :: before') :=
        beginsCased_append_congr [c] left
      rw [lowerWithin, lowerWithin, ih next, lowerSigma, lowerSigma, left,
        beginsCased_append_congr rest right]

/-- A text is as long in lower case as its characters are, each on its own. -/
theorem length_lowerWithin (before text after : List Char) :
    (lowerWithin before text after).length = (text.flatMap lowerChar).length := by
  induction text generalizing before with
  | nil => rfl
  | cons c rest ih =>
      rw [lowerWithin, List.length_append, ih, List.flatMap_cons, List.length_append]
      split
      · next sigma =>
          have single : (lowerChar capitalSigma).length = 1 := by decide +kernel
          rw [sigma, single, List.length_singleton]
      · rfl

/-! ## Sigmas at the ends of a text -/

/-- If the text begins with a capital sigma, case-ignorable characters aside, whether a cased letter
comes behind it is as said. -/
def opensWell (cased : Bool) (text : List Char) : Bool :=
  match text.dropWhile isCaseIgnorable with
  | c :: rest => decide (c ≠ capitalSigma) || decide (beginsCased rest = cased)
  | [] => true

theorem opensWell_cons (cased : Bool) (c : Char) (rest : List Char) :
    opensWell cased (c :: rest) =
      if isCaseIgnorable c then opensWell cased rest
      else decide (c ≠ capitalSigma) || decide (beginsCased rest = cased) := by
  unfold opensWell
  by_cases ignored : isCaseIgnorable c <;> simp [ignored]

/-- No cased letter on the left of the text can change its lower form: a capital sigma in front has
its small form because a cased letter follows it. -/
def isSteadyLeft (text : List Char) : Bool := opensWell true text

/-- No cased letter on the right of the text can change its lower form: a capital sigma at the end
has its small form because no cased letter stands before it. -/
def isSteadyRight (text : List Char) : Bool := opensWell false text.reverse

/-- The lower form of the text is the same wherever it stands. -/
def isSteady (text : List Char) : Bool := isSteadyLeft text && isSteadyRight text

/-- A capital sigma is not skipped itself. -/
theorem ne_capitalSigma_of_ignorable {c : Char} (ignored : isCaseIgnorable c = true) :
    c ≠ capitalSigma := by
  rintro rfl
  have heard : isCaseIgnorable capitalSigma = false := by decide +kernel
  exact absurd (heard.symm.trans ignored) Bool.false_ne_true

theorem lowerWithin_of_isSteadyLeft {text : List Char} (steady : isSteadyLeft text = true)
    (before before' after : List Char) :
    lowerWithin before text after = lowerWithin before' text after := by
  induction text generalizing before before' with
  | nil => rfl
  | cons c rest ih =>
      rw [isSteadyLeft, opensWell_cons] at steady
      split at steady
      · next ignored =>
          have other := ne_capitalSigma_of_ignorable ignored
          rw [lowerWithin, lowerWithin, if_neg other, if_neg other, ih steady]
      · next heard =>
          -- `c` is what the rest sees on its left, in either context
          have next : beginsCased (c :: before) = beginsCased (c :: before') := by
            rw [beginsCased_cons, beginsCased_cons, if_neg heard, if_neg heard]
          rw [lowerWithin, lowerWithin, lowerWithin_congr next rfl]
          split
          · next sigma =>
              have cased : beginsCased rest = true := by simpa [sigma] using steady
              simp [lowerSigma, beginsCased_append cased]
          · rfl

theorem lowerWithin_of_isSteadyRight {text : List Char} (steady : isSteadyRight text = true)
    (after after' : List Char) : lowerWithin [] text after = lowerWithin [] text after' := by
  induction text using List.reverseRecOn generalizing after after' with
  | nil => rfl
  | append_singleton front c ih =>
      rw [isSteadyRight, List.reverse_concat, opensWell_cons] at steady
      rw [lowerWithin_append, lowerWithin_append]
      split at steady
      · next ignored =>
          have other := ne_capitalSigma_of_ignorable ignored
          rw [ih steady _ ([c] ++ after')]
          simp only [lowerWithin, if_neg other]
      · next heard =>
          have next : beginsCased ([c] ++ after) = beginsCased ([c] ++ after') := by
            simp only [List.singleton_append, beginsCased_cons, if_neg heard]
          rw [lowerWithin_congr rfl next]
          by_cases sigma : c = capitalSigma
          · have alone : beginsCased front.reverse = false := by simpa [sigma] using steady
            simp [lowerWithin, sigma, lowerSigma, alone]
          · simp only [lowerWithin, if_neg sigma]

/-! ## Texts that are the same wherever they stand -/

theorem smallSigma_ne_finalSigma : smallSigma ≠ finalSigma := by decide

/-- A cased letter on the left changes every text that is not steady there. -/
theorem isSteadyLeft_of_lowerWithin {before before' text : List Char}
    (cased : beginsCased before = true) (plain : beginsCased before' = false)
    (same : lowerWithin before text [] = lowerWithin before' text []) :
    isSteadyLeft text = true := by
  induction text generalizing before before' with
  | nil => rfl
  | cons c rest ih =>
      rw [isSteadyLeft, opensWell_cons]
      rw [lowerWithin, lowerWithin] at same
      split
      · next ignored =>
          have other := ne_capitalSigma_of_ignorable ignored
          rw [if_neg other, if_neg other] at same
          exact ih (by rwa [beginsCased_cons, if_pos ignored])
            (by rwa [beginsCased_cons, if_pos ignored]) (List.append_cancel_left same)
      · by_cases sigma : c = capitalSigma
        · rw [if_pos sigma, if_pos sigma] at same
          have heads : lowerSigma before rest = lowerSigma before' rest := by
            simpa using (List.cons.inj same).1
          cases next : beginsCased rest with
          | true => simp
          | false =>
              simp only [lowerSigma, cased, plain, next] at heads
              exact absurd heads.symm smallSigma_ne_finalSigma
        · simp [sigma]

/-- A cased letter on the right changes every text that is not steady there. -/
theorem isSteadyRight_of_lowerWithin {after after' text : List Char}
    (cased : beginsCased after = true) (plain : beginsCased after' = false)
    (same : lowerWithin [] text after = lowerWithin [] text after') :
    isSteadyRight text = true := by
  induction text using List.reverseRecOn generalizing after after' with
  | nil => rfl
  | append_singleton front c ih =>
      rw [isSteadyRight, List.reverse_concat, opensWell_cons]
      rw [lowerWithin_append, lowerWithin_append] at same
      have ends := List.append_inj same (by rw [length_lowerWithin, length_lowerWithin])
      split
      · next ignored =>
          exact ih (by rwa [List.singleton_append, beginsCased_cons, if_pos ignored])
            (by rwa [List.singleton_append, beginsCased_cons, if_pos ignored]) ends.1
      · by_cases sigma : c = capitalSigma
        · have lasts : lowerSigma front.reverse after = lowerSigma front.reverse after' := by
            simpa [lowerWithin, sigma] using ends.2
          cases previous : beginsCased front.reverse with
          | false => simp
          | true =>
              simp only [lowerSigma, cased, plain, previous] at lasts
              exact absurd lasts smallSigma_ne_finalSigma
        · simp [sigma]

/-- Which texts have alone the lower form that they have behind a given text. -/
theorem lowerWithin_left_iff {before text : List Char} :
    lowerWithin before text [] = lowerChars text ↔
      isSteadyLeft text = true ∨ beginsCased before = false := by
  constructor
  · intro same
    cases cased : beginsCased before with
    | false => exact .inr rfl
    | true => exact .inl (isSteadyLeft_of_lowerWithin cased rfl same)
  · rintro (steady | plain)
    · exact lowerWithin_of_isSteadyLeft steady before [] []
    · exact lowerWithin_congr plain rfl text

/-- Which texts have alone the lower form that they have in front of a given text. -/
theorem lowerWithin_right_iff {text after : List Char} :
    lowerWithin [] text after = lowerChars text ↔
      isSteadyRight text = true ∨ beginsCased after = false := by
  constructor
  · intro same
    cases cased : beginsCased after with
    | false => exact .inr rfl
    | true => exact .inl (isSteadyRight_of_lowerWithin cased rfl same)
  · rintro (steady | plain)
    · exact lowerWithin_of_isSteadyRight steady after []
    · exact lowerWithin_congr rfl plain text

/-- Two surroundings tell whether a text is steady: a cased letter before it, and one behind it. -/
theorem isSteady_of_lowerWithin {before after text : List Char}
    (casedBefore : beginsCased before = true) (casedAfter : beginsCased after = true)
    (left : lowerWithin before text [] = lowerChars text)
    (right : lowerWithin [] text after = lowerChars text) : isSteady text = true :=
  (Bool.and_eq_true _ _).mpr ⟨isSteadyLeft_of_lowerWithin casedBefore rfl left,
    isSteadyRight_of_lowerWithin casedAfter rfl right⟩

/-- The steady texts are those whose lower form is the same wherever they stand. -/
theorem isSteady_iff {text : List Char} :
    isSteady text = true ↔ ∀ before after, lowerWithin before text after = lowerChars text := by
  constructor
  · intro steady before after
    obtain ⟨left, right⟩ := (Bool.and_eq_true _ _).mp steady
    rw [lowerWithin_of_isSteadyLeft left before [], lowerChars]
    exact lowerWithin_of_isSteadyRight right after []
  · intro same
    have cased : beginsCased ['a'] = true := by decide +kernel
    exact isSteady_of_lowerWithin cased cased (same _ _) (same _ _)

end Triage.Text
