/-
# Triage.Proofs.PrunedText -- what the text of a pruned expression is read back as

Pruning an expression that was read leaves an empty expression only under `NOT`s, and the `NOT`s of
such a hanging expression are written all the same.  On the left of a conjunction they bind to the
right operand: `(NOT  label:bug)` is read back as `NOT label:bug`.  Main statement:
`read_text_pruneKinds`, a pruned expression without empty expressions is never misread; with one it
is misread exactly if every hanging expression stands on the left of a conjunction, as `reread`
has it, and refused otherwise.
-/
import Triage.Command
import Triage.Proofs.PrunedShape
import Triage.Proofs.RoundTrip

namespace Triage.Expr

set_option autoImplicit false

/-- Some conjunction has a hanging left operand. -/
def hangsLeft : Expr → Bool
  | .qualifier _ | .empty => false
  | .not operand => operand.hangsLeft
  | .and left right => left.isHanging || left.hangsLeft || right.hangsLeft
  | .or left right => left.hangsLeft || right.hangsLeft

variable {expr : Expr}

theorem pruneKinds_eq_prune (drop keep : List Kind) (expr : Expr) :
    ∃ kept : Qualifier → Bool, expr.pruneKinds drop keep = expr.prune kept := by
  unfold pruneKinds
  split
  · exact ⟨_, rfl⟩
  · exact ⟨_, rfl⟩

/-! ## Where a hanging expression is refused -/

/-- An empty expression that is on the left of no conjunction makes the text unreadable. -/
theorem reread_eq_none (collapsed : expr.isCollapsed = true) (hangs : expr.hangsLeft = false)
    (empty : expr.hasEmpty = true) : expr.reread = none := by
  induction expr with
  | qualifier => cases empty
  | empty => rfl
  | not operand ih => rw [reread, ih collapsed hangs empty, Option.map_none]
  | and left right ihl ihr =>
      simp only [isCollapsed, Bool.and_eq_true, Bool.not_eq_true'] at collapsed
      simp only [hangsLeft, Bool.or_eq_false_iff] at hangs
      obtain ⟨⟨⟨-, present⟩, first⟩, second⟩ := collapsed
      obtain ⟨⟨solid, hangsLeft⟩, hangsRight⟩ := hangs
      rw [reread, solid, present]
      simp only [Bool.false_eq_true, if_false]
      rcases (Bool.or_eq_true _ _).mp empty with emptyLeft | emptyRight
      · rw [ihl first hangsLeft emptyLeft, Option.bind_none]
      · rw [ihr second hangsRight emptyRight]
        simp
  | or left right ihl ihr =>
      simp only [isCollapsed, Bool.and_eq_true] at collapsed
      simp only [hangsLeft, Bool.or_eq_false_iff] at hangs
      rw [reread]
      rcases (Bool.or_eq_true _ _).mp empty with emptyLeft | emptyRight
      · rw [ihl collapsed.1.2 hangs.1 emptyLeft, Option.bind_none]
      · rw [ihr collapsed.2 hangs.2 emptyRight]
        simp

/-- What the text of a pruned expression is read back as.  Without empty expressions it is the
expression itself or, if a date takes more than four digits for its year, an error.  With one it is
never the expression itself: it is what `reread` says, if dates and depth allow, and an error if no
conjunction has a hanging left operand. -/
theorem read_text_pruneKinds {source : String} {expr : Expr} (parsed : read source = .ok expr)
    (drop keep : List Kind) :
    let left := expr.pruneKinds drop keep
    (left.hasEmpty = false →
      ∀ other, read left.text = .ok other ↔ left.IsLegible ∧ other = left) ∧
    (left.hasEmpty = true → ∀ other,
      (read left.text = .ok other ↔ left.reread = some other ∧ left.IsLegible ∧
        left.opened ≤ maxDepth ∧ other.height ≤ maxDepth) ∧
      (read left.text = .ok other → other ≠ left ∧ left.hangsLeft = true)) := by
  intro left
  obtain ⟨kept, same⟩ := pruneKinds_eq_prune drop keep expr
  obtain ⟨-, fits, typed, quotable⟩ := shape_of_read parsed
  have present : ∀ q ∈ left.qualifiers, q ∈ expr.qualifiers := by
    intro q member
    rw [show left = expr.prune kept from same, qualifiers_prune] at member
    exact (List.mem_filter.mp member).1
  have back (other : Expr) : read left.text = .ok other ↔ left.reread = some other ∧
      left.IsLegible ∧ left.opened ≤ maxDepth ∧ other.height ≤ maxDepth :=
    read_text_eq_ok_iff (fun q member => typed q (present q member))
      fun q member => quotable q (present q member)
  constructor
  · intro whole other
    have lower : left.height ≤ maxDepth := by
      rw [show left = expr.prune kept from same]
      exact Nat.le_trans (height_prune_le kept expr) fits
    have room := opened_lt_height whole
    rw [back, reread_of_whole whole, Option.some.injEq]
    constructor
    · rintro ⟨rfl, legible, -, -⟩
      exact ⟨legible, rfl⟩
    · rintro ⟨legible, rfl⟩
      exact ⟨rfl, legible, by omega, lower⟩
  · intro empty other
    refine ⟨back other, fun read => ⟨?_, ?_⟩⟩
    · rintro rfl
      have whole := (shape_of_read read).1
      rw [empty] at whole
      cases whole
    · -- no conjunction lends its right operand, so the text breaks off where one is due
      apply Bool.not_eq_false _ |>.mp
      intro hangs
      have collapsed : left.isCollapsed = true := by
        rw [show left = expr.prune kept from same]
        exact isCollapsed_prune kept expr
      have refused := ((back other).mp read).1
      rw [reread_eq_none collapsed hangs empty] at refused
      cases refused

/-- Without the qualifier under it a `NOT` negates the label next to it. -/
theorem read_text_pruneKinds_rebound :
    let five : Expr := .qualifier ⟨.id, .number (.compare .eq 5)⟩
    let bug : Expr := .qualifier (.ofText .label "bug")
    let left := (five.not.and bug).pruneKinds [.id] []
    read "(NOT id:5 label:bug)" = .ok (five.not.and bug) ∧ left.text = "(NOT  label:bug)" ∧
      read left.text = .ok bug.not ∧ bug.not ≠ left ∧ left.hangsLeft = true := by
  intro five bug left
  have written : (five.not.and bug).text = "(NOT id:5 label:bug)" := by decide
  have parsed : read (five.not.and bug).text = .ok (five.not.and bug) :=
    (read_text_eq_ok_iff (by decide) (by decide)).mpr ⟨rfl, by decide, by decide, by decide⟩
  obtain ⟨back, unlike⟩ := (read_text_pruneKinds parsed [.id] []).2 rfl bug.not
  have misread : read left.text = .ok bug.not := back.mpr ⟨rfl, by decide, by decide, by decide⟩
  exact ⟨written ▸ parsed, by decide, misread, unlike misread⟩

end Triage.Expr
