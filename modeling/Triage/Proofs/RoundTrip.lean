/-
# Triage.Proofs.RoundTrip -- which expressions are read back from their canonical text

A tree that no text spells may still have a canonical text: an empty expression is written as
nothing, a text may hold a quote, a date may lie outside the years of four digits, and the tree may
be too deep.  Main statement: `read_text_eq_self_iff`, these and ill-typed literals are all that can
go wrong.  A tree with none of them is never misread, whatever its texts look like.
-/
import Triage.Proofs.Rereading

namespace Triage.Expr

set_option autoImplicit false

variable {expr : Expr}

theorem isHanging_of_whole (whole : expr.hasEmpty = false) : expr.isHanging = false := by
  induction expr with
  | empty => cases whole
  | not operand ih => exact ih whole
  | qualifier | and | or => rfl

theorem isEmpty_of_whole (whole : expr.hasEmpty = false) : expr.isEmpty = false := by
  cases expr with
  | empty => cases whole
  | qualifier | not | and | or => rfl

/-- A tree without empty expressions is read back as itself, if at all. -/
theorem reread_of_whole (whole : expr.hasEmpty = false) : expr.reread = some expr := by
  induction expr with
  | qualifier => rfl
  | empty => cases whole
  | not operand ih => rw [reread, ih whole, Option.map_some]
  | and left right ihl ihr =>
      obtain ⟨wholeLeft, wholeRight⟩ := Bool.or_eq_false_iff.mp whole
      rw [reread, isHanging_of_whole wholeLeft, isEmpty_of_whole wholeRight, ihl wholeLeft,
        ihr wholeRight]
      rfl
  | or left right ihl ihr =>
      obtain ⟨wholeLeft, wholeRight⟩ := Bool.or_eq_false_iff.mp whole
      rw [reread, ihl wholeLeft, ihr wholeRight]
      rfl

/-- It opens fewer `NOT`s and brackets at once than it is high. -/
theorem opened_lt_height (whole : expr.hasEmpty = false) : expr.opened < expr.height := by
  induction expr with
  | qualifier => exact Nat.one_pos
  | empty => cases whole
  | not operand ih => exact Nat.succ_lt_succ (ih whole)
  | and left right ihl ihr =>
      obtain ⟨wholeLeft, wholeRight⟩ := Bool.or_eq_false_iff.mp whole
      have first := ihl wholeLeft
      have second := ihr wholeRight
      rw [opened, isHanging_of_whole wholeLeft, height]
      simp only [Bool.false_eq_true, if_false]
      omega
  | or left right ihl ihr =>
      obtain ⟨wholeLeft, wholeRight⟩ := Bool.or_eq_false_iff.mp whole
      have first := ihl wholeLeft
      have second := ihr wholeRight
      rw [opened, height]
      omega

/-- An expression is read back from its canonical text exactly if no empty expression stands in it,
it is not too deep, and every qualifier has a literal of the type of its kind, no quote in a text
and no date outside the years of four digits. -/
theorem read_text_eq_self_iff (expr : Expr) :
    read expr.text = .ok expr ↔
      expr.hasEmpty = false ∧ expr.height ≤ maxDepth ∧
        ∀ q ∈ expr.qualifiers, q.isTyped = true ∧ q.IsQuotable ∧ q.IsLegible := by
  constructor
  · intro read
    obtain ⟨whole, fits, typed, quotable⟩ := shape_of_read read
    obtain ⟨-, legible, -, -⟩ := (read_text_eq_ok_iff typed quotable).mp read
    exact ⟨whole, fits, fun q member => ⟨typed q member, quotable q member, legible q member⟩⟩
  · rintro ⟨whole, fits, leaves⟩
    have typed : ∀ q ∈ expr.qualifiers, q.isTyped = true := fun q member => (leaves q member).1
    have quotable : expr.IsQuotable := fun q member => (leaves q member).2.1
    have legible : expr.IsLegible := fun q member => (leaves q member).2.2
    have room := opened_lt_height whole
    exact (read_text_eq_ok_iff typed quotable).mpr
      ⟨reread_of_whole whole, legible, by omega, fits⟩

end Triage.Expr
