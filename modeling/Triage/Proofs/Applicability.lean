/-
# Triage.Proofs.Applicability -- which expressions are edits

The check of an edit goes down the tree, and at every conjunction it collects the kinds below anew.
All that comes to one condition on the expression as a whole, which looks at the kinds of its
qualifiers and not at where they stand.  So conjunctions may be regrouped, reordered and padded with
empty operands, anywhere in the tree (`Regrouped`), and labels may be added.  Main statement:
`isApplicable_exactly`.
-/
import Mathlib.Data.List.Nodup
import Triage.Proofs.Change

namespace Triage

set_option autoImplicit false

namespace Expr

/-- The same up to the order and the grouping of conjunctions and to empty operands of theirs,
anywhere in the tree. -/
inductive Regrouped : Expr → Expr → Prop
  | refl (expr : Expr) : Regrouped expr expr
  | symm {a b : Expr} (same : Regrouped a b) : Regrouped b a
  | trans {a b c : Expr} (first : Regrouped a b) (second : Regrouped b c) : Regrouped a c
  | swap (a b : Expr) : Regrouped (a.and b) (b.and a)
  | rotate (a b c : Expr) : Regrouped ((a.and b).and c) (a.and (b.and c))
  | pad (expr : Expr) : Regrouped expr (expr.and .empty)
  | not {a b : Expr} (inside : Regrouped a b) : Regrouped a.not b.not
  | and {a b c d : Expr} (left : Regrouped a b) (right : Regrouped c d) :
      Regrouped (a.and c) (b.and d)
  | or {a b c d : Expr} (left : Regrouped a b) (right : Regrouped c d) :
      Regrouped (a.or c) (b.or d)

variable {expr other : Expr}

/-- A kind that may occur once only occurs twice exactly if it is counted twice. -/
theorem hasConflict_eq_false_iff_count {kinds : List Kind} :
    hasConflict kinds = false ↔ ∀ kind, kind ≠ .label → kinds.count kind ≤ 1 := by
  rw [hasConflict_eq_false_iff, List.nodup_iff_count_le_one]
  refine forall_congr' fun kind => ?_
  by_cases label : kind = .label
  · -- A label is filtered out, whatever its count.
    have absent : kind ∉ kinds.filter fun kind => !kind.isRepeatable := by
      intro member
      have single := (List.mem_filter.mp member).2
      simp [Kind.isRepeatable, label] at single
    rw [List.count_eq_zero.mpr absent]
    exact ⟨fun _ single => absurd label single, fun _ => Nat.zero_le 1⟩
  · have single : (!kind.isRepeatable) = true := by simp [Kind.isRepeatable, label]
    rw [List.count_filter (p := fun kind : Kind => !kind.isRepeatable) single]
    exact ⟨fun once _ => once, fun once => once label⟩

theorem isConjunction_iff :
    expr.isConjunction = true ↔ expr.negations = 0 ∧ expr.disjunctions = 0 := by
  induction expr with
  | qualifier | empty => simp [isConjunction, negations, disjunctions]
  | not | or => simp [isConjunction, negations, disjunctions]
  | and left right ihl ihr =>
      simp only [isConjunction, negations, disjunctions, Bool.and_eq_true, Nat.add_eq_zero_iff,
        ihl, ihr]
      exact and_and_and_comm

namespace Regrouped

/-- Regrouping keeps every kind as often as it was. -/
theorem kinds_perm (same : Regrouped expr other) : expr.kinds.Perm other.kinds := by
  induction same with
  | refl => exact .refl _
  | symm _ ih => exact ih.symm
  | trans _ _ first second => exact first.trans second
  | swap a b =>
      rw [kinds_and, kinds_and]
      exact List.perm_append_comm
  | rotate a b c => simp [kinds_and]
  | pad expr => simp [kinds, qualifiers]
  | not _ ih => exact ih
  | and _ _ left right =>
      rw [kinds_and, kinds_and]
      exact left.append right
  | or _ _ left right =>
      rw [kinds_or, kinds_or]
      exact left.append right

theorem isConjunction_eq (same : Regrouped expr other) :
    expr.isConjunction = other.isConjunction := by
  induction same with
  | refl | not | or => rfl
  | symm _ ih => exact ih.symm
  | trans _ _ first second => exact first.trans second
  | swap a b => exact Bool.and_comm _ _
  | rotate a b c => exact Bool.and_assoc _ _ _
  | pad expr => exact (Bool.and_true _).symm
  | and _ _ left right => rw [isConjunction, isConjunction, left, right]

end Regrouped

/-- Of a conjunction nothing counts but how often it has each kind. -/
theorem isApplicable_congr (operators : expr.isConjunction = other.isConjunction)
    (kinds : expr.kinds.Perm other.kinds) : expr.isApplicable = other.isApplicable := by
  apply Bool.eq_iff_iff.mpr
  have mutables (expr : Expr) : (∀ q ∈ expr.qualifiers, q.kind.isMutable = true) ↔
      ∀ kind ∈ expr.kinds, kind.isMutable = true := by simp [Expr.kinds]
  simp only [isApplicable_iff, operators, mutables, hasConflict_eq_false_iff_count,
    kinds.count_eq, kinds.mem_iff]

/-- One more label is no conflict. -/
theorem isApplicable_and_label (applicable : expr.isApplicable = true) {q : Qualifier}
    (label : q.kind = .label) : (expr.and (.qualifier q)).isApplicable = true := by
  obtain ⟨conjunction, isMutable, apart⟩ := isApplicable_iff.mp applicable
  refine isApplicable_iff.mpr ⟨?_, ?_, ?_⟩
  · rw [isConjunction, conjunction]
    rfl
  · refine List.forall_mem_append.mpr ⟨isMutable, fun p member => ?_⟩
    rw [List.mem_singleton.mp member, label]
    rfl
  · have last : (qualifier q).kinds = [.label] := congrArg (fun kind => [kind]) label
    rw [hasConflict_eq_false_iff] at apart ⊢
    rw [kinds_and, last, List.filter_append]
    simpa [Kind.isRepeatable] using apart

/-- An expression is an edit exactly if it has no `NOT` and no `OR`, its kinds can all be set, and
none but labels occurs twice.  So the check depends on how often each kind occurs, and on nothing
else once there is no `NOT` and no `OR`; it does not see how conjunctions are grouped and ordered,
nor their empty operands, and labels can be added at any place. -/
theorem isApplicable_exactly :
    (∀ expr : Expr, expr.isApplicable = true ↔
      expr.negations = 0 ∧ expr.disjunctions = 0 ∧
        (∀ q ∈ expr.qualifiers, q.kind.isMutable = true) ∧
        ∀ kind, kind ≠ .label → expr.kinds.count kind ≤ 1) ∧
    (∀ expr other : Expr, expr.negations = 0 ∧ expr.disjunctions = 0 →
      other.negations = 0 ∧ other.disjunctions = 0 → expr.kinds.Perm other.kinds →
      expr.isApplicable = other.isApplicable) ∧
    (∀ expr other : Expr, Regrouped expr other → expr.isApplicable = other.isApplicable) ∧
    ∀ (expr other : Expr) (q : Qualifier), expr.isApplicable = true → q.kind = .label →
      Regrouped (expr.and (.qualifier q)) other → other.isApplicable = true := by
  refine ⟨fun expr => ?_, fun expr other plain also same => ?_, fun expr other same => ?_,
    fun expr other q applicable label same => ?_⟩
  · rw [isApplicable_iff, isConjunction_iff, hasConflict_eq_false_iff_count, and_assoc]
  · rw [← isConjunction_iff] at plain also
    exact isApplicable_congr (plain.trans also.symm) same
  · exact isApplicable_congr same.isConjunction_eq same.kinds_perm
  · rw [← isApplicable_congr same.isConjunction_eq same.kinds_perm]
    exact isApplicable_and_label applicable label

/-- A title and two labels, with a third label put between them and an empty operand. -/
theorem isApplicable_exactly_label_between :
    let hang : Expr := .ofText .title "Hang"
    let bug : Expr := .ofText .label "bug"
    let ui : Expr := .ofText .label "ui"
    let q : Qualifier := .ofText .label "os.mac"
    let expr := bug.and (hang.and ui)
    let listed := (ui.and bug).and hang
    let padded := (bug.and .empty).and (ui.and hang)
    let added := bug.and ((hang.and ui).and (.qualifier q))
    let twice := expr.and (.and ui hang)
    ((listed.negations = 0 ∧ listed.disjunctions = 0) ∧ expr.kinds.Perm listed.kinds ∧
      Regrouped expr padded ∧ Regrouped (expr.and (.qualifier q)) added ∧
      expr.isApplicable = true) ∧
    listed.isApplicable = true ∧ padded.isApplicable = true ∧ added.isApplicable = true ∧
    ¬ twice.isApplicable = true := by
  intro hang bug ui q expr listed padded added twice
  obtain ⟨exactly, counts, regroups, adds⟩ := isApplicable_exactly
  have applicable : expr.isApplicable = true := (exactly expr).mpr
    ⟨rfl, rfl, by decide, fun kind _ => by cases kind <;> first | contradiction | decide⟩
  have perm : expr.kinds.Perm listed.kinds := by decide
  have pads : Regrouped expr padded := .and (.pad bug) (.swap hang ui)
  have within : Regrouped (expr.and (.qualifier q)) added :=
    .rotate bug (hang.and ui) (.qualifier q)
  refine ⟨⟨⟨rfl, rfl⟩, perm, pads, within, applicable⟩, ?_, ?_, ?_, ?_⟩
  · rw [← counts expr listed ⟨rfl, rfl⟩ ⟨rfl, rfl⟩ perm, applicable]
  · rw [← regroups expr padded pads, applicable]
  · exact adds expr added q applicable rfl within
  · intro unsound
    have titles := ((exactly twice).mp unsound).2.2.2 .title (by decide)
    exact absurd titles (by decide)

end Expr

end Triage
