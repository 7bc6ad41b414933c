/-
# Triage.Proofs.PruningLaws -- pruning an expression again

What a second pruning sees has gaps already closed: operators are gone with the qualifiers that the
first one took out.  It makes no difference, since a collapsed operator prunes to what the operator
itself would have (`prune_collapse`), so that two prunings are one that keeps what both keep
(`prune_prune`).  Dropping kinds one after another is a run of such steps (`foldl_withoutKind`), and
an expression stays as it is exactly if it is collapsed and nothing in it is refused
(`prune_eq_self_iff`).  Main statement: `prune_algebra`.
-/
import Triage.Proofs.PrunedShape

namespace Triage.Expr

set_option autoImplicit false

variable {expr : Expr} {keep : Qualifier → Bool}

/-! ## Two prunings -/

theorem collapse_empty (join : Expr → Expr → Expr) (left : Expr) :
    collapse join left .empty = left := by
  cases left <;> rfl

/-- Pruning sees no difference between an operator and what it collapsed to. -/
theorem prune_collapse {join : Expr → Expr → Expr}
    (joined : ∀ left right, (join left right).prune keep =
      collapse join (left.prune keep) (right.prune keep))
    (left right : Expr) :
    (collapse join left right).prune keep = collapse join (left.prune keep) (right.prune keep) := by
  cases first : left.isEmpty with
  | true =>
      rw [isEmpty_iff.mp first]
      rfl
  | false =>
      cases second : right.isEmpty with
      | true =>
          rw [isEmpty_iff.mp second, collapse_empty]
          exact (collapse_empty join _).symm
      | false =>
          have whole : collapse join left right = join left right := by
            simp [collapse, first, second]
          rw [whole, joined]

/-- Two prunings are one that keeps what both of them keep. -/
theorem prune_prune (first second : Qualifier → Bool) (expr : Expr) :
    (expr.prune first).prune second = expr.prune fun q => first q && second q := by
  induction expr with
  | qualifier q => cases kept : first q <;> simp [prune, kept]
  | empty => rfl
  | not operand ih => simp only [prune, ih]
  | and left right ihl ihr =>
      rw [prune, prune_collapse fun _ _ => rfl, ihl, ihr, prune]
  | or left right ihl ihr =>
      rw [prune, prune_collapse fun _ _ => rfl, ihl, ihr, prune]

/-- What is kept is the same for predicates that agree. -/
theorem prune_congr {first second : Qualifier → Bool} (agree : ∀ q, first q = second q)
    (expr : Expr) : expr.prune first = expr.prune second :=
  congrArg expr.prune (funext agree)

theorem prune_comm (first second : Qualifier → Bool) (expr : Expr) :
    (expr.prune first).prune second = (expr.prune second).prune first := by
  rw [prune_prune, prune_prune]
  exact prune_congr (fun q => Bool.and_comm _ _) expr

/-! ## Prunings that change nothing -/

/-- A pruning changes nothing exactly if no operand is empty and every qualifier is kept. -/
theorem prune_eq_self_iff :
    expr.prune keep = expr ↔
      expr.isCollapsed = true ∧ ∀ q ∈ expr.qualifiers, keep q = true := by
  constructor
  · intro same
    have kept := qualifiers_prune keep expr
    rw [same] at kept
    exact ⟨same ▸ isCollapsed_prune keep expr, List.filter_eq_self.mp kept.symm⟩
  · rintro ⟨collapsed, kept⟩
    induction expr with
    | qualifier q => simp [prune, kept q (List.mem_singleton_self q)]
    | empty => rfl
    | not operand ih => rw [prune, ih collapsed kept]
    | and left right ihl ihr | or left right ihl ihr =>
        simp only [isCollapsed, Bool.and_eq_true, Bool.not_eq_true'] at collapsed
        obtain ⟨⟨⟨first, second⟩, here⟩, there⟩ := collapsed
        have lefts := ihl here fun q leaf => kept q (List.mem_append_left _ leaf)
        have rights := ihr there fun q leaf => kept q (List.mem_append_right _ leaf)
        simp only [prune, lefts, rights, collapse, first, second, Bool.false_eq_true, if_false]

theorem prune_idem (keep : Qualifier → Bool) (expr : Expr) :
    (expr.prune keep).prune keep = expr.prune keep := by
  refine prune_eq_self_iff.mpr ⟨isCollapsed_prune keep expr, fun q leaf => ?_⟩
  rw [qualifiers_prune] at leaf
  exact (List.mem_filter.mp leaf).2

/-! ## Kinds -/

theorem withoutKinds_congr {kinds others : List Kind} (same : ∀ kind, kind ∈ kinds ↔ kind ∈ others)
    (expr : Expr) : expr.withoutKinds kinds = expr.withoutKinds others :=
  prune_congr (fun q => decide_eq_decide.mpr (not_congr (same q.kind))) expr

/-- Kinds that go one after another are gone as if at once.  There must be one to go: without a step
nothing would collapse. -/
theorem foldl_withoutKind (kind : Kind) (kinds : List Kind) (expr : Expr) :
    (kind :: kinds).foldl (fun left kind => left.withoutKind kind) expr =
      expr.withoutKinds (kind :: kinds) := by
  induction kinds generalizing kind expr with
  | nil =>
      refine prune_congr (fun q => decide_eq_decide.mpr ?_) expr
      rw [List.mem_singleton]
  | cons next kinds ih =>
      rw [List.foldl_cons, ih, withoutKind, withoutKinds, prune_prune]
      refine prune_congr (fun q => ?_) expr
      simp only [List.mem_cons, not_or, Bool.decide_and, ne_eq]

/-- The order in which kinds go, and how often, makes no difference. -/
theorem foldl_withoutKind_eq {kinds order : List Kind} (several : kinds ≠ [])
    (same : ∀ kind, kind ∈ order ↔ kind ∈ kinds) :
    order.foldl (fun left kind => left.withoutKind kind) expr = expr.withoutKinds kinds := by
  rw [← withoutKinds_congr same]
  cases order with
  | nil =>
      obtain ⟨kind, member⟩ := List.exists_mem_of_ne_nil kinds several
      cases (same kind).mpr member
  | cons kind order => exact foldl_withoutKind kind order expr

/-- Two prunings are one that keeps what both keep: a pruning repeated changes nothing, prunings
commute, and kinds may be dropped at once or one after another in any order.  No operand of what is
left is empty, and an expression without an empty operand is left as it is if all is kept. -/
theorem prune_algebra (first second : Qualifier → Bool) (expr : Expr) :
    (expr.prune first).prune second = (expr.prune fun q => first q && second q) ∧
    (expr.prune first).prune first = expr.prune first ∧
    (expr.prune first).prune second = (expr.prune second).prune first ∧
    (∀ kinds order : List Kind, kinds ≠ [] → (∀ kind, kind ∈ order ↔ kind ∈ kinds) →
      order.foldl (fun left kind => left.withoutKind kind) expr = expr.withoutKinds kinds) ∧
    (expr.prune first).isCollapsed = true ∧
    ((expr.prune fun _ => true) = expr ↔ expr.isCollapsed = true) := by
  refine ⟨prune_prune first second expr, prune_idem first expr, prune_comm first second expr,
    fun kinds order => foldl_withoutKind_eq, isCollapsed_prune first expr, ?_⟩
  rw [prune_eq_self_iff]
  exact and_iff_left fun _ _ => rfl

/-- Label and state go in either order.  The gap under `NOT` stays and the others close, among them
one that was there before and that keeping everything closes as well. -/
theorem prune_algebra_hollow :
    let bug : Expr := .ofText .label "bug"
    let opened : Expr := .ofText .state "open"
    let expr := (bug.not.and opened).or (bug.and .empty)
    let kinds : List Kind := [.label, .state]
    let order : List Kind := [.state, .label, .state]
    (kinds ≠ [] ∧ ∀ kind, kind ∈ order ↔ kind ∈ kinds) ∧
    order.foldl (fun left kind => left.withoutKind kind) expr = expr.withoutKinds kinds ∧
    expr.withoutKinds kinds = Expr.empty.not ∧
    expr.isCollapsed = false ∧ (expr.prune fun _ => true) ≠ expr := by
  intro bug opened expr kinds order
  have same : ∀ kind, kind ∈ order ↔ kind ∈ kinds := by
    intro kind
    cases kind <;> decide
  obtain ⟨-, -, -, dropped, -, whole⟩ := prune_algebra (fun _ => true) (fun _ => true) expr
  refine ⟨⟨List.cons_ne_nil _ _, same⟩, dropped kinds order (List.cons_ne_nil _ _) same, by decide,
    rfl, fun kept => ?_⟩
  exact absurd (whole.mp kept) (by decide)

end Triage.Expr
