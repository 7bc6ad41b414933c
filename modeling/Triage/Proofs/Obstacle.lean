/-
# Triage.Proofs.Obstacle -- an edit runs up to its first obstacle

An edit meets the leaves of its expression from left to right, and the negations and disjunctions
that stand outermost; these are its items.  Whether an item passes does not depend on the issue, so
the items divide at the first that fails (`Course`, `exists_course`): those before it make the
result, the one that fails gives the error, and nothing after it counts.  A property that every
qualifier before the obstacle keeps is kept by the edit (`Qualifier.editAll_induction`).
Main statement: `edit_up_to_obstacle`.
-/
import Triage.Proofs.Change

namespace Triage

set_option autoImplicit false

/-- What an edit meets on its way through an expression. -/
inductive Item where
  | qualifier (qualifier : Qualifier)
  | empty
  | operator (operator : Unsupported)
deriving DecidableEq

namespace Item

def qualifier? : Item → Option Qualifier
  | .qualifier q => some q
  | .empty | .operator _ => none

/-- What becomes of an issue at an item. -/
def attempt (item : Item) (catalog : Catalog) (issue : Issue) : Except EditError Issue :=
  match item with
  | .qualifier q => q.edit catalog issue
  | .empty => .ok issue
  | .operator op => .error (.unsupported op)

/-- The item fails on no issue. -/
def Passes (catalog : Catalog) (item : Item) : Prop :=
  ∀ issue, ∃ edited, item.attempt catalog issue = .ok edited

/-- The item fails on every issue, with this error. -/
def FailsWith (catalog : Catalog) (error : EditError) (item : Item) : Prop :=
  ∀ issue, item.attempt catalog issue = .error error

variable {catalog : Catalog} {item : Item} {error : EditError}

/-- The issue has no say in whether an item passes. -/
theorem passes_or_fails (catalog : Catalog) (item : Item) :
    item.Passes catalog ∨ ∃ error, item.FailsWith catalog error := by
  cases item with
  | qualifier q =>
      cases asked : q.change catalog with
      | ok change =>
          refine .inl fun issue => ⟨change.apply issue, ?_⟩
          rw [attempt, Qualifier.edit_eq_map_change, asked, Except.map]
      | error e =>
          refine .inr ⟨e, fun issue => ?_⟩
          rw [attempt, Qualifier.edit_eq_map_change, asked, Except.map]
  | empty => exact .inl fun issue => ⟨issue, rfl⟩
  | operator op => exact .inr ⟨.unsupported op, fun _ => rfl⟩

theorem FailsWith.not_passes (fails : item.FailsWith catalog error) (issue : Issue) :
    ¬ item.Passes catalog := by
  intro passes
  obtain ⟨edited, done⟩ := passes issue
  cases (fails issue).symm.trans done

/-- The qualifier of an item that fails is one without a change. -/
theorem FailsWith.change_eq {q : Qualifier} (fails : (Item.qualifier q).FailsWith catalog error)
    (issue : Issue) : q.change catalog = .error error := by
  have failed := fails issue
  rw [attempt, Qualifier.edit_eq_map_change] at failed
  cases asked : q.change catalog with
  | ok change =>
      rw [asked, Except.map] at failed
      cases failed
  | error e =>
      rw [asked, Except.map] at failed
      rw [Except.error.inj failed]

/-- An error carries the qualifier that failed, and none if an operator did. -/
theorem FailsWith.qualifier?_eq (fails : item.FailsWith catalog error) (issue : Issue) :
    error.qualifier? = item.qualifier? := by
  cases item with
  | qualifier q => exact Qualifier.qualifier?_of_change_eq_error (fails.change_eq issue)
  | empty => cases fails issue
  | operator op =>
      obtain rfl : EditError.unsupported op = error := Except.error.inj (fails issue)
      rfl

end Item

/-! ## Qualifiers one after the other -/

namespace Qualifier

/-- Applies qualifiers from left to right, up to the first that fails. -/
def editAll (catalog : Catalog) (qualifiers : List Qualifier) (issue : Issue) :
    Except EditError Issue :=
  qualifiers.foldlM (fun issue q => q.edit catalog issue) issue

variable {catalog : Catalog} {issue edited : Issue}

theorem editAll_cons (catalog : Catalog) (q : Qualifier) (rest : List Qualifier) (issue : Issue) :
    editAll catalog (q :: rest) issue = (q.edit catalog issue).bind (editAll catalog rest) :=
  List.foldlM_cons

theorem editAll_append (catalog : Catalog) (first second : List Qualifier) (issue : Issue) :
    editAll catalog (first ++ second) issue =
      (editAll catalog first issue).bind (editAll catalog second) :=
  List.foldlM_append

/-- What every single qualifier keeps, all of them keep. -/
theorem editAll_induction {Kept : Issue → Prop} {qualifiers : List Qualifier}
    (step : ∀ q ∈ qualifiers, ∀ issue change, q.Asks catalog change → Kept issue →
      Kept (change.apply issue))
    (start : Kept issue) (run : editAll catalog qualifiers issue = .ok edited) : Kept edited := by
  induction qualifiers generalizing issue with
  | nil =>
      obtain rfl : issue = edited := Except.ok.inj run
      exact start
  | cons q rest ih =>
      rw [editAll_cons] at run
      cases done : q.edit catalog issue with
      | error e =>
          rw [done] at run
          cases run
      | ok next =>
          rw [done] at run
          obtain ⟨change, asks, rfl⟩ := edit_eq_ok_iff.mp done
          exact ih (fun p member => step p (List.mem_cons_of_mem q member))
            (step q List.mem_cons_self issue change asks start) run

end Qualifier

/-! ## What an edit leaves alone -/

namespace Issue

/-- The fields that no edit sets are the same. -/
structure SameOrigin (issue edited : Issue) : Prop where
  id : edited.id = issue.id
  body : edited.body = issue.body
  isPullRequest : edited.isPullRequest = issue.isPullRequest
  author : edited.author = issue.author
  createdAt : edited.createdAt = issue.createdAt
  updatedAt : edited.updatedAt = issue.updatedAt

/-- The field that qualifiers of a kind set is the same. -/
def SameField (kind : Kind) (issue edited : Issue) : Prop :=
  match kind with
  | .title => edited.title = issue.title
  | .milestone => edited.milestone = issue.milestone
  | .label => edited.labels = issue.labels
  | .assignee => edited.assignee = issue.assignee
  | .state => edited.state = issue.state
  | _ => True

theorem sameField_refl (kind : Kind) (issue : Issue) : issue.SameField kind issue := by
  cases kind <;> trivial

end Issue

namespace Change

variable {issue edited : Issue}

theorem sameOrigin_apply (change : Change) (same : issue.SameOrigin edited) :
    issue.SameOrigin (change.apply edited) := by
  cases change with
  | attach name =>
      rw [apply, Issue.attach_eq]
      exact { same with }
  | title | milestone | assignee | state => exact { same with }

/-- A change sets one field. -/
theorem sameField_apply {change : Change} {kind : Kind} (other : change.kind ≠ kind)
    (same : issue.SameField kind edited) : issue.SameField kind (change.apply edited) := by
  cases change with
  | attach name =>
      rw [apply, Issue.attach_eq]
      cases kind <;> first | exact same | exact absurd rfl other
  | title | milestone | assignee | state =>
      cases kind <;> first | exact same | exact absurd rfl other

end Change

/-! ## The course of an edit -/

/-- An edit that passes the items `before` and ends there, since no item is `behind` or the first
that is fails: the qualifiers `before` make the result, and the failure is the error. -/
structure Course (catalog : Catalog) (issue : Issue) (edited : Edited) (before behind : List Item) :
    Prop where
  passed : ∀ item ∈ before, item.Passes catalog
  result : Qualifier.editAll catalog (before.filterMap Item.qualifier?) issue = .ok edited.issue
  ending : match behind with
    | [] => edited.error = none
    | item :: _ => ∃ error, edited.error = some error ∧ item.FailsWith catalog error

namespace Course

variable {catalog : Catalog} {issue : Issue} {edited : Edited} {before behind : List Item}

/-- Items that pass may go ahead. -/
theorem append {middle : Issue} {first : List Item}
    (passed : ∀ item ∈ first, item.Passes catalog)
    (result : Qualifier.editAll catalog (first.filterMap Item.qualifier?) issue = .ok middle)
    (course : Course catalog middle edited before behind) :
    Course catalog issue edited (first ++ before) behind where
  passed := List.forall_mem_append.mpr ⟨passed, course.passed⟩
  result := by
    rw [List.filterMap_append, Qualifier.editAll_append, result]
    exact course.result
  ending := course.ending

/-- An edit succeeds if all its items pass. -/
theorem error_eq_none_iff (course : Course catalog issue edited before behind) :
    edited.error = none ↔ ∀ item ∈ before ++ behind, item.Passes catalog := by
  cases behind with
  | nil =>
      rw [List.append_nil]
      exact ⟨fun _ => course.passed, fun _ => course.ending⟩
  | cons item after =>
      obtain ⟨error, stopped, fails⟩ := course.ending
      rw [stopped]
      constructor
      · intro clear
        cases clear
      · intro passes
        exact absurd (passes item (by simp)) (fails.not_passes issue)

/-- An error comes from the first item behind. -/
theorem exists_fails (course : Course catalog issue edited before behind) {error : EditError}
    (stopped : edited.error = some error) :
    ∃ item after, behind = item :: after ∧ item.FailsWith catalog error := by
  cases behind with
  | nil => cases stopped.symm.trans course.ending
  | cons item after =>
      obtain ⟨_, found, fails⟩ := course.ending
      obtain rfl := Option.some.inj (stopped.symm.trans found)
      exact ⟨item, after, rfl, fails⟩

/-- What the qualifiers ahead of the obstacle keep, the edit keeps. -/
theorem induction {Kept : Issue → Prop} (course : Course catalog issue edited before behind)
    (step : ∀ q, Item.qualifier q ∈ before → ∀ issue change, q.Asks catalog change → Kept issue →
      Kept (change.apply issue))
    (start : Kept issue) : Kept edited.issue := by
  apply Qualifier.editAll_induction _ start course.result
  intro q member
  obtain ⟨item, ahead, isQualifier⟩ := List.mem_filterMap.mp member
  cases item with
  | qualifier p =>
      obtain rfl : p = q := Option.some.inj isQualifier
      exact step p ahead
  | empty | operator => cases isQualifier

end Course

namespace Expr

/-- The leaves and the outermost negations and disjunctions, from left to right. -/
def items : Expr → List Item
  | .qualifier q => [.qualifier q]
  | .empty => [.empty]
  | .not _ => [.operator .negation]
  | .or _ _ => [.operator .disjunction]
  | .and left right => left.items ++ right.items

/-- Every edit takes its course through the items of its expression. -/
theorem exists_course (catalog : Catalog) (expr : Expr) (issue : Issue) :
    ∃ before behind, expr.items = before ++ behind ∧
      Course catalog issue (expr.edit catalog issue) before behind := by
  -- For every issue at once: the right operand goes on with what the left one leaves.
  induction expr generalizing issue with
  | qualifier q =>
      rcases (Item.qualifier q).passes_or_fails catalog with passes | ⟨error, fails⟩
      · obtain ⟨edited, done⟩ := passes issue
        have edits : q.edit catalog issue = .ok edited := done
        have result : Qualifier.editAll catalog [q] issue = .ok edited := by
          rw [Qualifier.editAll_cons, edits]
          rfl
        rw [edit, edits]
        exact ⟨[.qualifier q], [], rfl, List.forall_mem_singleton.mpr passes, result, rfl⟩
      · have stops : q.edit catalog issue = .error error := fails issue
        rw [edit, stops]
        exact ⟨[], [.qualifier q], rfl, List.forall_mem_nil _, rfl, error, rfl, fails⟩
  | empty =>
      have passes : Item.empty.Passes catalog := fun issue => ⟨issue, rfl⟩
      exact ⟨[.empty], [], rfl, List.forall_mem_singleton.mpr passes, rfl, rfl⟩
  | not operand ih =>
      exact ⟨[], [.operator .negation], rfl, List.forall_mem_nil _, rfl, _, rfl, fun _ => rfl⟩
  | or left right ihl ihr =>
      exact ⟨[], [.operator .disjunction], rfl, List.forall_mem_nil _, rfl, _, rfl, fun _ => rfl⟩
  | and left right ihl ihr =>
      obtain ⟨before, behind, divided, course⟩ := ihl issue
      cases behind with
      | nil =>
          have clear : (left.edit catalog issue).error = none := course.ending
          obtain ⟨next, rest, parted, onward⟩ := ihr (left.edit catalog issue).issue
          refine ⟨before ++ next, rest, by rw [items, divided, parted]; simp, ?_⟩
          simp only [edit, clear]
          exact onward.append course.passed course.result
      | cons item after =>
          obtain ⟨error, stopped, fails⟩ := course.ending
          refine ⟨before, item :: after ++ right.items, by rw [items, divided]; simp, ?_⟩
          simp only [edit, stopped]
          exact ⟨course.passed, course.result, error, stopped, fails⟩

/-- An applicable expression has no items but empty ones and qualifiers of mutable kinds. -/
theorem items_of_isApplicable {expr : Expr} (applicable : expr.isApplicable = true) :
    ∀ item ∈ expr.items,
      item = .empty ∨ ∃ q, item = .qualifier q ∧ q.kind.isMutable = true := by
  induction expr with
  | qualifier q =>
      intro item member
      exact .inr ⟨q, List.mem_singleton.mp member, applicable⟩
  | empty =>
      intro item member
      exact .inl (List.mem_singleton.mp member)
  | not | or => cases applicable
  | and left right ihl ihr =>
      simp only [isApplicable, Bool.and_eq_true] at applicable
      exact List.forall_mem_append.mpr ⟨ihl applicable.1.2, ihr applicable.2⟩

/-- An edit applies the qualifiers ahead of the first obstacle and stops there with its error, which
carries the qualifier that failed.  A field is left alone unless a qualifier of its kind is ahead of
the obstacle.  In an applicable expression the obstacle is neither an operator nor a kind that only
filters. -/
theorem edit_up_to_obstacle (catalog : Catalog) (expr : Expr) (issue : Issue) :
    let edited := expr.edit catalog issue
    (edited.error = none ↔ ∀ item ∈ expr.items, item.Passes catalog) ∧
    ∃ before behind, expr.items = before ++ behind ∧
      Course catalog issue edited before behind ∧
      (∀ error, edited.error = some error →
        error.qualifier? = behind.head?.bind Item.qualifier?) ∧
      issue.SameOrigin edited.issue ∧
      (∀ kind, (∀ q, Item.qualifier q ∈ before → q.kind ≠ kind) →
        issue.SameField kind edited.issue) ∧
      (expr.isApplicable = true → ∀ error, edited.error = some error →
        (∀ q, error ≠ .readOnly q) ∧ ∀ operator, error ≠ .unsupported operator) := by
  intro edited
  obtain ⟨before, behind, divided, course⟩ := exists_course catalog expr issue
  refine ⟨by rw [divided]; exact course.error_eq_none_iff, before, behind, divided, course,
    ?_, ?_, ?_, ?_⟩
  · intro error stopped
    obtain ⟨item, after, rfl, fails⟩ := course.exists_fails stopped
    exact fails.qualifier?_eq issue
  · exact course.induction (fun _ _ _ change _ same => change.sameOrigin_apply same)
      ⟨rfl, rfl, rfl, rfl, rfl, rfl⟩
  · intro kind otherwise
    apply course.induction _ (issue.sameField_refl kind)
    intro q ahead between change asks same
    exact Change.sameField_apply (asks.kind_eq ▸ otherwise q ahead) same
  · intro applicable error stopped
    obtain ⟨item, after, rfl, fails⟩ := course.exists_fails stopped
    have met : item ∈ expr.items := by rw [divided]; simp
    rcases items_of_isApplicable applicable item met with rfl | ⟨q, rfl, changes⟩
    · cases fails issue
    · have refused := fails.change_eq issue
      have named := Qualifier.qualifier?_of_change_eq_error refused
      constructor
      · rintro other rfl
        exact Qualifier.change_ne_readOnly changes other refused
      · rintro operator rfl
        cases named

/-- The label stays, the milestone is unknown, and the title is not met. -/
theorem edit_up_to_obstacle_unresolved :
    let dawn : Instant := ⟨⟨2024, 1, 1, by decide⟩, ⟨6, 0, 0, 0, by decide⟩⟩
    let issue := Issue.create 7 "Crash" "ada" dawn
    let catalog : Catalog := { labels := [⟨"ui"⟩] }
    let expr : Expr :=
      (Expr.ofText .label "UI").and ((Expr.ofText .milestone "v9").and (.ofText .title "Hang"))
    let edited := expr.edit catalog issue
    let error : EditError := .unresolved (.ofText .milestone "v9") .milestone "v9"
    (expr.isApplicable = true ∧ edited.error = some error ∧ edited.issue.labels = ["ui"]) ∧
    (¬ ∀ item ∈ expr.items, item.Passes catalog) ∧ issue.SameOrigin edited.issue ∧
    (∀ q, error ≠ .readOnly q) ∧ ∀ operator, error ≠ .unsupported operator := by
  intro dawn issue catalog expr edited error
  have applicable : expr.isApplicable = true := by decide
  have stopped : edited.error = some error := by decide +kernel
  have labels : edited.issue.labels = ["ui"] := by decide +kernel
  obtain ⟨clear, before, behind, -, -, -, origin, -, sound⟩ :=
    edit_up_to_obstacle catalog expr issue
  refine ⟨⟨applicable, stopped, labels⟩, ?_, origin, sound applicable error stopped⟩
  intro passes
  cases stopped.symm.trans (clear.mpr passes)

end Expr

end Triage
