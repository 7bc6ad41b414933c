/-
# Triage.Proofs.WellFormed -- edits keep an issue well formed

An issue is well formed for a catalog (`Issue.WellFormed`) if its title is not blank, its names are
those of the catalog and its labels agree with each other.  Every change that a qualifier asks for
keeps it so (`WellFormed.apply`): what it sets comes from the catalog, and an attached label is new
and has displaced the others of its exclusive group.  Hence every edit does, also one that fails
halfway (`wellFormed_edit`).
Main statement: `wellFormed_history`, no run of edits leads out of the well-formed issues.
-/
import Triage.Proofs.Obstacle

namespace Triage

open Triage.Text

set_option autoImplicit false

namespace Label

variable {labels : List String} {name attached : String}

/-- A label is displaced by those that share its exclusive group. -/
theorem displaces_eq_false_iff :
    displaces name attached = false ↔
      ∀ own ∈ exclusiveGroup? attached, ∀ group ∈ exclusiveGroup? name,
        sameName own group = false := by
  unfold displaces inExclusiveGroup
  cases exclusiveGroup? name <;> cases exclusiveGroup? attached <;> simp

/-- Labels stay apart if the new one is apart from those that it does not displace. -/
theorem pairwise_attachTo {Apart : String → String → Prop} (apart : labels.Pairwise Apart)
    (new : isAttached labels name = false → ∀ a ∈ labels, displaces name a = false → Apart a name) :
    (attachTo labels name).Pairwise Apart := by
  cases held : isAttached labels name with
  | true =>
      rw [attachTo_of_isAttached held]
      exact apart
  | false =>
      rw [attachTo_of_new held, List.pairwise_append]
      refine ⟨apart.filter _, List.pairwise_singleton _ _, ?_⟩
      intro a kept b last
      obtain rfl := List.mem_singleton.mp last
      obtain ⟨member, spared⟩ := List.mem_filter.mp kept
      exact new held a member ((Bool.not_eq_true' _).mp spared)

end Label

namespace Issue

/-- The labels of the issue are distinct labels of the catalog, no two of one exclusive group; its
milestone and its assignee are in the catalog; its title is not blank.  Names of labels and groups
are compared ignoring case, ids and logins are not. -/
structure WellFormed (catalog : Catalog) (issue : Issue) : Prop where
  distinct : issue.labels.Pairwise fun a b => sameName a b = false
  groups : issue.labels.Pairwise fun a b =>
    ∀ own ∈ Label.exclusiveGroup? a, ∀ other ∈ Label.exclusiveGroup? b, sameName own other = false
  labels : ∀ name ∈ issue.labels, ∃ label ∈ catalog.labels, sameName label.name name = true
  milestone : ∀ id ∈ issue.milestone, ∃ milestone ∈ catalog.milestones, milestone.id = id
  assignee : ∀ login ∈ issue.assignee, ∃ user ∈ catalog.users, user.login = login
  title : allBlank issue.title = false

namespace WellFormed

variable {catalog : Catalog} {issue : Issue}

theorem attach (formed : issue.WellFormed catalog) {label : Label} (known : label ∈ catalog.labels) :
    (issue.attach label.name).WellFormed catalog := by
  rw [Issue.attach_eq]
  refine { formed with distinct := ?_, groups := ?_, labels := ?_ }
  · apply Label.pairwise_attachTo formed.distinct
    intro new a member _
    exact Bool.eq_false_iff.mpr (List.any_eq_false.mp new a member)
  · apply Label.pairwise_attachTo formed.groups
    intro _ a _ spared
    exact Label.displaces_eq_false_iff.mp spared
  · intro name present
    rcases Label.mem_attachTo present with old | rfl
    · exact formed.labels name old
    · exact ⟨label, known, by simp [sameName]⟩

/-- What a qualifier asks for keeps an issue well formed. -/
theorem apply {q : Qualifier} {change : Change} (asks : q.Asks catalog change)
    (formed : issue.WellFormed catalog) : (change.apply issue).WellFormed catalog := by
  cases asks with
  | title filled => exact { formed with title := filled }
  | @milestone _ milestone found =>
      refine { formed with milestone := ?_ }
      intro id set
      exact ⟨milestone, List.mem_of_find?_eq_some found, Option.some.inj set⟩
  | label found => exact formed.attach (List.mem_of_find?_eq_some found)
  | @assignee _ user found =>
      refine { formed with assignee := ?_ }
      intro login set
      exact ⟨user, List.mem_of_find?_eq_some found, Option.some.inj set⟩
  | state found => exact { formed with }

end WellFormed

/-- The issue after each of several edits in turn; where an edit fails, the next one goes on with
what it left. -/
def history (catalog : Catalog) (issue : Issue) : List Expr → List Issue
  | [] => []
  | expr :: rest =>
      let edited := (expr.edit catalog issue).issue
      edited :: edited.history catalog rest

variable {catalog : Catalog} {issue : Issue}

/-- An edit keeps an issue well formed, however far it gets. -/
theorem wellFormed_edit (formed : issue.WellFormed catalog) (expr : Expr) :
    (expr.edit catalog issue).issue.WellFormed catalog := by
  obtain ⟨before, behind, -, course⟩ := expr.exists_course catalog issue
  exact course.induction (fun _ _ _ _ asks => WellFormed.apply asks) formed

/-- A well-formed issue is well formed after every one of any number of edits. -/
theorem wellFormed_history (formed : issue.WellFormed catalog) (exprs : List Expr) :
    ∀ after ∈ issue.history catalog exprs, after.WellFormed catalog := by
  induction exprs generalizing issue with
  | nil => exact List.forall_mem_nil _
  | cons expr rest ih =>
      have next := wellFormed_edit formed expr
      exact List.forall_mem_cons.mpr ⟨next, ih next⟩

/-- The first edit fails after it has replaced a label, the second at once, and the third finds its
label attached in another spelling. -/
theorem wellFormed_history_failing :
    let dawn : Instant := ⟨⟨2024, 1, 1, by decide⟩, ⟨6, 0, 0, 0, by decide⟩⟩
    let issue : Issue := { Issue.create 7 "Crash" "ada" dawn with labels := ["OS.win", "UI"] }
    let catalog : Catalog :=
      { labels := [⟨"ui"⟩, ⟨"os.mac"⟩, ⟨"os.win"⟩]
        milestones := [{ id := 1, title := "v1" }]
        users := [{ login := "bob", name := some "Bo" }] }
    let exprs : List Expr :=
      [(Expr.ofText .label "Os.Mac").and (.and (.ofText .title " ") (.ofText .label "os.win")),
        .not .empty,
        (Expr.ofText .label "ui").and (.and (.ofText .assignee "BO") (.ofText .milestone "V1"))]
    let issues := issue.history catalog exprs
    (issue.WellFormed catalog ∧
      issues.map Issue.labels = [["UI", "os.mac"], ["UI", "os.mac"], ["UI", "os.mac"]] ∧
      issues.map Issue.assignee = [none, none, some "bob"]) ∧
    ∀ after ∈ issues, after.WellFormed catalog := by
  intro dawn issue catalog exprs issues
  have formed : issue.WellFormed catalog :=
    { distinct := by decide +kernel
      groups := by decide +kernel
      labels := by decide +kernel
      milestone := fun _ set => nomatch set
      assignee := fun _ set => nomatch set
      title := by decide }
  have labels : issues.map Issue.labels = [["UI", "os.mac"], ["UI", "os.mac"], ["UI", "os.mac"]] := by
    decide +kernel
  have assignees : issues.map Issue.assignee = [none, none, some "bob"] := by decide +kernel
  exact ⟨⟨formed, labels, assignees⟩, wellFormed_history formed exprs⟩

end Issue

end Triage
