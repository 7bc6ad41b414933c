/-
# Triage.Proofs.EditSelects -- an edited issue satisfies its edit

An expression is read in two ways, as an edit and as a query.  Each resolves names on its own: an
edit looks for the entity, a query compares what the issue holds.  Where ids and logins tell the
entities of a catalog apart, the two agree on one qualifier (`holds_of_asks`).  Main statement:
`holds_of_edit`, an issue satisfies every applicable expression that was applied to it with
success, if no two of its labels are of one exclusive group.
-/
import Triage.Expr.Selection
import Triage.Proofs.Settled

namespace Triage

open Triage.Text

set_option autoImplicit false

/-- An element is found by a property that tells it apart. -/
theorem find?_of_nodup_map {α β : Type} {f : α → β} {p : α → Bool} {elements : List α} {a : α}
    (apart : (elements.map f).Nodup) (member : a ∈ elements)
    (tells : ∀ b, p b = true ↔ f b = f a) : elements.find? p = some a := by
  induction elements with
  | nil => cases member
  | cons b rest ih =>
      rw [List.map_cons, List.nodup_cons] at apart
      rcases List.mem_cons.mp member with rfl | later
      · exact List.find?_cons_of_pos ((tells a).mpr rfl)
      · have other : ¬ p b = true := by
          intro found
          rw [(tells b).mp found] at apart
          exact apart.1 (List.mem_map_of_mem later)
        rw [List.find?_cons_of_neg other]
        exact ih apart.2 later

namespace Catalog

variable {catalog : Catalog}

/-- No two milestones have one id. -/
def MilestonesApart (catalog : Catalog) : Prop := (catalog.milestones.map Milestone.id).Nodup

/-- No two users have one login, ignoring case. -/
def UsersApart (catalog : Catalog) : Prop :=
  (catalog.users.map fun user => lower user.login).Nodup

theorem sameName_of_milestone? {title : String} {milestone : Milestone}
    (found : catalog.milestone? title = some milestone) :
    sameName milestone.title title = true := by
  have named := List.find?_some found
  exact named

theorem isNamed_of_user? {query : String} {user : User}
    (found : catalog.user? query = some user) : user.isNamed query = true := by
  have named := List.find?_some found
  exact named

/-- A milestone found by its title is found by its id. -/
theorem milestoneOf?_of_milestone? (apart : catalog.MilestonesApart) {title : String}
    {milestone : Milestone} (found : catalog.milestone? title = some milestone) :
    catalog.milestoneOf? milestone.id = some milestone :=
  find?_of_nodup_map apart (List.mem_of_find?_eq_some found) fun _ => decide_eq_true_iff

/-- A user found by a query is named by the query through the login. -/
theorem loginNamed_of_user? (apart : catalog.UsersApart) {query : String} {user : User}
    (found : catalog.user? query = some user) : catalog.loginNamed user.login query = true := by
  have known : catalog.userOf? user.login = some user :=
    find?_of_nodup_map apart (List.mem_of_find?_eq_some found) fun _ => sameName_iff
  rw [loginNamed, known, Option.any_some, isNamed_of_user? found, Bool.or_true]

end Catalog

theorem mentions_self (text : String) : mentions text text = true :=
  mentions_iff.mpr (List.infix_refl _)

/-- An issue that has what a qualifier asks for satisfies the qualifier. -/
theorem Qualifier.holds_of_asks {catalog : Catalog} {issue : Issue} {q : Qualifier}
    {change : Change} (asks : q.Asks catalog change) (holds : change.Holds issue)
    (milestones : catalog.MilestonesApart) (users : catalog.UsersApart)
    (queried : q.kind = .label → ∀ text ∈ q.text?, SigmaFree text)
    (attached : ∀ name ∈ issue.labels, SigmaFree name) : q.holds catalog issue = true := by
  cases asks with
  | @title text filled =>
      have title : issue.title = text := holds
      show mentions issue.title text = true
      rw [title]
      exact mentions_self text
  | @milestone text milestone found =>
      have set : issue.milestone = some milestone.id := holds
      show (issue.milestone.bind catalog.milestoneOf?).any _ = true
      rw [set, Option.bind_some, Catalog.milestoneOf?_of_milestone? milestones found]
      exact Catalog.sameName_of_milestone? found
  | @label text label found =>
      have held : Label.isAttached issue.labels label.name = true := holds
      have spelled := Catalog.sameName_of_label? found
      -- the name held, the catalog's and the one asked for may all differ in case
      obtain ⟨name, present, same⟩ := List.any_eq_true.mp held
      apply List.any_eq_true.mpr
      have met : sameName name text = true :=
        sameName_iff.mpr ((sameName_iff.mp same).trans (sameName_iff.mp spelled))
      exact ⟨name, present,
        Label.answers_of_sameName (attached name present) (queried rfl text rfl) met⟩
  | @assignee text user found =>
      have set : issue.assignee = some user.login := holds
      show (issue.assignee.any fun login => catalog.loginNamed login text) = true
      rw [set]
      exact Catalog.loginNamed_of_user? users found
  | @state text word found =>
      have set : issue.state = word := holds
      show decide (State.ofName? text = some issue.state) = true
      rw [set, found]
      exact decide_eq_true rfl

namespace Expr

variable {catalog : Catalog} {issue : Issue} {expr : Expr}

/-- A conjunction asks for all its qualifiers. -/
theorem holds_iff_of_isConjunction (conjunction : expr.isConjunction = true) :
    expr.holds catalog issue = true ↔ ∀ q ∈ expr.qualifiers, q.holds catalog issue = true := by
  induction expr with
  | qualifier q => simp [holds, qualifiers]
  | empty => simp [holds, qualifiers]
  | not operand ih => cases conjunction
  | or left right ihl ihr => cases conjunction
  | and left right ihl ihr =>
      obtain ⟨first, second⟩ := (Bool.and_eq_true _ _).mp conjunction
      rw [holds, Bool.and_eq_true, ihl first, ihr second, qualifiers, List.forall_mem_append]

/-- The labels of an edited issue hold no capital sigma either. -/
theorem sigmaFree_labels_edit (free : expr.IsSigmaFree catalog issue)
    (done : (expr.edit catalog issue).error = none) :
    ∀ name ∈ (expr.edit catalog issue).issue.labels, SigmaFree name := by
  intro name present
  rw [issue_edit done, Change.labels_applyAll, attached_changes] at present
  rcases Label.mem_attachAll present with old | new
  · exact free.attached name old
  · obtain ⟨label, attaches, rfl⟩ := List.mem_map.mp new
    exact free.known label (mem_catalog_of_mem_labels attaches)

/-- After an applicable expression was applied with success the issue satisfies it, if ids and
logins tell the entities of the catalog apart, no two labels of the expression are of one exclusive
group, and no capital sigma stands in a label text. -/
theorem holds_of_edit (applicable : expr.isApplicable = true)
    (milestones : catalog.MilestonesApart) (users : catalog.UsersApart)
    (groups : expr.KeepsGroups catalog) (free : expr.IsSigmaFree catalog issue)
    (done : (expr.edit catalog issue).error = none) :
    expr.holds catalog (expr.edit catalog issue).issue = true := by
  obtain ⟨conjunction, asks⟩ := error_edit_eq_none_iff.mp done
  apply (holds_iff_of_isConjunction conjunction).mpr
  intro q leaf
  obtain ⟨change, asked⟩ := asks q leaf
  have settled := changes_hold applicable (undisplaced_of_keepsGroups groups free) done change
    (mem_changes.mpr ⟨q, leaf, asked⟩)
  exact Qualifier.holds_of_asks asked settled milestones users (free.queried q leaf)
    (sigmaFree_labels_edit free done)

/-- Five fields at once, on an issue that holds another label of the group. -/
theorem holds_of_edit_all_fields :
    let dawn : Instant := ⟨⟨2024, 1, 1, by decide⟩, ⟨6, 0, 0, 0, by decide⟩⟩
    let issue : Issue := { Issue.create 7 "Crash" "ada" dawn with labels := ["OS.win", "UI"] }
    let catalog : Catalog :=
      { labels := [⟨"ui"⟩, ⟨"os.mac"⟩]
        milestones := [{ id := 1, title := "v1" }, { id := 2, title := "v2" }]
        users := [{ login := "ada" }, { login := "bob", name := some "Bo" }] }
    let expr : Expr :=
      (((Expr.ofText .label "os.Mac").and (.ofText .milestone "V2")).and
        ((Expr.ofText .assignee "bo").and (.ofText .label "ui"))).and
        (.and (.ofText .state "closed") (.ofText .title "Hang"))
    (expr.isApplicable = true ∧ catalog.MilestonesApart ∧ catalog.UsersApart ∧
      expr.KeepsGroups catalog ∧ expr.IsSigmaFree catalog issue ∧
      (expr.edit catalog issue).error = none) ∧
    expr.holds catalog (expr.edit catalog issue).issue = true := by
  intro dawn issue catalog expr
  have applicable : expr.isApplicable = true := by decide
  have milestones : catalog.MilestonesApart := by unfold Catalog.MilestonesApart; decide
  have users : catalog.UsersApart := by unfold Catalog.UsersApart; decide +kernel
  have groups : expr.KeepsGroups catalog := by decide +kernel
  have free : expr.IsSigmaFree catalog issue := ⟨by decide, by decide, by decide⟩
  have done : (expr.edit catalog issue).error = none := by decide +kernel
  exact ⟨⟨applicable, milestones, users, groups, free, done⟩,
    holds_of_edit applicable milestones users groups free done⟩

end Expr

end Triage
