/-
# Triage.Proofs.RepeatedEdit -- an edit made again

A change that holds of an issue already leaves it as it is.  All changes of an edit hold once it has
succeeded, if its labels are of different exclusive groups, so that the same edit made again changes
nothing (`edit_edit`), the order of the labels and the time of the update included.  In a batch an
edit settles the first issue of an id (`Application.isSettled`), and what is settled stays so
through the applications to other ids (`Applications.isSettled`).
Main statement: `repeated_edit`.
-/
import Triage.Proofs.BatchEffect
import Triage.Proofs.EditSelects

namespace Triage

open Triage.Text

set_option autoImplicit false

namespace Change

variable {change : Change} {changes : List Change} {issue : Issue}

/-- A change that holds changes nothing. -/
theorem Holds.apply_eq (holds : change.Holds issue) : change.apply issue = issue := by
  cases change with
  | attach name => rw [Change.apply, Issue.attach_eq, Label.attachTo_of_isAttached holds]
  | title | milestone | assignee | state =>
      rw [Change.apply, ← holds]

theorem applyAll_of_holds (holds : ∀ change ∈ changes, change.Holds issue) :
    applyAll changes issue = issue := by
  induction changes with
  | nil => rfl
  | cons change rest ih =>
      obtain ⟨first, others⟩ := List.forall_mem_cons.mp holds
      show applyAll rest (change.apply issue) = issue
      rw [first.apply_eq, ih others]

/-- No change asks for a time of update. -/
theorem Holds.stamp (holds : change.Holds issue) (now : Instant) :
    change.Holds { issue with updatedAt := now } := by
  cases change <;> exact holds

end Change

namespace Expr

variable {catalog : Catalog} {issue : Issue} {expr : Expr}

/-- An edit all of whose changes hold succeeds and changes nothing. -/
theorem edit_of_holds (done : (expr.edit catalog issue).error = none)
    (holds : ∀ change ∈ expr.changes catalog, change.Holds issue) :
    expr.edit catalog issue = ⟨issue, none⟩ := by
  have kept : (expr.edit catalog issue).issue = issue := by
    rw [issue_edit done, Change.applyAll_of_holds holds]
  calc expr.edit catalog issue
    _ = ⟨(expr.edit catalog issue).issue, (expr.edit catalog issue).error⟩ := rfl
    _ = ⟨issue, none⟩ := by rw [kept, done]

/-- An edit made again changes nothing, whether or not the issue was stamped in between. -/
theorem edit_edit (applicable : expr.isApplicable = true) (groups : expr.KeepsGroups catalog)
    (free : expr.IsSigmaFree catalog issue) (done : (expr.edit catalog issue).error = none) :
    let edited := (expr.edit catalog issue).issue
    expr.edit catalog edited = ⟨edited, none⟩ ∧
      ∀ now, expr.edit catalog { edited with updatedAt := now } =
        ⟨{ edited with updatedAt := now }, none⟩ := by
  have holds := changes_hold applicable (undisplaced_of_keepsGroups groups free) done
  have again (other : Issue) : (expr.edit catalog other).error = none :=
    (error_edit_eq catalog expr other issue).trans done
  exact ⟨edit_of_holds (again _) holds,
    fun now => edit_of_holds (again _) fun change member => (holds change member).stamp now⟩

/-- An edited issue is as free of capital sigmas in its labels as it was. -/
theorem IsSigmaFree.edit (free : expr.IsSigmaFree catalog issue)
    (done : (expr.edit catalog issue).error = none) {after : Issue}
    (same : after.labels = (expr.edit catalog issue).issue.labels) :
    expr.IsSigmaFree catalog after :=
  { free with attached := by rw [same]; exact sigmaFree_labels_edit free done }

end Expr

namespace Snapshot

variable {expr : Expr} {clock : Nat → Instant} {now : Instant} {id other : UInt64}
  {ids : List UInt64} {error : Option EditError} {snapshot next last : Snapshot} {issue : Issue}

/-! ## Issues by id -/

theorem issue?_of_first {catalog : Catalog} {before behind : List Issue} (named : issue.id = id)
    (first : ∀ other ∈ before, other.id ≠ id) :
    issue? { catalog, issues := before ++ issue :: behind } id = some issue := by
  refine List.find?_eq_some_iff_append.mpr ⟨decide_eq_true named, before, behind, rfl, ?_⟩
  simpa using first

theorem issue?_of_ne {catalog : Catalog} {before behind : List Issue} {edited : Issue}
    (named : issue.id = id) (kept : edited.id = issue.id) (different : other ≠ id) :
    issue? { catalog, issues := before ++ edited :: behind } other =
      issue? { catalog, issues := before ++ issue :: behind } other := by
  have unlike : ¬ issue.id = other := fun same => different (same.symm.trans named)
  simp [issue?, List.find?_append, kept, unlike]

theorem update_self (found : snapshot.issue? id = some issue) :
    (snapshot.update id fun _ => issue) = snapshot := by
  obtain ⟨catalog, issues⟩ := snapshot
  obtain ⟨named, before, behind, rfl, first⟩ := List.find?_eq_some_iff_append.mp found
  exact update_first (of_decide_eq_true named) (by simpa using first) _

/-! ## Settled issues -/

/-- The expression has been applied to the first issue of the id: applied again, it succeeds and
changes nothing. -/
def IsSettled (expr : Expr) (snapshot : Snapshot) (id : UInt64) : Prop :=
  ∀ issue, snapshot.issue? id = some issue → expr.edit snapshot.catalog issue = ⟨issue, none⟩

/-- No capital sigma stands in a label text of an edit of the first issue of the id. -/
def IsSigmaFreeAt (expr : Expr) (snapshot : Snapshot) (id : UInt64) : Prop :=
  ∀ issue, snapshot.issue? id = some issue → expr.IsSigmaFree snapshot.catalog issue

/-- What an application finds and leaves under the ids. -/
theorem Application.issue? (application : Application expr now id error snapshot next) :
    ∃ issue edited, snapshot.issue? id = some issue ∧
      expr.edit snapshot.catalog issue = ⟨edited, error⟩ ∧
      next.issue? id = some (if edited = issue then issue else { edited with updatedAt := now }) ∧
      ∀ other, other ≠ id → next.issue? other = snapshot.issue? other := by
  obtain @⟨catalog, before, behind, issue, edited, named, first, edits⟩ := application
  have kept : (if edited = issue then issue else { edited with updatedAt := now }).id =
      issue.id := by
    have := Expr.id_edit catalog expr issue
    rw [edits] at this
    split
    · rfl
    · exact this
  exact ⟨issue, edited, issue?_of_first named first, edits,
    issue?_of_first (kept.trans named) first,
    fun other different => issue?_of_ne named kept different⟩

/-- An application to a settled issue leaves the whole snapshot as it is. -/
theorem Application.eq_of_isSettled (application : Application expr now id error snapshot next)
    (settled : IsSettled expr snapshot id) : next = snapshot := by
  obtain @⟨catalog, before, behind, issue, edited, named, first, edits⟩ := application
  have kept := settled issue (issue?_of_first named first)
  rw [edits] at kept
  obtain rfl : edited = issue := congrArg Edited.issue kept
  rw [if_pos rfl]

/-- What is settled stays settled. -/
theorem Application.isSettled_of_isSettled
    (application : Application expr now id error snapshot next)
    (settled : IsSettled expr snapshot other) : IsSettled expr next other := by
  by_cases same : other = id
  · subst same
    rw [application.eq_of_isSettled settled]
    exact settled
  · obtain ⟨-, -, -, -, -, rest⟩ := application.issue?
    intro issue found
    rw [rest other same] at found
    rw [application.sameBut.catalog]
    exact settled issue found

theorem Applications.isSettled_of_isSettled (run : Applications expr clock ids snapshot last)
    (settled : IsSettled expr snapshot id) : IsSettled expr last id := by
  induction run with
  | nil => exact settled
  | cons front _ ih => exact ih (front.isSettled_of_isSettled settled)

/-- An application that does not stop settles the issue. -/
theorem Application.isSettled (application : Application expr now id none snapshot next)
    (applicable : expr.isApplicable = true) (groups : expr.KeepsGroups snapshot.catalog)
    (free : IsSigmaFreeAt expr snapshot id) : IsSettled expr next id := by
  obtain ⟨before, edited, found, edits, left, -⟩ := application.issue?
  have done : (expr.edit snapshot.catalog before).error = none := congrArg Edited.error edits
  have result : (expr.edit snapshot.catalog before).issue = edited := congrArg Edited.issue edits
  obtain ⟨again, stamped⟩ := Expr.edit_edit applicable groups (free before found) done
  rw [result] at again stamped
  intro issue present
  rw [application.sameBut.catalog]
  obtain rfl := Option.some.inj (left.symm.trans present)
  split
  · next unchanged =>
      rw [unchanged] at again
      exact again
  · exact stamped now

/-- An application brings no capital sigma. -/
theorem Application.isSigmaFreeAt (application : Application expr now id none snapshot next)
    (itself : IsSigmaFreeAt expr snapshot id) (free : IsSigmaFreeAt expr snapshot other) :
    IsSigmaFreeAt expr next other := by
  obtain ⟨before, edited, found, edits, left, rest⟩ := application.issue?
  intro issue present
  rw [application.sameBut.catalog]
  by_cases same : other = id
  · subst same
    have done : (expr.edit snapshot.catalog before).error = none := congrArg Edited.error edits
    have result : (expr.edit snapshot.catalog before).issue = edited := congrArg Edited.issue edits
    obtain rfl := Option.some.inj (left.symm.trans present)
    apply (itself before found).edit done
    rw [result]
    split
    · next unchanged => rw [unchanged]
    · rfl
  · rw [rest other same] at present
    exact free issue present

/-- A run of applications settles the issues of all its ids. -/
theorem Applications.isSettled (run : Applications expr clock ids snapshot last)
    (applicable : expr.isApplicable = true) (groups : expr.KeepsGroups snapshot.catalog)
    (free : ∀ id ∈ ids, IsSigmaFreeAt expr snapshot id) : ∀ id ∈ ids, IsSettled expr last id := by
  induction run with
  | nil => exact List.forall_mem_nil _
  | @cons clock id ids snapshot next last front back ih =>
      obtain ⟨itself, others⟩ := List.forall_mem_cons.mp free
      refine List.forall_mem_cons.mpr ⟨?_, ?_⟩
      · exact back.isSettled_of_isSettled (front.isSettled applicable groups itself)
      · apply ih
        · rw [front.sameBut.catalog]
          exact groups
        · exact fun other member => front.isSigmaFreeAt itself (others other member)

/-- A batch that finds everything settled succeeds and changes nothing. -/
theorem applyEach_of_isSettled (known : ∀ id ∈ ids, id ∈ snapshot.issues.map Issue.id)
    (settled : ∀ id ∈ ids, IsSettled expr snapshot id) (clock : Nat → Instant) :
    snapshot.applyEach expr clock ids = ⟨snapshot, ids.map (appliedLine expr), none⟩ := by
  induction ids generalizing clock with
  | nil => rfl
  | cons id ids ih =>
      obtain ⟨knownId, knownRest⟩ := List.forall_mem_cons.mp known
      obtain ⟨settledId, settledRest⟩ := List.forall_mem_cons.mp settled
      obtain ⟨issue, found⟩ := exists_issue? knownId
      have same : (snapshot.update id fun _ => (⟨issue, none⟩ : Edited).stamp (clock 0) issue) =
          snapshot := by
        simp only [Edited.stamp, if_true]
        exact update_self found
      simp only [applyEach, found, settledId issue found, same, ih knownRest settledRest,
        List.map_cons]

/-! ## Batches -/

/-- A batch that succeeds is a run of applications to all of its ids. -/
theorem applications_of_done {text : String} (read : Expr.read text = .ok expr)
    (done : (snapshot.apply text ids clock).failure = none) :
    Accepts snapshot text ids expr ∧
      Applications expr clock ids snapshot (snapshot.apply text ids clock).snapshot := by
  rcases apply_eq snapshot text ids clock with ⟨failure, -, same⟩ | ⟨found, accepts, same⟩
  · rw [same] at done
    cases done
  · obtain rfl : expr = found := Except.ok.inj (read.symm.trans accepts.read)
    refine ⟨accepts, ?_⟩
    rw [same] at done ⊢
    rcases applyEach_course expr clock snapshot ids accepts.known with ⟨-, -, run⟩ |
      ⟨_, _, _, _, _, -, stopped, -⟩
    · exact run
    · cases done.symm.trans stopped

/-- A run over two lists of ids is one over the first and then one over the second. -/
theorem applications_append {front back : List UInt64} :
    Applications expr clock (front ++ back) snapshot last ↔
      ∃ middle, Applications expr clock front snapshot middle ∧
        Applications expr (fun n => clock (front.length + n)) back middle last := by
  induction front generalizing clock snapshot with
  | nil =>
      simp only [List.nil_append, List.length_nil, Nat.zero_add]
      constructor
      · exact fun run => ⟨snapshot, .nil, run⟩
      · rintro ⟨middle, ⟨⟩, run⟩
        exact run
  | cons id front ih =>
      have later (n : Nat) : (id :: front).length + n = front.length + n + 1 := by
        rw [List.length_cons, Nat.add_right_comm]
      simp only [later, List.cons_append]
      constructor
      · rintro ⟨⟩
        case cons next first run =>
          obtain ⟨middle, front, back⟩ := ih.mp run
          exact ⟨middle, .cons first front, back⟩
      · rintro ⟨middle, ⟨⟩, back⟩
        case cons next first front => exact .cons first (ih.mpr ⟨middle, front, back⟩)

/-- An applicable edit whose labels are of different exclusive groups succeeds again where it has
succeeded, and changes nothing the second time, if no capital sigma stands in a label text.  Hence
a batch that is run again, with any of its ids, leaves the snapshot as it is, and so does within one
batch the application to an id that was listed before. -/
theorem repeated_edit :
    (∀ (catalog : Catalog) (issue : Issue) (expr : Expr), expr.isApplicable = true →
      expr.KeepsGroups catalog → expr.IsSigmaFree catalog issue →
      (expr.edit catalog issue).error = none →
      expr.edit catalog (expr.edit catalog issue).issue =
        ⟨(expr.edit catalog issue).issue, none⟩) ∧
    ∀ (snapshot : Snapshot) (text : String) (expr : Expr) (ids : List UInt64)
      (clock : Nat → Instant), Expr.read text = .ok expr → expr.KeepsGroups snapshot.catalog →
      (∀ id ∈ ids, IsSigmaFreeAt expr snapshot id) →
      let batch := snapshot.apply text ids clock
      batch.failure = none →
      (∀ (again : List UInt64) (later : Nat → Instant), (∀ id ∈ again, id ∈ ids) →
        batch.snapshot.apply text again later =
          ⟨batch.snapshot, again.map (appliedLine expr), none⟩) ∧
      ∀ (front behind : List UInt64) (id : UInt64), ids = front ++ id :: behind → id ∈ front →
        ∃ middle, Applications expr clock front snapshot middle ∧
          Application expr (clock front.length) id none middle middle ∧
          Applications expr (fun n => clock (front.length + (n + 1))) behind middle
            batch.snapshot := by
  refine ⟨fun catalog issue expr applicable groups free done =>
    (Expr.edit_edit applicable groups free done).1, ?_⟩
  intro snapshot text expr ids clock read groups free batch done
  obtain ⟨accepts, run⟩ := applications_of_done read done
  have settled := run.isSettled accepts.applicable groups free
  refine ⟨fun again later listed => ?_, ?_⟩
  · have known : ∀ id ∈ again, id ∈ batch.snapshot.issues.map Issue.id := by
      intro id member
      rw [run.sameBut.order]
      exact accepts.known id (listed id member)
    rw [apply_of_accepts ⟨read, accepts.applicable, known⟩]
    exact applyEach_of_isSettled known (fun id member => settled id (listed id member)) later
  · rintro front behind id rfl before
    obtain ⟨middle, first, rest⟩ := applications_append.mp run
    refine ⟨middle, first, ?_⟩
    have freeFront : ∀ id ∈ front, IsSigmaFreeAt expr snapshot id :=
      fun id member => free id (List.mem_append_left _ member)
    have settledId : IsSettled expr middle id :=
      first.isSettled accepts.applicable groups freeFront id before
    cases rest with
    | @cons _ _ _ _ next _ application back =>
        obtain rfl : next = middle := application.eq_of_isSettled settledId
        exact ⟨application, back⟩

/-- Three applications to two issues, one of them listed twice, and a second run later in the
day. -/
theorem repeated_edit_listed_twice :
    let dawn : Instant := ⟨⟨2024, 1, 1, by decide⟩, ⟨6, 0, 0, 0, by decide⟩⟩
    let noon : Instant := ⟨⟨2024, 1, 1, by decide⟩, ⟨12, 0, 0, 0, by decide⟩⟩
    let dusk : Instant := ⟨⟨2024, 1, 1, by decide⟩, ⟨18, 0, 0, 0, by decide⟩⟩
    let crash : Issue := { Issue.create 7 "Crash" "ada" dawn with labels := ["OS.win", "UI"] }
    let snapshot : Snapshot :=
      { catalog := { labels := [⟨"ui"⟩, ⟨"os.mac"⟩] }
        issues := [crash, Issue.create 8 "Slow" "ada" dawn] }
    let expr : Expr := (Expr.ofText .label "ui").and (.ofText .label "OS.mac")
    let clock (n : Nat) : Instant := if n = 0 then noon else dusk
    let batch := snapshot.apply expr.text [7, 8, 7] clock
    let again := batch.snapshot.apply expr.text [8, 7] fun _ => dusk
    let edited := (expr.edit snapshot.catalog crash).issue
    (batch.failure = none ∧ edited.labels = ["UI", "os.mac"] ∧
      batch.snapshot.issues.map Issue.labels = [["UI", "os.mac"], ["ui", "os.mac"]] ∧
      batch.snapshot.issues.map Issue.updatedAt = [noon, dusk]) ∧
    expr.edit snapshot.catalog edited = ⟨edited, none⟩ ∧
    (again.snapshot = batch.snapshot ∧ again.failure = none) ∧
    ∃ middle, Applications expr clock [7, 8] snapshot middle ∧
      Application expr dusk 7 none middle middle := by
  intro dawn noon dusk crash snapshot expr clock batch again edited
  have read : Expr.read expr.text = .ok expr :=
    (Expr.read_text_eq_ok_iff (by decide) (by decide)).mpr ⟨rfl, by decide, by decide, by decide⟩
  have applicable : expr.isApplicable = true := by decide
  have groups : expr.KeepsGroups snapshot.catalog := by decide +kernel
  have freeCrash : expr.IsSigmaFree snapshot.catalog crash := ⟨by decide, by decide, by decide⟩
  have free : ∀ id ∈ [(7 : UInt64), 8, 7], IsSigmaFreeAt expr snapshot id := by
    intro id _ issue found
    refine ⟨freeCrash.queried, freeCrash.known, ?_⟩
    have attached : ∀ issue ∈ snapshot.issues, ∀ name ∈ issue.labels, SigmaFree name := by decide
    exact attached issue (List.mem_of_find?_eq_some found)
  have run : batch = snapshot.applyEach expr clock [7, 8, 7] := by
    have known : ∀ id ∈ [(7 : UInt64), 8, 7], id ∈ snapshot.issues.map Issue.id := by
      simp [snapshot, crash, Issue.create]
    exact apply_of_accepts ⟨read, applicable, known⟩ clock
  have succeeded : batch.failure = none := by rw [run]; decide +kernel
  have labels : batch.snapshot.issues.map Issue.labels =
      [["UI", "os.mac"], ["ui", "os.mac"]] := by rw [run]; decide +kernel
  have times : batch.snapshot.issues.map Issue.updatedAt = [noon, dusk] := by
    rw [run]; decide +kernel
  have done : (expr.edit snapshot.catalog crash).error = none := by decide +kernel
  have once : edited.labels = ["UI", "os.mac"] := by decide +kernel
  obtain ⟨reruns, repeats⟩ :=
    repeated_edit.2 snapshot expr.text expr [7, 8, 7] clock read groups free succeeded
  have unchanged : again = ⟨batch.snapshot, [8, 7].map (appliedLine expr), none⟩ :=
    reruns [8, 7] (fun _ => dusk) (by simp)
  obtain ⟨middle, front, third, -⟩ := repeats [7, 8] [] 7 rfl (by decide)
  refine ⟨⟨succeeded, once, labels, times⟩,
    repeated_edit.1 snapshot.catalog crash expr applicable groups freeCrash done, ?_,
    middle, front, third⟩
  rw [unchanged]
  exact ⟨rfl, rfl⟩

end Snapshot

end Triage
