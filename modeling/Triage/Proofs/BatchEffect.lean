/-
# Triage.Proofs.BatchEffect -- what a batch does to a snapshot

A batch is refused before anything is touched, or it is a run of applications (`Applications`), one
for every id in turn, each to the first issue of its id (`Application`); the last one may stop
halfway (`applyEach_course`).  An application keeps everything but that one issue, so a run keeps
everything but the first issues of the listed ids (`SameBut`).
Main statements: `apply_effect`, the two outcomes in full; `failing_never_depends_on_issue`, whether
and how an edit fails is decided by the expression and the catalog alone, so that a batch that fails
at an edit fails at its first id.
-/
import Triage.Batch
import Triage.Proofs.Change
import Triage.Proofs.Rereading

namespace Triage

set_option autoImplicit false

/-! ## Why an edit fails -/

/-- The issue has no say in whether an edit stops, or why. -/
theorem Expr.error_edit_eq (catalog : Catalog) (expr : Expr) (issue other : Issue) :
    (expr.edit catalog issue).error = (expr.edit catalog other).error := by
  -- The right operand of a conjunction goes on with two different issues.
  induction expr generalizing issue other with
  | qualifier q =>
      rw [edit, edit, Qualifier.edit_eq_map_change, Qualifier.edit_eq_map_change]
      cases q.change catalog <;> rfl
  | empty | not | or => rfl
  | and left right ihl ihr =>
      have same := ihl issue other
      cases stopped : (left.edit catalog issue).error with
      | none =>
          have clear := stopped
          rw [same] at clear
          simp only [edit, stopped, clear]
          exact ihr _ _
      | some error =>
          have halted := stopped
          rw [same] at halted
          simp only [edit, stopped, halted]

namespace Snapshot

variable {expr : Expr} {clock : Nat → Instant} {now : Instant} {id : UInt64} {ids : List UInt64}
  {error : Option EditError} {snapshot next last : Snapshot}

/-! ## One application -/

/-- An expression applied to the first issue of an id: the edit makes of the issue what it does, and
stops with `error` or not at all.  If it changed any field, the issue was updated `now`. -/
inductive Application (expr : Expr) (now : Instant) (id : UInt64) (error : Option EditError) :
    Snapshot → Snapshot → Prop
  | intro {catalog : Catalog} {before behind : List Issue} {issue edited : Issue}
      (named : issue.id = id) (first : ∀ other ∈ before, other.id ≠ id)
      (edits : expr.edit catalog issue = ⟨edited, error⟩) :
      Application expr now id error
        { catalog, issues := before ++ issue :: behind }
        { catalog
          issues := before ++
            (if edited = issue then issue else { edited with updatedAt := now }) :: behind }

theorem update_first {catalog : Catalog} {before behind : List Issue} {issue : Issue}
    (named : issue.id = id) (first : ∀ other ∈ before, other.id ≠ id) (change : Issue → Issue) :
    update { catalog, issues := before ++ issue :: behind } id change =
      { catalog, issues := before ++ change issue :: behind } := by
  simp only [update, mk.injEq, true_and]
  induction before with
  | nil => rw [List.nil_append, update.go, if_pos named, List.nil_append]
  | cons other before ih =>
      have different : other.id ≠ id := first other List.mem_cons_self
      rw [List.cons_append, update.go, if_neg different, List.cons_append,
        ih fun o member => first o (List.mem_cons_of_mem other member)]

/-- To replace the first issue of an id by what an edit makes of it is an application. -/
theorem application_update (now : Instant) {issue : Issue}
    (found : snapshot.issue? id = some issue)
    (stops : (expr.edit snapshot.catalog issue).error = error) :
    Application expr now id error snapshot
      (snapshot.update id fun _ => (expr.edit snapshot.catalog issue).stamp now issue) := by
  obtain ⟨catalog, issues⟩ := snapshot
  obtain ⟨named, before, behind, rfl, first⟩ := List.find?_eq_some_iff_append.mp found
  have named : issue.id = id := of_decide_eq_true named
  have first : ∀ other ∈ before, other.id ≠ id := by simpa using first
  rw [update_first named first]
  exact .intro named first (by rw [← stops])

/-! ## What applications leave alone -/

/-- The catalog is the same, the issues have the same ids in the same order, and an issue is the
same unless it is the first of an id in the list. -/
structure SameBut (ids : List UInt64) (snapshot next : Snapshot) : Prop where
  catalog : next.catalog = snapshot.catalog
  order : next.issues.map Issue.id = snapshot.issues.map Issue.id
  others : ∀ (n : Nat) (issue : Issue), snapshot.issues[n]? = some issue →
    (issue.id ∈ ids → ∃ m < n, (snapshot.issues.map Issue.id)[m]? = some issue.id) →
    next.issues[n]? = some issue

theorem SameBut.refl (ids : List UInt64) (snapshot : Snapshot) : SameBut ids snapshot snapshot :=
  ⟨rfl, rfl, fun _ _ present _ => present⟩

theorem SameBut.trans (front : SameBut ids snapshot next) (back : SameBut ids next last) :
    SameBut ids snapshot last where
  catalog := back.catalog.trans front.catalog
  order := back.order.trans front.order
  others n issue present other := by
    apply back.others n issue (front.others n issue present other)
    rw [front.order]
    exact other

theorem SameBut.mono {more : List UInt64} (same : SameBut ids snapshot next)
    (within : ∀ id ∈ ids, id ∈ more) : SameBut more snapshot next where
  catalog := same.catalog
  order := same.order
  others n issue present other :=
    same.others n issue present fun listed => other (within issue.id listed)

theorem Application.sameBut (application : Application expr now id error snapshot next) :
    SameBut [id] snapshot next := by
  obtain @⟨catalog, before, behind, issue, edited, named, first, edits⟩ := application
  have kept : edited.id = issue.id := by
    have := Expr.id_edit catalog expr issue
    rwa [edits] at this
  refine ⟨rfl, ?_, ?_⟩
  · have stamped : (if edited = issue then issue else { edited with updatedAt := now }).id =
        issue.id := by split <;> simp [kept]
    simp only [List.map_append, List.map_cons, stamped]
  · intro n other present unlisted
    rcases Nat.lt_trichotomy n before.length with ahead | rfl | behind
    · rw [List.getElem?_append_left ahead] at present ⊢
      exact present
    · -- This is the first issue of the id: it has no namesake ahead of it.
      obtain rfl : issue = other := by simpa using present
      obtain ⟨m, ahead, namesake⟩ := unlisted (List.mem_singleton.mpr named)
      rw [List.map_append, List.getElem?_append_left (by simpa using ahead), List.getElem?_map,
        Option.map_eq_some_iff] at namesake
      obtain ⟨earlier, found, same⟩ := namesake
      exact absurd (same.trans named) (first earlier (List.mem_of_getElem? found))
    · obtain ⟨k, rfl⟩ : ∃ k, n = before.length + (k + 1) := ⟨n - before.length - 1, by omega⟩
      rw [List.getElem?_append_right (by omega), Nat.add_sub_cancel_left,
        List.getElem?_cons_succ] at present ⊢
      exact present

/-! ## Runs of applications -/

/-- Applications to the first issues of some ids in turn, none of which stops; `clock n` is the time
at the application after `n` others. -/
inductive Applications (expr : Expr) :
    (Nat → Instant) → List UInt64 → Snapshot → Snapshot → Prop
  | nil {clock : Nat → Instant} {snapshot : Snapshot} : Applications expr clock [] snapshot snapshot
  | cons {clock : Nat → Instant} {id : UInt64} {ids : List UInt64} {snapshot next last : Snapshot}
      (front : Application expr (clock 0) id none snapshot next)
      (back : Applications expr (fun n => clock (n + 1)) ids next last) :
      Applications expr clock (id :: ids) snapshot last

theorem Applications.sameBut (applications : Applications expr clock ids snapshot last) :
    SameBut ids snapshot last := by
  induction applications with
  | nil => exact .refl [] _
  | cons front _ ih =>
      exact (front.sameBut.mono (by simp)).trans (ih.mono fun _ => List.mem_cons_of_mem _)

/-- No issue is found for an id that none has. -/
theorem isNone_issue?_iff :
    (snapshot.issue? id).isNone = true ↔ id ∉ snapshot.issues.map Issue.id := by
  simp [issue?]

theorem isNone_issue?_eq_false_iff :
    (snapshot.issue? id).isNone = false ↔ id ∈ snapshot.issues.map Issue.id := by
  rw [← Bool.not_eq_true, isNone_issue?_iff, Classical.not_not]

theorem exists_issue? (known : id ∈ snapshot.issues.map Issue.id) :
    ∃ issue, snapshot.issue? id = some issue :=
  Option.isSome_iff_exists.mp
    (Option.isNone_eq_false_iff.mp (isNone_issue?_eq_false_iff.mpr known))

/-- A batch of known ids is a run of applications, to all of the ids or up to one that stops. -/
theorem applyEach_course (expr : Expr) (clock : Nat → Instant) (snapshot : Snapshot)
    (ids : List UInt64) (known : ∀ id ∈ ids, id ∈ snapshot.issues.map Issue.id) :
    let batch := snapshot.applyEach expr clock ids
    (batch.failure = none ∧ batch.lines = ids.map (appliedLine expr) ∧
      Applications expr clock ids snapshot batch.snapshot) ∨
    ∃ passed id behind middle error, ids = passed ++ id :: behind ∧
      batch.failure = some (.edit id error) ∧ batch.lines = passed.map (appliedLine expr) ∧
      Applications expr clock passed snapshot middle ∧
      Application expr (clock passed.length) id (some error) middle batch.snapshot := by
  induction ids generalizing clock snapshot with
  | nil => exact .inl ⟨rfl, rfl, .nil⟩
  | cons id ids ih =>
      obtain ⟨knownId, knownRest⟩ := List.forall_mem_cons.mp known
      obtain ⟨issue, found⟩ := exists_issue? knownId
      cases stops : (expr.edit snapshot.catalog issue).error with
      | some error =>
          have application := application_update (clock 0) found stops
          simp only [applyEach, found, stops]
          exact .inr ⟨[], id, ids, snapshot, error, rfl, rfl, rfl, .nil, application⟩
      | none =>
          have application := application_update (clock 0) found stops
          have order := application.sameBut.order
          have rest := ih (fun n => clock (n + 1)) _ (by rw [order]; exact knownRest)
          simp only [applyEach, found, stops]
          rcases rest with ⟨clear, lines, run⟩ |
            ⟨passed, stop, behind, middle, error, rfl, failed, lines, run, last⟩
          · exact .inl ⟨clear, by rw [lines, List.map_cons], .cons application run⟩
          · exact .inr ⟨id :: passed, stop, behind, middle, error, rfl, failed,
              by rw [lines, List.map_cons], .cons application run, last⟩

/-! ## Whole batches -/

/-- Why a batch is refused: its text is no expression, its expression is no edit, or an id of its
list, the first one with this fault, is that of no issue. -/
inductive Refuses (snapshot : Snapshot) (text : String) (ids : List UInt64) : Failure → Prop
  | expression {error : ReadError} (misread : Expr.read text = .error error) :
      Refuses snapshot text ids (.expression error)
  | notApplicable {expr : Expr} (read : Expr.read text = .ok expr)
      (unsound : expr.isApplicable = false) : Refuses snapshot text ids (.notApplicable expr)
  | issueNotFound {expr : Expr} {front behind : List UInt64} {id : UInt64}
      (read : Expr.read text = .ok expr) (applicable : expr.isApplicable = true)
      (listed : ids = front ++ id :: behind)
      (known : ∀ other ∈ front, other ∈ snapshot.issues.map Issue.id)
      (unknown : id ∉ snapshot.issues.map Issue.id) :
      Refuses snapshot text ids (.issueNotFound id)

/-- The text of a batch is an edit, and all ids of its list are those of issues. -/
structure Accepts (snapshot : Snapshot) (text : String) (ids : List UInt64) (expr : Expr) :
    Prop where
  read : Expr.read text = .ok expr
  applicable : expr.isApplicable = true
  known : ∀ id ∈ ids, id ∈ snapshot.issues.map Issue.id

theorem apply_of_accepts {text : String} (accepts : Accepts snapshot text ids expr)
    (clock : Nat → Instant) :
    snapshot.apply text ids clock = snapshot.applyEach expr clock ids := by
  have listed : (ids.find? fun id => (snapshot.issue? id).isNone) = none := by
    refine List.find?_eq_none.mpr fun id member => ?_
    rw [isNone_issue?_eq_false_iff.mpr (accepts.known id member)]
    exact Bool.false_ne_true
  simp [apply, accepts.read, accepts.applicable, listed]

theorem apply_eq (snapshot : Snapshot) (text : String) (ids : List UInt64)
    (clock : Nat → Instant) :
    (∃ failure, Refuses snapshot text ids failure ∧
      snapshot.apply text ids clock = ⟨snapshot, [], some failure⟩) ∨
    ∃ expr, Accepts snapshot text ids expr ∧
      snapshot.apply text ids clock = snapshot.applyEach expr clock ids := by
  cases read : Expr.read text with
  | error error => exact .inl ⟨_, .expression read, by simp only [apply, read]⟩
  | ok expr =>
      cases applicable : expr.isApplicable with
      | false => exact .inl ⟨_, .notApplicable read applicable, by simp [apply, read, applicable]⟩
      | true =>
          cases missing : ids.find? fun id => (snapshot.issue? id).isNone with
          | some id =>
              obtain ⟨absent, front, behind, listed, present⟩ :=
                List.find?_eq_some_iff_append.mp missing
              have unknown : id ∉ snapshot.issues.map Issue.id := isNone_issue?_iff.mp absent
              have known : ∀ other ∈ front, other ∈ snapshot.issues.map Issue.id := by
                intro other member
                exact isNone_issue?_eq_false_iff.mp
                  ((Bool.not_eq_true' _).mp (present other member))
              exact .inl ⟨_, .issueNotFound read applicable listed known unknown,
                by simp [apply, read, applicable, missing]⟩
          | none =>
              have known : ∀ id ∈ ids, id ∈ snapshot.issues.map Issue.id := by
                intro id member
                have present := List.find?_eq_none.mp missing id member
                exact isNone_issue?_eq_false_iff.mp (Bool.eq_false_iff.mpr present)
              have accepts : Accepts snapshot text ids expr := ⟨read, applicable, known⟩
              exact .inr ⟨expr, accepts, apply_of_accepts accepts clock⟩

/-- A batch is refused with nothing touched and nothing reported, or it is a run of applications
that ends after the last id or with the first edit that stops.  Only the first issues of the listed
ids can differ from before, and every edit that did not stop is reported by its line. -/
theorem apply_effect (snapshot : Snapshot) (text : String) (ids : List UInt64)
    (clock : Nat → Instant) :
    let batch := snapshot.apply text ids clock
    (∃ failure, Refuses snapshot text ids failure ∧ batch.failure = some failure ∧
      batch.snapshot = snapshot ∧ batch.lines = []) ∨
    ∃ expr, Accepts snapshot text ids expr ∧ SameBut ids snapshot batch.snapshot ∧
      ((batch.failure = none ∧
        batch.lines = ids.map (fun id => s!"Applied {expr.text} to #{id}") ∧
        Applications expr clock ids snapshot batch.snapshot) ∨
      ∃ passed id behind middle error, ids = passed ++ id :: behind ∧
        batch.failure = some (.edit id error) ∧
        batch.lines = passed.map (fun id => s!"Applied {expr.text} to #{id}") ∧
        Applications expr clock passed snapshot middle ∧
        Application expr (clock passed.length) id (some error) middle batch.snapshot) := by
  intro batch
  rcases apply_eq snapshot text ids clock with ⟨failure, refuses, same⟩ | ⟨expr, accepts, same⟩
  · exact .inl ⟨failure, refuses, by simp only [batch, same], by simp only [batch, same],
      by simp only [batch, same]⟩
  · refine .inr ⟨expr, accepts, ?_⟩
    have course := applyEach_course expr clock snapshot ids accepts.known
    simp only [← same] at course
    rcases course with ⟨clear, lines, run⟩ |
      ⟨passed, id, behind, middle, error, rfl, failed, lines, run, last⟩
    · exact ⟨run.sameBut, .inl ⟨clear, lines, run⟩⟩
    · have front : SameBut (passed ++ id :: behind) snapshot middle :=
        run.sameBut.mono fun _ => List.mem_append_left _
      have back : SameBut (passed ++ id :: behind) middle batch.snapshot :=
        last.sameBut.mono (by simp)
      exact ⟨front.trans back,
        .inr ⟨passed, id, behind, middle, error, rfl, failed, lines, run, last⟩⟩

/-! ## Failing edits -/

/-- An application ends as the expression does on any issue. -/
theorem Application.error_edit (application : Application expr now id error snapshot next)
    (issue : Issue) : (expr.edit snapshot.catalog issue).error = error := by
  obtain ⟨named, first, edits⟩ := application
  rw [Expr.error_edit_eq _ _ issue _, edits]

/-- Whether and how an edit fails does not depend on the issue it is applied to.  Hence a batch that
fails at an edit fails at the first id of its list; no line has been reported by then, and all but
the first issue of this id is as before. -/
theorem failing_never_depends_on_issue :
    (∀ (expr : Expr) (catalog : Catalog) (issue other : Issue),
      (expr.edit catalog issue).error = (expr.edit catalog other).error) ∧
    ∀ (snapshot : Snapshot) (text : String) (ids : List UInt64) (clock : Nat → Instant)
      (id : UInt64) (error : EditError),
      (snapshot.apply text ids clock).failure = some (.edit id error) →
      ids.head? = some id ∧ (snapshot.apply text ids clock).lines = [] ∧
        SameBut [id] snapshot (snapshot.apply text ids clock).snapshot := by
  refine ⟨fun expr catalog => expr.error_edit_eq catalog, ?_⟩
  intro snapshot text ids clock id error failed
  rcases apply_eq snapshot text ids clock with ⟨failure, refuses, same⟩ | ⟨expr, accepts, same⟩
  · rw [same] at failed
    obtain rfl : failure = .edit id error := Option.some.inj failed
    cases refuses
  · rw [same] at failed ⊢
    rcases applyEach_course expr clock snapshot ids accepts.known with ⟨clear, -, -⟩ |
      ⟨passed, stop, behind, middle, cause, rfl, stopped, lines, run, last⟩
    · cases failed.symm.trans clear
    · obtain ⟨rfl, rfl⟩ : stop = id ∧ cause = error := by
        simpa using stopped.symm.trans failed
      cases run with
      | nil => exact ⟨rfl, lines, last.sameBut⟩
      | @cons _ head _ _ _ _ front back =>
          -- The first application passed, and so would the last one.
          obtain ⟨issue, -⟩ : ∃ issue, issue ∈ snapshot.issues := by
            obtain ⟨issue, member, -⟩ := List.mem_map.mp (accepts.known head (by simp))
            exact ⟨issue, member⟩
          have passes := front.error_edit issue
          have stops := last.error_edit issue
          rw [back.sameBut.catalog, front.sameBut.catalog, passes] at stops
          cases stops

/-- The unknown label stops the edit of the first of two issues with one id; its other label stays,
and the issues behind are not reached. -/
theorem failing_never_depends_on_issue_twice :
    let dawn : Instant := ⟨⟨2024, 1, 1, by decide⟩, ⟨6, 0, 0, 0, by decide⟩⟩
    let noon : Instant := ⟨⟨2024, 1, 1, by decide⟩, ⟨12, 0, 0, 0, by decide⟩⟩
    let snapshot : Snapshot :=
      { catalog := { labels := [⟨"bug"⟩] }
        issues := [Issue.create 8 "Slow" "ada" dawn, Issue.create 7 "Crash" "ada" dawn,
          Issue.create 7 "Hang" "bob" dawn] }
    let expr : Expr := (Expr.ofText .label "bug").and (.ofText .label "wontfix")
    let batch := snapshot.apply expr.text [7, 8, 7] fun _ => noon
    let error : EditError := .unresolved (.ofText .label "wontfix") .label "wontfix"
    (batch.failure = some (.edit 7 error) ∧
      batch.snapshot.issues.map Issue.labels = [[], ["bug"], []] ∧
      batch.snapshot.issues.map Issue.updatedAt = [dawn, noon, dawn]) ∧
    [(7 : UInt64), 8, 7].head? = some 7 ∧ batch.lines = [] ∧
      SameBut [7] snapshot batch.snapshot := by
  intro dawn noon snapshot expr batch error
  have read : Expr.read expr.text = .ok expr :=
    (Expr.read_text_eq_ok_iff (by decide) (by decide)).mpr ⟨rfl, by decide, by decide, by decide⟩
  have run : batch = snapshot.applyEach expr (fun _ => noon) [7, 8, 7] := by
    have applicable : expr.isApplicable = true := by decide
    have listed : ([7, 8, 7].find? fun id => (snapshot.issue? id).isNone) = none := by decide
    simp [batch, apply, read, applicable, listed]
  have failed : batch.failure = some (.edit 7 error) := by rw [run]; decide +kernel
  have labels : batch.snapshot.issues.map Issue.labels = [[], ["bug"], []] := by
    rw [run]; decide +kernel
  have times : batch.snapshot.issues.map Issue.updatedAt = [dawn, noon, dawn] := by
    rw [run]; decide +kernel
  exact ⟨⟨failed, labels, times⟩,
    failing_never_depends_on_issue.2 snapshot expr.text [7, 8, 7] (fun _ => noon) 7 error failed⟩

end Snapshot

end Triage
