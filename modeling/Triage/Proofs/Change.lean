/-
# Triage.Proofs.Change -- an edit as a list of changes

What a qualifier asks for never depends on the issue: it names a `Change`, or there is an error.
Applying the change never fails.  So an edit succeeds exactly if every qualifier names a change
(`error_edit_eq_none_iff`), and then it applies these changes from left to right (`issue_edit`).
Of an applicable expression, no two changes but those of labels set the same field
(`eq_of_kind_eq`).
-/
import Triage.Expr.Edit
import Triage.Proofs.Attaching

namespace Triage

open Triage.Text

set_option autoImplicit false

/-- What a qualifier does to an issue, with all names resolved. -/
inductive Change where
  | title (text : String)
  | milestone (id : UInt64)
  | attach (name : String)
  | assignee (login : String)
  | state (state : State)
deriving DecidableEq

namespace Change

def apply (change : Change) (issue : Issue) : Issue :=
  match change with
  | .title text => { issue with title := text }
  | .milestone id => { issue with milestone := some id }
  | .attach name => issue.attach name
  | .assignee login => { issue with assignee := some login }
  | .state word => { issue with state := word }

/-- The kind of the qualifiers that ask for the change. -/
def kind : Change → Kind
  | .title _ => .title
  | .milestone _ => .milestone
  | .attach _ => .label
  | .assignee _ => .assignee
  | .state _ => .state

/-- The name that the change attaches. -/
def attached? : Change → Option String
  | .attach name => some name
  | _ => none

/-- Applies changes from left to right. -/
def applyAll (changes : List Change) (issue : Issue) : Issue :=
  changes.foldl (fun issue change => change.apply issue) issue

theorem applyAll_append (first second : List Change) (issue : Issue) :
    applyAll (first ++ second) issue = applyAll second (applyAll first issue) :=
  List.foldl_append

/-- Nothing but the names attached counts for the labels. -/
theorem labels_applyAll (changes : List Change) (issue : Issue) :
    (applyAll changes issue).labels =
      Label.attachAll issue.labels (changes.filterMap Change.attached?) := by
  induction changes generalizing issue with
  | nil => rfl
  | cons change rest ih =>
      have step := ih (change.apply issue)
      cases change with
      | attach name =>
          have once : ((Change.attach name).apply issue).labels =
              Label.attachTo issue.labels name := by rw [apply, Issue.attach_eq]
          rw [once] at step
          exact step
      | title | milestone | assignee | state => exact step

end Change

namespace Qualifier

/-- The change that a qualifier asks for, or why it cannot be made. -/
def change (qualifier : Qualifier) (catalog : Catalog) : Except EditError Change :=
  if !qualifier.kind.isMutable then .error (.readOnly qualifier)
  else match qualifier.text? with
    | none => .error (.rejected qualifier .notText)
    | some text =>
      match qualifier.kind with
      | .title =>
        if allBlank text then .error (.rejected qualifier .blankTitle) else .ok (.title text)
      | .milestone =>
        match catalog.milestone? text with
        | none => .error (.unresolved qualifier .milestone text)
        | some milestone => .ok (.milestone milestone.id)
      | .label =>
        match catalog.label? text with
        | none => .error (.unresolved qualifier .label text)
        | some label => .ok (.attach label.name)
      | .assignee =>
        match catalog.user? text with
        | none => .error (.unresolved qualifier .user text)
        | some user => .ok (.assignee user.login)
      | .state =>
        match State.ofName? text with
        | none => .error (.rejected qualifier .unknownState)
        | some state => .ok (.state state)
      | _ => .error (.readOnly qualifier)

variable {qualifier : Qualifier} {catalog : Catalog} {change : Change}

@[simp] theorem text?_text (kind : Kind) (text : String) :
    Qualifier.text? ⟨kind, .text text⟩ = some text := rfl

/-- To edit an issue is to apply the change, if there is one. -/
theorem edit_eq_map_change (qualifier : Qualifier) (catalog : Catalog) (issue : Issue) :
    qualifier.edit catalog issue = (qualifier.change catalog).map (·.apply issue) := by
  obtain ⟨kind, literal⟩ := qualifier
  cases literal with
  | number | date => cases kind <;> rfl
  | text text =>
      cases kind with
      | title =>
          cases blank : allBlank text <;>
            simp [edit, Qualifier.change, Kind.isMutable, blank, Except.map, Change.apply]
      | milestone =>
          cases found : catalog.milestone? text <;>
            simp [edit, Qualifier.change, Kind.isMutable, found, Except.map, Change.apply]
      | label =>
          cases found : catalog.label? text <;>
            simp [edit, Qualifier.change, Kind.isMutable, found, Except.map, Change.apply]
      | assignee =>
          cases found : catalog.user? text <;>
            simp [edit, Qualifier.change, Kind.isMutable, found, Except.map, Change.apply]
      | state =>
          cases found : State.ofName? text <;>
            simp [edit, Qualifier.change, Kind.isMutable, found, Except.map, Change.apply]
      | _ => rfl

/-- What a qualifier asks for, kind by kind. -/
inductive Asks (catalog : Catalog) : Qualifier → Change → Prop
  | title {text : String} :
      allBlank text = false → Asks catalog (.ofText .title text) (.title text)
  | milestone {text : String} {milestone : Milestone} :
      catalog.milestone? text = some milestone →
      Asks catalog (.ofText .milestone text) (.milestone milestone.id)
  | label {text : String} {label : Label} :
      catalog.label? text = some label → Asks catalog (.ofText .label text) (.attach label.name)
  | assignee {text : String} {user : User} :
      catalog.user? text = some user → Asks catalog (.ofText .assignee text) (.assignee user.login)
  | state {text : String} {state : State} :
      State.ofName? text = some state → Asks catalog (.ofText .state text) (.state state)

theorem change_eq_ok_iff :
    qualifier.change catalog = .ok change ↔ qualifier.Asks catalog change := by
  constructor
  · intro asked
    obtain ⟨kind, literal⟩ := qualifier
    cases literal with
    | number | date => cases kind <;> cases asked
    | text text =>
        cases kind with
        | title =>
            cases blank : allBlank text with
            | true => simp [Qualifier.change, Kind.isMutable, blank] at asked
            | false =>
                obtain rfl : Change.title text = change := by
                  simpa [Qualifier.change, Kind.isMutable, blank] using asked
                exact .title blank
        | milestone =>
            cases found : catalog.milestone? text with
            | none => simp [Qualifier.change, Kind.isMutable, found] at asked
            | some milestone =>
                obtain rfl : Change.milestone milestone.id = change := by
                  simpa [Qualifier.change, Kind.isMutable, found] using asked
                exact .milestone found
        | label =>
            cases found : catalog.label? text with
            | none => simp [Qualifier.change, Kind.isMutable, found] at asked
            | some label =>
                obtain rfl : Change.attach label.name = change := by
                  simpa [Qualifier.change, Kind.isMutable, found] using asked
                exact .label found
        | assignee =>
            cases found : catalog.user? text with
            | none => simp [Qualifier.change, Kind.isMutable, found] at asked
            | some user =>
                obtain rfl : Change.assignee user.login = change := by
                  simpa [Qualifier.change, Kind.isMutable, found] using asked
                exact .assignee found
        | state =>
            cases found : State.ofName? text with
            | none => simp [Qualifier.change, Kind.isMutable, found] at asked
            | some state =>
                obtain rfl : Change.state state = change := by
                  simpa [Qualifier.change, Kind.isMutable, found] using asked
                exact .state found
        | _ => cases asked
  · intro asks
    cases asks with
    | title filled => simp [Qualifier.change, ofText, Kind.isMutable, filled]
    | milestone found | label found | assignee found | state found =>
        simp [Qualifier.change, ofText, Kind.isMutable, found]

theorem Asks.kind_eq (asks : qualifier.Asks catalog change) : change.kind = qualifier.kind := by
  cases asks <;> rfl

theorem edit_eq_ok_iff {issue edited : Issue} :
    qualifier.edit catalog issue = .ok edited ↔
      ∃ change, qualifier.Asks catalog change ∧ change.apply issue = edited := by
  simp only [edit_eq_map_change, ← change_eq_ok_iff]
  cases qualifier.change catalog <;> simp [Except.map]

/-- An error names the qualifier that failed. -/
theorem qualifier?_of_change_eq_error {error : EditError}
    (failed : qualifier.change catalog = .error error) : error.qualifier? = some qualifier := by
  unfold Qualifier.change at failed
  repeat' split at failed
  all_goals
    cases failed
    try rfl

/-- Only a qualifier of a kind that filters is turned down as read-only. -/
theorem change_ne_readOnly (changes : qualifier.kind.isMutable = true) (other : Qualifier) :
    qualifier.change catalog ≠ .error (.readOnly other) := by
  intro failed
  unfold Qualifier.change at failed
  repeat' split at failed
  all_goals cases failed
  · next filters => simp [changes] at filters
  · next noTitle noMilestone noLabel noAssignee noState =>
      cases kindly : qualifier.kind <;> simp_all [Kind.isMutable]

end Qualifier

/-! ## Conjunctions -/

namespace Expr

/-- The expression has no operator but `AND`. -/
def isConjunction : Expr → Bool
  | .qualifier _ | .empty => true
  | .not _ | .or _ _ => false
  | .and left right => left.isConjunction && right.isConjunction

/-- The changes that the qualifiers ask for, from left to right. -/
def changes (catalog : Catalog) (expr : Expr) : List Change :=
  expr.qualifiers.filterMap fun q => (q.change catalog).toOption

variable {catalog : Catalog} {expr : Expr} {issue : Issue}

theorem mem_changes {change : Change} :
    change ∈ expr.changes catalog ↔ ∃ q ∈ expr.qualifiers, q.Asks catalog change := by
  simp only [changes, List.mem_filterMap, ← Qualifier.change_eq_ok_iff]
  constructor
  · rintro ⟨q, leaf, asked⟩
    cases outcome : q.change catalog with
    | error e => simp [outcome, Except.toOption] at asked
    | ok found => exact ⟨q, leaf, by simpa [outcome, Except.toOption] using asked⟩
  · rintro ⟨q, leaf, asked⟩
    exact ⟨q, leaf, by rw [asked]; rfl⟩

/-- An edit succeeds if the expression is a conjunction of qualifiers that all ask for a change. -/
theorem error_edit_eq_none_iff :
    (expr.edit catalog issue).error = none ↔
      expr.isConjunction = true ∧ ∀ q ∈ expr.qualifiers, ∃ change, q.Asks catalog change := by
  -- For every issue at once: the right operand edits what the left one leaves.
  induction expr generalizing issue with
  | qualifier q =>
      simp only [edit, Qualifier.edit_eq_map_change, ← Qualifier.change_eq_ok_iff, isConjunction,
        qualifiers, List.mem_singleton, forall_eq, true_and]
      cases q.change catalog <;> simp [Except.map]
  | empty => simp [edit, isConjunction, qualifiers]
  | not operand ih => simp [edit, isConjunction]
  | or left right ihl ihr => simp [edit, isConjunction]
  | and left right ihl ihr =>
      simp only [edit, isConjunction, qualifiers, Bool.and_eq_true, List.forall_mem_append]
      cases stopped : (left.edit catalog issue).error with
      | some e =>
          simp only [stopped, reduceCtorEq, false_iff]
          rintro ⟨⟨conjunction, -⟩, asks, -⟩
          have runs := (@ihl issue).mpr ⟨conjunction, asks⟩
          simp [runs] at stopped
      | none =>
          have first := (@ihl issue).mp stopped
          simp only [ihr, first.1, true_and]
          exact ⟨fun second => ⟨second.1, first.2, second.2⟩, fun both => ⟨both.1, both.2.2⟩⟩

/-- An edit that succeeds applies the changes of its qualifiers. -/
theorem issue_edit (done : (expr.edit catalog issue).error = none) :
    (expr.edit catalog issue).issue = Change.applyAll (expr.changes catalog) issue := by
  induction expr generalizing issue with
  | qualifier q =>
      obtain ⟨change, asks⟩ := (error_edit_eq_none_iff.mp done).2 q (by simp [qualifiers])
      have asked := Qualifier.change_eq_ok_iff.mpr asks
      simp [edit, Qualifier.edit_eq_map_change, asked, changes, qualifiers, Except.map,
        Except.toOption, Change.applyAll]
  | empty => rfl
  | not operand ih => cases done
  | or left right ihl ihr => cases done
  | and left right ihl ihr =>
      simp only [edit] at done ⊢
      cases stopped : (left.edit catalog issue).error with
      | some e => simp [stopped] at done
      | none =>
          simp only [stopped] at done
          simp only [changes, qualifiers, List.filterMap_append, Change.applyAll_append]
          rw [ihr done, ihl stopped]
          rfl

/-! ## Applicable expressions -/

theorem hasConflict_eq_false_iff {kinds : List Kind} :
    hasConflict kinds = false ↔ (kinds.filter fun kind => !kind.isRepeatable).Nodup := by
  induction kinds with
  | nil => simp [hasConflict]
  | cons kind rest ih =>
      cases repeats : kind.isRepeatable with
      | true => simp [hasConflict, repeats, ih]
      | false => simp [hasConflict, repeats, ih]

/-- Fewer kinds bring no conflict. -/
theorem hasConflict_of_sublist {fewer kinds : List Kind} (sub : fewer.Sublist kinds)
    (apart : hasConflict kinds = false) : hasConflict fewer = false := by
  rw [hasConflict_eq_false_iff] at apart ⊢
  exact apart.sublist (sub.filter _)

/-- What the check of an edit asks of the expression as a whole. -/
theorem isApplicable_iff :
    expr.isApplicable = true ↔ expr.isConjunction = true ∧
      (∀ q ∈ expr.qualifiers, q.kind.isMutable = true) ∧ hasConflict expr.kinds = false := by
  induction expr with
  | qualifier q => simp [isApplicable, isConjunction, qualifiers, kinds, hasConflict]
  | empty => simp [isApplicable, isConjunction, qualifiers, kinds, hasConflict]
  | not operand ih => simp [isApplicable, isConjunction]
  | or left right ihl ihr => simp [isApplicable, isConjunction]
  | and left right ihl ihr =>
      simp only [isApplicable, isConjunction, qualifiers, Bool.and_eq_true, Bool.not_eq_true',
        List.forall_mem_append, ihl, ihr, kinds_and]
      constructor
      · rintro ⟨⟨apart, first⟩, second⟩
        exact ⟨⟨first.1, second.1⟩, ⟨first.2.1, second.2.1⟩, apart⟩
      · rintro ⟨conjunction, isMutable, apart⟩
        have front := hasConflict_of_sublist (List.sublist_append_left _ _) apart
        have behind := hasConflict_of_sublist (List.sublist_append_right _ _) apart
        exact ⟨⟨apart, conjunction.1, isMutable.1, front⟩, conjunction.2, isMutable.2, behind⟩

/-- Without a conflict a kind that does not repeat has one qualifier. -/
theorem eq_of_kind_eq {leaves : List Qualifier}
    (apart : hasConflict (leaves.map Qualifier.kind) = false) {p q : Qualifier} (first : p ∈ leaves)
    (second : q ∈ leaves) (same : p.kind = q.kind) (single : p.kind.isRepeatable = false) :
    p = q := by
  induction leaves with
  | nil => cases first
  | cons leaf rest ih =>
      simp only [List.map_cons, hasConflict, Bool.or_eq_false_iff, Bool.and_eq_false_imp,
        Bool.not_eq_true', decide_eq_false_iff_not] at apart
      obtain ⟨alone, apart⟩ := apart
      rcases List.mem_cons.mp first with rfl | behind <;>
        rcases List.mem_cons.mp second with rfl | after
      · rfl
      · exact absurd (same ▸ List.mem_map_of_mem after) (alone single)
      · exact absurd (same ▸ List.mem_map_of_mem behind) (alone (same ▸ single))
      · exact ih apart behind after

/-- Two changes that an applicable expression makes to one field are one, unless they attach
labels. -/
theorem change_eq_of_kind_eq (applicable : expr.isApplicable = true) {first second : Change}
    (one : first ∈ expr.changes catalog) (two : second ∈ expr.changes catalog)
    (same : first.kind = second.kind) (single : first.kind ≠ .label) : first = second := by
  obtain ⟨p, leaf, asked⟩ := mem_changes.mp one
  obtain ⟨q, other, asks⟩ := mem_changes.mp two
  have kinds : p.kind = q.kind := by rw [← asked.kind_eq, same, asks.kind_eq]
  have unrepeated : p.kind.isRepeatable = false := by
    rw [← asked.kind_eq]
    simpa [Kind.isRepeatable] using single
  obtain rfl := eq_of_kind_eq (isApplicable_iff.mp applicable).2.2 leaf other kinds unrepeated
  rw [← Qualifier.change_eq_ok_iff] at asked asks
  exact Except.ok.inj (asked.symm.trans asks)

end Expr

/-! ## Labels -/

/-- The label that a qualifier attaches. -/
def Qualifier.label? (qualifier : Qualifier) (catalog : Catalog) : Option Label :=
  if qualifier.kind = .label then qualifier.text?.bind catalog.label? else none

theorem Qualifier.label?_eq_some_iff {q : Qualifier} {catalog : Catalog} {label : Label} :
    q.label? catalog = some label ↔
      ∃ text, q = .ofText .label text ∧ catalog.label? text = some label := by
  constructor
  · intro found
    obtain ⟨kind, literal⟩ := q
    unfold Qualifier.label? at found
    split at found
    · next kindly =>
        obtain rfl : kind = .label := kindly
        cases literal with
        | text text => exact ⟨text, rfl, found⟩
        | number | date => cases found
    · cases found
  · rintro ⟨text, rfl, found⟩
    exact found

/-- The change of a qualifier attaches its label. -/
theorem Qualifier.attached_change (q : Qualifier) (catalog : Catalog) :
    (q.change catalog).toOption.bind Change.attached? = (q.label? catalog).map Label.name := by
  apply Option.ext
  intro name
  simp only [Option.bind_eq_some_iff, Option.map_eq_some_iff, Qualifier.label?_eq_some_iff]
  constructor
  · rintro ⟨change, asked, attaches⟩
    cases outcome : q.change catalog with
    | error e => simp [outcome, Except.toOption] at asked
    | ok found =>
        obtain rfl : found = change := by simpa [outcome, Except.toOption] using asked
        cases Qualifier.change_eq_ok_iff.mp outcome with
        | label known => exact ⟨_, ⟨_, rfl, known⟩, Option.some.inj attaches⟩
        | title | milestone | assignee | state => cases attaches
  · rintro ⟨label, ⟨text, rfl, known⟩, rfl⟩
    exact ⟨_, by rw [Qualifier.change_eq_ok_iff.mpr (.label known)]; rfl, rfl⟩

theorem Catalog.sameName_of_label? {catalog : Catalog} {name : String} {label : Label}
    (found : catalog.label? name = some label) : sameName label.name name = true := by
  have named := List.find?_some found
  exact named

/-- Two spellings of one name find one label. -/
theorem Catalog.label?_eq_of_sameName {catalog : Catalog} {text other : String} {a b : Label}
    (one : catalog.label? text = some a) (two : catalog.label? other = some b)
    (same : sameName a.name b.name = true) : a = b := by
  have named := Catalog.sameName_of_label? one
  have spelled := Catalog.sameName_of_label? two
  rw [sameName_iff] at same named spelled
  have alike : (fun label : Label => sameName label.name text) =
      fun label => sameName label.name other := by
    funext label
    simp only [sameName, ← named, ← spelled, same]
  rw [Catalog.label?, alike] at one
  exact Option.some.inj (one.symm.trans two)

namespace Expr

variable {catalog : Catalog} {expr : Expr}

/-- The labels that the qualifiers attach, from left to right. -/
def labels (catalog : Catalog) (expr : Expr) : List Label :=
  expr.qualifiers.filterMap fun q => q.label? catalog

/-- Their names. -/
def labelNames (catalog : Catalog) (expr : Expr) : List String :=
  (expr.labels catalog).map Label.name

theorem attached_changes (catalog : Catalog) (expr : Expr) :
    (expr.changes catalog).filterMap Change.attached? = expr.labelNames catalog := by
  rw [changes, labelNames, labels, List.filterMap_filterMap, List.map_filterMap]
  simp only [Qualifier.attached_change]

theorem distinct_labelNames (catalog : Catalog) (expr : Expr) :
    Label.Distinct (expr.labelNames catalog) := by
  intro first one second two same
  obtain ⟨a, attachedA, rfl⟩ := List.mem_map.mp one
  obtain ⟨b, attachedB, rfl⟩ := List.mem_map.mp two
  obtain ⟨p, -, labelled⟩ := List.mem_filterMap.mp attachedA
  obtain ⟨q, -, marked⟩ := List.mem_filterMap.mp attachedB
  obtain ⟨_, -, foundA⟩ := Qualifier.label?_eq_some_iff.mp labelled
  obtain ⟨_, -, foundB⟩ := Qualifier.label?_eq_some_iff.mp marked
  rw [Catalog.label?_eq_of_sameName foundA foundB same]

end Expr

end Triage
