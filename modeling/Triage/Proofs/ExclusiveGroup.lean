/-
# Triage.Proofs.ExclusiveGroup -- a label and the others of its exclusive group

Attaching a label of an exclusive group keeps the labels outside the group, in their order.  If the
label is new to the issue, it takes the place of all labels of the group and is alone in it
(`filter_attachTo`).  If it is attached already, in whatever spelling, nothing happens at all, and
the other labels of its group that the issue may hold stay.  Main statement: `edit_exclusive`, the
label is alone in its group afterwards unless it was attached before beside another one.
-/
import Triage.Proofs.Change
import Triage.Proofs.LowerForm

namespace Triage

open Triage.Text

set_option autoImplicit false

/-- A list whose members are apart, and no two of which can be apart, has one member. -/
theorem eq_singleton_of_pairwise {α : Type} {Apart : α → α → Prop} {members : List α} {a : α}
    (apart : members.Pairwise Apart) (near : ∀ b ∈ members, ∀ c ∈ members, ¬ Apart b c)
    (member : a ∈ members) : members = [a] := by
  match members with
  | [b] => rw [List.mem_singleton.mp member]
  | b :: c :: rest =>
      have two : Apart b c := List.rel_of_pairwise_cons apart List.mem_cons_self
      exact absurd two (near b (by simp) c (by simp))

namespace Label

variable {labels : List String} {name group : String}

/-- Exactly one of the attached names is in the exclusive group, and it is that of the label,
ignoring case. -/
def isAloneIn (label : Label) (group : String) (labels : List String) : Bool :=
  match labels.filter (inExclusiveGroup group) with
  | [own] => sameName own label.name
  | _ => false

theorem isAloneIn_of_filter {label : Label} {own : String}
    (alone : labels.filter (inExclusiveGroup group) = [own])
    (same : sameName own label.name = true) : label.isAloneIn group labels = true := by
  rw [isAloneIn, alone]
  exact same

/-! ## The members of a group -/

/-- A label of an exclusive group displaces the members of the group. -/
theorem displaces_eq (exclusive : exclusiveGroup? name = some group) :
    displaces name = inExclusiveGroup group := by
  funext attached
  rw [displaces, exclusive, Option.any_some]

theorem inExclusiveGroup_self (exclusive : exclusiveGroup? name = some group) :
    inExclusiveGroup group name = true := by
  rw [inExclusiveGroup, exclusive, Option.any_some]
  exact sameName_iff.mpr rfl

/-- Two members of a group displace each other. -/
theorem displaces_of_inExclusiveGroup {a b : String} (one : inExclusiveGroup group a = true)
    (two : inExclusiveGroup group b = true) : displaces a b = true := by
  obtain ⟨first, ownFirst, sameFirst⟩ := Option.any_eq_true _ _ |>.mp one
  obtain ⟨second, ownSecond, sameSecond⟩ := Option.any_eq_true _ _ |>.mp two
  rw [displaces_eq ownFirst, inExclusiveGroup, ownSecond, Option.any_some, sameName_iff]
  exact (sameName_iff.mp sameSecond).trans (sameName_iff.mp sameFirst).symm

/-! ## Attaching -/

/-- A new label is alone in its group once it is attached. -/
theorem filter_attachTo (exclusive : exclusiveGroup? name = some group)
    (new : isAttached labels name = false) :
    (attachTo labels name).filter (inExclusiveGroup group) = [name] := by
  have none_ : (labels.filter fun attached => !displaces name attached).filter
      (inExclusiveGroup group) = [] := by
    rw [displaces_eq exclusive, List.filter_filter, List.filter_eq_nil_iff]
    simp
  rw [attachTo_of_new new, List.filter_append, none_, List.nil_append]
  exact List.filter_cons_of_pos (inExclusiveGroup_self exclusive)

/-- Attaching keeps the labels outside the group. -/
theorem filter_not_attachTo (exclusive : exclusiveGroup? name = some group)
    (labels : List String) :
    (attachTo labels name).filter (fun attached => !inExclusiveGroup group attached) =
      labels.filter fun attached => !inExclusiveGroup group attached := by
  cases held : isAttached labels name with
  | true => rw [attachTo_of_isAttached held]
  | false =>
      rw [attachTo_of_new held, List.filter_append, displaces_eq exclusive, List.filter_filter]
      simp [inExclusiveGroup_self exclusive]

/-- Where no two attached labels are of one exclusive group, an attached label is alone in its
own. -/
theorem isAloneIn_of_pairwise {label : Label} (exclusive : exclusiveGroup? label.name = some group)
    (apart : labels.Pairwise fun a b => displaces a b = false)
    (free : ∀ attached ∈ labels, SigmaFree attached) (plain : SigmaFree label.name)
    (held : isAttached labels label.name = true) : label.isAloneIn group labels = true := by
  obtain ⟨own, present, same⟩ := List.any_eq_true.mp held
  have inside : inExclusiveGroup group own = true := by
    rw [← displaces_eq exclusive, displaces_congr (free own present) plain same,
      displaces_eq exclusive, inExclusiveGroup_self exclusive]
  have alone : labels.filter (inExclusiveGroup group) = [own] := by
    refine eq_singleton_of_pairwise (apart.filter _) ?_ (List.mem_filter.mpr ⟨present, inside⟩)
    intro a first b second spared
    have met := displaces_of_inExclusiveGroup (List.mem_filter.mp first).2
      (List.mem_filter.mp second).2
    rw [spared] at met
    cases met
  exact isAloneIn_of_filter alone same

end Label

namespace Qualifier

open Label

variable {q : Qualifier} {catalog : Catalog} {label : Label} {group : String}

theorem edit_of_label? (resolves : q.label? catalog = some label) (issue : Issue) :
    q.edit catalog issue = .ok (issue.attach label.name) := by
  obtain ⟨text, rfl, found⟩ := Qualifier.label?_eq_some_iff.mp resolves
  exact Qualifier.edit_eq_ok_iff.mpr ⟨_, .label found, rfl⟩

/-- A qualifier of a label in an exclusive group changes nothing but the labels, and of these it
keeps those outside the group, in their order.  A label that is attached already leaves everything
as it is, and any other label is alone in its group afterwards.  So the label is alone in its group
unless it was attached before without being so, which cannot be where no two labels of the issue are
of one exclusive group. -/
theorem edit_exclusive (resolves : q.label? catalog = some label)
    (exclusive : exclusiveGroup? label.name = some group) (issue : Issue) :
    ∃ edited, q.edit catalog issue = .ok edited ∧
      edited = { issue with labels := edited.labels } ∧
      edited.labels.filter (fun name => !inExclusiveGroup group name) =
        issue.labels.filter (fun name => !inExclusiveGroup group name) ∧
      (issue.hasLabel label.name = true → edited = issue) ∧
      (label.isAloneIn group edited.labels = true ↔
        (issue.hasLabel label.name = true → label.isAloneIn group issue.labels = true)) ∧
      ((issue.labels.Pairwise fun a b => displaces a b = false) →
        (∀ name ∈ issue.labels, SigmaFree name) → SigmaFree label.name →
        label.isAloneIn group edited.labels = true) := by
  refine ⟨_, edit_of_label? resolves issue, ?_⟩
  rw [Issue.attach_eq]
  refine ⟨rfl, filter_not_attachTo exclusive issue.labels, ?_⟩
  cases held : isAttached issue.labels label.name with
  | true =>
      have known : issue.hasLabel label.name = true := held
      rw [attachTo_of_isAttached held]
      exact ⟨fun _ => rfl, ⟨fun alone _ => alone, fun before => before known⟩,
        fun apart free plain => isAloneIn_of_pairwise exclusive apart free plain held⟩
  | false =>
      have new : issue.hasLabel label.name = false := held
      have alone : label.isAloneIn group (attachTo issue.labels label.name) = true :=
        isAloneIn_of_filter (filter_attachTo exclusive held) (sameName_iff.mpr rfl)
      rw [new]
      exact ⟨nofun, ⟨fun _ => nofun, fun _ => alone⟩, fun _ _ _ => alone⟩

/-- A label that is new takes the place of two others.  One that is attached in another spelling
leaves the other label of its group beside it. -/
theorem edit_exclusive_beside :
    let dawn : Instant := ⟨⟨2024, 1, 1, by decide⟩, ⟨6, 0, 0, 0, by decide⟩⟩
    let mac : Label := ⟨"os.mac"⟩
    let catalog : Catalog := { labels := [mac] }
    let q : Qualifier := .ofText .label "OS.mac"
    let new : Issue :=
      { Issue.create 7 "Crash" "ada" dawn with labels := ["OS.win", "ui", "os.bsd"] }
    let held : Issue := { new with labels := ["os.win", "ui", "Os.Mac"] }
    (q.label? catalog = some mac ∧ exclusiveGroup? mac.name = some "os") ∧
    (∃ edited, q.edit catalog new = .ok edited ∧ mac.isAloneIn "os" edited.labels = true) ∧
    ∃ edited, q.edit catalog held = .ok edited ∧ edited = held ∧
      mac.isAloneIn "os" edited.labels = false := by
  intro dawn mac catalog q new held
  have resolves : q.label? catalog = some mac := by decide +kernel
  have exclusive : exclusiveGroup? mac.name = some "os" := by decide +kernel
  obtain ⟨first, editsNew, -, -, -, aloneNew, -⟩ := edit_exclusive resolves exclusive new
  obtain ⟨second, editsHeld, -, -, same, aloneHeld, -⟩ := edit_exclusive resolves exclusive held
  have unknown : new.hasLabel mac.name = false := by decide +kernel
  have known : held.hasLabel mac.name = true := by decide +kernel
  have beside : mac.isAloneIn "os" held.labels = false := by decide +kernel
  have unchanged : second = held := same known
  refine ⟨⟨resolves, exclusive⟩, ⟨first, editsNew, aloneNew.mpr ?_⟩,
    second, editsHeld, unchanged, ?_⟩
  · rw [unknown]
    exact nofun
  · rw [unchanged, beside]

end Qualifier

end Triage
