/-
# Triage.Proofs.Attaching -- attaching labels in any order

Attaching looks at nothing but the label names, so it is a function on lists of names.  A label that
is new to the issue displaces those of its exclusive group.  Where no label yet to be attached
displaces another one of them (`Undisplaced`), attaching two of them commutes up to the order of the
names.  Main statement: `attachAll_perm`, the names attached are then the same in any order.
-/
import Triage.Issue

namespace Triage

open Triage.Text

set_option autoImplicit false

namespace Label

/-- Whether attaching `name` takes `attached` off, as a label of the same exclusive group. -/
def displaces (name attached : String) : Bool :=
  (exclusiveGroup? name).any fun group => inExclusiveGroup group attached

/-- Whether a name is among the attached ones, ignoring case. -/
def isAttached (labels : List String) (name : String) : Bool :=
  labels.any fun attached => sameName attached name

/-- The attached names after one more. -/
def attachTo (labels : List String) (name : String) : List String :=
  if isAttached labels name then labels
  else labels.filter (fun attached => !displaces name attached) ++ [name]

/-- Attaches names from left to right. -/
def attachAll (labels names : List String) : List String := names.foldl attachTo labels

end Label

open Label

theorem Issue.attach_eq (issue : Issue) (name : String) :
    issue.attach name = { issue with labels := attachTo issue.labels name } := by
  unfold Issue.attach attachTo displaces
  cases held : issue.hasLabel name with
  | true =>
      have : isAttached issue.labels name = true := held
      simp [this]
  | false =>
      have new : isAttached issue.labels name = false := held
      cases exclusiveGroup? name with
      | some group => simp [new]
      | none =>
          have kept : issue.labels.filter (fun _ => true) = issue.labels :=
            List.filter_eq_self.mpr fun _ _ => rfl
          simp [new, kept]

namespace Label

variable {labels others names : List String} {a b name : String}

theorem mem_attachTo {l : String} (member : l ∈ attachTo labels name) : l ∈ labels ∨ l = name := by
  unfold attachTo at member
  split at member
  · exact .inl member
  · rcases List.mem_append.mp member with kept | last
    · exact .inl (List.mem_filter.mp kept).1
    · exact .inr (List.mem_singleton.mp last)

theorem attachTo_of_isAttached (held : isAttached labels name = true) :
    attachTo labels name = labels := by
  rw [attachTo, if_pos held]

theorem attachTo_of_new (new : isAttached labels name = false) :
    attachTo labels name = labels.filter (fun attached => !displaces name attached) ++ [name] := by
  rw [attachTo, if_neg (by simp [new])]

theorem isAttached_attachTo_self (labels : List String) (name : String) :
    isAttached (attachTo labels name) name = true := by
  unfold attachTo
  split
  · next held => exact held
  · simp [isAttached, sameName]

theorem attachTo_perm (perm : labels.Perm others) (name : String) :
    (attachTo labels name).Perm (attachTo others name) := by
  have same : isAttached labels name = isAttached others name := perm.any_eq
  unfold attachTo
  rw [same]
  split
  · exact perm
  · exact (perm.filter _).append_right [name]

/-! ## Labels that leave each other alone -/

/-- Names that stand for different labels differ in more than case. -/
def Distinct (names : List String) : Prop :=
  ∀ a ∈ names, ∀ b ∈ names, sameName a b = true → a = b

/-- No name that is yet to be attached displaces another one, nor what is attached in its place. -/
def Undisplaced (labels names : List String) : Prop :=
  ∀ a ∈ names, ∀ b ∈ names, a ≠ b → isAttached labels b = false →
    ∀ l ∈ a :: labels, sameName l a = true → displaces b l = false

instance (labels names : List String) : Decidable (Undisplaced labels names) :=
  inferInstanceAs (Decidable (∀ a ∈ names, ∀ b ∈ names, _ → _ → ∀ l ∈ _, _ → _))

theorem Undisplaced.spares (apart : Undisplaced labels names) (one : a ∈ names) (two : b ∈ names)
    (differ : a ≠ b) (new : isAttached labels b = false) : displaces b a = false :=
  apart a one b two differ new a List.mem_cons_self (by simp [sameName])

theorem Distinct.mono (distinct : Distinct names) {fewer : List String} (sub : fewer ⊆ names) :
    Distinct fewer := fun a one b two => distinct a (sub one) b (sub two)

theorem Undisplaced.mono (apart : Undisplaced labels names) {fewer : List String}
    (sub : fewer ⊆ names) : Undisplaced labels fewer :=
  fun a one b two => apart a (sub one) b (sub two)

/-- Attaching another name neither attaches nor detaches a label. -/
theorem isAttached_attachTo (apart : Undisplaced labels names) (distinct : Distinct names)
    (one : a ∈ names) (two : b ∈ names) (differ : a ≠ b) :
    isAttached (attachTo labels b) a = isAttached labels a := by
  cases held : isAttached labels b with
  | true => rw [attachTo_of_isAttached held]
  | false =>
      have new : sameName b a = false := by
        apply Bool.eq_false_iff.mpr
        intro same
        exact differ (distinct b two a one same).symm
      rw [attachTo_of_new held]
      apply Bool.eq_iff_iff.mpr
      simp only [isAttached, List.any_append, List.any_cons, List.any_nil, new, Bool.or_false,
        List.any_eq_true, List.mem_filter]
      constructor
      · rintro ⟨l, ⟨present, -⟩, same⟩
        exact ⟨l, present, same⟩
      · rintro ⟨l, present, same⟩
        have spared := apart a one b two differ held l (List.mem_cons_of_mem a present) same
        exact ⟨l, ⟨present, by rw [spared]; rfl⟩, same⟩

/-- Attaching one of the names leaves them undisplaced. -/
theorem Undisplaced.attachTo (apart : Undisplaced labels names) (distinct : Distinct names)
    (member : name ∈ names) : Undisplaced (attachTo labels name) names := by
  intro a one b two differ new l present same
  have still : isAttached labels b = false := by
    by_cases last : b = name
    · rw [last, isAttached_attachTo_self] at new
      cases new
    · rw [← new, isAttached_attachTo apart distinct two member last]
  rcases List.mem_cons.mp present with rfl | attached
  · exact apart.spares one two differ still
  · rcases mem_attachTo attached with old | rfl
    · exact apart a one b two differ still l (List.mem_cons_of_mem a old) same
    · rw [distinct l member a one same]
      exact apart.spares one two differ still

/-- Two of the names can be attached in either order. -/
theorem attachTo_comm (apart : Undisplaced labels names) (distinct : Distinct names)
    (one : a ∈ names) (two : b ∈ names) :
    (attachTo (attachTo labels a) b).Perm (attachTo (attachTo labels b) a) := by
  by_cases differ : a = b
  · rw [differ]
  · -- whether one of them is held does not depend on the other
    have afterA := isAttached_attachTo apart distinct two one (Ne.symm differ)
    have afterB := isAttached_attachTo apart distinct one two differ
    cases heldA : isAttached labels a with
    | true =>
        rw [attachTo_of_isAttached heldA, attachTo_of_isAttached (afterB.trans heldA)]
    | false =>
        cases heldB : isAttached labels b with
        | true =>
            rw [attachTo_of_isAttached heldB, attachTo_of_isAttached (afterA.trans heldB)]
        | false =>
            -- both are new, and neither takes the other off
            have sparedA : displaces b a = false := apart.spares one two differ heldB
            have sparedB : displaces a b = false := apart.spares two one (Ne.symm differ) heldA
            rw [attachTo_of_new (afterA.trans heldB), attachTo_of_new (afterB.trans heldA),
              attachTo_of_new heldA, attachTo_of_new heldB]
            have keptA : [a].filter (fun attached => !displaces b attached) = [a] := by
              simp [sparedA]
            have keptB : [b].filter (fun attached => !displaces a attached) = [b] := by
              simp [sparedB]
            rw [List.filter_append, List.filter_append, List.filter_filter, List.filter_filter,
              keptA, keptB, List.append_assoc, List.append_assoc]
            simp only [Bool.and_comm]
            exact (List.Perm.swap b a []).append_left _

/-- An attached name stays attached. -/
theorem isAttached_attachAll_of_isAttached (apart : Undisplaced labels names)
    (distinct : Distinct names) (one : a ∈ names) (held : isAttached labels a = true)
    {more : List String} (sub : more ⊆ names) : isAttached (attachAll labels more) a = true := by
  induction more generalizing labels with
  | nil => exact held
  | cons b rest ih =>
      have two : b ∈ names := sub List.mem_cons_self
      have still : isAttached (attachTo labels b) a = true := by
        by_cases last : a = b
        · rw [last]
          exact isAttached_attachTo_self labels b
        · rw [isAttached_attachTo apart distinct one two last, held]
      have behind : rest ⊆ names := fun c member => sub (List.mem_cons_of_mem b member)
      exact ih (apart.attachTo distinct two) still behind

/-- In the end all the names are attached. -/
theorem isAttached_attachAll (apart : Undisplaced labels names) (distinct : Distinct names)
    {fewer : List String} (sub : fewer ⊆ names) :
    ∀ a ∈ fewer, isAttached (attachAll labels fewer) a = true := by
  induction fewer generalizing labels with
  | nil => exact fun a member => absurd member List.not_mem_nil
  | cons b rest ih =>
      have two : b ∈ names := sub List.mem_cons_self
      have behind : rest ⊆ names := fun c member => sub (List.mem_cons_of_mem b member)
      have still := apart.attachTo distinct two
      intro a member
      rcases List.mem_cons.mp member with rfl | later
      · exact isAttached_attachAll_of_isAttached still distinct two
          (isAttached_attachTo_self labels _) behind
      · exact ih still behind a later

theorem mem_attachAll {l : String} (member : l ∈ attachAll labels names) :
    l ∈ labels ∨ l ∈ names := by
  induction names generalizing labels with
  | nil => exact .inl member
  | cons name rest ih =>
      rcases ih member with old | new
      · rcases mem_attachTo old with older | rfl
        · exact .inl older
        · exact .inr List.mem_cons_self
      · exact .inr (List.mem_cons_of_mem name new)

theorem attachAll_of_perm (alike : labels.Perm others) (names : List String) :
    (attachAll labels names).Perm (attachAll others names) := by
  induction names generalizing labels others with
  | nil => exact alike
  | cons name _ ih => exact ih (attachTo_perm alike name)

/-- Attaching names in another order gives the same labels in another order. -/
theorem attachAll_perm {reordered : List String} (perm : names.Perm reordered)
    (apart : Undisplaced labels names) (distinct : Distinct names) :
    (attachAll labels names).Perm (attachAll labels reordered) := by
  induction perm generalizing labels with
  | nil => exact .refl _
  | cons name _ ih =>
      have still := (apart.attachTo distinct List.mem_cons_self).mono (List.subset_cons_self _ _)
      exact ih still (distinct.mono (List.subset_cons_self _ _))
  | swap a b rest => exact attachAll_of_perm (attachTo_comm apart distinct (by simp) (by simp)) rest
  | trans first _ ihl ihr =>
      have back := first.symm.subset
      exact (ihl apart distinct).trans (ihr (apart.mono back) (distinct.mono back))

end Label

end Triage
