/-
# Triage.Proofs.OpenMarks -- what is open while an expression is read

A bracket is open until it is closed, and a `NOT` until its operand is complete; a bracketed
expression is an operand, so that the bracket that closes it completes the `NOT`s in front of it as
well.  `Mark.openAfter` follows the open ones over a list of tokens from left to right, with no
regard to what the tokens derive.  Main statement: `derives_iff_spells_and_within`, the room that a
derivation takes is the most that is ever open while its tokens are read.
-/
import Triage.Proofs.Grammar

namespace Triage

set_option autoImplicit false

/-- What is open: a `NOT` that waits for its operand, or a bracket. -/
inductive Mark where
  | negation
  | bracket
deriving DecidableEq

namespace Mark

/-- What stays open once an operand is complete: the `NOT`s right before it are done. -/
def settle (marks : List Mark) : List Mark := marks.dropWhile (· = .negation)

/-- What is open after one more token, the latest first. -/
def step (marks : List Mark) : Token → List Mark
  | .not => .negation :: marks
  | .opening => .bracket :: marks
  | .closing => settle marks.tail
  | .word _ | .quoted _ | .qualifier .. => settle marks
  | .and | .or => marks

/-- What is open after some tokens. -/
def openAfter (marks : List Mark) (tokens : List Token) : List Mark := tokens.foldl step marks

/-- At no point of the reading are more than `limit` `NOT`s and brackets open. -/
def Within (limit : Nat) (marks : List Mark) (tokens : List Token) : Prop :=
  ∀ before, before <+: tokens → (openAfter marks before).length ≤ limit

variable {limit : Nat} {marks : List Mark}

@[simp] theorem settle_negation (marks : List Mark) :
    settle (.negation :: marks) = settle marks := rfl

@[simp] theorem settle_bracket (marks : List Mark) :
    settle (.bracket :: marks) = .bracket :: marks := rfl

@[simp] theorem settle_settle (marks : List Mark) : settle (settle marks) = settle marks := by
  induction marks with
  | nil => rfl
  | cons mark marks ih =>
      cases mark with
      | negation => exact ih
      | bracket => rfl

theorem length_settle_le (marks : List Mark) : (settle marks).length ≤ marks.length :=
  (List.dropWhile_sublist _).length_le

@[simp] theorem openAfter_nil (marks : List Mark) : openAfter marks [] = marks := rfl

@[simp] theorem openAfter_cons (marks : List Mark) (token : Token) (tokens : List Token) :
    openAfter marks (token :: tokens) = openAfter (step marks token) tokens := rfl

theorem openAfter_append (marks : List Mark) (first second : List Token) :
    openAfter marks (first ++ second) = openAfter (openAfter marks first) second :=
  List.foldl_append

theorem within_nil : Within limit marks [] ↔ marks.length ≤ limit := by
  simp [Within]

theorem within_cons {token : Token} {tokens : List Token} :
    Within limit marks (token :: tokens) ↔
      marks.length ≤ limit ∧ Within limit (step marks token) tokens := by
  constructor
  · intro within
    exact ⟨within [] List.nil_prefix, fun before front =>
      within (token :: before) (List.cons_prefix_cons.mpr ⟨rfl, front⟩)⟩
  · rintro ⟨start, within⟩ before front
    rcases List.prefix_cons_iff.mp front with rfl | ⟨more, rfl, ahead⟩
    · exact start
    · exact within more ahead

instance decidableWithin (limit : Nat) :
    (marks : List Mark) → (tokens : List Token) → Decidable (Within limit marks tokens)
  | _, [] => decidable_of_iff _ within_nil.symm
  | marks, token :: tokens =>
      have := decidableWithin limit (step marks token) tokens
      decidable_of_iff _ within_cons.symm

theorem Within.start {tokens : List Token} (within : Within limit marks tokens) :
    marks.length ≤ limit := within [] List.nil_prefix

theorem within_append {first second : List Token} :
    Within limit marks (first ++ second) ↔
      Within limit marks first ∧ Within limit (openAfter marks first) second := by
  induction first generalizing marks with
  | nil => exact ⟨fun within => ⟨within_nil.mpr within.start, within⟩, fun both => both.2⟩
  | cons token first ih =>
      rw [List.cons_append, within_cons, within_cons, ih, and_assoc]
      rfl

theorem Within.mono {tokens : List Token} {more : Nat} (within : Within limit marks tokens)
    (le : limit ≤ more) : Within more marks tokens :=
  fun before front => Nat.le_trans (within before front) le

end Mark

open Mark

theorem Token.step_of_leaf? {token : Token} {q : Qualifier} (leaf : token.leaf? = some q)
    (marks : List Mark) : step marks token = settle marks := by
  cases token with
  | word | quoted | qualifier => rfl
  | opening | closing | and | or | not => cases leaf

namespace Derives

variable {phrase : Phrase} {room : Nat} {tokens : List Token} {expr : Expr}

/-- A phrase completes the `NOT`s before it and leaves nothing of its own open. -/
theorem openAfter_eq (derived : Derives phrase room tokens expr) (marks : List Mark) :
    openAfter marks tokens = settle marks := by
  induction derived generalizing marks with
  | leaf leaf => exact Token.step_of_leaf? leaf marks
  | not _ ih => rw [openAfter_cons, step, ih, settle_negation]
  | brackets _ ih =>
      rw [openAfter_cons, step, openAfter_append, ih, settle_bracket]
      rfl
  | conjunct _ ih | disjunct _ ih => exact ih marks
  | and _ _ ihl ihr | or _ _ ihl ihr =>
      rw [openAfter_append, ihl, openAfter_cons, step, ihr, settle_settle]
  | juxtaposed _ _ ihl ihr => rw [openAfter_append, ihl, ihr, settle_settle]

/-- Inside the bracket the `NOT`s in front of it still wait; behind it they are done. -/
example :
    openAfter [] [.not, .not, .opening, .not, .word "a"] = [.bracket, .negation, .negation] ∧
      openAfter [] [.not, .not, .opening, .not, .word "a", .closing] = [] := by decide

/-- No more is open at once than there is room for. -/
theorem within (derived : Derives phrase room tokens expr) (marks : List Mark) :
    Within (marks.length + room) marks tokens := by
  induction derived generalizing marks with
  | @leaf room token q leaf =>
      have settled := length_settle_le marks
      rw [within_cons, within_nil, Token.step_of_leaf? leaf]
      omega
  | @not room tokens expr _ ih =>
      have inner := ih (.negation :: marks)
      rw [within_cons]
      exact ⟨by omega, inner.mono (by simp only [List.length_cons]; omega)⟩
  | @brackets room tokens expr derived ih =>
      have inner := ih (.bracket :: marks)
      have settled := length_settle_le marks
      rw [within_cons, step, within_append, derived.openAfter_eq, within_cons, within_nil]
      refine ⟨by omega, inner.mono (by simp only [List.length_cons]; omega), ?_, ?_⟩
      · simp only [settle_bracket, List.length_cons]
        omega
      · simp only [step, settle_bracket, List.tail_cons]
        omega
  | conjunct _ ih | disjunct _ ih => exact ih marks
  | @and room ls rs left right first _ ihl ihr | @or room ls rs left right first _ ihl ihr =>
      have settled := length_settle_le marks
      rw [within_append, first.openAfter_eq, within_cons]
      exact ⟨ihl marks, by omega, (ihr (settle marks)).mono (by omega)⟩
  | @juxtaposed room ls rs left right first _ ihl ihr =>
      have settled := length_settle_le marks
      rw [within_append, first.openAfter_eq]
      exact ⟨ihl marks, (ihr (settle marks)).mono (by omega)⟩

/-- A derivation goes through in any room that what is open never exceeds.  Only in front of an
operand may a `NOT` be waiting: a longer phrase would complete it with its first operand. -/
theorem ofWithin {taken : Nat} (derived : Derives phrase taken tokens expr) {marks : List Mark}
    (settled : phrase ≠ .operand → settle marks = marks)
    (within : Within (marks.length + room) marks tokens) : Derives phrase room tokens expr := by
  induction derived generalizing room marks with
  | leaf leaf => exact .leaf leaf
  | @not taken tokens expr _ ih =>
      obtain ⟨-, inside⟩ := within_cons.mp within
      obtain ⟨fewer, rfl⟩ : ∃ fewer, room = fewer + 1 := by
        have := inside.start
        simp only [step, List.length_cons] at this
        exact ⟨room - 1, by omega⟩
      have inner : Within ((Mark.negation :: marks).length + fewer) (.negation :: marks) tokens :=
        inside.mono (by simp only [List.length_cons]; omega)
      exact .not (ih (fun longer => absurd rfl longer) inner)
  | @brackets taken tokens expr _ ih =>
      obtain ⟨-, inside⟩ := within_cons.mp within
      obtain ⟨fewer, rfl⟩ : ∃ fewer, room = fewer + 1 := by
        have := inside.start
        simp only [step, List.length_cons] at this
        exact ⟨room - 1, by omega⟩
      have inner : Within ((Mark.bracket :: marks).length + fewer) (.bracket :: marks) tokens :=
        (within_append.mp inside).1.mono (by simp only [List.length_cons]; omega)
      exact .brackets (ih (fun _ => rfl) inner)
  | conjunct _ ih => exact .conjunct (ih (fun longer => absurd rfl longer) within)
  | disjunct _ ih => exact .disjunct (ih (fun _ => settled nofun) within)
  | @and taken ls rs left right first _ ihl ihr =>
      have clear := settled nofun
      obtain ⟨before, after⟩ := within_append.mp within
      rw [first.openAfter_eq, clear, within_cons] at after
      exact .and (ihl (fun _ => clear) before) (ihr (fun longer => absurd rfl longer) after.2)
  | @juxtaposed taken ls rs left right first _ ihl ihr =>
      have clear := settled nofun
      obtain ⟨before, after⟩ := within_append.mp within
      rw [first.openAfter_eq, clear] at after
      exact .juxtaposed (ihl (fun _ => clear) before) (ihr (fun longer => absurd rfl longer) after)
  | @or taken ls rs left right first _ ihl ihr =>
      have clear := settled nofun
      obtain ⟨before, after⟩ := within_append.mp within
      rw [first.openAfter_eq, clear, within_cons] at after
      exact .or (ihl (fun _ => clear) before) (ihr (fun _ => clear) after.2)

end Derives

/-- The grammar without a limit: the tokens, all of them, spell the expression. -/
def Spells (tokens : List Token) (expr : Expr) : Prop :=
  ∃ room, Derives .disjunction room tokens expr

/-- An expression is derived in some room exactly if its tokens spell it and no more than that is
ever open while they are read. -/
theorem derives_iff_spells_and_within {room : Nat} {tokens : List Token} {expr : Expr} :
    Derives .disjunction room tokens expr ↔ Spells tokens expr ∧ Within room [] tokens := by
  constructor
  · intro derived
    have within := derived.within []
    rw [List.length_nil, Nat.zero_add] at within
    exact ⟨⟨room, derived⟩, within⟩
  · rintro ⟨⟨_, derived⟩, within⟩
    have inside : Within (([] : List Mark).length + room) [] tokens := by
      rwa [List.length_nil, Nat.zero_add]
    exact derived.ofWithin (fun _ => rfl) inside

end Triage
