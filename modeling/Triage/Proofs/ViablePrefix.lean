/-
# Triage.Proofs.ViablePrefix -- how far a sentence has come

The tokens at the front of a sentence are those that can still be completed (`IsViable`).  To see
that some tokens are not, it is enough to follow them with a counter: how many brackets are open,
and whether an operand is complete or still due (`Progress`).  A phrase of the grammar always runs
through, whatever is open around it (`Derives.after_eq`), so tokens at which the counter stops stand
at the front of no sentence.  Main statement: `not_isViable_of_after`.
-/
import Triage.Proofs.OpenMarks

namespace Triage

set_option autoImplicit false

/-- Where the reading of a sentence stands: the brackets that are open, and whether the last token
completes an operand. -/
structure Progress where
  brackets : Nat
  complete : Bool
deriving DecidableEq

namespace Progress

/-- At the start nothing is open and an operand is due. -/
def start : Progress := ⟨0, false⟩

/-- The next token, unless it cannot stand here.  An operand may follow another one at once. -/
def step (progress : Progress) : Token → Option Progress
  | .word _ | .quoted _ | .qualifier .. => some { progress with complete := true }
  | .not => some { progress with complete := false }
  | .opening => some ⟨progress.brackets + 1, false⟩
  | .and | .or => if progress.complete then some { progress with complete := false } else none
  | .closing =>
      match progress with
      | ⟨brackets + 1, true⟩ => some ⟨brackets, true⟩
      | _ => none

/-- Where the reading stands after some tokens, unless one of them cannot stand where it does. -/
def after (progress : Progress) (tokens : List Token) : Option Progress :=
  tokens.foldlM step progress

variable {progress : Progress} {token : Token}

@[simp] theorem after_nil (progress : Progress) : progress.after [] = some progress := rfl

@[simp] theorem after_cons (progress : Progress) (token : Token) (tokens : List Token) :
    progress.after (token :: tokens) = (progress.step token).bind fun next => next.after tokens :=
  List.foldlM_cons

theorem after_append (progress : Progress) (first second : List Token) :
    progress.after (first ++ second) =
      (progress.after first).bind fun next => next.after second :=
  List.foldlM_append

theorem step_of_leaf? {q : Qualifier} (leaf : token.leaf? = some q) :
    progress.step token = some { progress with complete := true } := by
  cases token with
  | word | quoted | qualifier => rfl
  | opening | closing | and | or | not => cases leaf

/-- An operand may begin whether or not another one has just been completed. -/
theorem step_of_beginsOperand (begins : token.beginsOperand = true) (brackets : Nat) :
    step ⟨brackets, true⟩ token = step ⟨brackets, false⟩ token := by
  cases token with
  | opening | not | word | quoted | qualifier => rfl
  | closing | and | or => cases begins

/-- Where an operand is due nothing else can stand. -/
theorem step_eq_none (stray : token.beginsOperand = false) (brackets : Nat) :
    step ⟨brackets, false⟩ token = none := by
  cases token with
  | closing => cases brackets <;> rfl
  | and | or => rfl
  | opening | not | word | quoted | qualifier => cases stray

end Progress

open Progress

/-- A phrase is an operand that is complete behind it, whatever is open around it. -/
theorem Derives.after_eq {phrase : Phrase} {room : Nat} {tokens : List Token} {expr : Expr}
    (derived : Derives phrase room tokens expr) (progress : Progress) :
    progress.after tokens = some { progress with complete := true } := by
  induction derived generalizing progress with
  | leaf leaf => simp [step_of_leaf? leaf]
  | not _ ih => simp [step, ih]
  | brackets _ ih => simp [step, after_append, ih]
  | conjunct _ ih | disjunct _ ih => exact ih progress
  | and _ _ ihl ihr | or _ _ ihl ihr => simp [after_append, ihl, step, ihr]
  | juxtaposed _ _ ihl ihr => simp [after_append, ihl, ihr]

/-- The tokens stand at the front of a sentence of the grammar, or are all of it. -/
def IsViable (tokens : List Token) : Prop := ∃ more expr, Spells (tokens ++ more) expr

/-- Tokens that do not run through stand at the front of no sentence. -/
theorem not_isViable_of_after {tokens : List Token} (stuck : start.after tokens = none) :
    ¬ IsViable tokens := by
  rintro ⟨more, expr, room, derived⟩
  have through := derived.after_eq start
  rw [after_append, stuck] at through
  cases through

end Triage
