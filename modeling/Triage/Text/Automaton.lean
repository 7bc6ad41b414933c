/-
# Triage.Text.Automaton -- the longest run of an automaton

A lexical form is given by an automaton: a start state, a partial step for every character and the
states in which the form is complete. A run takes characters as long as there is a step. Main
statement: `Run.taken_append_left`, a run divides its text in two.
-/

namespace Triage.Text

set_option autoImplicit false

/-- Where a run ended: the state, the characters it took and those it left. -/
structure Run (σ : Type) where
  state : σ
  taken : List Char
  left : List Char

/-- Takes characters from the front of a text as long as there is a step for them. -/
def run {σ : Type} (step : σ → Char → Option σ) (state : σ) : List Char → Run σ
  | [] => ⟨state, [], []⟩
  | c :: rest =>
    match step state c with
    | none => ⟨state, [], c :: rest⟩
    | some next =>
      let after := run step next rest
      ⟨after.state, c :: after.taken, after.left⟩

theorem Run.taken_append_left {σ : Type} (step : σ → Char → Option σ) (state : σ)
    (text : List Char) : (run step state text).taken ++ (run step state text).left = text := by
  induction text generalizing state with
  | nil => rfl
  | cons c rest ih =>
    rw [run]
    split
    · rfl
    · next next h => simpa using ih next

theorem Run.left_length_le {σ : Type} (step : σ → Char → Option σ) (state : σ)
    (text : List Char) : (run step state text).left.length ≤ text.length := by
  have whole := congrArg List.length (Run.taken_append_left step state text)
  rw [List.length_append] at whole
  omega

end Triage.Text
