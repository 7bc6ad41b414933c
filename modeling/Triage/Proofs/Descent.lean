/-
# Triage.Proofs.Descent -- what a reading that succeeds has done

The reading functions descend with a count of the room left for `NOT`s and brackets, and a chain
of operands counts its steps.  Every operand takes at least one token (`readOperand_consumes`), so
the steps never run out, and a chain that succeeds is an unbroken run of operands (`Extends`).
Main statements: `readOperand_eq_ok_iff`, the three ways in which an operand is read,
`readConjunction_eq_ok_iff` and `readDisjunction_eq_ok_iff`, which know nothing of steps, and
`ofTokens_eq_ok_iff`, an expression is a disjunction that takes all tokens.
-/
import Triage.Proofs.LeafText

namespace Triage.Reading

open Triage.Text

set_option autoImplicit false

/-- Whoever reads an operand leaves fewer tokens than it was given. -/
def Consumes (operand : Reader) : Prop :=
  ∀ tokens result, operand tokens = .ok result → result.rest.length < tokens.length

/-- A way to find the next operand: nowhere in an empty list, and without adding tokens. -/
structure Advances (next : List Located → Option (List Located)) : Prop where
  nil : next [] = none
  length_le : ∀ {tokens more}, next tokens = some more → more.length ≤ tokens.length

theorem nextConjunct_advances : Advances nextConjunct where
  nil := rfl
  length_le := by
    intro tokens more found
    cases tokens with
    | nil => cases found
    | cons located rest =>
        rw [nextConjunct] at found
        split at found
        · cases found
          simp
        · split at found
          · cases found
            simp
          · cases found

theorem nextDisjunct_advances : Advances nextDisjunct where
  nil := rfl
  length_le := by
    intro tokens more found
    cases tokens with
    | nil => cases found
    | cons located rest =>
        rw [nextDisjunct] at found
        split at found
        · cases found
          simp
        · cases found

theorem joinHeight_eq_ok_iff {left right position height : Nat} :
    joinHeight left right position = .ok height ↔
      max left right + 1 ≤ maxDepth ∧ height = max left right + 1 := by
  unfold joinHeight
  split
  · next fits => simp [fits, eq_comm]
  · next tall => simp [tall]

theorem nextConjunct_of_beginsOperand {located : Located} {rest : List Located}
    (begins : located.token.beginsOperand = true) :
    nextConjunct (located :: rest) = some (located :: rest) := by
  have unlike : located.token ≠ .and := by
    intro same
    simp [same, Token.beginsOperand] at begins
  rw [nextConjunct, if_neg unlike, if_pos begins]

theorem nextConjunct_of_closing {located : Located} {rest : List Located}
    (closes : located.token = .closing) : nextConjunct (located :: rest) = none := by
  simp [nextConjunct, closes, Token.beginsOperand]

theorem nextDisjunct_of_closing {located : Located} {rest : List Located}
    (closes : located.token = .closing) : nextDisjunct (located :: rest) = none := by
  simp [nextDisjunct, closes]

theorem nextConjunct_of_and {located : Located} {rest : List Located}
    (joins : located.token = .and) : nextConjunct (located :: rest) = some rest := by
  simp [nextConjunct, joins]

theorem nextConjunct_of_or {located : Located} {rest : List Located}
    (joins : located.token = .or) : nextConjunct (located :: rest) = none := by
  simp [nextConjunct, joins, Token.beginsOperand]

theorem nextDisjunct_of_or {located : Located} {rest : List Located}
    (joins : located.token = .or) : nextDisjunct (located :: rest) = some rest := by
  simp [nextDisjunct, joins]

/-- Neither a conjunction nor a disjunction goes on here. -/
def Stops (tokens : List Located) : Prop :=
  nextConjunct tokens = none ∧ nextDisjunct tokens = none

theorem stops_nil : Stops [] := ⟨rfl, rfl⟩

theorem stops_of_closing {located : Located} (closes : located.token = .closing)
    (rest : List Located) : Stops (located :: rest) :=
  ⟨nextConjunct_of_closing closes, nextDisjunct_of_closing closes⟩

/-- Only a closing bracket keeps both from going on. -/
theorem closing_of_stops {located : Located} {rest : List Located}
    (stops : Stops (located :: rest)) : located.token = .closing := by
  obtain ⟨conjunct, disjunct⟩ := stops
  cases token : located.token with
  | closing => rfl
  | opening | not | word | quoted | qualifier =>
      rw [nextConjunct_of_beginsOperand (by rw [token]; rfl)] at conjunct
      cases conjunct
  | and =>
      rw [nextConjunct_of_and token] at conjunct
      cases conjunct
  | or =>
      rw [nextDisjunct_of_or token] at disjunct
      cases disjunct

/-! ## Chains of operands -/

section Chain

variable {next : List Located → Option (List Located)} {join : Expr → Expr → Expr}
  {operand : Reader} {stop : Nat}

/-- Two readings joined, with what the second one left. -/
def joined (join : Expr → Expr → Expr) (left right : Reading) : Reading :=
  ⟨join left.expr right.expr, max left.height right.height + 1, right.rest⟩

/-- An unbroken run of further operands, as many as `next` finds. -/
inductive Extends (next : List Located → Option (List Located)) (join : Expr → Expr → Expr)
    (operand : Reader) : Reading → Reading → Prop
  | done {left : Reading} : next left.rest = none → Extends next join operand left left
  | more {left right result : Reading} {tokens : List Located} :
      next left.rest = some tokens → operand tokens = .ok right →
      max left.height right.height + 1 ≤ maxDepth →
      Extends next join operand (joined join left right) result →
      Extends next join operand left result

theorem extends_of_none {left result : Reading} (none_ : next left.rest = none) :
    Extends next join operand left result ↔ result = left := by
  constructor
  · intro run
    cases run with
    | done => rfl
    | more found => simp [none_] at found
  · rintro rfl
    exact .done none_

theorem extends_of_some {left result : Reading} {tokens : List Located}
    (found : next left.rest = some tokens) :
    Extends next join operand left result ↔
      ∃ right, operand tokens = .ok right ∧ max left.height right.height + 1 ≤ maxDepth ∧
        Extends next join operand (joined join left right) result := by
  constructor
  · intro run
    cases run with
    | done none_ => simp [none_] at found
    | more found' read fits rest =>
        obtain rfl := Option.some.inj (found.symm.trans found')
        exact ⟨_, read, fits, rest⟩
  · rintro ⟨right, read, fits, rest⟩
    exact .more found read fits rest

/-- A run is over where no further operand is found. -/
theorem Extends.next_eq_none {left result : Reading} (run : Extends next join operand left result) :
    next result.rest = none := by
  induction run with
  | done none_ => exact none_
  | more _ _ _ _ ih => exact ih

/-- What every operand leaves, a run of them leaves. -/
theorem Extends.leaves {left result : Reading} {P : List Located → Prop}
    (run : Extends next join operand left result) (first : P left.rest)
    (each : ∀ tokens right, operand tokens = .ok right → P right.rest) : P result.rest := by
  induction run with
  | done => exact first
  | more _ read _ _ ih =>
      have behind := each _ _ read
      exact ih behind

/-- Further operands never add tokens. -/
theorem Extends.length_le (advances : Advances next) (consumes : Consumes operand)
    {left result : Reading} (run : Extends next join operand left result) :
    result.rest.length ≤ left.rest.length := by
  induction run with
  | done => exact Nat.le_refl _
  | more found read _ _ ih =>
      have fewer := advances.length_le found
      have taken := consumes _ _ read
      simp only [joined] at ih
      omega

/-- With a step for every token, counting steps makes no difference. -/
theorem extend_eq_ok_iff (advances : Advances next) (consumes : Consumes operand) {steps : Nat}
    {left result : Reading} (enough : left.rest.length ≤ steps) :
    extend stop next join operand steps left = .ok result ↔
      Extends next join operand left result := by
  -- Joining an operand takes a token, so the steps last as long as the tokens do.
  induction steps generalizing left with
  | zero =>
      have none_ : next left.rest = none := by
        rw [List.eq_nil_of_length_eq_zero (Nat.le_zero.mp enough), advances.nil]
      rw [extends_of_none none_, extend, Except.ok.injEq, eq_comm]
  | succ steps ih =>
      rw [extend]
      cases found : next left.rest with
      | none => rw [extends_of_none found, Except.ok.injEq, eq_comm]
      | some tokens =>
          rw [extends_of_some found]
          dsimp only
          cases read : operand tokens with
          | error e => simp
          | ok right =>
              have fewer := advances.length_le found
              have taken := consumes _ _ read
              have again := @ih (joined join left right) (by simp only [joined]; omega)
              simp only [Except.ok.injEq, exists_eq_left']
              cases fits : joinHeight left.height right.height (positionOf stop tokens) with
              | error e =>
                  have tall : ¬ max left.height right.height + 1 ≤ maxDepth := by
                    intro room
                    simp [joinHeight, room] at fits
                  simp [tall]
              | ok height =>
                  obtain ⟨room, rfl⟩ := joinHeight_eq_ok_iff.mp fits
                  simp only [room, true_and]
                  exact again

theorem chain_eq_ok_iff (advances : Advances next) (consumes : Consumes operand)
    {tokens : List Located} {result : Reading} :
    chain stop next join operand tokens = .ok result ↔
      ∃ first, operand tokens = .ok first ∧ Extends next join operand first result := by
  rw [chain]
  cases read : operand tokens with
  | error e => simp
  | ok first =>
      rw [extend_eq_ok_iff advances consumes (Nat.le_refl _)]
      simp

theorem chain_consumes (advances : Advances next) (consumes : Consumes operand) :
    Consumes (chain stop next join operand) := by
  intro tokens result read
  obtain ⟨first, begun, run⟩ := (chain_eq_ok_iff advances consumes).mp read
  have taken := consumes _ _ begun
  have fewer := run.length_le advances consumes
  omega

end Chain

/-! ## Operands -/

theorem readConjunction_consumes {operand : Reader} {stop : Nat} (consumes : Consumes operand) :
    Consumes (readConjunction stop operand) := chain_consumes nextConjunct_advances consumes

theorem readDisjunction_consumes {operand : Reader} {stop : Nat} (consumes : Consumes operand) :
    Consumes (readDisjunction stop operand) :=
  chain_consumes nextDisjunct_advances (readConjunction_consumes consumes)

/-- A conjunction is an operand and those that follow it. -/
theorem readConjunction_eq_ok_iff {operand : Reader} {stop : Nat} (consumes : Consumes operand)
    {tokens : List Located} {result : Reading} :
    readConjunction stop operand tokens = .ok result ↔
      ∃ first, operand tokens = .ok first ∧ Extends nextConjunct .and operand first result :=
  chain_eq_ok_iff nextConjunct_advances consumes

/-- A disjunction is a conjunction and those that follow it. -/
theorem readDisjunction_eq_ok_iff {operand : Reader} {stop : Nat} (consumes : Consumes operand)
    {tokens : List Located} {result : Reading} :
    readDisjunction stop operand tokens = .ok result ↔
      ∃ first, readConjunction stop operand tokens = .ok first ∧
        Extends nextDisjunct .or (readConjunction stop operand) first result :=
  chain_eq_ok_iff nextDisjunct_advances (readConjunction_consumes consumes)

/-- A disjunction ends where nothing goes on. -/
theorem stops_of_readDisjunction {operand : Reader} {stop : Nat} (consumes : Consumes operand)
    {tokens : List Located} {result : Reading}
    (read : readDisjunction stop operand tokens = .ok result) : Stops result.rest := by
  have exhausted (tokens : List Located) (conjunction : Reading)
      (done : readConjunction stop operand tokens = .ok conjunction) :
      nextConjunct conjunction.rest = none := by
    obtain ⟨_, -, run⟩ := (readConjunction_eq_ok_iff consumes).mp done
    exact run.next_eq_none
  obtain ⟨first, begun, run⟩ := (readDisjunction_eq_ok_iff consumes).mp read
  exact ⟨run.leaves (P := fun rest => nextConjunct rest = none) (exhausted _ _ begun) exhausted,
    run.next_eq_none⟩

theorem readOperand_nil (stop room : Nat) (result : Reading) :
    readOperand stop room [] ≠ .ok result := by
  simp [readOperand]

section Operand

variable {stop room : Nat} {located : Located} {rest : List Located} {result : Reading}

/-- A negation takes room, one operand and a level of height. -/
theorem readOperand_not (negation : located.token = .not) :
    readOperand stop room (located :: rest) = .ok result ↔
      ∃ fewer inner, room = fewer + 1 ∧ readOperand stop fewer rest = .ok inner ∧
        inner.height + 1 ≤ maxDepth ∧
        result = ⟨.not inner.expr, inner.height + 1, inner.rest⟩ := by
  constructor
  · intro done
    cases room with
    | zero => simp [readOperand, negation] at done
    | succ fewer =>
        cases read : readOperand stop fewer rest with
        | error e => simp [readOperand, negation, read] at done
        | ok inner =>
            cases fits : joinHeight inner.height 0 located.position with
            | error e => simp [readOperand, negation, read, fits] at done
            | ok height =>
                obtain ⟨room, rfl⟩ := joinHeight_eq_ok_iff.mp fits
                rw [Nat.max_zero] at room fits
                simp only [readOperand, negation, read, fits, Except.ok.injEq] at done
                exact ⟨fewer, inner, rfl, read, room, done.symm⟩
  · rintro ⟨fewer, inner, rfl, read, fits, rfl⟩
    have height : joinHeight inner.height 0 located.position = .ok (inner.height + 1) := by
      rw [joinHeight_eq_ok_iff, Nat.max_zero]
      exact ⟨fits, rfl⟩
    simp only [readOperand, negation, read, height]

/-- Brackets take room and a disjunction, up to the closing one. -/
theorem readOperand_opening (bracket : located.token = .opening) :
    readOperand stop room (located :: rest) = .ok result ↔
      ∃ fewer inner close after, room = fewer + 1 ∧
        readDisjunction stop (readOperand stop fewer) rest = .ok inner ∧
        inner.rest = close :: after ∧ close.token = .closing ∧
        result = ⟨inner.expr, inner.height, after⟩ := by
  constructor
  · intro done
    cases room with
    | zero => simp [readOperand, bracket] at done
    | succ fewer =>
        cases read : readDisjunction stop (readOperand stop fewer) rest with
        | error e => simp [readOperand, bracket, read] at done
        | ok inner =>
            cases left : inner.rest with
            | nil => simp [readOperand, bracket, read, left] at done
            | cons close after =>
                by_cases closes : close.token = .closing
                · simp only [readOperand, bracket, read, left, closes, if_true,
                    Except.ok.injEq] at done
                  exact ⟨fewer, inner, close, after, rfl, read, left, closes, done.symm⟩
                · simp [readOperand, bracket, read, left, closes] at done
  · rintro ⟨fewer, inner, close, after, rfl, read, left, closes, rfl⟩
    simp only [readOperand, bracket, read, left, closes, if_true]

/-- An operand is a single token, a negation or a bracketed disjunction. -/
theorem readOperand_eq_ok_iff :
    readOperand stop room (located :: rest) = .ok result ↔
      (∃ q, located.token.leaf? = some q ∧ result = ⟨.qualifier q, 1, rest⟩) ∨
      (located.token = .not ∧ ∃ fewer inner, room = fewer + 1 ∧
        readOperand stop fewer rest = .ok inner ∧ inner.height + 1 ≤ maxDepth ∧
        result = ⟨.not inner.expr, inner.height + 1, inner.rest⟩) ∨
      (located.token = .opening ∧ ∃ fewer inner close after, room = fewer + 1 ∧
        readDisjunction stop (readOperand stop fewer) rest = .ok inner ∧
        inner.rest = close :: after ∧ close.token = .closing ∧
        result = ⟨inner.expr, inner.height, after⟩) := by
  cases token : located.token with
  | closing | and | or => cases room <;> simp [readOperand, token, Token.leaf?]
  | word text => cases room <;> simp [readOperand, token, Token.leaf?, Expr.ofText, eq_comm]
  | quoted text => cases room <;> simp [readOperand, token, Token.leaf?, Expr.ofText, eq_comm]
  | qualifier name value quotes =>
      cases read : Qualifier.read name value quotes with
      | error e => cases room <;> simp [readOperand, token, Token.leaf?, read, Except.toOption]
      | ok q =>
          cases room <;>
            simp [readOperand, token, Token.leaf?, read, Except.toOption, @eq_comm _ result]
  | not =>
      simp only [Token.leaf?, reduceCtorEq, false_and, exists_false, false_or, or_false, true_and]
      exact readOperand_not token
  | opening =>
      simp only [Token.leaf?, reduceCtorEq, false_and, exists_false, false_or, true_and]
      exact readOperand_opening token

/-- No operand begins with a closing bracket or a binary operator. -/
theorem readOperand_of_not_beginsOperand (stray : located.token.beginsOperand = false)
    (result : Reading) :
    readOperand stop room (located :: rest) ≠ .ok result := by
  intro read
  rcases readOperand_eq_ok_iff.mp read with ⟨q, leaf, -⟩ | ⟨negation, -⟩ | ⟨bracket, -⟩
  · cases token : located.token <;> simp [token, Token.leaf?, Token.beginsOperand] at leaf stray
  · simp [negation, Token.beginsOperand] at stray
  · simp [bracket, Token.beginsOperand] at stray

end Operand

/-- Every operand takes at least one token. -/
theorem readOperand_consumes (stop room : Nat) : Consumes (readOperand stop room) := by
  induction room using Nat.strongRecOn with
  | ind room ih =>
      intro tokens result read
      cases tokens with
      | nil => exact absurd read (readOperand_nil stop _ result)
      | cons located rest =>
          rcases readOperand_eq_ok_iff.mp read with ⟨q, -, rfl⟩ |
            ⟨-, fewer, inner, rfl, done, -, rfl⟩ |
            ⟨-, fewer, inner, close, after, rfl, done, left, -, rfl⟩
          · simp
          · have taken := ih fewer (Nat.lt_succ_self fewer) _ _ done
            simp only [List.length_cons]
            omega
          · have taken := readDisjunction_consumes (ih fewer (Nat.lt_succ_self fewer)) _ _ done
            simp only [left, List.length_cons] at taken ⊢
            omega

end Triage.Reading

namespace Triage.Expr

open Triage.Reading

/-- An expression is a disjunction that takes all tokens. -/
theorem ofTokens_eq_ok_iff {stop : Nat} {tokens : List Located} {expr : Expr} :
    ofTokens stop tokens = .ok expr ↔
      ∃ reading, readDisjunction stop (readOperand stop maxDepth) tokens = .ok reading ∧
        reading.rest = [] ∧ reading.expr = expr := by
  cases tokens with
  | nil =>
      constructor
      · intro read
        cases read
      · rintro ⟨reading, read, -⟩
        have fewer := readDisjunction_consumes (readOperand_consumes stop maxDepth) [] reading read
        exact absurd fewer (Nat.not_lt_zero _)
  | cons located rest =>
      rw [ofTokens.eq_2 stop (located :: rest) (by simp)]
      cases read : readDisjunction stop (readOperand stop maxDepth) (located :: rest) with
      | error e => simp
      | ok reading =>
          cases left : reading.rest with
          | nil => simp [left]
          | cons next after => simp [left]

end Triage.Expr
