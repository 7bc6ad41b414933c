/-
# Triage.Proofs.Rereading -- what a canonical text is read back as

The canonical text of a tree without empty expressions is read back as that tree.  An empty
expression leaves no text behind, so that `NOT`s over it hang in the air and bind to whatever comes
next: as the left operand of a conjunction to the right operand, anywhere else to something that
is no operand.  `reread` says what such a text is read back as, and `opened` how many `NOT`s and
brackets it opens at once.  Main statement: `read_text_eq_ok_iff`, for every tree whose literals
have the types of their kinds and whose texts hold no quote.
-/
import Triage.Proofs.CanonicalTokens
import Triage.Proofs.Grammar

namespace Triage

open Triage.Text Triage.Reading

set_option autoImplicit false

namespace Expr

/-- Nothing but `NOT`s over an empty expression. -/
def isHanging : Expr → Bool
  | .empty => true
  | .not operand => operand.isHanging
  | .qualifier _ | .and .. | .or .. => false

/-- The `NOT`s of a hanging expression over another operand. -/
def onto : Expr → Expr → Expr
  | .not inner, operand => .not (inner.onto operand)
  | _, operand => operand

/-- What the canonical text is read back as, if anything. -/
def reread : Expr → Option Expr
  | .qualifier q => some (.qualifier q)
  | .empty => none
  | .not operand => operand.reread.map .not
  | .and left right =>
      if left.isHanging then right.reread.map left.onto
      else if right.isEmpty then left.reread
      else left.reread.bind fun first => right.reread.map first.and
  | .or left right => left.reread.bind fun first => right.reread.map first.or

/-- How many `NOT`s and brackets the canonical text opens at once. -/
def opened : Expr → Nat
  | .qualifier _ | .empty => 0
  | .not operand => operand.opened + 1
  | .and left right =>
      (if left.isHanging then left.opened + right.opened else max left.opened right.opened) + 1
  | .or left right => max left.opened right.opened + 1

variable {expr : Expr}

/-! ## Hanging expressions -/

theorem reread_of_isHanging (hanging : expr.isHanging = true) : expr.reread = none := by
  induction expr with
  | empty => rfl
  | not operand ih => simp [reread, ih hanging]
  | qualifier | and | or => cases hanging

theorem height_onto (hanging : expr.isHanging = true) (operand : Expr) :
    (expr.onto operand).height = operand.height + expr.opened := by
  induction expr with
  | empty => rfl
  | not inner ih =>
      rw [onto, height, ih hanging, opened]
      omega
  | qualifier | and | or => cases hanging

theorem qualifiers_of_isHanging (hanging : expr.isHanging = true) : expr.qualifiers = [] := by
  induction expr with
  | empty => rfl
  | not operand ih => exact ih hanging
  | qualifier | and | or => cases hanging

/-- Hanging `NOT`s read the operand after them. -/
theorem readOperand_hanging {stop room : Nat} {here rest : List Located} {result : Reading}
    (hanging : expr.isHanging = true) (spelled : here.map Located.token = expr.tokens) :
    readOperand stop room (here ++ rest) = .ok result ↔
      ∃ fewer inner, room = fewer + expr.opened ∧ readOperand stop fewer rest = .ok inner ∧
        inner.height + expr.opened ≤ maxDepth ∧
        result = ⟨expr.onto inner.expr, inner.height + expr.opened, inner.rest⟩ := by
  induction expr generalizing room here result with
  | empty =>
      obtain rfl := List.map_eq_nil_iff.mp spelled
      simp only [List.nil_append, opened, Nat.add_zero, onto]
      constructor
      · intro read
        obtain ⟨_, -, -, -, fits⟩ := sound_readOperand stop room _ _ read
        exact ⟨room, result, rfl, read, fits, rfl⟩
      · rintro ⟨_, inner, rfl, read, -, rfl⟩
        exact read
  | not operand ih =>
      obtain ⟨located, more, rfl, negation, spelled⟩ := List.map_eq_cons_iff.mp spelled
      rw [List.cons_append, readOperand_not negation]
      constructor
      · rintro ⟨fewer, inner, rfl, read, fits, rfl⟩
        obtain ⟨fewer, below, rfl, done, -, rfl⟩ := (ih hanging spelled).mp read
        simp only [opened, onto, ← Nat.add_assoc]
        exact ⟨fewer, below, rfl, done, fits, rfl⟩
      · rintro ⟨fewer, below, rfl, read, fits, rfl⟩
        simp only [opened] at fits
        refine ⟨fewer + operand.opened, _, rfl,
          (ih hanging spelled).mpr ⟨fewer, below, rfl, read, by omega, rfl⟩, fits, ?_⟩
        simp only [opened, onto, Nat.add_assoc]
  | qualifier | and | or => cases hanging

/-! ## Everything else -/

end Expr

/-- The token of a qualifier is an operand by itself. -/
theorem Qualifier.token_operand (q : Qualifier) :
    q.token.beginsOperand = true ∧ q.token ≠ .not ∧ q.token ≠ .opening := by
  rcases q.keyword_or_named with ⟨s, rfl⟩ | ⟨-, spelled⟩
  · simp only [ofText, token]
    split <;> simp [Token.beginsOperand]
  · simp [spelled, Token.beginsOperand]

/-- Any text but that of the empty expression begins as an operand does. -/
theorem Expr.nextConjunct_of_present {expr : Expr} {here : List Located}
    (present : expr.isEmpty = false) (spelled : here.map Located.token = expr.tokens)
    (rest : List Located) : nextConjunct (here ++ rest) = some (here ++ rest) := by
  have front : ∃ token more, expr.tokens = token :: more ∧ token.beginsOperand = true := by
    cases expr with
    | qualifier q => exact ⟨q.token, [], rfl, q.token_operand.1⟩
    | empty => cases present
    | not | and | or => exact ⟨_, _, rfl, rfl⟩
  obtain ⟨token, more, first, begins⟩ := front
  rw [first] at spelled
  obtain ⟨located, others, rfl, rfl, -⟩ := List.map_eq_cons_iff.mp spelled
  exact nextConjunct_of_beginsOperand begins

namespace Reading

section Disjunction

variable {stop : Nat} {operand : Reader} {tokens more : List Located} {result : Reading}

/-- Where nothing goes on behind the first operand, a disjunction is that operand. -/
theorem readDisjunction_single (consumes : Consumes operand)
    (stops : ∀ first, operand tokens = .ok first → Stops first.rest) :
    readDisjunction stop operand tokens = .ok result ↔ operand tokens = .ok result := by
  simp only [readDisjunction_eq_ok_iff consumes, readConjunction_eq_ok_iff consumes]
  constructor
  · rintro ⟨conjunction, ⟨first, read, run⟩, outer⟩
    obtain rfl := (extends_of_none (stops first read).1).mp run
    obtain rfl := (extends_of_none (stops _ read).2).mp outer
    exact read
  · intro read
    exact ⟨result, ⟨result, read, .done (stops result read).1⟩, .done (stops result read).2⟩

/-- Two operands side by side. -/
theorem readDisjunction_and (consumes : Consumes operand)
    (next : ∀ first, operand tokens = .ok first → nextConjunct first.rest = some more)
    (stops : ∀ second, operand more = .ok second → Stops second.rest) :
    readDisjunction stop operand tokens = .ok result ↔
      ∃ first second, operand tokens = .ok first ∧ operand more = .ok second ∧
        max first.height second.height + 1 ≤ maxDepth ∧ result = joined .and first second := by
  simp only [readDisjunction_eq_ok_iff consumes, readConjunction_eq_ok_iff consumes]
  constructor
  · rintro ⟨conjunction, ⟨first, read, run⟩, outer⟩
    obtain ⟨second, after, fits, run⟩ := (extends_of_some (next first read)).mp run
    have ends : Stops (joined .and first second).rest := stops second after
    obtain rfl := (extends_of_none ends.1).mp run
    obtain rfl := (extends_of_none ends.2).mp outer
    exact ⟨first, second, read, after, fits, rfl⟩
  · rintro ⟨first, second, read, after, fits, rfl⟩
    have ends := stops second after
    exact ⟨_, ⟨first, read, .more (next first read) after fits (.done ends.1)⟩, .done ends.2⟩

/-- Two operands with `OR` between them. -/
theorem readDisjunction_or (consumes : Consumes operand)
    (next : ∀ first, operand tokens = .ok first →
      nextConjunct first.rest = none ∧ nextDisjunct first.rest = some more)
    (stops : ∀ second, operand more = .ok second → Stops second.rest) :
    readDisjunction stop operand tokens = .ok result ↔
      ∃ first second, operand tokens = .ok first ∧ operand more = .ok second ∧
        max first.height second.height + 1 ≤ maxDepth ∧ result = joined .or first second := by
  simp only [readDisjunction_eq_ok_iff consumes, readConjunction_eq_ok_iff consumes]
  constructor
  · rintro ⟨conjunction, ⟨first, read, run⟩, outer⟩
    obtain rfl := (extends_of_none (next first read).1).mp run
    obtain ⟨second, after, fits, outer⟩ := (extends_of_some (next _ read).2).mp outer
    obtain ⟨alone, after, run⟩ := (readConjunction_eq_ok_iff consumes).mp after
    obtain rfl := (extends_of_none (stops alone after).1).mp run
    have ends : Stops (joined .or conjunction second).rest := stops second after
    obtain rfl := (extends_of_none ends.2).mp outer
    exact ⟨conjunction, second, read, after, fits, rfl⟩
  · rintro ⟨first, second, read, after, fits, rfl⟩
    have ends := stops second after
    have alone : readConjunction stop operand more = .ok second :=
      (readConjunction_eq_ok_iff consumes).mpr ⟨second, after, .done ends.1⟩
    exact ⟨first, ⟨first, read, .done (next first read).1⟩,
      .more (next first read).2 alone fits (.done ends.2)⟩

end Disjunction

/-! ## What is read back

`Outcome` is the one shape that every reading of a canonical text has: which expression it gives,
if any, on which condition on the dates, and the room and the height it takes. -/

/-- A reading gives `back`, on a condition, in `room` for the `opened` `NOT`s and brackets. -/
def Outcome (back : Option Expr) (legible : Prop) (opened room : Nat) (rest : List Located)
    (result : Reading) : Prop :=
  ∃ other, back = some other ∧ legible ∧ opened ≤ room ∧ other.height ≤ maxDepth ∧
    result = ⟨other, other.height, rest⟩

section Outcome

variable {stop opened room : Nat} {back : Option Expr} {legible : Prop}
  {tokens rest : List Located} {result : Reading}

theorem Outcome.rest_eq (outcome : Outcome back legible opened room rest result) :
    result.rest = rest := by
  obtain ⟨_, -, -, -, -, rfl⟩ := outcome
  rfl

theorem Outcome.stops {close : Located}
    (outcome : Outcome back legible opened room (close :: rest) result)
    (closes : close.token = .closing) : Stops result.rest := by
  rw [outcome.rest_eq]
  exact stops_of_closing closes rest

/-- Brackets take room and leave no trace. -/
theorem readOperand_bracketed {bracket close : Located} (opens : bracket.token = .opening)
    (closes : close.token = .closing)
    (inside : ∀ fewer inner, readDisjunction stop (readOperand stop fewer) tokens = .ok inner ↔
      Outcome back legible opened fewer (close :: rest) inner) :
    readOperand stop room (bracket :: tokens) = .ok result ↔
      Outcome back legible (opened + 1) room rest result := by
  rw [readOperand_opening opens]
  constructor
  · rintro ⟨fewer, inner, next, after, rfl, read, left, -, rfl⟩
    obtain ⟨other, same, dates, enough, fits, rfl⟩ := (inside fewer inner).mp read
    cases left
    exact ⟨other, same, dates, Nat.succ_le_succ enough, fits, rfl⟩
  · rintro ⟨other, same, dates, enough, fits, rfl⟩
    obtain ⟨fewer, rfl⟩ : ∃ fewer, room = fewer + 1 := ⟨room - 1, by omega⟩
    exact ⟨fewer, _, close, rest, rfl,
      (inside fewer _).mpr ⟨other, same, dates, Nat.le_of_succ_le_succ enough, fits, rfl⟩,
      rfl, closes, rfl⟩

/-- The outcome of two readings joined. -/
theorem Outcome.joined_iff {join : Expr → Expr → Expr}
    (height : ∀ left right, (join left right).height = max left.height right.height + 1)
    {leftBack : Option Expr} {leftLegible : Prop} {leftOpened : Nat} (between : List Located) :
    (∃ first second, Outcome leftBack leftLegible leftOpened room between first ∧
      Outcome back legible opened room rest second ∧
      max first.height second.height + 1 ≤ maxDepth ∧ result = joined join first second) ↔
      Outcome (leftBack.bind fun left => back.map (join left)) (leftLegible ∧ legible)
        (max leftOpened opened) room rest result := by
  simp only [Outcome, Option.bind_eq_some_iff, Option.map_eq_some_iff]
  constructor
  · rintro ⟨_, _, ⟨left, rfl, first, roomLeft, -, rfl⟩, ⟨right, rfl, second, roomRight, -, rfl⟩,
      fits, rfl⟩
    refine ⟨join left right, ⟨left, rfl, right, rfl, rfl⟩, ⟨first, second⟩,
      Nat.max_le.mpr ⟨roomLeft, roomRight⟩, ?_, ?_⟩
    · rw [height]
      exact fits
    · rw [height]
      rfl
  · rintro ⟨_, ⟨left, rfl, right, rfl, rfl⟩, ⟨first, second⟩, enough, fits, rfl⟩
    have rooms := Nat.max_le.mp enough
    rw [height] at fits ⊢
    exact ⟨_, _, ⟨left, rfl, first, rooms.1, by omega, rfl⟩,
      ⟨right, rfl, second, rooms.2, by omega, rfl⟩, fits, rfl⟩

/-- The outcome of hanging `NOT`s and what they bind to. -/
theorem readOperand_hanging_outcome {expr : Expr} {here : List Located}
    (hanging : expr.isHanging = true) (spelled : here.map Located.token = expr.tokens)
    (read : ∀ fewer inner, readOperand stop fewer tokens = .ok inner ↔
      Outcome back legible opened fewer rest inner) :
    readOperand stop room (here ++ tokens) = .ok result ↔
      Outcome (back.map expr.onto) legible (expr.opened + opened) room rest result := by
  rw [Expr.readOperand_hanging hanging spelled]
  simp only [read, Outcome, Option.map_eq_some_iff]
  constructor
  · rintro ⟨fewer, _, rfl, ⟨other, same, dates, enough, -, rfl⟩, fits, rfl⟩
    refine ⟨_, ⟨other, same, rfl⟩, dates, by omega, ?_, ?_⟩ <;> rw [Expr.height_onto hanging]
    exact fits
  · rintro ⟨_, ⟨other, same, rfl⟩, dates, enough, fits, rfl⟩
    rw [Expr.height_onto hanging] at fits ⊢
    exact ⟨room - expr.opened, _, by omega, ⟨other, same, dates, by omega, by omega, rfl⟩, fits,
      rfl⟩

end Outcome

end Reading

namespace Expr

/-- Every date in the expression can be read back. -/
def IsLegible (expr : Expr) : Prop := ∀ q ∈ expr.qualifiers, q.IsLegible

instance (expr : Expr) : Decidable expr.IsLegible :=
  inferInstanceAs (Decidable (∀ q ∈ expr.qualifiers, q.IsLegible))

theorem isLegible_of_isHanging {expr : Expr} (hanging : expr.isHanging = true) :
    expr.IsLegible := by
  intro q member
  rw [qualifiers_of_isHanging hanging] at member
  cases member

theorem isLegible_and (left right : Expr) :
    (left.and right).IsLegible = (left.IsLegible ∧ right.IsLegible) :=
  propext List.forall_mem_append

theorem isLegible_or (left right : Expr) :
    (left.or right).IsLegible = (left.IsLegible ∧ right.IsLegible) :=
  propext List.forall_mem_append

/-- In front of `rest` the tokens `here` are read with the outcome that the expression foretells,
whatever the room. -/
def ReadAs (stop : Nat) (here rest : List Located) (expr : Expr) : Prop :=
  ∀ room result, readOperand stop room (here ++ rest) = .ok result ↔
    Outcome expr.reread expr.IsLegible expr.opened room rest result

section ReadAs

variable {stop : Nat} {ls rs here rest : List Located} {expr operand left right : Expr}
  {located bracket operator close : Located}

theorem readAs_qualifier {q : Qualifier} (typed : q.isTyped = true)
    (token : located.token = q.token) : ReadAs stop [located] rest (.qualifier q) := by
  intro room result
  obtain ⟨-, notNegation, notBracket⟩ := q.token_operand
  have leaf (other : Qualifier) : located.token.leaf? = some other ↔ q.IsLegible ∧ other = q := by
    rw [token]
    exact Qualifier.leaf?_token_iff typed
  have legible : (Expr.qualifier q).IsLegible ↔ q.IsLegible := List.forall_mem_singleton
  rw [List.singleton_append, readOperand_eq_ok_iff]
  constructor
  · rintro (⟨other, spells, rfl⟩ | ⟨negation, -⟩ | ⟨bracket, -⟩)
    · obtain ⟨dates, rfl⟩ := (leaf other).mp spells
      exact ⟨_, rfl, legible.mpr dates, Nat.zero_le _, by show 1 ≤ 256; omega, rfl⟩
    · exact absurd (token.symm.trans negation) notNegation
    · exact absurd (token.symm.trans bracket) notBracket
  · rintro ⟨_, back, dates, -, -, rfl⟩
    cases back
    exact .inl ⟨q, (leaf q).mpr ⟨legible.mp dates, rfl⟩, rfl⟩

theorem ReadAs.not (inner : ReadAs stop here rest operand) (negation : located.token = .not) :
    ReadAs stop (located :: here) rest operand.not := by
  intro room result
  rw [List.cons_append, readOperand_not negation]
  constructor
  · rintro ⟨fewer, reading, rfl, read, fits, rfl⟩
    obtain ⟨other, back, legible, enough, -, rfl⟩ := (inner fewer reading).mp read
    exact ⟨other.not, by simp [reread, back], legible, Nat.succ_le_succ enough, fits, rfl⟩
  · rintro ⟨_, back, legible, enough, fits, rfl⟩
    obtain ⟨other, same, rfl⟩ := Option.map_eq_some_iff.mp back
    simp only [opened, height] at enough fits ⊢
    refine ⟨room - 1, ⟨other, other.height, rest⟩, by omega, ?_, fits, rfl⟩
    exact (inner _ _).mpr ⟨other, same, legible, by omega, by omega, rfl⟩

/-- In front of no operand hanging `NOT`s are read as nothing. -/
theorem readAs_of_blocked (spelled : here.map Located.token = expr.tokens)
    (blocked : ∀ room result, readOperand stop room rest ≠ .ok result)
    (solid : expr.isHanging = false → ReadAs stop here rest expr) : ReadAs stop here rest expr := by
  cases hanging : expr.isHanging with
  | false => exact solid hanging
  | true =>
      intro room result
      rw [readOperand_hanging hanging spelled]
      simp [blocked, Outcome, reread_of_isHanging hanging]

theorem blocked_of_closing (closes : close.token = .closing) (rest : List Located) (room : Nat)
    (result : Reading) : readOperand stop room (close :: rest) ≠ .ok result :=
  readOperand_of_not_beginsOperand (by rw [closes]; rfl) result

/-- A conjunction in brackets.  A hanging left operand binds to the right one, and an empty right
operand leaves the left one alone. -/
theorem readAs_and (opens : bracket.token = .opening) (closes : close.token = .closing)
    (lefts : ls.map Located.token = left.tokens) (rights : rs.map Located.token = right.tokens)
    (first : left.isHanging = false → ∀ between, ReadAs stop ls between left)
    (second : ReadAs stop rs (close :: rest) right) :
    ReadAs stop (bracket :: (ls ++ (rs ++ [close]))) rest (left.and right) := by
  intro room result
  simp only [List.cons_append, List.append_assoc, List.nil_append, isLegible_and, reread, opened]
  cases hanging : left.isHanging with
  | true =>
      simp only [isLegible_of_isHanging hanging, true_and, if_true]
      apply readOperand_bracketed opens closes
      intro fewer inner
      have whole (inner : Reading) :
          readOperand stop fewer (ls ++ (rs ++ close :: rest)) = .ok inner ↔
            Outcome (right.reread.map left.onto) right.IsLegible (left.opened + right.opened) fewer
              (close :: rest) inner :=
        readOperand_hanging_outcome hanging lefts second
      -- both operands are one operand of the text: nothing is left for the conjunction to join
      rw [readDisjunction_single (readOperand_consumes stop fewer), whole]
      exact fun alone read => ((whole alone).mp read).stops closes
  | false =>
      have first := first hanging
      simp only [Bool.false_eq_true, if_false]
      cases absent : right.isEmpty with
      | true =>
          obtain rfl := isEmpty_iff.mp absent
          obtain rfl := List.map_eq_nil_iff.mp rights
          have dates : empty.IsLegible := isLegible_of_isHanging rfl
          simp only [dates, and_true, if_true, opened, Nat.max_zero]
          apply readOperand_bracketed opens closes
          intro fewer inner
          rw [List.nil_append, readDisjunction_single (readOperand_consumes stop fewer),
            first (close :: rest)]
          exact fun alone read => ((first _ fewer alone).mp read).stops closes
      | false =>
          simp only [Bool.false_eq_true, if_false]
          apply readOperand_bracketed opens closes
          intro fewer inner
          have next (alone : Reading)
              (read : readOperand stop fewer (ls ++ (rs ++ close :: rest)) = .ok alone) :
              nextConjunct alone.rest = some (rs ++ close :: rest) := by
            rw [((first _ fewer alone).mp read).rest_eq]
            exact nextConjunct_of_present absent rights _
          rw [readDisjunction_and (readOperand_consumes stop fewer) next
              fun last read => ((second fewer last).mp read).stops closes,
            ← Outcome.joined_iff (fun _ _ => rfl) (rs ++ close :: rest)]
          simp only [first (rs ++ close :: rest) fewer, second fewer]

/-- A disjunction in brackets. -/
theorem readAs_or (opens : bracket.token = .opening) (operates : operator.token = .or)
    (closes : close.token = .closing)
    (first : ReadAs stop ls (operator :: (rs ++ close :: rest)) left)
    (second : ReadAs stop rs (close :: rest) right) :
    ReadAs stop (bracket :: (ls ++ operator :: (rs ++ [close]))) rest (left.or right) := by
  intro room result
  simp only [List.cons_append, List.append_assoc, List.nil_append, isLegible_or, reread, opened]
  apply readOperand_bracketed opens closes
  intro fewer inner
  have next (alone : Reading)
      (read : readOperand stop fewer (ls ++ operator :: (rs ++ close :: rest)) = .ok alone) :
      nextConjunct alone.rest = none ∧ nextDisjunct alone.rest = some (rs ++ close :: rest) := by
    rw [((first fewer alone).mp read).rest_eq]
    simp [nextConjunct, nextDisjunct, operates, Token.beginsOperand]
  rw [readDisjunction_or (readOperand_consumes stop fewer) next
      fun last read => ((second fewer last).mp read).stops closes,
    ← Outcome.joined_iff (fun _ _ => rfl) (operator :: (rs ++ close :: rest))]
  simp only [first fewer, second fewer]

/-- Anything but a hanging expression is an operand and read back as a whole. -/
theorem readAs_of_solid (solid : expr.isHanging = false)
    (typed : ∀ q ∈ expr.qualifiers, q.isTyped = true)
    (spelled : here.map Located.token = expr.tokens) (rest : List Located) :
    ReadAs stop here rest expr := by
  -- An operand may hang though the expression does not: it then says nothing by itself, and what
  -- stands after it decides.
  induction expr generalizing here rest with
  | empty => cases solid
  | qualifier q =>
      obtain ⟨located, rfl, token⟩ := List.map_eq_singleton_iff.mp spelled
      exact readAs_qualifier (typed q (by simp [qualifiers])) token
  | not operand ih =>
      obtain ⟨located, more, rfl, negation, spelled⟩ := List.map_eq_cons_iff.mp spelled
      exact (ih solid typed spelled rest).not negation
  | and left right ihl ihr =>
      obtain ⟨bracket, _, rfl, opens, spelled⟩ := List.map_eq_cons_iff.mp spelled
      obtain ⟨ls, _, rfl, lefts, spelled⟩ := List.map_eq_append_iff.mp spelled
      obtain ⟨rs, _, rfl, rights, spelled⟩ := List.map_eq_append_iff.mp spelled
      obtain ⟨close, rfl, closes⟩ := List.map_eq_singleton_iff.mp spelled
      have typed := List.forall_mem_append.mp typed
      have second : ReadAs stop rs (close :: rest) right :=
        readAs_of_blocked rights (blocked_of_closing closes rest) fun solid =>
          ihr solid typed.2 rights (close :: rest)
      exact readAs_and opens closes lefts rights (fun solid => ihl solid typed.1 lefts) second
  | or left right ihl ihr =>
      obtain ⟨bracket, _, rfl, opens, spelled⟩ := List.map_eq_cons_iff.mp spelled
      obtain ⟨ls, _, rfl, lefts, spelled⟩ := List.map_eq_append_iff.mp spelled
      obtain ⟨operator, _, rfl, operates, spelled⟩ := List.map_eq_cons_iff.mp spelled
      obtain ⟨rs, _, rfl, rights, spelled⟩ := List.map_eq_append_iff.mp spelled
      obtain ⟨close, rfl, closes⟩ := List.map_eq_singleton_iff.mp spelled
      have typed := List.forall_mem_append.mp typed
      have stray (room : Nat) (result : Reading) :
          readOperand stop room (operator :: (rs ++ close :: rest)) ≠ .ok result :=
        readOperand_of_not_beginsOperand (by rw [operates]; rfl) result
      have first : ReadAs stop ls (operator :: (rs ++ close :: rest)) left :=
        readAs_of_blocked lefts stray fun solid => ihl solid typed.1 lefts _
      have second : ReadAs stop rs (close :: rest) right :=
        readAs_of_blocked rights (blocked_of_closing closes rest) fun solid =>
          ihr solid typed.2 rights (close :: rest)
      exact readAs_or opens operates closes first second

end ReadAs

/-- What the canonical text of an expression is read back as, for every tree of qualifiers whose
literals have the types of their kinds and whose texts hold no quote. -/
theorem read_text_eq_ok_iff {expr other : Expr} (typed : ∀ q ∈ expr.qualifiers, q.isTyped = true)
    (quotable : expr.IsQuotable) :
    read expr.text = .ok other ↔ expr.reread = some other ∧ expr.IsLegible ∧
      expr.opened ≤ maxDepth ∧ other.height ≤ maxDepth := by
  obtain ⟨located, scanned, spelled⟩ := ofText_text quotable
  have whole (stop : Nat) (result : Reading) :
      readOperand stop maxDepth located = .ok result ↔
        Outcome expr.reread expr.IsLegible expr.opened maxDepth [] result := by
    rw [← List.append_nil located]
    have operand : ReadAs stop located [] expr :=
      readAs_of_blocked spelled (readOperand_nil stop) fun solid =>
        readAs_of_solid solid typed spelled []
    exact operand maxDepth result
  have single (stop : Nat) (result : Reading) :
      readDisjunction stop (readOperand stop maxDepth) located = .ok result ↔
        Outcome expr.reread expr.IsLegible expr.opened maxDepth [] result := by
    rw [readDisjunction_single (readOperand_consumes stop maxDepth), whole]
    intro first read
    rw [((whole stop first).mp read).rest_eq]
    exact stops_nil
  rw [read, scanned]
  dsimp only
  simp only [ofTokens_eq_ok_iff, single]
  constructor
  · rintro ⟨_, ⟨other, back, legible, enough, fits, rfl⟩, -, rfl⟩
    exact ⟨back, legible, enough, fits⟩
  · rintro ⟨back, legible, enough, fits⟩
    exact ⟨_, ⟨other, back, legible, enough, fits, rfl⟩, rfl, rfl⟩

end Expr

end Triage
