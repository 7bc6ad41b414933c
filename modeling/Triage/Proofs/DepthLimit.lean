/-
# Triage.Proofs.DepthLimit -- what spells an expression is read, or is too deep

The grammar without limits says which tokens spell which expression (`Spells`).  Reading such tokens
can go wrong in one way only: too much is open at once, or an operator would be too high.  As in
`Derives.readsOn` a chain of operands is followed through every way to go on; here `goOn` is what
the rest of the chain makes of the operands so far, so that a refusal further on is a refusal of the
whole (`UnlessTooDeep.trans`).  Main statement: `ofTokens_of_spells`, with limits that speak of the
tokens and the tree alone (`WithinLimits`).
-/
import Triage.Proofs.GrammarReading

namespace Triage

open Triage.Reading

set_option autoImplicit false

namespace Reading

/-- The outcome is the expected one, unless something is too deep. -/
def UnlessTooDeep {α : Type} (outcome expected : Except ReadError α) : Prop :=
  outcome = expected ∨ ∃ position, outcome = .error (.tooDeep position)

theorem UnlessTooDeep.trans {α : Type} {first second third : Except ReadError α}
    (before : UnlessTooDeep first second) (after : UnlessTooDeep second third) :
    UnlessTooDeep first third := by
  rcases before with rfl | deep
  · exact after
  · exact .inr deep

/-- The height of an operator fits, or it is too deep. -/
theorem unlessTooDeep_joinHeight (left right position : Nat) :
    UnlessTooDeep (joinHeight left right position) (.ok (max left right + 1)) := by
  unfold joinHeight
  split
  · exact .inl rfl
  · exact .inr ⟨position, rfl⟩

/-! ## Going on -/

section GoOn

variable {stop : Nat} {next : List Located → Option (List Located)} {join : Expr → Expr → Expr}
  {operand : Reader}

/-- What a chain makes of the operands so far and of all that follow. -/
def goOn (stop : Nat) (next : List Located → Option (List Located)) (join : Expr → Expr → Expr)
    (operand : Reader) (left : Reading) : Except ReadError Reading :=
  extend stop next join operand left.rest.length left

/-- A step more than there are tokens makes no difference. -/
theorem extend_succ (advances : Advances next) (consumes : Consumes operand) {steps : Nat}
    {left : Reading} (enough : left.rest.length ≤ steps) :
    extend stop next join operand (steps + 1) left = extend stop next join operand steps left := by
  induction steps generalizing left with
  | zero =>
      have none_ : next left.rest = none := by
        rw [List.eq_nil_of_length_eq_zero (Nat.le_zero.mp enough), advances.nil]
      simp only [extend, none_]
  | succ steps ih =>
      rw [extend, extend]
      cases found : next left.rest with
      | none => rfl
      | some tokens =>
          dsimp only
          cases read : operand tokens with
          | error e => rfl
          | ok right =>
              have fewer := advances.length_le found
              have taken := consumes _ _ read
              dsimp only
              cases joinHeight left.height right.height (positionOf stop tokens) with
              | error e => rfl
              | ok height => exact ih (by dsimp only; omega)

theorem extend_eq_goOn (advances : Advances next) (consumes : Consumes operand) {steps : Nat}
    {left : Reading} (enough : left.rest.length ≤ steps) :
    extend stop next join operand steps left = goOn stop next join operand left := by
  induction enough with
  | refl => rfl
  | step enough ih => rw [extend_succ advances consumes enough, ih]

theorem goOn_of_none {left : Reading} (none_ : next left.rest = none) :
    goOn stop next join operand left = .ok left := by
  rw [goOn]
  cases left.rest.length with
  | zero => rfl
  | succ steps => simp only [extend, none_]

/-- A chain goes on with one more operand, unless that operand or the operator is too deep. -/
theorem unlessTooDeep_goOn (advances : Advances next) (consumes : Consumes operand)
    {left right : Reading} {tokens : List Located} (found : next left.rest = some tokens)
    (read : UnlessTooDeep (operand tokens) (.ok right)) :
    UnlessTooDeep (goOn stop next join operand left)
      (goOn stop next join operand (joined join left right)) := by
  have fewer := advances.length_le found
  obtain ⟨steps, count⟩ : ∃ steps, left.rest.length = steps + 1 := by
    cases rest : left.rest with
    | nil => simp [rest, advances.nil] at found
    | cons located more => exact ⟨more.length, rfl⟩
  rw [goOn, count, extend, found]
  dsimp only
  rcases read with read | ⟨position, deep⟩
  · have taken := consumes _ _ read
    rw [read]
    dsimp only
    rcases unlessTooDeep_joinHeight left.height right.height (positionOf stop tokens) with
      fits | ⟨position, tall⟩
    · rw [fits]
      have enough : (joined join left right).rest.length ≤ steps := by
        simp only [joined]
        omega
      exact .inl (extend_eq_goOn advances consumes enough)
    · rw [tall]
      exact .inr ⟨position, rfl⟩
  · rw [deep]
    exact .inr ⟨position, rfl⟩

theorem unlessTooDeep_chain {tokens : List Located} {first : Reading}
    (read : UnlessTooDeep (operand tokens) (.ok first)) :
    UnlessTooDeep (chain stop next join operand tokens) (goOn stop next join operand first) := by
  rw [chain]
  rcases read with read | ⟨position, deep⟩
  · rw [read]
    exact .inl rfl
  · rw [deep]
    exact .inr ⟨position, rfl⟩

end GoOn

/-! ## Operands -/

section Operand

variable {stop room : Nat} {located : Located} {rest : List Located} {expr : Expr}

theorem unlessTooDeep_not (negation : located.token = .not) {after : List Located}
    (read : ∀ fewer, UnlessTooDeep (readOperand stop fewer rest) (.ok (complete expr after))) :
    UnlessTooDeep (readOperand stop room (located :: rest)) (.ok (complete expr.not after)) := by
  cases room with
  | zero => exact .inr ⟨located.position, by simp [readOperand, negation]⟩
  | succ fewer =>
      simp only [readOperand, negation]
      rcases read fewer with read | ⟨position, deep⟩
      · rw [read]
        rcases unlessTooDeep_joinHeight expr.height 0 located.position with fits | ⟨position, tall⟩
        · exact .inl (by simp only [complete, fits, Expr.height, Nat.max_zero])
        · exact .inr ⟨position, by simp only [complete, tall]⟩
      · exact .inr ⟨position, by simp only [deep]⟩

theorem unlessTooDeep_brackets (opens : located.token = .opening) {close : Located}
    (closes : close.token = .closing) {after : List Located}
    (read : ∀ fewer, UnlessTooDeep (readDisjunction stop (readOperand stop fewer) rest)
      (.ok (complete expr (close :: after)))) :
    UnlessTooDeep (readOperand stop room (located :: rest)) (.ok (complete expr after)) := by
  cases room with
  | zero => exact .inr ⟨located.position, by simp [readOperand, opens]⟩
  | succ fewer =>
      simp only [readOperand, opens]
      rcases read fewer with read | ⟨position, deep⟩
      · exact .inl (by simp only [read, complete, closes, if_true])
      · exact .inr ⟨position, by simp only [deep]⟩

end Operand

/-- In front of any `rest` the tokens are read as the phrase that spells the expression, unless they
are too deep. -/
def ReadsUnlessTooDeep (stop : Nat) (phrase : Phrase) (room : Nat) (tokens : List Token)
    (expr : Expr) : Prop :=
  ∀ here : List Located, here.map Located.token = tokens → ∀ rest : List Located,
    match phrase with
    | .operand =>
        UnlessTooDeep (readOperand stop room (here ++ rest)) (.ok (complete expr rest))
    | .conjunction =>
        UnlessTooDeep (readConjunction stop (readOperand stop room) (here ++ rest))
          (goOn stop nextConjunct .and (readOperand stop room) (complete expr rest))
    | .disjunction =>
        nextConjunct rest = none →
          UnlessTooDeep (readDisjunction stop (readOperand stop room) (here ++ rest))
            (goOn stop nextDisjunct .or (readConjunction stop (readOperand stop room))
              (complete expr rest))

section Complete

variable {stop room : Nat} {tokens : List Token} {expr : Expr} {here rest : List Located}

/-- A conjunction is over where no conjunct follows. -/
theorem ReadsUnlessTooDeep.readConjunction_eq
    (reads : ReadsUnlessTooDeep stop .conjunction room tokens expr)
    (spelled : here.map Located.token = tokens) (none_ : nextConjunct rest = none) :
    UnlessTooDeep (readConjunction stop (readOperand stop room) (here ++ rest))
      (.ok (complete expr rest)) := by
  have read := reads here spelled rest
  rwa [goOn_of_none none_] at read

/-- A disjunction is over where neither a conjunct nor a disjunct follows. -/
theorem ReadsUnlessTooDeep.readDisjunction_eq
    (reads : ReadsUnlessTooDeep stop .disjunction room tokens expr)
    (spelled : here.map Located.token = tokens) (stops : Stops rest) :
    UnlessTooDeep (readDisjunction stop (readOperand stop room) (here ++ rest))
      (.ok (complete expr rest)) := by
  have read := reads here spelled rest stops.1
  rwa [goOn_of_none stops.2] at read

end Complete

end Reading

/-- Whatever is derived is read in any room, unless it is too deep. -/
theorem Derives.readsUnlessTooDeep {phrase : Phrase} {taken : Nat} {tokens : List Token}
    {expr : Expr} (derived : Derives phrase taken tokens expr) (stop room : Nat) :
    ReadsUnlessTooDeep stop phrase room tokens expr := by
  induction derived generalizing room with
  | leaf leaf =>
      intro here spelled rest
      obtain ⟨located, rfl, rfl⟩ := List.map_eq_singleton_iff.mp spelled
      exact .inl (readOperand_eq_ok_iff.mpr (.inl ⟨_, leaf, rfl⟩))
  | not _ ih =>
      intro here spelled rest
      obtain ⟨located, more, rfl, negation, spelled⟩ := List.map_eq_cons_iff.mp spelled
      exact unlessTooDeep_not negation fun fewer => ih fewer more spelled rest
  | brackets _ ih =>
      intro here spelled rest
      obtain ⟨bracket, _, rfl, opens, spelled⟩ := List.map_eq_cons_iff.mp spelled
      obtain ⟨inside, _, rfl, held, last⟩ := List.map_eq_append_iff.mp spelled
      obtain ⟨close, rfl, closes⟩ := List.map_eq_singleton_iff.mp last
      rw [List.cons_append, List.append_assoc]
      exact unlessTooDeep_brackets opens closes fun fewer =>
        (ih fewer).readDisjunction_eq held (stops_of_closing closes rest)
  | conjunct _ ih =>
      intro here spelled rest
      exact unlessTooDeep_chain (ih room here spelled rest)
  | @and _ ls rs left right _ _ ihl ihr =>
      intro here spelled rest
      obtain ⟨before, _, rfl, lefts, spelled⟩ := List.map_eq_append_iff.mp spelled
      obtain ⟨operator, after, rfl, joins, rights⟩ := List.map_eq_cons_iff.mp spelled
      rw [List.append_assoc, List.cons_append]
      have first := ihl room before lefts (operator :: (after ++ rest))
      exact first.trans (unlessTooDeep_goOn nextConjunct_advances (readOperand_consumes stop room)
        (nextConjunct_of_and joins) (ihr room after rights rest))
  | @juxtaposed _ ls rs left right _ second ihl ihr =>
      intro here spelled rest
      obtain ⟨before, after, rfl, lefts, rights⟩ := List.map_eq_append_iff.mp spelled
      rw [List.append_assoc]
      have first := ihl room before lefts (after ++ rest)
      exact first.trans (unlessTooDeep_goOn nextConjunct_advances (readOperand_consumes stop room)
        (second.nextConjunct_eq rights rest) (ihr room after rights rest))
  | disjunct _ ih =>
      intro here spelled rest none_
      exact unlessTooDeep_chain ((ih room).readConjunction_eq spelled none_)
  | @or _ ls rs left right _ _ ihl ihr =>
      intro here spelled rest none_
      obtain ⟨before, _, rfl, lefts, spelled⟩ := List.map_eq_append_iff.mp spelled
      obtain ⟨operator, after, rfl, joins, rights⟩ := List.map_eq_cons_iff.mp spelled
      rw [List.append_assoc, List.cons_append]
      have first := ihl room before lefts (operator :: (after ++ rest))
        (nextConjunct_of_or joins)
      exact first.trans (unlessTooDeep_goOn nextDisjunct_advances
        (readConjunction_consumes (readOperand_consumes stop room)) (nextDisjunct_of_or joins)
        ((ihr room).readConjunction_eq rights none_))

/-- No more than `maxDepth` `NOT`s and brackets are ever open, and the expression is no higher than
that. -/
def WithinLimits (tokens : List Token) (expr : Expr) : Prop :=
  Mark.Within maxDepth [] tokens ∧ expr.height ≤ maxDepth

instance (tokens : List Token) (expr : Expr) : Decidable (WithinLimits tokens expr) :=
  inferInstanceAs (Decidable (_ ∧ _))

namespace Expr

variable {stop : Nat} {tokens : List Located} {expr : Expr}

/-- Tokens that spell an expression are read as that expression, unless they are too deep. -/
theorem unlessTooDeep_ofTokens (spells : Spells (tokens.map Located.token) expr) :
    UnlessTooDeep (ofTokens stop tokens) (.ok expr) := by
  obtain ⟨_, derived⟩ := spells
  have read := (derived.readsUnlessTooDeep stop maxDepth).readDisjunction_eq rfl stops_nil
  rw [List.append_nil] at read
  rcases read with read | ⟨position, deep⟩
  · exact .inl (ofTokens_eq_ok_iff.mpr ⟨_, read, rfl, rfl⟩)
  · refine .inr ⟨position, ?_⟩
    cases tokens with
    | nil => exact absurd rfl derived.ne_nil
    | cons located rest =>
        rw [ofTokens.eq_2 stop (located :: rest) (by simp), deep]

/-- Within the limits they are read as the expression, and beyond them they are too deep. -/
theorem ofTokens_of_spells (spells : Spells (tokens.map Located.token) expr) :
    (WithinLimits (tokens.map Located.token) expr → ofTokens stop tokens = .ok expr) ∧
    (¬ WithinLimits (tokens.map Located.token) expr →
      ∃ position, ofTokens stop tokens = .error (.tooDeep position)) := by
  have read : ofTokens stop tokens = .ok expr ↔ WithinLimits (tokens.map Located.token) expr := by
    rw [ofTokens_eq_ok_iff_derives, derives_iff_spells_and_within, and_assoc]
    exact and_iff_right spells
  exact ⟨read.mpr, fun deep => (unlessTooDeep_ofTokens spells).resolve_left (deep ∘ read.mp)⟩

end Expr

end Triage
