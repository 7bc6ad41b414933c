/-
# Triage.Proofs.GrammarReading -- reading accepts exactly the grammar

What is read is derived (`Triage.Proofs.Grammar`).  Here is the other direction: whatever tokens a
phrase of the grammar derives are read as the expression they derive, and the reading stops behind
them (`Derives.readsOn`).  An operand needs to know nothing of what follows it.  A chain of operands
goes on as long as it can, so its claim is about every way to go on (`Reaches`), and a disjunction
must not be followed by another conjunct.  Main statement: `read_eq_ok_iff`, a text is read as an
expression exactly if its tokens spell it, no more than `maxDepth` `NOT`s and brackets are ever
open, and the expression is no higher than that.
-/
import Triage.Proofs.OpenMarks

namespace Triage

open Triage.Reading

set_option autoImplicit false

/-- No phrase is empty. -/
theorem Derives.ne_nil {phrase : Phrase} {room : Nat} {tokens : List Token} {expr : Expr}
    (derived : Derives phrase room tokens expr) : tokens ≠ [] := by
  induction derived with
  | leaf | not | brackets => exact List.cons_ne_nil _ _
  | conjunct _ ih | disjunct _ ih => exact ih
  | and _ _ ihl | juxtaposed _ _ ihl | or _ _ ihl => exact List.append_ne_nil_of_left_ne_nil ihl _

theorem Spells.ne_nil {tokens : List Token} {expr : Expr} (spells : Spells tokens expr) :
    tokens ≠ [] := by
  obtain ⟨_, derived⟩ := spells
  exact derived.ne_nil

/-- An operand does not begin with an operator between operands, nor with a closing bracket. -/
theorem Derives.beginsOperand {room : Nat} {tokens : List Token} {expr : Expr}
    (derived : Derives .operand room tokens expr) :
    ∃ token more, tokens = token :: more ∧ token.beginsOperand = true := by
  cases derived with
  | @leaf _ token _ leaf =>
      refine ⟨token, [], rfl, ?_⟩
      cases token with
      | word | quoted | qualifier => rfl
      | opening | closing | and | or | not => cases leaf
  | not => exact ⟨.not, _, rfl, rfl⟩
  | brackets => exact ⟨.opening, _, rfl, rfl⟩

/-- An operand that stands at once shows itself by its first token. -/
theorem Derives.nextConjunct_eq {room : Nat} {tokens : List Token} {expr : Expr}
    (derived : Derives .operand room tokens expr) {here : List Located}
    (spelled : here.map Located.token = tokens) (rest : List Located) :
    nextConjunct (here ++ rest) = some (here ++ rest) := by
  obtain ⟨token, more, rfl, begins⟩ := derived.beginsOperand
  obtain ⟨located, others, rfl, rfl, -⟩ := List.map_eq_cons_iff.mp spelled
  exact nextConjunct_of_beginsOperand begins

namespace Reading

/-- An expression with its own height, and the tokens after it. -/
def complete (expr : Expr) (rest : List Located) : Reading := ⟨expr, expr.height, rest⟩

section Reaches

variable {next : List Located → Option (List Located)} {join : Expr → Expr → Expr}
  {operand : Reader}

/-- A run of operands that begins with `first` gets to `here`: every way to go on from `here` is a
way to go on from `first`. -/
def Reaches (next : List Located → Option (List Located)) (join : Expr → Expr → Expr)
    (operand : Reader) (first here : Reading) : Prop :=
  ∀ result, Extends next join operand here result → Extends next join operand first result

theorem reaches_self (first : Reading) : Reaches next join operand first first := fun _ run => run

/-- One more operand behind those of a run. -/
theorem Reaches.more {first left right : Reading} {tokens : List Located}
    (reaches : Reaches next join operand first left) (found : next left.rest = some tokens)
    (read : operand tokens = .ok right) (fits : max left.height right.height + 1 ≤ maxDepth) :
    Reaches next join operand first (joined join left right) :=
  fun _ run => reaches _ (.more found read fits run)

/-- Where no further operand is found the run is over. -/
theorem Reaches.extends {first here : Reading} (reaches : Reaches next join operand first here)
    (none_ : next here.rest = none) : Extends next join operand first here :=
  reaches here (.done none_)

end Reaches

/-- In front of any `rest` the tokens are read as the phrase that spells the expression. -/
def ReadsOn (stop : Nat) (phrase : Phrase) (room : Nat) (tokens : List Token) (expr : Expr) :
    Prop :=
  ∀ here : List Located, here.map Located.token = tokens → ∀ rest : List Located,
    match phrase with
    | .operand => readOperand stop room (here ++ rest) = .ok (complete expr rest)
    | .conjunction =>
        ∃ first, readOperand stop room (here ++ rest) = .ok first ∧
          Reaches nextConjunct .and (readOperand stop room) first (complete expr rest)
    | .disjunction =>
        nextConjunct rest = none →
          ∃ first, readConjunction stop (readOperand stop room) (here ++ rest) = .ok first ∧
            Reaches nextDisjunct .or (readConjunction stop (readOperand stop room)) first
              (complete expr rest)

section ReadsOn

variable {stop room : Nat} {tokens : List Token} {expr : Expr} {here rest : List Located}

/-- A conjunction is over where no conjunct follows. -/
theorem ReadsOn.readConjunction_eq (reads : ReadsOn stop .conjunction room tokens expr)
    (spelled : here.map Located.token = tokens) (none_ : nextConjunct rest = none) :
    readConjunction stop (readOperand stop room) (here ++ rest) = .ok (complete expr rest) := by
  obtain ⟨first, read, reaches⟩ := reads here spelled rest
  exact (readConjunction_eq_ok_iff (readOperand_consumes stop room)).mpr
    ⟨first, read, reaches.extends none_⟩

/-- A disjunction is over where neither a conjunct nor a disjunct follows. -/
theorem ReadsOn.readDisjunction_eq (reads : ReadsOn stop .disjunction room tokens expr)
    (spelled : here.map Located.token = tokens) (stops : Stops rest) :
    readDisjunction stop (readOperand stop room) (here ++ rest) = .ok (complete expr rest) := by
  obtain ⟨first, read, reaches⟩ := reads here spelled rest stops.1
  exact (readDisjunction_eq_ok_iff (readOperand_consumes stop room)).mpr
    ⟨first, read, reaches.extends stops.2⟩

end ReadsOn

end Reading

/-- Whatever is derived is read, if the expression is not too high. -/
theorem Derives.readsOn {phrase : Phrase} {room : Nat} {tokens : List Token} {expr : Expr}
    (derived : Derives phrase room tokens expr) (fits : expr.height ≤ maxDepth) (stop : Nat) :
    ReadsOn stop phrase room tokens expr := by
  induction derived with
  | leaf leaf =>
      intro here spelled rest
      obtain ⟨located, rfl, rfl⟩ := List.map_eq_singleton_iff.mp spelled
      exact readOperand_eq_ok_iff.mpr (.inl ⟨_, leaf, rfl⟩)
  | not _ ih =>
      intro here spelled rest
      obtain ⟨located, more, rfl, negation, spelled⟩ := List.map_eq_cons_iff.mp spelled
      have inner := ih (by simp only [Expr.height] at fits; omega) more spelled rest
      exact (readOperand_not negation).mpr ⟨_, _, rfl, inner, fits, rfl⟩
  | brackets _ ih =>
      intro here spelled rest
      obtain ⟨bracket, _, rfl, opens, spelled⟩ := List.map_eq_cons_iff.mp spelled
      obtain ⟨inside, _, rfl, held, last⟩ := List.map_eq_append_iff.mp spelled
      obtain ⟨close, rfl, closes⟩ := List.map_eq_singleton_iff.mp last
      have inner := (ih fits).readDisjunction_eq held (stops_of_closing closes rest)
      rw [List.cons_append, List.append_assoc]
      exact (readOperand_opening opens).mpr ⟨_, _, close, rest, rfl, inner, rfl, closes, rfl⟩
  | conjunct _ ih =>
      intro here spelled rest
      exact ⟨_, ih fits here spelled rest, reaches_self _⟩
  | @and room ls rs left right _ _ ihl ihr =>
      intro here spelled rest
      obtain ⟨before, _, rfl, lefts, spelled⟩ := List.map_eq_append_iff.mp spelled
      obtain ⟨operator, after, rfl, joins, rights⟩ := List.map_eq_cons_iff.mp spelled
      simp only [Expr.height] at fits
      rw [List.append_assoc, List.cons_append]
      obtain ⟨first, read, reaches⟩ :=
        ihl (by omega) before lefts (operator :: (after ++ rest))
      exact ⟨first, read,
        reaches.more (nextConjunct_of_and joins) (ihr (by omega) after rights rest) fits⟩
  | @juxtaposed room ls rs left right _ second ihl ihr =>
      intro here spelled rest
      obtain ⟨before, after, rfl, lefts, rights⟩ := List.map_eq_append_iff.mp spelled
      simp only [Expr.height] at fits
      rw [List.append_assoc]
      obtain ⟨first, read, reaches⟩ := ihl (by omega) before lefts (after ++ rest)
      exact ⟨first, read, reaches.more (second.nextConjunct_eq rights rest)
        (ihr (by omega) after rights rest) fits⟩
  | disjunct _ ih =>
      intro here spelled rest none_
      exact ⟨_, (ih fits).readConjunction_eq spelled none_, reaches_self _⟩
  | @or room ls rs left right _ _ ihl ihr =>
      intro here spelled rest none_
      obtain ⟨before, _, rfl, lefts, spelled⟩ := List.map_eq_append_iff.mp spelled
      obtain ⟨operator, after, rfl, joins, rights⟩ := List.map_eq_cons_iff.mp spelled
      simp only [Expr.height] at fits
      rw [List.append_assoc, List.cons_append]
      obtain ⟨first, read, reaches⟩ :=
        ihl (by omega) before lefts (operator :: (after ++ rest)) (nextConjunct_of_or joins)
      have second := (ihr (by omega)).readConjunction_eq rights none_
      exact ⟨first, read, reaches.more (nextDisjunct_of_or joins) second fits⟩

namespace Expr

variable {expr : Expr}

/-- A list of tokens is read as an expression exactly if it derives it within both limits. -/
theorem ofTokens_eq_ok_iff_derives {stop : Nat} {tokens : List Located} :
    ofTokens stop tokens = .ok expr ↔
      Derives .disjunction maxDepth (tokens.map Located.token) expr ∧ expr.height ≤ maxDepth := by
  constructor
  · exact derives_of_ofTokens
  · rintro ⟨derived, fits⟩
    have read := (derived.readsOn fits stop).readDisjunction_eq rfl stops_nil
    rw [List.append_nil] at read
    exact ofTokens_eq_ok_iff.mpr ⟨_, read, rfl, rfl⟩

/-- A text is read as an expression exactly if it is cut into tokens, at least one, that spell the
expression, no more than `maxDepth` `NOT`s and brackets are open at any point, and the expression is
no higher than `maxDepth`. -/
theorem read_eq_ok_iff {source : String} :
    read source = .ok expr ↔
      ∃ located, Token.ofText source = .ok located ∧ located ≠ [] ∧
        Spells (located.map Located.token) expr ∧
        Mark.Within maxDepth [] (located.map Located.token) ∧ expr.height ≤ maxDepth := by
  unfold read
  cases cut : Token.ofText source with
  | error e => simp
  | ok located =>
      simp only [Except.ok.injEq, exists_eq_left']
      rw [ofTokens_eq_ok_iff_derives, derives_iff_spells_and_within]
      constructor
      · rintro ⟨⟨spells, within⟩, fits⟩
        refine ⟨?_, spells, within, fits⟩
        rintro rfl
        exact spells.ne_nil rfl
      · rintro ⟨-, spells, within, fits⟩
        exact ⟨⟨spells, within⟩, fits⟩

end Expr

end Triage
