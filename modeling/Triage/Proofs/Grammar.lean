/-
# Triage.Proofs.Grammar -- the grammar of expressions

`Derives phrase room tokens expr` is the grammar: as an operand, a conjunction or a
disjunction, the tokens spell the expression, with no more than `room` `NOT`s and brackets open at
once.  Both operators take their operands from left to right, and brackets leave no trace in the
tree.  Main statement: `sound_readOperand` and its companions, whatever a reading takes derives the
expression it gives back, whose height it also tells.  What every derived expression has in common
follows by induction on the derivation: no empty expression stands in it, its qualifiers are those
of the tokens in their order, and every literal has the type of its kind.
-/
import Triage.Proofs.Descent
import Triage.Proofs.TokenForms

namespace Triage

open Triage.Text Triage.Reading

set_option autoImplicit false

/-- The phrases of the grammar, from the tightest to the loosest. -/
inductive Phrase where
  | operand
  | conjunction
  | disjunction
deriving DecidableEq

inductive Derives : Phrase → Nat → List Token → Expr → Prop
  | leaf {room : Nat} {token : Token} {q : Qualifier} :
      token.leaf? = some q → Derives .operand room [token] (.qualifier q)
  | not {room : Nat} {tokens : List Token} {expr : Expr} :
      Derives .operand room tokens expr → Derives .operand (room + 1) (.not :: tokens) (.not expr)
  | brackets {room : Nat} {tokens : List Token} {expr : Expr} :
      Derives .disjunction room tokens expr →
      Derives .operand (room + 1) (.opening :: (tokens ++ [.closing])) expr
  | conjunct {room : Nat} {tokens : List Token} {expr : Expr} :
      Derives .operand room tokens expr → Derives .conjunction room tokens expr
  | and {room : Nat} {ls rs : List Token} {left right : Expr} :
      Derives .conjunction room ls left → Derives .operand room rs right →
      Derives .conjunction room (ls ++ .and :: rs) (.and left right)
  | juxtaposed {room : Nat} {ls rs : List Token} {left right : Expr} :
      Derives .conjunction room ls left → Derives .operand room rs right →
      Derives .conjunction room (ls ++ rs) (.and left right)
  | disjunct {room : Nat} {tokens : List Token} {expr : Expr} :
      Derives .conjunction room tokens expr → Derives .disjunction room tokens expr
  | or {room : Nat} {ls rs : List Token} {left right : Expr} :
      Derives .disjunction room ls left → Derives .conjunction room rs right →
      Derives .disjunction room (ls ++ .or :: rs) (.or left right)

/-! ## Soundness -/

namespace Reading

/-- What the reader takes derives what it gives back, of the height it tells. -/
def Sound (phrase : Phrase) (room : Nat) (reader : Reader) : Prop :=
  ∀ tokens result, reader tokens = .ok result →
    ∃ used, tokens = used ++ result.rest ∧
      Derives phrase room (used.map Located.token) result.expr ∧
      result.height = result.expr.height ∧ result.height ≤ maxDepth

/-- The next operand stands at once or behind an operator, and joining it is a rule of the
grammar. -/
def Joins (outer inner : Phrase) (room : Nat) (next : List Located → Option (List Located))
    (join : Expr → Expr → Expr) : Prop :=
  (∀ left right, (join left right).height = max left.height right.height + 1) ∧
    ∀ tokens more, next tokens = some more → ∃ gap, tokens = gap ++ more ∧
      ∀ ls left rs right, Derives outer room ls left → Derives inner room rs right →
        Derives outer room (ls ++ (gap.map Located.token ++ rs)) (join left right)

theorem nextConjunct_joins (room : Nat) :
    Joins .conjunction .operand room nextConjunct .and := by
  refine ⟨fun _ _ => rfl, fun tokens more found => ?_⟩
  cases tokens with
  | nil => cases found
  | cons located rest =>
      rw [nextConjunct] at found
      split at found
      · next operator =>
          cases found
          refine ⟨[located], rfl, fun ls left rs right first second => ?_⟩
          simpa [operator] using first.and second
      · split at found
        · cases found
          exact ⟨[], rfl, fun ls left rs right first second => first.juxtaposed second⟩
        · cases found

theorem nextDisjunct_joins (room : Nat) :
    Joins .disjunction .conjunction room nextDisjunct .or := by
  refine ⟨fun _ _ => rfl, fun tokens more found => ?_⟩
  cases tokens with
  | nil => cases found
  | cons located rest =>
      rw [nextDisjunct] at found
      split at found
      · next operator =>
          cases found
          refine ⟨[located], rfl, fun ls left rs right first second => ?_⟩
          simpa [operator] using first.or second
      · cases found

/-- A sound operand makes a sound run: the induction keeps what stands before the run derived. -/
theorem Extends.sound {outer inner : Phrase} {room : Nat}
    {next : List Located → Option (List Located)} {join : Expr → Expr → Expr} {operand : Reader}
    (joins : Joins outer inner room next join) (sound : Sound inner room operand)
    {left result : Reading} (run : Extends next join operand left result)
    {before : List Located} (derived : Derives outer room (before.map Located.token) left.expr)
    (height : left.height = left.expr.height) (fits : left.height ≤ maxDepth) :
    ∃ used, left.rest = used ++ result.rest ∧
      Derives outer room ((before ++ used).map Located.token) result.expr ∧
      result.height = result.expr.height ∧ result.height ≤ maxDepth := by
  induction run generalizing before with
  | done => exact ⟨[], rfl, by simpa using derived, height, fits⟩
  | @more left right result tokens found read room_ _ ih =>
      obtain ⟨gap, split, rule⟩ := joins.2 _ _ found
      obtain ⟨used, same, second, rightHeight, -⟩ := sound _ _ read
      have longer : Derives outer room ((before ++ (gap ++ used)).map Located.token)
          (join left.expr right.expr) := by
        simpa using rule _ _ _ _ derived second
      obtain ⟨later, rest, whole, done⟩ := ih longer
        (by simp only [joined, joins.1, height, rightHeight]) room_
      refine ⟨gap ++ used ++ later, ?_, by simpa using whole, done⟩
      rw [split, same]
      simp only [joined] at rest
      simp [rest]

theorem sound_chain {outer inner : Phrase} {room stop : Nat}
    {next : List Located → Option (List Located)} {join : Expr → Expr → Expr} {operand : Reader}
    (advances : Advances next) (consumes : Consumes operand)
    (joins : Joins outer inner room next join)
    (lift : ∀ tokens expr, Derives inner room tokens expr → Derives outer room tokens expr)
    (sound : Sound inner room operand) : Sound outer room (chain stop next join operand) := by
  intro tokens result read
  obtain ⟨first, begun, run⟩ := (chain_eq_ok_iff advances consumes).mp read
  obtain ⟨used, same, derived, height, fits⟩ := sound _ _ begun
  obtain ⟨later, rest, whole, done⟩ := run.sound joins sound (lift _ _ derived) height fits
  exact ⟨used ++ later, by rw [same, rest, List.append_assoc], whole, done⟩

theorem sound_readConjunction {room stop : Nat} {operand : Reader} (consumes : Consumes operand)
    (sound : Sound .operand room operand) :
    Sound .conjunction room (readConjunction stop operand) :=
  sound_chain nextConjunct_advances consumes (nextConjunct_joins room) (fun _ _ => .conjunct) sound

theorem sound_readDisjunction {room stop : Nat} {operand : Reader} (consumes : Consumes operand)
    (sound : Sound .operand room operand) :
    Sound .disjunction room (readDisjunction stop operand) :=
  sound_chain nextDisjunct_advances (readConjunction_consumes consumes) (nextDisjunct_joins room)
    (fun _ _ => .disjunct) (sound_readConjunction consumes sound)

theorem sound_readOperand (stop room : Nat) : Sound .operand room (readOperand stop room) := by
  -- The induction is on the room: a `NOT` and a bracket leave less of it to what they hold.
  induction room using Nat.strongRecOn with
  | ind room ih =>
      intro tokens result read
      cases tokens with
      | nil => exact absurd read (readOperand_nil stop _ result)
      | cons located rest =>
          rcases readOperand_eq_ok_iff.mp read with ⟨q, leaf, rfl⟩ |
            ⟨negation, fewer, inner, rfl, done, fits, rfl⟩ |
            ⟨bracket, fewer, inner, close, after, rfl, done, left, closes, rfl⟩
          · exact ⟨[located], rfl, .leaf leaf, rfl, by show 1 ≤ 256; omega⟩
          · obtain ⟨used, split, derived, height, -⟩ := ih fewer (Nat.lt_succ_self fewer) _ _ done
            refine ⟨located :: used, by rw [split, List.cons_append], ?_, ?_, fits⟩
            · simpa [negation] using derived.not
            · simp only [Expr.height, height]
          · have sound := ih fewer (Nat.lt_succ_self fewer)
            obtain ⟨used, split, derived, height, fits⟩ :=
              sound_readDisjunction (readOperand_consumes stop _) sound _ _ done
            refine ⟨located :: (used ++ [close]), ?_, ?_, height, fits⟩
            · rw [split, left]
              simp
            · simpa [bracket, closes] using derived.brackets

end Reading

/-- An expression is read from tokens that derive it, within both limits. -/
theorem Expr.derives_of_ofTokens {stop : Nat} {tokens : List Located} {expr : Expr}
    (read : Expr.ofTokens stop tokens = .ok expr) :
    Derives .disjunction maxDepth (tokens.map Located.token) expr ∧ expr.height ≤ maxDepth := by
  obtain ⟨reading, done, left, rfl⟩ := Expr.ofTokens_eq_ok_iff.mp read
  obtain ⟨used, split, derived, height, fits⟩ :=
    sound_readDisjunction (readOperand_consumes stop _) (sound_readOperand stop _) _ _ done
  rw [left, List.append_nil] at split
  rw [split, ← height]
  exact ⟨derived, fits⟩

/-! ## The shape of what is derived -/

namespace Expr

/-- An empty expression stands somewhere in the tree. -/
def hasEmpty : Expr → Bool
  | .qualifier _ => false
  | .empty => true
  | .not operand => operand.hasEmpty
  | .and left right | .or left right => left.hasEmpty || right.hasEmpty

end Expr

/-- A literal that is read has the type of the kind, and its text, if it is one, is the value. -/
theorem Literal.shape_of_read {kind : Kind} {value : String} {literal : Literal}
    (read : Literal.read kind value = .ok literal) :
    literal.valueType = kind.valueType ∧ ∀ text, literal.text? = some text → text = value := by
  unfold Literal.read at read
  split at read
  · next type =>
      cases read
      exact ⟨type.symm, fun text same => (Option.some.inj same).symm⟩
  · next type =>
      split at read
      · cases read
        exact ⟨type.symm, nofun⟩
      · cases read
  · next type =>
      split at read
      · cases read
        exact ⟨type.symm, nofun⟩
      · cases read

/-- The literal of a qualifier that is read is the literal that its value spells. -/
theorem Qualifier.literal_of_read {name value : String} {quotes : Bool} {q : Qualifier}
    (read : Qualifier.read name value quotes = .ok q) :
    Literal.read q.kind value = .ok q.literal := by
  unfold Qualifier.read at read
  split at read
  · cases read
  · split at read
    · cases read
    · split at read
      · next literal spelled =>
          cases read
          exact spelled
      · cases read

theorem Token.isTyped_of_leaf? {token : Token} {q : Qualifier} (leaf : token.leaf? = some q) :
    q.isTyped = true := by
  cases token with
  | word text | quoted text =>
      cases leaf
      rfl
  | qualifier name value quotes =>
      have read := Qualifier.literal_of_read (toOption_eq_some_iff.mp leaf)
      exact decide_eq_true (Literal.shape_of_read read).1
  | opening | closing | and | or | not => cases leaf

/-- The text of a qualifier is the text of its token. -/
theorem Token.isQuotable_of_leaf? {token : Token} {q : Qualifier} (leaf : token.leaf? = some q)
    (free : token.QuoteFree) : q.IsQuotable := by
  intro text found
  cases token with
  | word s | quoted s =>
      cases leaf
      cases found
      exact free
  | qualifier name value quotes =>
      have read := Qualifier.literal_of_read (toOption_eq_some_iff.mp leaf)
      rw [(Literal.shape_of_read read).2 text found]
      exact free.2
  | opening | closing | and | or | not => cases leaf

namespace Derives

variable {phrase : Phrase} {room : Nat} {tokens : List Token} {expr : Expr}

theorem hasEmpty_eq_false (derived : Derives phrase room tokens expr) : expr.hasEmpty = false := by
  induction derived with
  | leaf => rfl
  | not _ ih | brackets _ ih | conjunct _ ih | disjunct _ ih => exact ih
  | and _ _ ihl ihr | juxtaposed _ _ ihl ihr | or _ _ ihl ihr =>
      simp only [Expr.hasEmpty, ihl, ihr, Bool.or_self]

/-- The qualifiers are those of the operand tokens, in their order. -/
theorem qualifiers_eq (derived : Derives phrase room tokens expr) :
    expr.qualifiers = tokens.filterMap Token.leaf? := by
  induction derived with
  | leaf leaf => simp [Expr.qualifiers, leaf]
  | conjunct _ ih | disjunct _ ih => exact ih
  | not _ ih | brackets _ ih => simpa [Expr.qualifiers, List.filterMap_cons, Token.leaf?] using ih
  | and _ _ ihl ihr | or _ _ ihl ihr =>
      simp [Expr.qualifiers, List.filterMap_cons, Token.leaf?, ihl, ihr]
  | juxtaposed _ _ ihl ihr => rw [Expr.qualifiers, ihl, ihr, List.filterMap_append]

theorem isTyped (derived : Derives phrase room tokens expr) :
    ∀ q ∈ expr.qualifiers, q.isTyped = true := by
  intro q member
  rw [derived.qualifiers_eq, List.mem_filterMap] at member
  obtain ⟨token, -, leaf⟩ := member
  exact Token.isTyped_of_leaf? leaf

theorem isQuotable (derived : Derives phrase room tokens expr)
    (free : ∀ token ∈ tokens, token.QuoteFree) : ∀ q ∈ expr.qualifiers, q.IsQuotable := by
  intro q member
  rw [derived.qualifiers_eq, List.mem_filterMap] at member
  obtain ⟨token, present, leaf⟩ := member
  exact Token.isQuotable_of_leaf? leaf (free token present)

end Derives

/-- What is read from a text is read from its tokens. -/
theorem Expr.exists_tokens_of_read {source : String} {expr : Expr}
    (read : Expr.read source = .ok expr) :
    ∃ tokens, Token.ofText source = .ok tokens ∧
      Derives .disjunction maxDepth (tokens.map Located.token) expr ∧ expr.height ≤ maxDepth := by
  unfold Expr.read at read
  split at read
  · cases read
  · next tokens scanned => exact ⟨tokens, scanned, Expr.derives_of_ofTokens read⟩

/-- What every expression that is read from a text has in common. -/
theorem Expr.shape_of_read {source : String} {expr : Expr} (read : Expr.read source = .ok expr) :
    expr.hasEmpty = false ∧ expr.height ≤ maxDepth ∧ (∀ q ∈ expr.qualifiers, q.isTyped = true) ∧
      ∀ q ∈ expr.qualifiers, q.IsQuotable := by
  obtain ⟨tokens, scanned, derived, fits⟩ := Expr.exists_tokens_of_read read
  have free : ∀ token ∈ tokens.map Located.token, token.QuoteFree := by
    intro token member
    obtain ⟨located, present, rfl⟩ := List.mem_map.mp member
    exact Token.scan_quoteFree _ _ scanned located present
  exact ⟨derived.hasEmpty_eq_false, fits, derived.isTyped, derived.isQuotable free⟩

end Triage
