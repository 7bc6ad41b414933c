/-
# Triage.Expr.Reading -- reading an expression from its tokens

`OR` binds most loosely, then `AND`, written or implied between two operands, then `NOT`. Both
operators take their operands from left to right. `readOperand` descends by the room that is left
for open `NOT`s and brackets, so that nesting is limited by the recursion itself; a chain of
operands takes at most as many steps as there are tokens.
-/
import Triage.Expr
import Triage.Expr.Token
import Triage.Calendar.Field

namespace Triage

open Triage.Text

set_option autoImplicit false

/-- An expression read so far, its height, and the tokens after it. -/
structure Reading where
  expr : Expr
  height : Nat
  rest : List Located

namespace Located

/-- The complaint about a token that cannot stand where it does. -/
def unexpected (located : Located) : ReadError :=
  .unexpected located.token.shown located.position

end Located

/-- The literal of a qualifier of a kind. -/
def Literal.read (kind : Kind) (value : String) : Except LiteralFault Literal :=
  match kind.valueType with
  | .text => .ok (.text value)
  | .number =>
    match Comparison.read? readWord value.toList with
    | some comparison => .ok (.number comparison)
    | none => .error (.notNumber value)
  | .date =>
    match Comparison.read? Date.read? value.toList with
    | some comparison => .ok (.date comparison)
    | none => .error (.notDate value)

/-- The qualifier of a token `name:value`; only a value in quotes may be empty. -/
def Qualifier.read (name value : String) (quotes : Bool) : Except ReadError Qualifier :=
  match Kind.ofName? name with
  | none => .error (.unknownKind name)
  | some kind =>
    if value.isEmpty && !quotes then .error (.badLiteral kind .missing)
    else match Literal.read kind value with
      | .ok literal => .ok ⟨kind, literal⟩
      | .error fault => .error (.badLiteral kind fault)

namespace Reading

/-- The offset of the next token, or of the end of the text. -/
def positionOf (stop : Nat) : List Located → Nat
  | located :: _ => located.position
  | [] => stop

/-- The height of an operator over operands of two heights, if there is room for it. The complaint
points to the last operand. -/
def joinHeight (left right position : Nat) : Except ReadError Nat :=
  if max left right + 1 ≤ maxDepth then .ok (max left right + 1) else .error (.tooDeep position)

/-- The tokens of the next operand of a conjunction, after `AND` or at once. -/
def nextConjunct : List Located → Option (List Located)
  | [] => none
  | located :: rest =>
    if located.token = .and then some rest
    else if located.token.beginsOperand then some (located :: rest)
    else none

/-- The tokens of the next operand of a disjunction, after `OR`. -/
def nextDisjunct : List Located → Option (List Located)
  | [] => none
  | located :: rest => if located.token = .or then some rest else none

/-- A way to read an operand. -/
abbrev Reader := List Located → Except ReadError Reading

/-- Takes further operands as long as `next` finds one, for `steps` operands at most. -/
def extend (stop : Nat) (next : List Located → Option (List Located)) (join : Expr → Expr → Expr)
    (operand : Reader) : Nat → Reading → Except ReadError Reading
  | 0, left => .ok left
  | steps + 1, left =>
    match next left.rest with
    | none => .ok left
    | some tokens =>
      match operand tokens with
      | .error e => .error e
      | .ok right =>
        match joinHeight left.height right.height (positionOf stop tokens) with
        | .error e => .error e
        | .ok height =>
          extend stop next join operand steps ⟨join left.expr right.expr, height, right.rest⟩

/-- One operand and all that follow it. -/
def chain (stop : Nat) (next : List Located → Option (List Located)) (join : Expr → Expr → Expr)
    (operand : Reader) : Reader := fun tokens =>
  match operand tokens with
  | .error e => .error e
  | .ok first => extend stop next join operand first.rest.length first

def readConjunction (stop : Nat) (operand : Reader) : Reader :=
  chain stop nextConjunct .and operand

def readDisjunction (stop : Nat) (operand : Reader) : Reader :=
  chain stop nextDisjunct .or (readConjunction stop operand)

/-- Reads a qualifier, a keyword, a negation or a bracketed expression. There is `room` for so many
further `NOT`s and brackets. -/
def readOperand (stop : Nat) : Nat → Reader
  | _, [] => .error (.ended .operand)
  | room, located :: rest =>
    match located.token with
    | .not =>
      match room with
      | 0 => .error (.tooDeep located.position)
      | room + 1 =>
        match readOperand stop room rest with
        | .error e => .error e
        | .ok inner =>
          match joinHeight inner.height 0 located.position with
          | .error e => .error e
          | .ok height => .ok ⟨.not inner.expr, height, inner.rest⟩
    | .opening =>
      match room with
      | 0 => .error (.tooDeep located.position)
      | room + 1 =>
        match readDisjunction stop (readOperand stop room) rest with
        | .error e => .error e
        | .ok inner =>
          match inner.rest with
          | [] => .error (.ended .closing)
          | next :: after =>
            if next.token = .closing then .ok ⟨inner.expr, inner.height, after⟩
            else .error next.unexpected
    | .word text => .ok ⟨.ofText .keyword text, 1, rest⟩
    | .quoted text => .ok ⟨.ofText .keyword text, 1, rest⟩
    | .qualifier name value quotes =>
      match Qualifier.read name value quotes with
      | .error e => .error e
      | .ok qualifier => .ok ⟨.qualifier qualifier, 1, rest⟩
    | .closing => .error located.unexpected
    | .and => .error located.unexpected
    | .or => .error located.unexpected

end Reading

open Reading

/-- The expression of a list of tokens, all of them; `stop` is the length of the text. -/
def Expr.ofTokens (stop : Nat) (tokens : List Located) : Except ReadError Expr :=
  match tokens with
  | [] => .error .nothing
  | _ =>
    match readDisjunction stop (readOperand stop maxDepth) tokens with
    | .error e => .error e
    | .ok reading =>
      match reading.rest with
      | [] => .ok reading.expr
      | located :: _ => .error located.unexpected

/-- The expression that a text spells. -/
def Expr.read (text : String) : Except ReadError Expr :=
  match Token.ofText text with
  | .error e => .error e
  | .ok tokens => Expr.ofTokens (byteLength text.toList) tokens

end Triage
