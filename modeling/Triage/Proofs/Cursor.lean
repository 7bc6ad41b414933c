/-
# Triage.Proofs.Cursor -- reading with a cursor

`Reading.readOperand` and its companions are given the tokens and the room that are left, and have
no state.  Here is the same descent over one list of tokens with a cursor: how many tokens it has
taken, and how many `NOT`s and brackets are open.  Opening is refused at `maxDepth`, and closing
gives an opening back; a descent has a fault where none could be given back, and where a bracket is
followed by another token than its closing one.  It keeps a track of all its cursors and of all its
calls that came back.  What a track owes is `Track.IsSound`, with `Visit.IsOrderly` for every call;
one lemma for each single step says what it comes to.
-/
import Triage.Expr.Reading
import Triage.Proofs.Grammar

namespace Triage

open Triage.Reading

set_option autoImplicit false

/-- How many tokens are taken, and how many `NOT`s and brackets are open. -/
structure Cursor where
  taken : Nat := 0
  opened : Nat := 0
deriving DecidableEq

/-- The calls of a descent; a primary is an operand without a `NOT` in front. -/
inductive Callee where
  | disjunction
  | conjunction
  | operand
  | primary
deriving DecidableEq

/-- A call that came back, with the expression and the height that it returned. -/
structure Visit where
  callee : Callee
  entry : Cursor
  exit : Cursor
  expr : Expr
  height : Nat

/-- Where a descent is, every cursor that it has had, and its calls that came back. -/
structure Track where
  cursor : Cursor := {}
  past : List Cursor := [cursor]
  visits : List Visit := []

def Track.moved (track : Track) (cursor : Cursor) : Track :=
  { track with cursor, past := cursor :: track.past }

/-- Why a descent stops. -/
inductive Fault where
  | refused (error : ReadError)
  /-- Nothing is open that could be closed. -/
  | underflow
  /-- Neither the closing bracket nor the end follows. -/
  | unclosed (found : Located)
  /-- The fuel is used up. -/
  | exhausted

abbrev Descent := ExceptT Fault (StateM Track)

namespace Descent

/-! ## The descent -/

section Steps

variable (stop : Nat) (tokens : List Located)

def peek : Descent (Option Located) := do return tokens[(← get).cursor.taken]?

/-- The position of the next token, or of the end of the text. -/
def position : Descent Nat := do return (← peek tokens).elim stop Located.position

def advance : Descent Unit :=
  modify fun track => track.moved { track.cursor with taken := track.cursor.taken + 1 }

/-- Takes the next token if it is this one. -/
def eat (token : Token) : Descent Bool := do
  if (← peek tokens).map Located.token = some token then
    advance
    return true
  else return false

def beginsOperand : Descent Bool := do return (← peek tokens).any (·.token.beginsOperand)

def enter (position : Nat) : Descent Unit := do
  let cursor := (← get).cursor
  if maxDepth ≤ cursor.opened then throw (.refused (.tooDeep position))
  else modify fun track => track.moved { cursor with opened := cursor.opened + 1 }

def leave : Descent Unit := do
  let cursor := (← get).cursor
  match cursor.opened with
  | 0 => throw .underflow
  | opened + 1 => modify fun track => track.moved { cursor with opened }

def accept {α : Type} : Except ReadError α → Descent α
  | .ok a => return a
  | .error e => throw (.refused e)

/-- Makes a call, and notes it when it comes back. -/
def visit (callee : Callee) (call : Descent (Expr × Nat)) : Descent (Expr × Nat) := do
  let entry := (← get).cursor
  let (expr, height) ← call
  modify fun track =>
    { track with visits := ⟨callee, entry, track.cursor, expr, height⟩ :: track.visits }
  return (expr, height)

/-- Joins the next operand to those so far. -/
def joinNext (join : Expr → Expr → Expr) (operand : Descent (Expr × Nat)) (left : Expr × Nat) :
    Descent (Expr × Nat) := do
  let position ← position stop tokens
  let right ← operand
  let height ← accept (joinHeight left.2 right.2 position)
  return (join left.1 right.1, height)

/-- Opens for what stands behind a mark at `position`, and goes on when it is closed again. -/
def inside (position : Nat) (call : Descent (Expr × Nat))
    (goOn : Expr × Nat → Descent (Expr × Nat)) : Descent (Expr × Nat) := do
  enter position
  let inner ← call
  leave
  goOn inner

/-- The negation of an operand behind a `NOT` at `position`. -/
def negate (position : Nat) (inner : Expr × Nat) : Descent (Expr × Nat) := do
  let height ← accept (joinHeight inner.2 0 position)
  return (.not inner.1, height)

/-- Takes the closing bracket behind a disjunction. -/
def close (inner : Expr × Nat) : Descent (Expr × Nat) := do
  match ← peek tokens with
  | none => throw (.refused (.ended .closing))
  | some next =>
    if next.token = .closing then
      advance
      return inner
    else throw (.unclosed next)

mutual

def disjunction : Nat → Descent (Expr × Nat)
  | 0 => throw .exhausted
  | fuel + 1 => visit .disjunction do moreDisjuncts fuel (← conjunction fuel)

def moreDisjuncts : Nat → Expr × Nat → Descent (Expr × Nat)
  | 0, _ => throw .exhausted
  | fuel + 1, left => do
    if ← eat tokens .or then
      moreDisjuncts fuel (← joinNext stop tokens .or (conjunction fuel) left)
    else return left

def conjunction : Nat → Descent (Expr × Nat)
  | 0 => throw .exhausted
  | fuel + 1 => visit .conjunction do moreConjuncts fuel (← operand fuel)

def moreConjuncts : Nat → Expr × Nat → Descent (Expr × Nat)
  | 0, _ => throw .exhausted
  | fuel + 1, left => do
    if ← (eat tokens .and <||> beginsOperand tokens) then
      moreConjuncts fuel (← joinNext stop tokens .and (operand fuel) left)
    else return left

def operand : Nat → Descent (Expr × Nat)
  | 0 => throw .exhausted
  | fuel + 1 => visit .operand do
    let position ← position stop tokens
    if ← eat tokens .not then inside position (operand fuel) (negate position)
    else primary fuel

def primary : Nat → Descent (Expr × Nat)
  | 0 => throw .exhausted
  | fuel + 1 => visit .primary do
    match ← peek tokens with
    | none => throw (.refused (.ended .operand))
    | some located =>
      advance
      match located.token with
      | .opening => inside located.position (disjunction fuel) (close tokens)
      | .word text | .quoted text => return (.ofText .keyword text, 1)
      | .qualifier name value quotes =>
        return (.qualifier (← accept (Qualifier.read name value quotes)), 1)
      | .closing | .and | .or | .not => throw (.refused located.unexpected)

end

/-- Reads an expression from all tokens, with fuel for every call and every round that a token can
lead to. -/
def expression : Descent Expr := do
  if tokens.isEmpty then throw (.refused .nothing)
  else
    let (expr, _) ← disjunction stop tokens (4 * tokens.length + 4)
    match ← peek tokens with
    | some extra => throw (.refused extra.unexpected)
    | none => return expr

end Steps

/-- What a descent comes to, and its track. -/
def on {α : Type} (descent : Descent α) (track : Track) : Except Fault α × Track :=
  (ExceptT.run descent).run track

end Descent

/-! ## What is to hold -/

/-- The reader that a call stands for, with room for so many further `NOT`s and brackets. -/
def Callee.reader (stop room : Nat) : Callee → Reader
  | .disjunction => readDisjunction stop (readOperand stop room)
  | .conjunction => readConjunction stop (readOperand stop room)
  | .operand | .primary => readOperand stop room

/-- No more is open than may be, and no more is taken than there is. -/
structure Cursor.IsWithin (tokens : List Located) (cursor : Cursor) : Prop where
  opened_le : cursor.opened ≤ maxDepth
  taken_le : cursor.taken ≤ tokens.length

/-- The call has closed what it opened and has taken a token at least, the height that it returned
is that of its expression, and behind a disjunction stands a closing bracket or the end. -/
structure Visit.IsOrderly (stop : Nat) (tokens : List Located) (visit : Visit) : Prop where
  opened : visit.exit.opened = visit.entry.opened
  taken : visit.entry.taken < visit.exit.taken
  taken_le : visit.exit.taken ≤ tokens.length
  height : visit.height = visit.expr.height
  closing : visit.callee = .disjunction →
    ∀ next, tokens[visit.exit.taken]? = some next → next.token = .closing
  reader : visit.callee.reader stop (maxDepth - visit.entry.opened)
    (tokens.drop visit.entry.taken) = .ok ⟨visit.expr, visit.height, tokens.drop visit.exit.taken⟩

namespace Track

variable (stop : Nat) (tokens : List Located)

/-- The tokens that are left. -/
def rest (track : Track) : List Located := tokens.drop track.cursor.taken

/-- The room that is left. -/
def room (track : Track) : Nat := maxDepth - track.cursor.opened

structure IsSound (track : Track) : Prop where
  cursor : track.cursor.IsWithin tokens
  past : ∀ cursor ∈ track.past, cursor.IsWithin tokens
  visits : ∀ visit ∈ track.visits, visit.IsOrderly stop tokens

end Track

namespace Descent

/-! ## Single steps -/

section On

variable {α β : Type} {track next : Track}

theorem on_bind_ok {descent : Descent α} {a : α} (f : α → Descent β)
    (ran : descent.on track = (.ok a, next)) : (descent >>= f).on track = (f a).on next := by
  simp only [on, ExceptT.run_bind, StateT.run_bind] at ran ⊢
  rw [ran]
  rfl

theorem on_bind_error {descent : Descent α} {fault : Fault} (f : α → Descent β)
    (ran : descent.on track = (.error fault, next)) :
    (descent >>= f).on track = (.error fault, next) := by
  simp only [on, ExceptT.run_bind, StateT.run_bind] at ran ⊢
  rw [ran]
  rfl

variable {stop : Nat} {tokens : List Located} {located : Located} {more : List Located}

theorem on_peek : (peek tokens).on track = (.ok (track.rest tokens).head?, track) := by
  rw [Track.rest, List.head?_drop]
  rfl

theorem on_position :
    (position stop tokens).on track = (.ok (positionOf stop (track.rest tokens)), track) := by
  rw [position, on_bind_ok _ on_peek]
  cases track.rest tokens <;> rfl

theorem on_eat_of_eq (left : track.rest tokens = located :: more) {token : Token}
    (same : located.token = token) :
    (eat tokens token).on track =
      (.ok true, track.moved { track.cursor with taken := track.cursor.taken + 1 }) := by
  have found : (track.rest tokens).head?.map Located.token = some token := by
    rw [left, ← same]
    rfl
  rw [eat, on_bind_ok _ on_peek, if_pos found]
  rfl

theorem on_eat_of_ne {token : Token}
    (other : (track.rest tokens).head?.map Located.token ≠ some token) :
    (eat tokens token).on track = (.ok false, track) := by
  rw [eat, on_bind_ok _ on_peek, if_neg other]
  rfl

theorem on_beginsOperand :
    (beginsOperand tokens).on track =
      (.ok ((track.rest tokens).head?.any (·.token.beginsOperand)), track) := by
  rw [beginsOperand, on_bind_ok _ on_peek]
  rfl

theorem on_or_of_true {first second : Descent Bool} (ran : first.on track = (.ok true, next)) :
    (first <||> second).on track = (.ok true, next) := by
  rw [orM, on_bind_ok _ ran]
  rfl

theorem on_or_of_false {first second : Descent Bool} (ran : first.on track = (.ok false, next)) :
    (first <||> second).on track = second.on next := by
  rw [orM, on_bind_ok _ ran]
  rfl

theorem on_enter_of_lt (room : track.cursor.opened < maxDepth) (position : Nat) :
    (enter position).on track =
      (.ok (), track.moved { track.cursor with opened := track.cursor.opened + 1 }) := by
  have got : (get : Descent Track).on track = (.ok track, track) := rfl
  rw [enter, on_bind_ok _ got, if_neg (Nat.not_le.mpr room)]
  rfl

theorem on_enter_of_le (full : maxDepth ≤ track.cursor.opened) (position : Nat) :
    (enter position).on track = (.error (.refused (.tooDeep position)), track) := by
  have got : (get : Descent Track).on track = (.ok track, track) := rfl
  rw [enter, on_bind_ok _ got, if_pos full]
  rfl

theorem on_leave {opened : Nat} (some_ : track.cursor.opened = opened + 1) :
    leave.on track = (.ok (), track.moved { track.cursor with opened }) := by
  have got : (get : Descent Track).on track = (.ok track, track) := rfl
  rw [leave, on_bind_ok _ got]
  dsimp only
  rw [some_]
  rfl

theorem on_accept_ok (a : α) : (accept (.ok a)).on track = (.ok a, track) := rfl

theorem on_accept_error (e : ReadError) :
    (accept (.error e) : Descent α).on track = (.error (.refused e), track) := rfl

/-- Whatever the call, it is noted when it comes back, from the cursor in front of it to the one
behind it. -/
theorem on_visit_ok (callee : Callee) {call : Descent (Expr × Nat)} {expr : Expr} {height : Nat}
    (ran : call.on track = (.ok (expr, height), next)) :
    (visit callee call).on track = (.ok (expr, height), { next with
      visits := ⟨callee, track.cursor, next.cursor, expr, height⟩ :: next.visits }) := by
  have got : (get : Descent Track).on track = (.ok track, track) := rfl
  rw [visit, on_bind_ok _ got, on_bind_ok _ ran]
  rfl

theorem on_visit_error (callee : Callee) {call : Descent (Expr × Nat)} {fault : Fault}
    (ran : call.on track = (.error fault, next)) :
    (visit callee call).on track = (.error fault, next) := by
  have got : (get : Descent Track).on track = (.ok track, track) := rfl
  rw [visit, on_bind_ok _ got, on_bind_error _ ran]

end On

end Descent

namespace Track

variable {stop : Nat} {tokens : List Located} {track : Track} {located : Located}
  {more : List Located}

theorem IsSound.moved (sound : track.IsSound stop tokens) {cursor : Cursor}
    (within_ : cursor.IsWithin tokens) : (track.moved cursor).IsSound stop tokens :=
  ⟨within_, List.forall_mem_cons.mpr ⟨within_, sound.past⟩, sound.visits⟩

/-- Where a token is left, it can be taken. -/
theorem IsSound.advanced (sound : track.IsSound stop tokens)
    (left : track.rest tokens = located :: more) :
    (track.moved { track.cursor with taken := track.cursor.taken + 1 }).IsSound stop tokens ∧
      (track.moved { track.cursor with taken := track.cursor.taken + 1 }).rest tokens = more := by
  have count := congrArg List.length left
  rw [rest, List.length_drop, List.length_cons] at count
  refine ⟨sound.moved ⟨sound.cursor.opened_le, by dsimp only; omega⟩, ?_⟩
  show tokens.drop (track.cursor.taken + 1) = more
  rw [← List.drop_drop, ← rest, left]
  rfl

/-- Where there is room, what is opened leaves less of it. -/
theorem IsSound.opened (sound : track.IsSound stop tokens) (free : track.cursor.opened < maxDepth) :
    ∃ fewer, track.room = fewer + 1 ∧
      (track.moved { track.cursor with
        opened := track.cursor.opened + 1 }).IsSound stop tokens ∧
      (track.moved { track.cursor with opened := track.cursor.opened + 1 }).room = fewer := by
  refine ⟨maxDepth - track.cursor.opened - 1, ?_, ?_, ?_⟩
  · rw [room]
    omega
  · exact sound.moved ⟨free, sound.cursor.taken_le⟩
  · exact Nat.sub_succ _ _

end Track

end Triage
