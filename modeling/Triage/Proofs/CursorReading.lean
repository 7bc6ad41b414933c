/-
# Triage.Proofs.CursorReading -- with a cursor the same is read

Every call of a descent comes to what its reader comes to, from the tokens and with the room that
its cursor leaves (`Reads`).  A call that comes back is noted as orderly, since its reader takes a
token at least and tells the height of what it reads (`Callee.reader_eq_ok`).  There is a lemma for
each call and each round of a loop, and an induction on the fuel (`reads_all`).
Main statement: `expression_keeps_order`.
-/
import Triage.Proofs.Cursor
import Triage.Proofs.DepthLimit

namespace Triage

open Triage.Reading

set_option autoImplicit false

/-- What every reader has in common: it takes a token at least, tells the height of what it reads,
and a disjunction goes on up to a closing bracket or the end. -/
theorem Callee.reader_eq_ok {callee : Callee} {stop room : Nat} {tokens : List Located}
    {reading : Reading} (read : callee.reader stop room tokens = .ok reading) :
    reading.rest.length < tokens.length ∧ reading.height = reading.expr.height ∧
      (callee = .disjunction → ∀ next after, reading.rest = next :: after →
        next.token = .closing) := by
  have consumes := readOperand_consumes stop room
  have sound := sound_readOperand stop room
  cases callee with
  | disjunction =>
      obtain ⟨_, -, -, height, -⟩ := sound_readDisjunction consumes sound _ _ read
      refine ⟨readDisjunction_consumes consumes _ _ read, height, fun _ next after left => ?_⟩
      have stops := stops_of_readDisjunction consumes read
      rw [left] at stops
      exact closing_of_stops stops
  | conjunction =>
      obtain ⟨_, -, -, height, -⟩ := sound_readConjunction consumes sound _ _ read
      exact ⟨readConjunction_consumes consumes _ _ read, height, nofun⟩
  | operand | primary =>
      obtain ⟨_, -, -, height, -⟩ := sound _ _ read
      exact ⟨consumes _ _ read, height, nofun⟩

namespace Reading

variable {stop : Nat} {next : List Located → Option (List Located)} {join : Expr → Expr → Expr}
  {operand : Reader} {left : Reading} {tokens : List Located}

/-- The operands so far, joined with the one that the tokens begin with. -/
def joinRead (stop : Nat) (join : Expr → Expr → Expr) (operand : Reader) (left : Reading)
    (tokens : List Located) : Except ReadError Reading :=
  match operand tokens with
  | .error e => .error e
  | .ok right =>
    match joinHeight left.height right.height (positionOf stop tokens) with
    | .error e => .error e
    | .ok height => .ok ⟨join left.expr right.expr, height, right.rest⟩

/-- What is left behind the bracket that closes. -/
def closeRead (inner : Reading) : Except ReadError Reading :=
  match inner.rest with
  | [] => .error (.ended .closing)
  | next :: after =>
    if next.token = .closing then .ok ⟨inner.expr, inner.height, after⟩
    else .error next.unexpected

/-- A chain goes on from the next operand that is joined. -/
theorem goOn_of_some (advances : Advances next) (consumes : Consumes operand)
    (found : next left.rest = some tokens) :
    goOn stop next join operand left =
      match joinRead stop join operand left tokens with
      | .error e => .error e
      | .ok whole => goOn stop next join operand whole := by
  have fewer := advances.length_le found
  obtain ⟨steps, count⟩ : ∃ steps, left.rest.length = steps + 1 := by
    cases rest : left.rest with
    | nil => simp [rest, advances.nil] at found
    | cons located more => exact ⟨more.length, rfl⟩
  rw [goOn, count, extend, found, joinRead]
  dsimp only
  cases read : operand tokens with
  | error e => rfl
  | ok right =>
      have taken := consumes _ _ read
      dsimp only
      cases joinHeight left.height right.height (positionOf stop tokens) with
      | error e => rfl
      | ok height => exact extend_eq_goOn advances consumes (by dsimp only; omega)

end Reading

namespace Descent

section Follows

variable {stop : Nat} {tokens : List Located}

/-- A descent has come to what a reading comes to: it is refused with the same complaint, or gives
back what was read, with as much open as is said and the cursor in front of what is left. -/
def Follows (stop : Nat) (tokens : List Located) (opened : Nat)
    (outcome : Except ReadError Reading) (ended : Except Fault (Expr × Nat) × Track) : Prop :=
  ended.2.IsSound stop tokens ∧
    match outcome with
    | .error e => ended.1 = .error (.refused e)
    | .ok reading =>
      ended.1 = .ok (reading.expr, reading.height) ∧ ended.2.cursor.opened = opened ∧
        ended.2.rest tokens = reading.rest

/-- One descent after another. -/
theorem Follows.bind {descent : Descent (Expr × Nat)} {f : Expr × Nat → Descent (Expr × Nat)}
    {track : Track} {opened inside : Nat} {first outcome : Except ReadError Reading}
    (ran : Follows stop tokens inside first (descent.on track))
    (failed : ∀ e, first = .error e → outcome = .error e)
    (goesOn : ∀ reading next, first = .ok reading → next.IsSound stop tokens →
      next.cursor.opened = inside → next.rest tokens = reading.rest →
      Follows stop tokens opened outcome ((f (reading.expr, reading.height)).on next)) :
    Follows stop tokens opened outcome ((descent >>= f).on track) := by
  cases run : descent.on track with
  | mk result next =>
      rw [run] at ran
      obtain ⟨sound, came⟩ := ran
      cases first with
      | error e =>
          obtain rfl : result = .error (.refused e) := came
          rw [on_bind_error f run, failed e rfl]
          exact ⟨sound, rfl⟩
      | ok reading =>
          obtain ⟨rfl, same, left⟩ := came
          rw [on_bind_ok f run]
          exact goesOn reading next rfl sound same left

/-- A call comes to what its reader comes to, with this much fuel besides four for every token that
is left. -/
def Reads (stop : Nat) (tokens : List Located) (callee : Callee) (need fuel : Nat)
    (call : Descent (Expr × Nat)) : Prop :=
  ∀ track, track.IsSound stop tokens → 4 * (track.rest tokens).length + need ≤ fuel →
    Follows stop tokens track.cursor.opened
      (callee.reader stop track.room (track.rest tokens)) (call.on track)

/-- The same of a primary, which is called where no `NOT` follows. -/
def ReadsPrimary (stop : Nat) (tokens : List Located) (fuel : Nat)
    (call : Descent (Expr × Nat)) : Prop :=
  ∀ track, track.IsSound stop tokens → 4 * (track.rest tokens).length + 1 ≤ fuel →
    (track.rest tokens).head?.map Located.token ≠ some .not →
    Follows stop tokens track.cursor.opened
      (Callee.primary.reader stop track.room (track.rest tokens)) (call.on track)

/-- A loop comes to what the rest of the chain comes to. -/
def GoesOn (stop : Nat) (tokens : List Located) (next : List Located → Option (List Located))
    (join : Expr → Expr → Expr) (callee : Callee) (fuel : Nat)
    (loop : Expr × Nat → Descent (Expr × Nat)) : Prop :=
  ∀ track left, track.IsSound stop tokens → left.rest = track.rest tokens →
    4 * (track.rest tokens).length + 3 ≤ fuel →
    Follows stop tokens track.cursor.opened
      (goOn stop next join (callee.reader stop track.room) left)
      ((loop (left.expr, left.height)).on track)

variable {callee : Callee} {need fuel : Nat} {call : Descent (Expr × Nat)} {track : Track}

/-- What a call comes back with is in order. -/
theorem isOrderly_of_reader {next : Track} {reading : Reading}
    (read : callee.reader stop track.room (track.rest tokens) = .ok reading)
    (sound : next.IsSound stop tokens) (same : next.cursor.opened = track.cursor.opened)
    (left : next.rest tokens = reading.rest) :
    Visit.IsOrderly stop tokens
      ⟨callee, track.cursor, next.cursor, reading.expr, reading.height⟩ := by
  obtain ⟨fewer, height, closing⟩ := Callee.reader_eq_ok read
  rw [← left, Track.rest, Track.rest, List.length_drop, List.length_drop] at fewer
  refine ⟨same, by dsimp only; omega, sound.cursor.taken_le, height, fun outer found here => ?_, ?_⟩
  · refine closing outer found (tokens.drop (next.cursor.taken + 1)) ?_
    rw [← left, Track.rest, List.drop_eq_getElem?_toList_append, here]
    rfl
  · show callee.reader stop track.room (track.rest tokens) = _
    rw [read]
    exact congrArg (fun rest => Except.ok (⟨reading.expr, reading.height, rest⟩ : Reading))
      left.symm

/-- A call that comes back is noted as it should be. -/
theorem follows_visit
    (ran : Follows stop tokens track.cursor.opened
      (callee.reader stop track.room (track.rest tokens)) (call.on track)) :
    Follows stop tokens track.cursor.opened
      (callee.reader stop track.room (track.rest tokens)) ((visit callee call).on track) := by
  cases run : call.on track with
  | mk result next =>
      rw [run] at ran
      obtain ⟨sound', came⟩ := ran
      cases read : callee.reader stop track.room (track.rest tokens) with
      | error e =>
          rw [read] at came
          obtain rfl : result = .error (.refused e) := came
          rw [on_visit_error callee run]
          exact ⟨sound', rfl⟩
      | ok reading =>
          rw [read] at came
          obtain ⟨rfl, same, left⟩ := came
          rw [on_visit_ok callee run]
          have orderly := isOrderly_of_reader read sound' same left
          exact ⟨⟨sound'.cursor, sound'.past, List.forall_mem_cons.mpr ⟨orderly, sound'.visits⟩⟩,
            rfl, same, left⟩

theorem follows_joinNext (reads : Reads stop tokens callee need fuel call)
    (sound : track.IsSound stop tokens) (enough : 4 * (track.rest tokens).length + need ≤ fuel)
    (join : Expr → Expr → Expr) (left : Reading) :
    Follows stop tokens track.cursor.opened
      (joinRead stop join (callee.reader stop track.room) left (track.rest tokens))
      ((joinNext stop tokens join call (left.expr, left.height)).on track) := by
  rw [joinNext, on_bind_ok _ on_position]
  refine (reads track sound enough).bind (fun e failed => ?_)
    fun right next read sound' same rest => ?_
  · rw [joinRead, failed]
  · rw [joinRead, read]
    dsimp only
    cases joinHeight left.height right.height (positionOf stop (track.rest tokens)) with
    | error e => exact ⟨sound', rfl⟩
    | ok height => exact ⟨sound', rfl, same, rest⟩

theorem room_eq {next : Track} (same : next.cursor.opened = track.cursor.opened) :
    next.room = track.room := by
  rw [Track.room, same, Track.room]

/-- What a call gives back, it has taken a token for. -/
theorem joinRead_consumes {room : Nat} {join : Expr → Expr → Expr} {left whole : Reading}
    {rest : List Located}
    (read : joinRead stop join (callee.reader stop room) left rest = .ok whole) :
    whole.rest.length < rest.length := by
  unfold joinRead at read
  split at read
  · cases read
  · next right found =>
      have fewer := (Callee.reader_eq_ok found).1
      split at read <;> cases read
      exact fewer

section Chain

variable {next : List Located → Option (List Located)} {join : Expr → Expr → Expr}
  {loop : Expr × Nat → Descent (Expr × Nat)}

/-- An operand, and the loop that goes on behind it. -/
theorem follows_chain (reads : Reads stop tokens callee need fuel call)
    (goesOn : GoesOn stop tokens next join callee fuel loop)
    (sound : track.IsSound stop tokens) (enough : 4 * (track.rest tokens).length + need ≤ fuel) :
    Follows stop tokens track.cursor.opened
      (chain stop next join (callee.reader stop track.room) (track.rest tokens))
      ((call >>= loop).on track) := by
  refine (reads track sound enough).bind (fun e failed => ?_)
    fun first next read sound' same rest => ?_
  · rw [chain, failed]
  · have fewer := (Callee.reader_eq_ok read).1
    have more := goesOn next first sound' rest.symm (by rw [rest]; omega)
    rw [chain, read]
    rwa [room_eq same, same] at more

/-- A round of a loop, and the loop that goes on behind it. -/
theorem follows_round (advances : Advances next) (reads : Reads stop tokens callee need fuel call)
    (goesOn : GoesOn stop tokens next join callee fuel loop)
    (sound : track.IsSound stop tokens) (enough : 4 * (track.rest tokens).length + need ≤ fuel)
    {left : Reading} (found : next left.rest = some (track.rest tokens)) :
    Follows stop tokens track.cursor.opened
      (goOn stop next join (callee.reader stop track.room) left)
      ((joinNext stop tokens join call (left.expr, left.height) >>= loop).on track) := by
  have consumes : Consumes (callee.reader stop track.room) :=
    fun _ _ read => (Callee.reader_eq_ok read).1
  rw [goOn_of_some advances consumes found]
  refine (follows_joinNext reads sound enough join left).bind (fun e failed => ?_)
    fun whole next read sound' same rest => ?_
  · rw [failed]
  · have fewer := joinRead_consumes read
    have more := goesOn next whole sound' rest.symm (by rw [rest]; omega)
    rw [read]
    rwa [room_eq same, same] at more

end Chain

/-! ## The calls, one by one -/

variable {fuel : Nat}

theorem reads_disjunction
    (reads : Reads stop tokens .conjunction 3 fuel (conjunction stop tokens fuel))
    (goesOn : GoesOn stop tokens nextDisjunct .or .conjunction fuel
      (moreDisjuncts stop tokens fuel)) :
    Reads stop tokens .disjunction 4 (fuel + 1) (disjunction stop tokens (fuel + 1)) := by
  intro track sound enough
  rw [disjunction]
  exact follows_visit (follows_chain reads goesOn sound (by omega))

theorem reads_conjunction
    (reads : Reads stop tokens .operand 2 fuel (operand stop tokens fuel))
    (goesOn : GoesOn stop tokens nextConjunct .and .operand fuel
      (moreConjuncts stop tokens fuel)) :
    Reads stop tokens .conjunction 3 (fuel + 1) (conjunction stop tokens (fuel + 1)) := by
  intro track sound enough
  rw [conjunction]
  exact follows_visit (follows_chain reads goesOn sound (by omega))

theorem goesOn_moreDisjuncts
    (reads : Reads stop tokens .conjunction 3 fuel (conjunction stop tokens fuel))
    (goesOn : GoesOn stop tokens nextDisjunct .or .conjunction fuel
      (moreDisjuncts stop tokens fuel)) :
    GoesOn stop tokens nextDisjunct .or .conjunction (fuel + 1)
      (moreDisjuncts stop tokens (fuel + 1)) := by
  intro track left sound same enough
  rw [moreDisjuncts]
  by_cases found : (track.rest tokens).head?.map Located.token = some .or
  · cases rest : track.rest tokens with
    | nil => simp [rest] at found
    | cons located more =>
        have operator : located.token = .or := by simpa [rest] using found
        obtain ⟨sound', left'⟩ := sound.advanced rest
        rw [on_bind_ok _ (on_eat_of_eq rest operator)]
        rw [rest, List.length_cons] at enough
        exact follows_round nextDisjunct_advances reads goesOn sound' (by rw [left']; omega)
          (by rw [same, rest, left', nextDisjunct_of_or operator])
  · have none_ : nextDisjunct left.rest = none := by
      rw [same]
      cases rest : track.rest tokens with
      | nil => rfl
      | cons located more => exact if_neg (by simpa [rest] using found)
    rw [on_bind_ok _ (on_eat_of_ne found), goOn_of_none none_]
    exact ⟨sound, rfl, rfl, same.symm⟩

theorem goesOn_moreConjuncts
    (reads : Reads stop tokens .operand 2 fuel (operand stop tokens fuel))
    (goesOn : GoesOn stop tokens nextConjunct .and .operand fuel
      (moreConjuncts stop tokens fuel)) :
    GoesOn stop tokens nextConjunct .and .operand (fuel + 1)
      (moreConjuncts stop tokens (fuel + 1)) := by
  intro track left sound same enough
  rw [moreConjuncts]
  cases rest : track.rest tokens with
  | nil =>
      have eaten : (eat tokens .and).on track = (.ok false, track) :=
        on_eat_of_ne (by simp [rest])
      have begins : (beginsOperand tokens).on track = (.ok false, track) := by
        rw [on_beginsOperand, rest]
        rfl
      rw [on_bind_ok _ ((on_or_of_false eaten).trans begins),
        goOn_of_none (by rw [same, rest]; rfl)]
      exact ⟨sound, rfl, rfl, same.symm⟩
  | cons located more =>
      by_cases operator : located.token = .and
      · obtain ⟨sound', left'⟩ := sound.advanced rest
        rw [on_bind_ok _ (on_or_of_true (on_eat_of_eq rest operator))]
        rw [rest, List.length_cons] at enough
        exact follows_round nextConjunct_advances reads goesOn sound' (by rw [left']; omega)
          (by rw [same, rest, left', nextConjunct_of_and operator])
      · have eaten : (eat tokens .and).on track = (.ok false, track) :=
          on_eat_of_ne (by simpa [rest] using operator)
        have begins : (beginsOperand tokens).on track =
            (.ok located.token.beginsOperand, track) := by
          rw [on_beginsOperand, rest]
          simp
        rw [on_bind_ok _ ((on_or_of_false eaten).trans begins)]
        cases next : located.token.beginsOperand with
        | true =>
            exact follows_round nextConjunct_advances reads goesOn sound (by omega)
              (by rw [same, rest, nextConjunct_of_beginsOperand next])
        | false =>
            rw [goOn_of_none (by rw [same, rest, nextConjunct, if_neg operator, next]; rfl)]
            exact ⟨sound, rfl, rfl, same.symm⟩

section Operand

variable {located : Located} {more : List Located}

/-- What a mark opens is closed again, unless there is no room for it. -/
theorem follows_inside (reads : Reads stop tokens callee need fuel call)
    (sound : track.IsSound stop tokens) (enough : 4 * (track.rest tokens).length + need ≤ fuel)
    {position : Nat} {goOn : Expr × Nat → Descent (Expr × Nat)} {outcome : Except ReadError Reading}
    (after : Reading → Except ReadError Reading)
    (full : track.room = 0 → outcome = .error (.tooDeep position))
    (room : ∀ fewer, track.room = fewer + 1 →
      outcome = (callee.reader stop fewer (track.rest tokens)).bind after)
    (goesOn : ∀ fewer inner next, callee.reader stop fewer (track.rest tokens) = .ok inner →
      next.IsSound stop tokens → next.cursor.opened = track.cursor.opened →
      next.rest tokens = inner.rest →
      Follows stop tokens track.cursor.opened (after inner)
        ((goOn (inner.expr, inner.height)).on next)) :
    Follows stop tokens track.cursor.opened outcome ((inside position call goOn).on track) := by
  rw [inside]
  by_cases free : track.cursor.opened < maxDepth
  · obtain ⟨fewer, count, sound', less⟩ := sound.opened free
    have ran := reads _ sound' enough
    rw [less] at ran
    rw [on_bind_ok _ (on_enter_of_lt free position), room fewer count]
    refine ran.bind (fun e failed => ?_) fun inner next read sound'' same rest => ?_
    · rw [show callee.reader stop fewer (track.rest tokens) = .error e from failed]
      rfl
    · have back : (next.moved { next.cursor with
          opened := track.cursor.opened }).IsSound stop tokens :=
        sound''.moved ⟨sound.cursor.opened_le, sound''.cursor.taken_le⟩
      have read' : callee.reader stop fewer (track.rest tokens) = .ok inner := read
      rw [on_bind_ok _ (on_leave same), read']
      exact goesOn fewer inner _ read' back rfl rest
  · have reached : maxDepth ≤ track.cursor.opened := Nat.not_lt.mp free
    rw [on_bind_error _ (on_enter_of_le reached position), full (Nat.sub_eq_zero_of_le reached)]
    exact ⟨sound, rfl⟩

theorem follows_negation (reads : Reads stop tokens .operand need fuel call)
    (sound : track.IsSound stop tokens) (enough : 4 * (track.rest tokens).length + need ≤ fuel)
    (negation : located.token = .not) :
    Follows stop tokens track.cursor.opened
      (readOperand stop track.room (located :: track.rest tokens))
      ((inside located.position call (negate located.position)).on track) := by
  refine follows_inside reads sound enough
    (fun inner => (joinHeight inner.height 0 located.position).map fun height =>
      ⟨.not inner.expr, height, inner.rest⟩)
    (fun none_ => ?_) (fun fewer count => ?_) fun fewer inner next read sound' same rest => ?_
  · rw [none_]
    simp only [readOperand, negation]
  · rw [count]
    simp only [readOperand, negation, Callee.reader]
    cases readOperand stop fewer (track.rest tokens) with
    | error e => rfl
    | ok inner =>
        cases tall : joinHeight inner.height 0 located.position <;>
          simp [Except.bind, Except.map, tall]
  · rw [negate]
    cases joinHeight inner.height 0 located.position with
    | error e => exact ⟨sound', rfl⟩
    | ok height => exact ⟨sound', rfl, same, rest⟩

/-- Behind a disjunction in brackets stands the closing one or nothing. -/
theorem follows_brackets (reads : Reads stop tokens .disjunction need fuel call)
    (sound : track.IsSound stop tokens) (enough : 4 * (track.rest tokens).length + need ≤ fuel)
    (bracket : located.token = .opening) :
    Follows stop tokens track.cursor.opened
      (readOperand stop track.room (located :: track.rest tokens))
      ((inside located.position call (close tokens)).on track) := by
  refine follows_inside reads sound enough closeRead
    (fun none_ => ?_) (fun fewer count => ?_) fun fewer inner next read sound' same rest => ?_
  · rw [none_]
    simp only [readOperand, bracket]
  · rw [count]
    simp only [readOperand, bracket, Callee.reader]
    cases readDisjunction stop (readOperand stop fewer) (track.rest tokens) <;> rfl
  · rw [close, on_bind_ok _ on_peek, rest, closeRead]
    cases left : inner.rest with
    | nil => exact ⟨sound', rfl⟩
    | cons closing after =>
        have closes := (Callee.reader_eq_ok read).2.2 rfl closing after left
        obtain ⟨taken, behind⟩ := sound'.advanced (rest.trans left)
        simp only [List.head?_cons, closes, if_true]
        exact ⟨taken, rfl, same, behind⟩

theorem reads_operand
    (reads : Reads stop tokens .operand 2 fuel (operand stop tokens fuel))
    (behind : ReadsPrimary stop tokens fuel (primary stop tokens fuel)) :
    Reads stop tokens .operand 2 (fuel + 1) (operand stop tokens (fuel + 1)) := by
  intro track sound enough
  rw [operand]
  refine follows_visit ?_
  rw [on_bind_ok _ on_position]
  by_cases found : (track.rest tokens).head?.map Located.token = some .not
  · cases rest : track.rest tokens with
    | nil => simp [rest] at found
    | cons located more =>
        have negation : located.token = .not := by simpa [rest] using found
        obtain ⟨sound', left⟩ := sound.advanced rest
        rw [on_bind_ok _ (on_eat_of_eq rest negation)]
        rw [rest, List.length_cons] at enough
        have ran := follows_negation reads sound' (by rw [left]; omega) negation
        rw [left] at ran
        exact ran
  · rw [on_bind_ok _ (on_eat_of_ne found)]
    exact behind track sound (by omega) found

theorem reads_primary
    (reads : Reads stop tokens .disjunction 4 fuel (disjunction stop tokens fuel)) :
    ReadsPrimary stop tokens (fuel + 1) (primary stop tokens (fuel + 1)) := by
  intro track sound enough unnegated
  rw [primary]
  refine follows_visit ?_
  rw [on_bind_ok _ on_peek]
  simp only [Callee.reader]
  cases rest : track.rest tokens with
  | nil =>
      simp only [readOperand]
      exact ⟨sound, rfl⟩
  | cons located more =>
      obtain ⟨sound', left⟩ := sound.advanced rest
      have advanced : advance.on track = (.ok (), track.moved
          { track.cursor with taken := track.cursor.taken + 1 }) := rfl
      simp only [List.head?_cons]
      rw [on_bind_ok _ advanced]
      cases token : located.token with
      | opening =>
          rw [rest, List.length_cons] at enough
          have ran := follows_brackets reads sound' (by rw [left]; omega) token
          rw [left] at ran
          exact ran
      | word text | quoted text =>
          have read : readOperand stop track.room (located :: more) =
              .ok ⟨.ofText .keyword text, 1, more⟩ := by
            cases track.room <;> simp only [readOperand, token]
          rw [read]
          exact ⟨sound', rfl, rfl, left⟩
      | qualifier name value quotes =>
          cases spelled : Qualifier.read name value quotes with
          | error e =>
              have read : readOperand stop track.room (located :: more) = .error e := by
                cases track.room <;> simp only [readOperand, token, spelled]
              rw [read]
              dsimp only
              rw [spelled, on_bind_error _ (on_accept_error e)]
              exact ⟨sound', rfl⟩
          | ok q =>
              have read : readOperand stop track.room (located :: more) =
                  .ok ⟨.qualifier q, 1, more⟩ := by
                cases track.room <;> simp only [readOperand, token, spelled]
              rw [read]
              dsimp only
              rw [spelled, on_bind_ok _ (on_accept_ok q)]
              exact ⟨sound', rfl, rfl, left⟩
      | closing | and | or =>
          have read : readOperand stop track.room (located :: more) =
              .error located.unexpected := by
            cases track.room <;> simp only [readOperand, token]
          rw [read]
          exact ⟨sound', rfl⟩
      | not => simp [rest, token] at unnegated

end Operand

/-- Every call comes to what its reader comes to.  The induction is on the fuel, of which each call
and each round leaves one less to those inside it. -/
theorem reads_all (stop : Nat) (tokens : List Located) (fuel : Nat) :
    Reads stop tokens .disjunction 4 fuel (disjunction stop tokens fuel) ∧
    GoesOn stop tokens nextDisjunct .or .conjunction fuel (moreDisjuncts stop tokens fuel) ∧
    Reads stop tokens .conjunction 3 fuel (conjunction stop tokens fuel) ∧
    GoesOn stop tokens nextConjunct .and .operand fuel (moreConjuncts stop tokens fuel) ∧
    Reads stop tokens .operand 2 fuel (operand stop tokens fuel) ∧
    ReadsPrimary stop tokens fuel (primary stop tokens fuel) := by
  induction fuel with
  | zero =>
      refine ⟨?_, ?_, ?_, ?_, ?_, ?_⟩ <;> intro track <;> intros <;> omega
  | succ fuel ih =>
      obtain ⟨disjunctions, disjuncts, conjunctions, conjuncts, operands, primaries⟩ := ih
      exact ⟨reads_disjunction conjunctions disjuncts, goesOn_moreDisjuncts conjunctions disjuncts,
        reads_conjunction operands conjuncts, goesOn_moreConjuncts operands conjuncts,
        reads_operand operands primaries, reads_primary disjunctions⟩

end Follows

theorem start_isSound (stop : Nat) (tokens : List Located) :
    Track.IsSound stop tokens {} :=
  have within_ : Cursor.IsWithin tokens {} := ⟨Nat.zero_le _, Nat.zero_le _⟩
  ⟨within_, List.forall_mem_singleton.mpr within_, List.forall_mem_nil _⟩

/-- The whole comes to what all tokens come to, with a track that is sound. -/
theorem on_expression (stop : Nat) (tokens : List Located) :
    ((expression stop tokens).on {}).1 = (Expr.ofTokens stop tokens).mapError .refused ∧
      ((expression stop tokens).on {}).2.IsSound stop tokens := by
  have start := start_isSound stop tokens
  cases tokens with
  | nil => exact ⟨rfl, start⟩
  | cons located more =>
      have ran := (reads_all stop (located :: more) _).1 {} start (Nat.le_refl _)
      have all : Track.rest (located :: more) {} = located :: more := rfl
      have room : Track.room {} = maxDepth := rfl
      rw [all, room] at ran
      rw [expression, Expr.ofTokens.eq_2 stop (located :: more) (by simp), if_neg (by simp)]
      cases run : (disjunction stop (located :: more) (4 * (located :: more).length + 4)).on {} with
      | mk result track =>
          rw [run] at ran
          obtain ⟨sound, came⟩ := ran
          cases read : readDisjunction stop (readOperand stop maxDepth) (located :: more) with
          | error e =>
              simp only [Callee.reader, read] at came
              subst came
              rw [on_bind_error _ run]
              exact ⟨rfl, sound⟩
          | ok reading =>
              simp only [Callee.reader, read] at came
              obtain ⟨rfl, -, left⟩ := came
              rw [on_bind_ok _ run]
              dsimp only
              rw [on_bind_ok _ on_peek, left]
              cases reading.rest <;> exact ⟨rfl, sound⟩

/-- With a cursor the tokens are read as they are without, so that no opening is ever given back
that was not made, and no bracket is followed by another token than its closing one.  No cursor on
the way has more than `maxDepth` open, or more taken than there is, and every call that came back is
orderly. -/
theorem expression_keeps_order (stop : Nat) (tokens : List Located) :
    let ended := (expression stop tokens).on {}
    ended.1 = (Expr.ofTokens stop tokens).mapError .refused ∧
      (ended.1 ≠ .error .underflow ∧ ∀ found, ended.1 ≠ .error (.unclosed found)) ∧
      (∀ cursor ∈ ended.2.past, cursor.opened ≤ maxDepth ∧ cursor.taken ≤ tokens.length) ∧
      ∀ visit ∈ ended.2.visits, visit.IsOrderly stop tokens := by
  intro ended
  obtain ⟨same, sound⟩ := on_expression stop tokens
  refine ⟨same, ⟨?_, fun found => ?_⟩, fun cursor member => ?_, sound.visits⟩
  · rw [same]
    cases Expr.ofTokens stop tokens <;> exact nofun
  · rw [same]
    cases Expr.ofTokens stop tokens <;> exact nofun
  · obtain ⟨opened, taken⟩ := sound.past cursor member
    exact ⟨opened, taken⟩

/-- The calls of a word in brackets, the last one first: inside the brackets one of them is open. -/
example :
    let tokens : List Located := [⟨.opening, 0⟩, ⟨.word "a", 1⟩, ⟨.closing, 2⟩]
    let ended := (expression 3 tokens).on {}
    ended.2.visits.map (fun visit => (visit.callee, visit.entry, visit.exit)) =
      [(.disjunction, ⟨0, 0⟩, ⟨3, 0⟩), (.conjunction, ⟨0, 0⟩, ⟨3, 0⟩),
        (.operand, ⟨0, 0⟩, ⟨3, 0⟩), (.primary, ⟨0, 0⟩, ⟨3, 0⟩),
        (.disjunction, ⟨1, 1⟩, ⟨2, 1⟩), (.conjunction, ⟨1, 1⟩, ⟨2, 1⟩),
        (.operand, ⟨1, 1⟩, ⟨2, 1⟩), (.primary, ⟨1, 1⟩, ⟨2, 1⟩)] := by
  decide +kernel

end Descent

end Triage
