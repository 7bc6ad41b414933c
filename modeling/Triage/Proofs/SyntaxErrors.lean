/-
# Triage.Proofs.SyntaxErrors -- which token a complaint points to

A reading goes from left to right and complains as soon as the tokens so far begin no sentence any
more.  So the tokens in front of an unexpected one are viable, and with it they are not; where the
text ended too early all of it is viable, and it is no sentence.  What an error says of the tokens
that were to be read as a phrase (`Explains`) is carried outwards through `NOT`s, brackets and
chains of operands: each of them is something in front of a phrase that leads up to it (`Leads`).
Main statement: `read_syntax_error`.
-/
import Triage.Proofs.DepthLimit
import Triage.Proofs.TokenSplits
import Triage.Proofs.ViablePrefix

namespace Triage

open Triage.Text Triage.Reading

set_option autoImplicit false

/-! ## Positions -/

/-- The tokens in front of one are those that start before it. -/
theorem Located.filter_position_lt {before after : List Located} {offending : Located}
    (increasing : (before ++ offending :: after).Pairwise
      fun one other => one.position < other.position) :
    (before ++ offending :: after).filter (fun located => located.position < offending.position) =
      before := by
  obtain ⟨-, behind, across⟩ := List.pairwise_append.mp increasing
  have front : ∀ located ∈ before, located.position < offending.position :=
    fun located member => across located member offending List.mem_cons_self
  have back : ∀ located ∈ offending :: after, ¬ located.position < offending.position := by
    intro located member
    rcases List.mem_cons.mp member with rfl | later
    · exact Nat.lt_irrefl _
    · exact Nat.not_lt.mpr (Nat.le_of_lt ((List.pairwise_cons.mp behind).1 located later))
  rw [List.filter_append,
    List.filter_eq_self.mpr fun located member => decide_eq_true (front _ member),
    List.filter_eq_nil_iff.mpr fun located member => by simpa using back located member,
    List.append_nil]

/-! ## What an error says of a phrase -/

/-- The tokens can be completed to a phrase, with no more open at once than there is room for. -/
def Begins (phrase : Phrase) (room : Nat) (tokens : List Token) : Prop :=
  ∃ more expr, Derives phrase room (tokens ++ more) expr

theorem begins_nil (room : Nat) : Begins .operand room [] :=
  ⟨[.word "a"], _, .leaf rfl⟩

theorem Begins.isViable {room : Nat} {tokens : List Token}
    (begins : Begins .disjunction room tokens) : IsViable tokens := by
  obtain ⟨more, expr, derived⟩ := begins
  exact ⟨more, expr, room, derived⟩

namespace Reading

/-- `offending` cannot stand behind `before` in a phrase that could go on there. -/
structure Offends (phrase : Phrase) (room : Nat) (before : List Located) (offending : Located) :
    Prop where
  stray : offending.token.beginsOperand = false
  begins : Begins phrase room (before.map Located.token)
  stuck : ∀ brackets,
    Progress.after ⟨brackets, false⟩ ((before ++ [offending]).map Located.token) = none

/-- What an error says of the tokens that were to be read as a phrase: they hold an offending token,
or they end too early. -/
def Explains (phrase : Phrase) (room : Nat) (tokens : List Located) (error : ReadError) : Prop :=
  match error with
  | .unexpected .. => ∃ before offending after, tokens = before ++ offending :: after ∧
      offending.unexpected = error ∧ Offends phrase room before offending
  | .ended _ => Begins phrase room (tokens.map Located.token)
  | .nothing => False
  | .unknownKind _ | .badLiteral .. | .openQuote _ | .tooDeep _ => True

/-- What stands in `front` leaves the reading where the phrase behind it is due. -/
def Leads (front tokens : List Located) : Prop :=
  ∀ brackets, ∃ inside, ∀ used, used ≠ [] → used <+: tokens →
    Progress.after ⟨brackets, false⟩ ((front ++ used).map Located.token) =
      Progress.after ⟨inside, false⟩ (used.map Located.token)

/-- What explains the failure of a phrase explains the failure of a larger one around it. -/
theorem Explains.behind {inner outer : Phrase} {fewer room : Nat} {front tokens : List Located}
    {error : ReadError} (explains : Explains inner fewer tokens error)
    (leads : Leads front tokens)
    (completes : ∀ used, Begins inner fewer used →
      Begins outer room (front.map Located.token ++ used)) :
    Explains outer room (front ++ tokens) error := by
  cases error with
  | unexpected found position =>
      obtain ⟨before, offending, after, rfl, same, offends⟩ := explains
      refine ⟨front ++ before, offending, after, by simp, same, offends.stray, ?_,
        fun brackets => ?_⟩
      · rw [List.map_append]
        exact completes _ offends.begins
      · obtain ⟨inside, through⟩ := leads brackets
        rw [List.append_assoc, through _ (by simp) (by simp), offends.stuck]
  | ended wanted =>
      show Begins outer room ((front ++ tokens).map Located.token)
      rw [List.map_append]
      exact completes _ explains
  | nothing => exact explains
  | unknownKind | badLiteral | openQuote | tooDeep => trivial

theorem leads_nil (tokens : List Located) : Leads [] tokens :=
  fun brackets => ⟨brackets, fun _ _ _ => rfl⟩

theorem leads_not {located : Located} (negation : located.token = .not) (tokens : List Located) :
    Leads [located] tokens :=
  fun brackets => ⟨brackets, fun used _ _ => by simp [negation, Progress.step]⟩

theorem leads_opening {located : Located} (bracket : located.token = .opening)
    (tokens : List Located) : Leads [located] tokens :=
  fun brackets => ⟨brackets + 1, fun used _ _ => by simp [bracket, Progress.step]⟩

/-! ## Chains of operands -/

/-- Behind a complete operand the next one is due where `next` finds it. -/
def Continues (next : List Located → Option (List Located)) : Prop :=
  ∀ tokens more, next tokens = some more → ∃ gap, tokens = gap ++ more ∧
    ∀ brackets used, used ≠ [] → used <+: more →
      Progress.after ⟨brackets, true⟩ ((gap ++ used).map Located.token) =
        Progress.after ⟨brackets, false⟩ (used.map Located.token)

theorem continues_nextConjunct : Continues nextConjunct := by
  intro tokens more found
  cases tokens with
  | nil => cases found
  | cons located rest =>
      rw [nextConjunct] at found
      split at found
      · next operator =>
          cases found
          exact ⟨[located], rfl, fun brackets used _ _ => by simp [operator, Progress.step]⟩
      · split at found
        · next begins =>
            cases found
            refine ⟨[], rfl, fun brackets used some_ front => ?_⟩
            obtain ⟨first, others, rfl⟩ := List.exists_cons_of_ne_nil some_
            obtain ⟨rfl, -⟩ := List.cons_prefix_cons.mp front
            simp [Progress.step_of_beginsOperand begins]
        · cases found

theorem continues_nextDisjunct : Continues nextDisjunct := by
  intro tokens more found
  cases tokens with
  | nil => cases found
  | cons located rest =>
      rw [nextDisjunct] at found
      split at found
      · next operator =>
          cases found
          exact ⟨[located], rfl, fun brackets used _ _ => by simp [operator, Progress.step]⟩
      · cases found

theorem explained_joinHeight {left right position : Nat} {error : ReadError}
    (failed : joinHeight left right position = .error error) (phrase : Phrase) (room : Nat)
    (tokens : List Located) : Explains phrase room tokens error := by
  unfold joinHeight at failed
  split at failed <;> cases failed
  trivial

/-- Every error of a reader is explained. -/
def Explained (phrase : Phrase) (room : Nat) (reader : Reader) : Prop :=
  ∀ tokens error, reader tokens = .error error → Explains phrase room tokens error

section Chain

variable {outer inner : Phrase} {room stop : Nat} {next : List Located → Option (List Located)}
  {join : Expr → Expr → Expr} {operand : Reader}

/-- The induction keeps what stands before the rest of a chain derived. -/
theorem explains_extend (joins : Joins outer inner room next join) (continues : Continues next)
    (sound : Sound inner room operand) (explained : Explained inner room operand) {steps : Nat}
    {left : Reading} {before : List Located} {error : ReadError}
    (derived : Derives outer room (before.map Located.token) left.expr)
    (failed : extend stop next join operand steps left = .error error) :
    Explains outer room (before ++ left.rest) error := by
  induction steps generalizing left before with
  | zero => cases failed
  | succ steps ih =>
      rw [extend] at failed
      split at failed
      · cases failed
      · next tokens found =>
          obtain ⟨gap, split, rule⟩ := joins.2 _ _ found
          rw [split, ← List.append_assoc]
          split at failed
          · next wrong read =>
              cases failed
              refine (explained _ _ read).behind (fun brackets => ⟨brackets, ?_⟩) ?_
              · intro used some_ front
                obtain ⟨same, split', goesOn⟩ := continues _ _ found
                obtain rfl := List.append_cancel_right (split.symm.trans split')
                rw [List.append_assoc, List.map_append, Progress.after_append, derived.after_eq]
                exact goesOn brackets used some_ front
              · rintro used ⟨more, expr, second⟩
                refine ⟨more, join left.expr expr, ?_⟩
                simpa using rule _ _ _ _ derived second
          · next right read =>
              obtain ⟨used, same, second, -⟩ := sound _ _ read
              split at failed
              · next tall =>
                  cases failed
                  exact explained_joinHeight tall _ _ _
              · next height fits =>
                  have longer : Derives outer room ((before ++ gap ++ used).map Located.token)
                      (join left.expr right.expr) := by
                    simpa using rule _ _ _ _ derived second
                  rw [same, ← List.append_assoc]
                  exact @ih ⟨join left.expr right.expr, height, right.rest⟩ _ longer failed

theorem explained_chain (joins : Joins outer inner room next join) (continues : Continues next)
    (lift : ∀ tokens expr, Derives inner room tokens expr → Derives outer room tokens expr)
    (sound : Sound inner room operand) (explained : Explained inner room operand) :
    Explained outer room (chain stop next join operand) := by
  intro tokens error failed
  rw [chain] at failed
  split at failed
  · next wrong read =>
      cases failed
      refine (explained _ _ read).behind (leads_nil tokens) ?_
      rintro used ⟨more, expr, derived⟩
      exact ⟨more, expr, lift _ _ derived⟩
  · next first read =>
      obtain ⟨used, same, derived, -⟩ := sound _ _ read
      rw [same]
      exact explains_extend joins continues sound explained (lift _ _ derived) failed

end Chain

theorem explained_readDisjunction {room stop : Nat} {operand : Reader}
    (consumes : Consumes operand) (sound : Sound .operand room operand)
    (explained : Explained .operand room operand) :
    Explained .disjunction room (readDisjunction stop operand) :=
  explained_chain (nextDisjunct_joins room) continues_nextDisjunct (fun _ _ => .disjunct)
    (sound_readConjunction consumes sound)
    (explained_chain (nextConjunct_joins room) continues_nextConjunct (fun _ _ => .conjunct) sound
      explained)

/-! ## Operands -/

/-- A stray token is the first of what was to be an operand. -/
theorem explains_stray {room : Nat} {located : Located} (rest : List Located)
    (stray : located.token.beginsOperand = false) :
    Explains .operand room (located :: rest) located.unexpected :=
  ⟨[], located, rest, rfl, rfl, stray, begins_nil room, fun brackets => by
    simp [Progress.step_eq_none stray]⟩

theorem explained_qualifier {name value : String} {quotes : Bool} {error : ReadError}
    (failed : Qualifier.read name value quotes = .error error) (phrase : Phrase) (room : Nat)
    (tokens : List Located) : Explains phrase room tokens error := by
  unfold Qualifier.read at failed
  split at failed
  · cases failed
    trivial
  · split at failed
    · cases failed
      trivial
    · split at failed <;> cases failed
      trivial

theorem begins_not {room : Nat} {tokens : List Token} (begins : Begins .operand room tokens) :
    Begins .operand (room + 1) (.not :: tokens) := by
  obtain ⟨more, expr, derived⟩ := begins
  exact ⟨more, _, derived.not⟩

theorem begins_opening {room : Nat} {tokens : List Token}
    (begins : Begins .disjunction room tokens) :
    Begins .operand (room + 1) (.opening :: tokens) := by
  obtain ⟨more, expr, derived⟩ := begins
  refine ⟨more ++ [.closing], expr, ?_⟩
  simpa using derived.brackets

section Operator

variable {stop fewer : Nat} {located : Located} {rest : List Located} {error : ReadError}

theorem explains_negated (explained : Explained .operand fewer (readOperand stop fewer))
    (negation : located.token = .not)
    (failed : readOperand stop (fewer + 1) (located :: rest) = .error error) :
    Explains .operand (fewer + 1) (located :: rest) error := by
  simp only [readOperand, negation] at failed
  split at failed
  · next wrong read =>
      cases failed
      refine (explained _ _ read).behind (leads_not negation rest) fun used begins => ?_
      simpa [negation] using begins_not begins
  · split at failed
    · next wrong tall =>
        cases failed
        exact explained_joinHeight tall _ _ _
    · cases failed

/-- In brackets the disjunction fails, or the text ends behind it.  Another token behind it closes
the bracket. -/
theorem explains_bracketed (explained : Explained .operand fewer (readOperand stop fewer))
    (bracket : located.token = .opening)
    (failed : readOperand stop (fewer + 1) (located :: rest) = .error error) :
    Explains .operand (fewer + 1) (located :: rest) error := by
  have consumes := readOperand_consumes stop fewer
  have sound := sound_readOperand stop fewer
  simp only [readOperand, bracket] at failed
  split at failed
  · next wrong read =>
      cases failed
      refine (explained_readDisjunction consumes sound explained _ _ read).behind
        (leads_opening bracket rest) fun used begins => ?_
      simpa [bracket] using begins_opening begins
  · next inner read =>
      obtain ⟨used, same, derived, -⟩ := sound_readDisjunction consumes sound _ _ read
      split at failed
      · next ended =>
          cases failed
          rw [ended, List.append_nil] at same
          subst same
          have begins : Begins .disjunction fewer (rest.map Located.token) :=
            ⟨[], _, by rw [List.append_nil]; exact derived⟩
          simpa [Explains, bracket] using begins_opening begins
      · next following after left =>
          have stops := stops_of_readDisjunction consumes read
          rw [left] at stops
          simp [closing_of_stops stops] at failed

end Operator

theorem explained_readOperand (stop room : Nat) :
    Explained .operand room (readOperand stop room) := by
  -- The induction is on the room, as for `sound_readOperand`.
  induction room using Nat.strongRecOn with
  | ind room ih =>
      intro tokens error failed
      cases tokens with
      | nil =>
          rw [readOperand] at failed
          cases failed
          exact begins_nil room
      | cons located rest =>
          cases token : located.token with
          | word | quoted => cases room <;> simp [readOperand, token] at failed
          | closing | and | or =>
              have same : error = located.unexpected := by
                cases room <;> simpa [readOperand, token, eq_comm] using failed
              rw [same]
              exact explains_stray rest (by rw [token]; rfl)
          | qualifier name value quotes =>
              cases read : Qualifier.read name value quotes with
              | ok q => cases room <;> simp [readOperand, token, read] at failed
              | error e =>
                  have same : error = e := by
                    cases room <;> simpa [readOperand, token, read, eq_comm] using failed
                  rw [same]
                  exact explained_qualifier read _ _ _
          | not =>
              cases room with
              | zero =>
                  simp only [readOperand, token] at failed
                  cases failed
                  trivial
              | succ fewer =>
                  exact explains_negated (ih fewer (Nat.lt_succ_self fewer)) token failed
          | opening =>
              cases room with
              | zero =>
                  simp only [readOperand, token] at failed
                  cases failed
                  trivial
              | succ fewer =>
                  exact explains_bracketed (ih fewer (Nat.lt_succ_self fewer)) token failed

end Reading

namespace Expr

variable {stop : Nat} {tokens : List Located}

/-- An error of the whole is an error of the disjunction that was to be read, or tokens are left
behind a complete sentence. -/
theorem ofTokens_error {error : ReadError} (failed : ofTokens stop tokens = .error error) :
    (tokens = [] ∧ error = .nothing) ∨
    (tokens ≠ [] ∧ Explains .disjunction maxDepth tokens error) ∨
    ∃ before offending after, tokens = before ++ offending :: after ∧
      error = offending.unexpected ∧ offending.token = .closing ∧
      ∃ expr, Derives .disjunction maxDepth (before.map Located.token) expr := by
  have consumes := readOperand_consumes stop maxDepth
  have sound := sound_readOperand stop maxDepth
  cases tokens with
  | nil =>
      cases failed
      exact .inl ⟨rfl, rfl⟩
  | cons located rest =>
      rw [ofTokens.eq_2 stop (located :: rest) (by simp)] at failed
      split at failed
      · next wrong read =>
          cases failed
          exact .inr (.inl ⟨List.cons_ne_nil _ _, explained_readDisjunction consumes sound
            (explained_readOperand stop maxDepth) _ _ read⟩)
      · next reading read =>
          obtain ⟨used, same, derived, -⟩ := sound_readDisjunction consumes sound _ _ read
          split at failed
          · cases failed
          · next offending after left =>
              cases failed
              have stops := stops_of_readDisjunction consumes read
              rw [left] at same stops
              exact .inr (.inr
                ⟨used, offending, after, same, rfl, closing_of_stops stops, _, derived⟩)

/-- Only where there is no token there is nothing to read. -/
theorem ofTokens_eq_nothing_iff : ofTokens stop tokens = .error .nothing ↔ tokens = [] := by
  constructor
  · intro failed
    rcases ofTokens_error failed with ⟨none_, -⟩ | ⟨-, impossible⟩ | ⟨_, _, _, -, unlike, -⟩
    · exact none_
    · cases impossible
    · cases unlike
  · rintro rfl
    rfl

/-- Tokens that end too early are the front of a sentence and none themselves. -/
theorem isViable_of_ended {wanted : Wanted}
    (failed : ofTokens stop tokens = .error (.ended wanted)) :
    tokens ≠ [] ∧ IsViable (tokens.map Located.token) ∧
      ∀ expr, ¬ Spells (tokens.map Located.token) expr := by
  refine ⟨?_, ?_, fun expr spells => ?_⟩
  · rintro rfl
    cases failed
  · rcases ofTokens_error failed with ⟨-, unlike⟩ | ⟨-, begins⟩ | ⟨_, _, _, -, unlike, -⟩
    · cases unlike
    · exact Begins.isViable begins
    · cases unlike
  · rcases @unlessTooDeep_ofTokens stop _ _ spells with read | ⟨position, deep⟩
    · rw [read] at failed
      cases failed
    · rw [deep] at failed
      cases failed

/-- Up to an unexpected token the tokens are the front of a sentence, and with it they are not. -/
theorem exists_offending_of_unexpected {found : String} {position : Nat}
    (failed : ofTokens stop tokens = .error (.unexpected found position)) :
    ∃ before offending after, tokens = before ++ offending :: after ∧
      offending.position = position ∧ offending.token.shown = found ∧
      offending.token.beginsOperand = false ∧ IsViable (before.map Located.token) ∧
      ¬ IsViable ((before ++ [offending]).map Located.token) := by
  rcases ofTokens_error failed with ⟨-, unlike⟩ | ⟨-, explains⟩ |
    ⟨before, offending, after, rfl, same, closes, expr, derived⟩
  · cases unlike
  · obtain ⟨before, offending, after, rfl, same, offends⟩ := explains
    cases same
    exact ⟨before, offending, after, rfl, rfl, rfl, offends.stray,
      Begins.isViable offends.begins, not_isViable_of_after (offends.stuck 0)⟩
  · cases same
    refine ⟨before, offending, after, rfl, rfl, rfl, by rw [closes]; rfl,
      ⟨[], expr, maxDepth, by rwa [List.append_nil]⟩, not_isViable_of_after ?_⟩
    -- the sentence is complete, so no bracket is open for it to close
    rw [List.map_append, Progress.after_append, derived.after_eq]
    simp [closes, Progress.start, Progress.step]

theorem shown_of_stray {token : Token} (stray : token.beginsOperand = false) :
    token.shown ∈ [")", "AND", "OR"] := by
  cases token with
  | closing | and | or => decide
  | opening | not | word | quoted | qualifier => cases stray

/-- Of a text that is cut into tokens: the tokens that start before an unexpected one are the front
of a sentence, with it they are not, and it is shown as it stands in canonical text.  Where the text
ends too early its tokens, of which there is one at least, are the front of a sentence and none
themselves.  There is nothing to read exactly if there is no token. -/
theorem read_syntax_error {source : String} {tokens : List Located}
    (cut : Token.ofText source = .ok tokens) :
    (∀ found position, read source = .error (.unexpected found position) →
      ∃ before offending after, tokens = before ++ offending :: after ∧
        before = tokens.filter (fun located => located.position < position) ∧
        offending.position = position ∧ offending.token.shown = found ∧
        found ∈ [")", "AND", "OR"] ∧ IsViable (before.map Located.token) ∧
        ¬ IsViable ((before ++ [offending]).map Located.token)) ∧
    (∀ wanted, read source = .error (.ended wanted) →
      tokens ≠ [] ∧ IsViable (tokens.map Located.token) ∧
        ∀ expr, ¬ Spells (tokens.map Located.token) expr) ∧
    (read source = .error .nothing ↔ tokens = []) := by
  have increasing := (Token.scan_increasing 0 _ cut).2
  have whole : read source = ofTokens (byteLength source.toList) tokens := by rw [read, cut]
  rw [whole]
  refine ⟨fun found position failed => ?_, fun wanted => isViable_of_ended, ofTokens_eq_nothing_iff⟩
  obtain ⟨before, offending, after, rfl, rfl, rfl, stray, viable, not_⟩ :=
    exists_offending_of_unexpected failed
  exact ⟨before, offending, after, rfl, (Located.filter_position_lt increasing).symm, rfl, rfl,
    shown_of_stray stray, viable, not_⟩

/-- A bracket closes where an operand is due, and at the end of `NOT (a` one is due, or a
bracket. -/
theorem read_syntax_error_brackets :
    let early : List Located :=
      [⟨.word "bug", 0⟩, ⟨.opening, 4⟩, ⟨.word "a", 5⟩, ⟨.or, 7⟩, ⟨.closing, 10⟩, ⟨.word "b", 12⟩]
    let late : List Located := [⟨.not, 0⟩, ⟨.opening, 4⟩, ⟨.word "a", 5⟩]
    (Token.ofText "bug (a || ) b" = .ok early ∧ Token.ofText "NOT (a" = .ok late) ∧
    read "bug (a || ) b" = .error (.unexpected ")" 10) ∧
    IsViable [.word "bug", .opening, .word "a", .or] ∧
    ¬ IsViable [.word "bug", .opening, .word "a", .or, .closing] ∧
    read "NOT (a" = .error (.ended .closing) ∧ IsViable [.not, .opening, .word "a"] ∧
    ∀ expr, ¬ Spells [.not, .opening, .word "a"] expr := by
  intro early late
  have first : Token.ofText "bug (a || ) b" = .ok early :=
    toOption_eq_some_iff.mp (by decide +kernel)
  have second : Token.ofText "NOT (a" = .ok late := toOption_eq_some_iff.mp (by decide +kernel)
  have stray : read "bug (a || ) b" = .error (.unexpected ")" 10) := by
    rw [read, first]
    rfl
  have ended : read "NOT (a" = .error (.ended .closing) := by
    rw [read, second]
    rfl
  obtain ⟨before, offending, after, split, front, place, -, -, viable, not_⟩ :=
    (read_syntax_error first).1 _ _ stray
  obtain ⟨-, open_, unfinished⟩ := (read_syntax_error second).2.1 _ ended
  have here : before = early.take 4 := front.trans (by decide)
  subst here
  obtain ⟨same, -⟩ := List.cons.inj (List.append_cancel_left
    (show early.take 4 ++ early.drop 4 = _ from (List.take_append_drop 4 early).trans split))
  subst same
  exact ⟨⟨first, second⟩, stray, viable, not_, ended, open_, unfinished⟩

end Expr

end Triage
