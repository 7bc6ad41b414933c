/-
# Triage.Proofs.Composition -- texts of expressions put together

A text that is read as an expression may stand in brackets, behind a `NOT` or beside another one,
whatever it looks like: the bracket behind it is a boundary that opens no quotes, so that it is cut
as if it stood alone (`yields_of_scan`), and a bracketed phrase is an operand, so that it is derived
as if it stood alone.  Only the limits are shared.  A JSON answer can be read, so that no two lists
of issues have the same one (`issues_of_listing`).  Main statement: `read_composed`, with what the
composed queries list.
-/
import Triage.Command
import Triage.Proofs.DepthLimit
import Triage.Proofs.Rereading
import Triage.Proofs.SnapshotText

namespace Triage

open Json (ofText)
open Triage.Text

set_option autoImplicit false

/-! ## Tokens -/

/-- The tokens in brackets. -/
def bracketed (tokens : List Token) : List Token := .opening :: (tokens ++ [.closing])

section Cut

variable {a b source : String} {us vs : List Token}

theorem CutInto.unique (first : CutInto a us) (second : CutInto a vs) : us = vs := by
  obtain ⟨located, cut, rfl⟩ := first
  obtain ⟨other, again, rfl⟩ := second
  rw [cut] at again
  cases again
  rfl

/-- A text in brackets is cut as it is alone. -/
theorem yields_bracketed (cut : CutInto a us) (after : List Char) :
    Yields ('(' :: (a.toList ++ [')'])) (bracketed us) after := by
  obtain ⟨located, scanned, rfl⟩ := cut
  have closes : Closes (')' :: after) := closes_cons (by decide) (by decide)
  have inside := yields_of_scan 0 a.toList scanned closes
  exact Written.opening.yields.append (inside.append Written.closing.yields)

/-- Two texts in brackets with something between them. -/
theorem cutInto_pair (first : CutInto a us) (second : CutInto b vs) {gap : List Char}
    {operator : List Token} (between : ∀ after, Yields gap operator after)
    (spelled : source.toList = '(' :: (a.toList ++ [')']) ++ (gap ++ '(' :: (b.toList ++ [')']))) :
    CutInto source (bracketed us ++ (operator ++ bracketed vs)) := by
  apply cutInto_of_yields
  rw [spelled]
  exact (yields_bracketed first _).append ((between _).append (yields_bracketed second []))

/-- An operator between blanks. -/
theorem yields_between {word : List Char} (known : word ∈ operatorWords) (after : List Char) :
    Yields (' ' :: (word ++ [' '])) [.ofWord word] after := by
  have blank := yields_blank (c := ' ') (by decide) (word ++ [' '] ++ after)
  exact blank.append (Expr.yields_operator word known after)

end Cut

/-! ## Readings -/

/-- The text is cut into the tokens; within the limits it is read as the expression, and beyond them
it is too deep. -/
structure ReadsUpToDepth (source : String) (tokens : List Token) (expr : Expr) : Prop where
  cut : CutInto source tokens
  read : WithinLimits tokens expr → Expr.read source = .ok expr
  tooDeep : ¬ WithinLimits tokens expr → ∃ position, Expr.read source = .error (.tooDeep position)

theorem readsUpToDepth_of_spells {source : String} {tokens : List Token} {expr : Expr}
    (cut : CutInto source tokens) (spells : Spells tokens expr) :
    ReadsUpToDepth source tokens expr := by
  obtain ⟨located, scanned, rfl⟩ := cut
  have same : Expr.read source = Expr.ofTokens (byteLength source.toList) located := by
    rw [Expr.read, scanned]
  obtain ⟨inside, beyond⟩ := Expr.ofTokens_of_spells spells
  exact ⟨⟨located, scanned, rfl⟩, fun fits => same.trans (inside fits), same ▸ beyond⟩

section Composed

variable {a b : String} {us vs : List Token} {room : Nat} {left right : Expr}

theorem readsUpToDepth_or (cutA : CutInto a us) (cutB : CutInto b vs)
    (first : Derives .disjunction room us left) (second : Derives .disjunction room vs right) :
    ReadsUpToDepth s!"({a}) OR ({b})" (bracketed us ++ .or :: bracketed vs) (left.or right) := by
  have between := yields_between (by decide : ['O', 'R'] ∈ operatorWords)
  exact readsUpToDepth_of_spells (cutInto_pair cutA cutB between (by simp [toString]))
    ⟨_, first.brackets.conjunct.disjunct.or second.brackets.conjunct⟩

theorem readsUpToDepth_juxtaposed (cutA : CutInto a us) (cutB : CutInto b vs)
    (first : Derives .disjunction room us left) (second : Derives .disjunction room vs right) :
    ReadsUpToDepth s!"({a}) ({b})" (bracketed us ++ bracketed vs) (left.and right) := by
  have between := yields_blank (by decide : isBlank ' ' = true)
  exact readsUpToDepth_of_spells (cutInto_pair cutA cutB between (by simp [toString]))
    ⟨_, (first.brackets.conjunct.juxtaposed second.brackets).disjunct⟩

theorem readsUpToDepth_and (cutA : CutInto a us) (cutB : CutInto b vs)
    (first : Derives .disjunction room us left) (second : Derives .disjunction room vs right) :
    ReadsUpToDepth s!"({a}) AND ({b})" (bracketed us ++ .and :: bracketed vs)
      (left.and right) := by
  have between := yields_between (by decide : ['A', 'N', 'D'] ∈ operatorWords)
  exact readsUpToDepth_of_spells (cutInto_pair cutA cutB between (by simp [toString]))
    ⟨_, (first.brackets.conjunct.and second.brackets).disjunct⟩

theorem readsUpToDepth_not (cutA : CutInto a us) (first : Derives .disjunction room us left) :
    ReadsUpToDepth s!"NOT ({a})" (.not :: bracketed us) left.not := by
  have front := Expr.yields_operator ['N', 'O', 'T'] (by decide) ('(' :: (a.toList ++ [')']) ++ [])
  have whole := front.append (yields_bracketed cutA [])
  have cut : CutInto s!"NOT ({a})" (.not :: bracketed us) :=
    cutInto_of_yields (by simpa [toString, Token.ofWord] using whole)
  exact readsUpToDepth_of_spells cut ⟨_, first.brackets.not.conjunct.disjunct⟩

end Composed

/-! ## Selections -/

namespace Expr

variable {catalog : Catalog} {issues : List Issue} {left right : Expr}

theorem mem_select {expr : Expr} {issue : Issue} :
    issue ∈ expr.select catalog issues ↔ issue ∈ issues ∧ expr.holds catalog issue = true :=
  List.mem_filter

theorem select_not : left.not.select catalog issues =
    issues.filter fun issue => decide (issue ∉ left.select catalog issues) := by
  refine List.filter_congr fun issue member => ?_
  simp [mem_select, member, holds]

theorem select_or : (left.or right).select catalog issues = issues.filter fun issue =>
    decide (issue ∈ left.select catalog issues ∨ issue ∈ right.select catalog issues) := by
  refine List.filter_congr fun issue member => ?_
  simp [mem_select, member, holds]

theorem select_and : (left.and right).select catalog issues = issues.filter fun issue =>
    decide (issue ∈ left.select catalog issues ∧ issue ∈ right.select catalog issues) := by
  refine List.filter_congr fun issue member => ?_
  simp [mem_select, member, holds]

/-- No issue satisfies an expression and its negation, and each satisfies one of them. -/
theorem select_split :
    (∀ issue ∈ left.select catalog issues, issue ∉ left.not.select catalog issues) ∧
      (left.select catalog issues ++ left.not.select catalog issues).Perm issues := by
  constructor
  · intro issue selected rejected
    have fails := (mem_select.mp rejected).2
    rw [holds, (mem_select.mp selected).2] at fails
    cases fails
  · exact List.filter_append_perm _ issues

end Expr

/-! ## Answers -/

/-- A JSON answer is read as the text of its expression and its issues. -/
theorem read?_listing (catalog : Catalog) (expr : Expr) (issues : List Issue) :
    (Json.read? (listing .json catalog expr issues).toList).bind Json.members? =
      some [("expression", ofText expr.text), ("issues", .array (issues.map Issue.toJson))] := by
  have newline : "\n".toList = List.replicate 1 '\n' := by decide
  have spelled : ∀ member ∈ [("expression", ofText expr.text),
      ("issues", Json.array (issues.map Issue.toJson))], member.2.Spelled := by
    simp [Json.spelled_ofText, Json.spelled_array Issue.spelled_toJson]
  have document := Json.read?_pretty (Json.spelled_ofMembers spelled) 1
  rw [listing, unlines, List.map_singleton, String.join_cons, String.join_nil, String.append_empty,
    String.toList_append, newline, document, Option.bind_some, Json.members?_ofMembers]

/-- A JSON answer lists these issues and no others. -/
theorem issues_of_listing {catalog : Catalog} {expr : Expr} {issues others : List Issue}
    (same : listing .json catalog expr issues = listing .json catalog expr others) :
    issues = others := by
  have fields := read?_listing catalog expr issues
  rw [same, read?_listing] at fields
  simp only [Option.some.injEq, List.cons.injEq, Prod.mk.injEq, true_and, and_true] at fields
  have items := congrArg (Json.list? Issue.ofJson?) fields.symm
  rwa [Json.list?_map Issue.ofJson?_toJson, Json.list?_map Issue.ofJson?_toJson,
    Option.some.injEq] at items

/-- A query with the text is answered by these issues, in every format. -/
def Snapshot.Lists (snapshot : Snapshot) (source : String) (expr : Expr) (issues : List Issue) :
    Prop :=
  ∀ format, Command.found snapshot source format =
    .ok (listing format snapshot.catalog expr issues)

theorem Snapshot.lists_of_read {source : String} {expr : Expr} (snapshot : Snapshot)
    (read : Expr.read source = .ok expr) :
    snapshot.Lists source expr (expr.select snapshot.catalog snapshot.issues) := by
  intro format
  rw [Command.found, readExpr, read]
  rfl

/-- The answers tell which issues they are. -/
theorem Snapshot.Lists.unique {snapshot : Snapshot} {source : String} {expr : Expr}
    {issues others : List Issue} (first : snapshot.Lists source expr issues)
    (second : snapshot.Lists source expr others) : issues = others :=
  issues_of_listing (Except.ok.inj ((first .json).symm.trans (second .json)))

namespace Expr

variable {a b : String} {left right : Expr}

/-- Bracketed texts are put together as their expressions are, within the limits, and the composed
queries list the union, the intersection and the rest of what the single ones list.  What a query
lists can be told from its answers. -/
theorem read_composed (first : read a = .ok left) (second : read b = .ok right) :
    ∃ us vs, CutInto a us ∧ CutInto b vs ∧
      ReadsUpToDepth s!"({a}) OR ({b})" (bracketed us ++ .or :: bracketed vs) (left.or right) ∧
      ReadsUpToDepth s!"({a}) ({b})" (bracketed us ++ bracketed vs) (left.and right) ∧
      ReadsUpToDepth s!"({a}) AND ({b})" (bracketed us ++ .and :: bracketed vs) (left.and right) ∧
      ReadsUpToDepth s!"NOT ({a})" (.not :: bracketed us) left.not ∧
      ∀ snapshot : Snapshot,
        let fromA := left.select snapshot.catalog snapshot.issues
        let fromB := right.select snapshot.catalog snapshot.issues
        (∀ source expr issues others, snapshot.Lists source expr issues →
          snapshot.Lists source expr others → issues = others) ∧
        snapshot.Lists a left fromA ∧ snapshot.Lists b right fromB ∧
        (WithinLimits (bracketed us ++ .or :: bracketed vs) (left.or right) →
          snapshot.Lists s!"({a}) OR ({b})" (left.or right)
            (snapshot.issues.filter fun issue => issue ∈ fromA ∨ issue ∈ fromB)) ∧
        (WithinLimits (bracketed us ++ bracketed vs) (left.and right) →
          snapshot.Lists s!"({a}) ({b})" (left.and right)
            (snapshot.issues.filter fun issue => issue ∈ fromA ∧ issue ∈ fromB)) ∧
        (WithinLimits (.not :: bracketed us) left.not →
          ∃ others, snapshot.Lists s!"NOT ({a})" left.not others ∧
            others = snapshot.issues.filter (fun issue => issue ∉ fromA) ∧
            (∀ issue ∈ fromA, issue ∉ others) ∧ (fromA ++ others).Perm snapshot.issues) := by
  obtain ⟨tokensA, scannedA, derivedA, -⟩ := exists_tokens_of_read first
  obtain ⟨tokensB, scannedB, derivedB, -⟩ := exists_tokens_of_read second
  have cutA : CutInto a (tokensA.map Located.token) := ⟨tokensA, scannedA, rfl⟩
  have cutB : CutInto b (tokensB.map Located.token) := ⟨tokensB, scannedB, rfl⟩
  have either := readsUpToDepth_or cutA cutB derivedA derivedB
  have both := readsUpToDepth_juxtaposed cutA cutB derivedA derivedB
  have negated := readsUpToDepth_not cutA derivedA
  have joined := readsUpToDepth_and cutA cutB derivedA derivedB
  refine ⟨_, _, cutA, cutB, either, both, joined, negated, fun snapshot => ?_⟩
  refine ⟨fun _ _ _ _ => Snapshot.Lists.unique, snapshot.lists_of_read first,
    snapshot.lists_of_read second, fun fits => ?_, fun fits => ?_, fun fits => ?_⟩
  · rw [← select_or]
    exact snapshot.lists_of_read (either.read fits)
  · rw [← select_and]
    exact snapshot.lists_of_read (both.read fits)
  · exact ⟨_, snapshot.lists_of_read (negated.read fits), select_not, select_split⟩

/-- Brackets and operators inside quotes, and a word that ends in a letter of two bytes. -/
theorem read_composed_quoted :
    let left : Expr := .or (.ofText .keyword "a) OR (b") (.not (.ofText .keyword "crashé"))
    let right : Expr := .ofText .title "x ) y"
    let a := "(\"a) OR (b\" OR NOT crashé)"
    let b := "title:\"x ) y\""
    let dawn : Instant := ⟨⟨2024, 1, 1, by decide⟩, ⟨6, 0, 0, 0, by decide⟩⟩
    let issues := [Issue.create 7 "Crashé" "ada" dawn, Issue.create 8 "X ) y" "ada" dawn,
      Issue.create 9 "Crashé: x ) y" "ada" dawn]
    let snapshot : Snapshot := { issues }
    (read a = .ok left ∧ read b = .ok right) ∧
      read s!"({a}) OR ({b})" = .ok (left.or right) ∧
      read s!"({a}) ({b})" = .ok (left.and right) ∧
      read s!"({a}) AND ({b})" = .ok (left.and right) ∧ read s!"NOT ({a})" = .ok left.not ∧
      snapshot.Lists a left [Issue.create 8 "X ) y" "ada" dawn] ∧
      snapshot.Lists s!"NOT ({a})" left.not
        [Issue.create 7 "Crashé" "ada" dawn, Issue.create 9 "Crashé: x ) y" "ada" dawn] ∧
      ¬ snapshot.Lists a left issues := by
  intro left right a b dawn issues snapshot
  have textA : left.text = a := by decide
  have textB : right.text = b := by decide
  have first : read a = .ok left := textA ▸
    (read_text_eq_ok_iff (by decide) (by decide)).mpr ⟨rfl, by decide, by decide, by decide⟩
  have second : read b = .ok right := textB ▸
    (read_text_eq_ok_iff (by decide) (by decide)).mpr ⟨rfl, by decide, by decide, by decide⟩
  obtain ⟨us, vs, cutA, cutB, either, both, joined, negated, lists⟩ := read_composed first second
  obtain rfl := cutA.unique (textA ▸ ofText_text (by decide))
  obtain rfl := cutB.unique (textB ▸ ofText_text (by decide))
  have chosen : left.select snapshot.catalog snapshot.issues =
      [Issue.create 8 "X ) y" "ada" dawn] := by decide +kernel
  obtain ⟨unique, single, -, -, -, split⟩ := lists snapshot
  obtain ⟨_, negation, rfl, -⟩ := split (by decide)
  rw [chosen] at single negation
  exact ⟨⟨first, second⟩, either.read (by decide), both.read (by decide), joined.read (by decide),
    negated.read (by decide), single, negation, fun all => absurd (unique _ _ _ _ single all)
      (by decide)⟩

end Expr

end Triage
