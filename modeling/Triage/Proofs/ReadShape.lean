/-
# Triage.Proofs.ReadShape -- what every expression that is read looks like

The grammar gives an expression one qualifier for every operand token, in their order
(`Derives.map_leaf?_eq`), and no empty expression; a reading is no higher than `maxDepth`.  What is
computed from an expression by recursion over it is a `Walk`: a value for every leaf, and for every
operator a value from those of its operands.  Walking with a limit on the calls that are open at
once succeeds exactly if the expression is no higher than the limit (`Walk.within_eq`).  Selecting,
writing, pruning and editing are walks.  Main statement: `read_shape`.
-/
import Triage.Expr.Edit
import Triage.Expr.Pruning
import Triage.Expr.Selection
import Triage.Proofs.SyntaxErrors

namespace Triage

set_option autoImplicit false

/-! ## Recursion over an expression -/

/-- A recursion: what it makes of a leaf, and of an operator from what it made of the operands. -/
structure Walk (α : Type) where
  qualifier : Qualifier → α
  empty : α
  not : α → α
  and : α → α → α
  or : α → α → α

namespace Walk

variable {α : Type}

def run (walk : Walk α) : Expr → α
  | .qualifier q => walk.qualifier q
  | .empty => walk.empty
  | .not operand => walk.not (walk.run operand)
  | .and left right => walk.and (walk.run left) (walk.run right)
  | .or left right => walk.or (walk.run left) (walk.run right)

/-- The same with so many calls open at once and no more. -/
def within (walk : Walk α) : Nat → Expr → Option α
  | 0, _ => none
  | _ + 1, .qualifier q => some (walk.qualifier q)
  | _ + 1, .empty => some walk.empty
  | levels + 1, .not operand => do return walk.not (← walk.within levels operand)
  | levels + 1, .and left right => do
    return walk.and (← walk.within levels left) (← walk.within levels right)
  | levels + 1, .or left right => do
    return walk.or (← walk.within levels left) (← walk.within levels right)

/-- A walk takes as many levels as the expression has. -/
theorem within_eq (walk : Walk α) (levels : Nat) (expr : Expr) :
    walk.within levels expr = if expr.height ≤ levels then some (walk.run expr) else none := by
  induction levels generalizing expr with
  | zero =>
      have := expr.height_pos
      rw [within, if_neg (by omega)]
  | succ levels ih =>
      cases expr with
      | qualifier q | empty => simp [within, run, Expr.height]
      | not operand =>
          by_cases fits : operand.height ≤ levels
          · simp [within, run, Expr.height, ih, fits]
          · simp [within, Expr.height, ih, fits]
      | and left right | or left right =>
          simp only [within, run, Expr.height, ih, Nat.add_le_add_iff_right, Nat.max_le]
          by_cases fits : left.height ≤ levels
          · by_cases fits' : right.height ≤ levels <;> simp [fits, fits']
          · simp [fits]

/-- Whether an issue satisfies the expression. -/
def selecting (catalog : Catalog) (issue : Issue) : Walk Bool where
  qualifier q := q.holds catalog issue
  empty := true
  not holds := !holds
  and left right := left && right
  or left right := left || right

/-- The canonical text. -/
def writing : Walk (List Char) where
  qualifier q := q.chars
  empty := []
  not chars := 'N' :: 'O' :: 'T' :: ' ' :: chars
  and left right := '(' :: left ++ ' ' :: right ++ [')']
  or left right := '(' :: left ++ ' ' :: 'O' :: 'R' :: ' ' :: right ++ [')']

def pruning (keep : Qualifier → Bool) : Walk Expr where
  qualifier q := if keep q then .qualifier q else .empty
  empty := .empty
  not := .not
  and := Expr.collapse .and
  or := Expr.collapse .or

/-- An edit as a change of any issue; what stands under a `NOT` or an `OR` is not looked at. -/
def editing (catalog : Catalog) : Walk (Issue → Edited) where
  qualifier q issue := Expr.edit catalog issue (.qualifier q)
  empty issue := ⟨issue, none⟩
  not _ issue := ⟨issue, some (.unsupported .negation)⟩
  or _ _ issue := ⟨issue, some (.unsupported .disjunction)⟩
  and left right issue :=
    let first := left issue
    match first.error with
    | some _ => first
    | none => right first.issue

theorem run_selecting (catalog : Catalog) (issue : Issue) (expr : Expr) :
    (selecting catalog issue).run expr = expr.holds catalog issue := by
  induction expr with
  | qualifier | empty => rfl
  | not operand ih => rw [run, ih]; rfl
  | and left right ihl ihr | or left right ihl ihr => rw [run, ihl, ihr]; rfl

theorem run_writing (expr : Expr) : writing.run expr = expr.chars := by
  induction expr with
  | qualifier | empty => rfl
  | not operand ih => rw [run, ih]; rfl
  | and left right ihl ihr | or left right ihl ihr => rw [run, ihl, ihr]; rfl

theorem run_pruning (keep : Qualifier → Bool) (expr : Expr) :
    (pruning keep).run expr = expr.prune keep := by
  induction expr with
  | qualifier | empty => rfl
  | not operand ih => rw [run, ih]; rfl
  | and left right ihl ihr | or left right ihl ihr => rw [run, ihl, ihr]; rfl

theorem run_editing (catalog : Catalog) (expr : Expr) :
    (editing catalog).run expr = fun issue => expr.edit catalog issue := by
  induction expr with
  | qualifier | empty | not | or => rfl
  | and left right ihl ihr => rw [run, ihl, ihr]; rfl

end Walk

/-! ## One qualifier for every operand token -/

/-- The tokens that are operands by themselves. -/
def Token.isOperand : Token → Bool
  | .word _ | .quoted _ | .qualifier .. => true
  | .opening | .closing | .and | .or | .not => false

theorem Token.isOperand_of_leaf? {token : Token} {q : Qualifier} (leaf : token.leaf? = some q) :
    token.isOperand = true := by
  cases token with
  | word | quoted | qualifier => rfl
  | opening | closing | and | or | not => cases leaf

/-- Every operand token spells the qualifier at its place. -/
theorem Derives.map_leaf?_eq {phrase : Phrase} {room : Nat} {tokens : List Token} {expr : Expr}
    (derived : Derives phrase room tokens expr) :
    (tokens.filter Token.isOperand).map Token.leaf? = expr.qualifiers.map some := by
  induction derived with
  | leaf leaf => simp [Expr.qualifiers, Token.isOperand_of_leaf? leaf, leaf]
  | conjunct _ ih | disjunct _ ih => exact ih
  | not _ ih | brackets _ ih => simpa [Expr.qualifiers, Token.isOperand] using ih
  | and _ _ ihl ihr | or _ _ ihl ihr => simp [Expr.qualifiers, Token.isOperand, ihl, ihr]
  | juxtaposed _ _ ihl ihr => simp [Expr.qualifiers, ihl, ihr]

namespace Expr

variable {source : String} {expr : Expr}

/-- Whatever is read has no empty expression in it and no more than `maxDepth` levels, so that no
recursion over it takes more.  Its literals have the types of their kinds and its texts hold no
quotes.  Its qualifiers are those that the operand tokens spell, one for each, in the order in which
they stand in the text. -/
theorem read_shape (parsed : read source = .ok expr) :
    expr.hasEmpty = false ∧ expr.height ≤ maxDepth ∧
    (∀ q ∈ expr.qualifiers, q.literal.valueType = q.kind.valueType ∧
      ∀ text, q.text? = some text → '"' ∉ text.toList) ∧
    (∃ tokens, Token.ofText source = .ok tokens ∧
      tokens.Pairwise (fun one other => one.position < other.position) ∧
      (tokens.filter (·.token.isOperand)).map (·.token.leaf?) = expr.qualifiers.map some) ∧
    (∀ catalog issue,
      (Walk.selecting catalog issue).within maxDepth expr = some (expr.holds catalog issue)) ∧
    Walk.writing.within maxDepth expr = some expr.chars ∧
    (∀ keep, (Walk.pruning keep).within maxDepth expr = some (expr.prune keep)) ∧
    ∀ catalog, (Walk.editing catalog).within maxDepth expr =
      some fun issue => expr.edit catalog issue := by
  obtain ⟨whole, fits, typed, quotable⟩ := shape_of_read parsed
  obtain ⟨tokens, cut, derived, -⟩ := exists_tokens_of_read parsed
  have levels {α : Type} (walk : Walk α) : walk.within maxDepth expr = some (walk.run expr) := by
    rw [walk.within_eq, if_pos fits]
  refine ⟨whole, fits, fun q member => ⟨of_decide_eq_true (typed q member), quotable q member⟩,
    ⟨tokens, cut, (Token.scan_increasing 0 _ cut).2, ?_⟩, fun catalog issue => ?_, ?_,
    fun keep => ?_, fun catalog => ?_⟩
  · have places := derived.map_leaf?_eq
    rwa [List.filter_map, List.map_map] at places
  · rw [levels, Walk.run_selecting]
  · rw [levels, Walk.run_writing]
  · rw [levels, Walk.run_pruning]
  · rw [levels, Walk.run_editing]

/-- A keyword, and two alternatives under a `NOT`. -/
theorem read_shape_nested :
    let source := "a NOT (title:\"b c\" | 5)"
    let title : Qualifier := .ofText .title "b c"
    let expr : Expr :=
      (ofText .keyword "a").and (.not (.or (.qualifier title) (ofText .keyword "5")))
    read source = .ok expr ∧ expr.hasEmpty = false ∧ expr.height ≤ maxDepth ∧
      (title.literal.valueType = title.kind.valueType ∧ '"' ∉ "b c".toList) ∧
      (∃ tokens, Token.ofText source = .ok tokens ∧
        (tokens.filter (·.token.isOperand)).map (·.token.leaf?) =
          [some (.ofText .keyword "a"), some title, some (.ofText .keyword "5")]) ∧
      Walk.writing.within maxDepth expr = some expr.chars := by
  intro source title expr
  have cut : Token.ofText source = .ok [⟨.word "a", 0⟩, ⟨.not, 2⟩, ⟨.opening, 6⟩,
      ⟨.qualifier "title" "b c" true, 7⟩, ⟨.or, 19⟩, ⟨.word "5", 21⟩, ⟨.closing, 22⟩] :=
    toOption_eq_some_iff.mp (by decide +kernel)
  have parsed : read source = .ok expr := by
    rw [read, cut]
    exact toOption_eq_some_iff.mp (by decide +kernel)
  obtain ⟨whole, fits, shape, ⟨tokens, cut', -, places⟩, -, written, -⟩ := read_shape parsed
  obtain ⟨typed, free⟩ := shape title (by decide)
  exact ⟨parsed, whole, fits, ⟨typed, free _ rfl⟩, ⟨tokens, cut', places⟩, written⟩

end Expr

end Triage
