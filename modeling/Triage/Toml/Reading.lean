/-
# Triage.Toml.Reading -- reading a TOML text

A text is read line by line into statements, and these fill a document. The format is TOML 1.1: like
arrays, inline tables may break over lines, hold comments and end with a comma, a time needs no
seconds, and strings know the escapes `\e` and `\xHH`, none of which version 1.0 has. Arrays and
inline tables nest as deep as `maxNesting`, and a dotted key has at most `maxParts` parts. A comment
or string may hold no control character but the tab, and a carriage return only before a line feed.
Main definition: `Toml.read?`, the root table of a text.
-/
import Triage.Json.Spelling
import Triage.Toml.Scalar

namespace Triage.Toml

set_option autoImplicit false

/-! ## Blanks and comments -/

def isSpace (c : Char) : Bool := c = ' ' || c = '\t'

/-- Control characters that no comment and no string may hold as they are. -/
def isControl (c : Char) : Bool := (decide (c.toNat < 0x20) && c ≠ '\t') || c = '\x7f'

def skipSpaces (text : List Char) : List Char := text.dropWhile isSpace

/-- Skips blanks, line ends and comments; `inComment` holds inside a comment. -/
def skipFiller (inComment : Bool) : List Char → Option (List Char)
  | [] => some []
  | '\n' :: rest => skipFiller false rest
  | '\r' :: '\n' :: rest => skipFiller false rest
  | c :: rest =>
    if inComment then (if isControl c then none else skipFiller true rest)
    else if isSpace c then skipFiller false rest
    else if c = '#' then skipFiller true rest
    else some (c :: rest)

/-- Skips the rest of a line, which holds nothing but blanks and a comment. -/
def skipLine (inComment : Bool) : List Char → Option (List Char)
  | [] => some []
  | '\n' :: rest => some rest
  | '\r' :: '\n' :: rest => some rest
  | c :: rest =>
    if inComment then (if isControl c then none else skipLine true rest)
    else if isSpace c then skipLine false rest
    else if c = '#' then skipLine true rest
    else none

/-! ## Strings -/

/-- The character of so many hexadecimal digits, if it is one. -/
def charOfHex? (digits : List Char) : Option Char := do
  let code ← digits.foldlM (fun n c => (Json.hexValue? c).map (n * 16 + ·)) 0
  if h : code.isValidChar then return Char.ofNatAux code h else none

/-- The character that an escape of one letter stands for. -/
def shortEscape? (c : Char) : Option Char :=
  if c = '"' ∨ c = '\\' then some c
  else if c = 'b' then some '\x08'
  else if c = 't' then some '\t'
  else if c = 'n' then some '\n'
  else if c = 'f' then some '\x0c'
  else if c = 'r' then some '\r'
  else if c = 'e' then some '\x1b'
  else none

/-- The character of an escape after its backslash, and the text after it. -/
def escape? : List Char → Option (Char × List Char)
  | 'x' :: a :: b :: rest => (charOfHex? [a, b]).map (·, rest)
  | 'u' :: a :: b :: c :: d :: rest => (charOfHex? [a, b, c, d]).map (·, rest)
  | 'U' :: a :: b :: c :: d :: e :: f :: g :: h :: rest =>
    (charOfHex? [a, b, c, d, e, f, g, h]).map (·, rest)
  | c :: rest => (shortEscape? c).map (·, rest)
  | [] => none

/-- Where a string of several lines stands with its line ends. -/
inductive Folding where
  /-- Blanks and line ends are part of the string. -/
  | off
  /-- After a backslash, before the line end that must follow. -/
  | pending
  /-- After a backslash and a line end. -/
  | on
deriving DecidableEq

/-- The text of a basic string after its opening quote, and what follows its closing quote. There
are at most `steps` characters. -/
def basic? (steps : Nat) (text : List Char) : Option (List Char × List Char) :=
  match steps, text with
  | 0, _ | _, [] => none
  | steps + 1, c :: rest =>
    if c = '"' then some ([], rest)
    else if c = '\\' then do
      let (d, rest) ← escape? rest
      let (body, rest) ← basic? steps rest
      return (d :: body, rest)
    else if isControl c then none
    else (basic? steps rest).map fun (body, rest) => (c :: body, rest)

/-- The text of a literal string after its opening quote, and what follows its closing quote. -/
def literal? (text : List Char) : Option (List Char × List Char) :=
  let body := text.takeWhile (· ≠ '\'')
  match text.dropWhile (· ≠ '\'') with
  | [] => none
  | _ :: rest => if body.any isControl then none else some (body, rest)

/-- The end of a string of several lines: three quotes, and up to two more that belong to it. -/
def closing? (quote : Char) (text : List Char) : Option (List Char × List Char) :=
  let quotes := (text.take 5).takeWhile (· = quote)
  if 3 ≤ quotes.length then some (quotes.drop 3, text.drop quotes.length) else none

/-- The text of a basic string of several lines, and what follows it. -/
def longBasic? (steps : Nat) (folding : Folding) (text : List Char) :
    Option (List Char × List Char) :=
  match steps, text with
  | 0, _ | _, [] => none
  | steps + 1, c :: rest =>
    if folding ≠ .off ∧ isSpace c then longBasic? steps folding rest
    else if c = '\n' ∨ (c = '\r' ∧ rest.head? = some '\n') then
      if folding = .off then
        (longBasic? steps .off rest).map fun (body, rest) => (c :: body, rest)
      else longBasic? steps (if c = '\n' then .on else folding) rest
    else if folding = .pending then none
    else match closing? '"' (c :: rest) with
      | some (body, rest) => some (body, rest)
      | none =>
        if c = '\\' then
          match rest with
          | d :: _ =>
            if isSpace d ∨ d = '\n' ∨ d = '\r' then longBasic? steps .pending rest
            else do
              let (e, rest) ← escape? rest
              let (body, rest) ← longBasic? steps .off rest
              return (e :: body, rest)
          | [] => none
        else if isControl c then none
        else (longBasic? steps .off rest).map fun (body, rest) => (c :: body, rest)

/-- The text of a literal string of several lines, and what follows it. -/
def longLiteral? : List Char → Option (List Char × List Char)
  | [] => none
  | c :: rest =>
    match closing? '\'' (c :: rest) with
    | some (body, rest) => some (body, rest)
    | none =>
      if isControl c ∧ c ≠ '\n' ∧ ¬ (c = '\r' ∧ rest.head? = some '\n') then none
      else (longLiteral? rest).map fun (body, rest) => (c :: body, rest)

/-- A line end right after the opening quotes is no part of the string. -/
def skipFirstLineEnd : List Char → List Char
  | '\n' :: rest => rest
  | '\r' :: '\n' :: rest => rest
  | text => text

/-- A string of any form. -/
def string? (text : List Char) : Option (String × List Char) :=
  let result := match text with
    | '"' :: '"' :: '"' :: rest =>
      longBasic? text.length .off (skipFirstLineEnd rest)
    | '"' :: rest => basic? text.length rest
    | '\'' :: '\'' :: '\'' :: rest => longLiteral? (skipFirstLineEnd rest)
    | '\'' :: rest => literal? rest
    | _ => none
  result.map fun (body, rest) => (String.ofList body, rest)

/-! ## Keys -/

def isBare (c : Char) : Bool := c.isAlphanum || c = '_' || c = '-'

/-- One key: a quoted string on one line, or a run of bare characters. -/
def key? (text : List Char) : Option (String × List Char) :=
  match text with
  | '"' :: rest => (basic? text.length rest).map fun (body, rest) => (String.ofList body, rest)
  | '\'' :: rest => (literal? rest).map fun (body, rest) => (String.ofList body, rest)
  | _ =>
    let bare := text.takeWhile isBare
    if bare.isEmpty then none else some (String.ofList bare, text.dropWhile isBare)

/-- The greatest number of parts of a dotted key. TOML sets no limit: this is the recursion limit of
the `toml` library, release 0.9, which goes one level down for every part. -/
def maxParts : Nat := 80

/-- A dotted key of at most `steps` parts, its last part apart, and the text after it and any
blanks. -/
def keyPath? (steps : Nat) (text : List Char) : Option (List String × String × List Char) :=
  match steps with
  | 0 => none
  | steps + 1 => do
    let (key, rest) ← key? text
    match skipSpaces rest with
    | '.' :: rest =>
      let (path, last, rest) ← keyPath? steps (skipSpaces rest)
      return (key :: path, last, rest)
    | rest => return ([], key, rest)

/-! ## Values -/

/-- How many arrays and inline tables may be open at once: the recursion limit of the same library,
counted anew for every value. -/
def maxNesting : Nat := 80

/-- The characters that end an unquoted word. -/
def endsWord (c : Char) : Bool :=
  isSpace c || isControl c || [',', '=', '[', ']', '\x7b', '\x7d', '#', '"', '\''].contains c

/-- A value without quotes. A space may stand between a day and a time of day. -/
def word? (text : List Char) : Option (Value × List Char) :=
  let word := text.takeWhile (!endsWord ·)
  let rest := text.dropWhile (!endsWord ·)
  match day? word, rest with
  | some [], ' ' :: c :: after =>
    if c.isDigit then
      let time := (c :: after).takeWhile (!endsWord ·)
      (moment? (word ++ ' ' :: time)).map (·, (c :: after).dropWhile (!endsWord ·))
    else some (.moment, rest)
  | _, _ => (Value.ofWord? word).map (·, rest)

/-- A way to read a value. -/
abbrev ValueReader := List Char → Option (Value × List Char)

/-- The items of an array after its opening bracket or a comma. -/
def items? (read : ValueReader) (steps : Nat) (text : List Char) :
    Option (List Value × List Char) :=
  match steps with
  | 0 => none
  | steps + 1 => do
    match ← skipFiller false text with
    | ']' :: rest => return ([], rest)
    | text =>
      let (item, rest) ← read text
      match ← skipFiller false rest with
      | ',' :: rest =>
        let (items, rest) ← items? read steps rest
        return (item :: items, rest)
      | ']' :: rest => return ([item], rest)
      | _ => none

/-- A dotted key, an equals sign and a value. What `skip` skips may stand on both sides of the
equals sign. -/
def assignment? (skip : List Char → Option (List Char)) (read : ValueReader) (text : List Char) :
    Option ((List String × String × Value) × List Char) := do
  let (path, key, rest) ← keyPath? maxParts text
  match ← skip rest with
  | '=' :: rest =>
    let (value, rest) ← read (← skip rest)
    return ((path, key, value), rest)
  | _ => none

/-- Fills an inline table after its opening brace or a comma. Line ends and comments may stand
between any two parts of an entry, but not inside a dotted key. -/
def inline? (read : ValueReader) (steps : Nat) (table : Table) (text : List Char) :
    Option (Table × List Char) :=
  match steps with
  | 0 => none
  | steps + 1 => do
    match ← skipFiller false text with
    | '\x7d' :: rest => return (table, rest)
    | text =>
      let ((path, key, value), rest) ← assignment? (skipFiller false) read text
      let table ← table.assign path key value
      match ← skipFiller false rest with
      | ',' :: rest => inline? read steps table rest
      | '\x7d' :: rest => return (table, rest)
      | _ => none

/-- A value, inside which there is `room` for so many open arrays and inline tables. -/
def value? (room : Nat) : ValueReader := fun text =>
  match text with
  | '[' :: rest =>
    match room with
    | 0 => none
    | room + 1 =>
      (items? (value? room) (rest.length + 1) rest).map fun (items, rest) => (.array items, rest)
  | '\x7b' :: rest =>
    match room with
    | 0 => none
    | room + 1 =>
      (inline? (value? room) (rest.length + 1) ⟨.header, []⟩ rest).map fun (table, rest) =>
        (.inline table.entries, rest)
  | '"' :: _ | '\'' :: _ => (string? text).map fun (body, rest) => (.text body, rest)
  | _ => word? text

/-! ## Lines -/

/-- A line that is not empty, without its end. -/
def statement? (text : List Char) : Option (Statement × List Char) :=
  match text with
  | '[' :: '[' :: rest => do
    let (path, key, rest) ← keyPath? maxParts (skipSpaces rest)
    match rest with
    | ']' :: ']' :: rest => return (.openItem path key, rest)
    | _ => none
  | '[' :: rest => do
    let (path, key, rest) ← keyPath? maxParts (skipSpaces rest)
    match rest with
    | ']' :: rest => return (.openTable path key, rest)
    | _ => none
  | _ => do
    let ((path, key, value), rest) ←
      assignment? (fun text => some (skipSpaces text)) (value? maxNesting) text
    return (.assign path key value, rest)

/-- Reads the lines of a text into a document; there are at most `steps` statements. -/
def fill? (steps : Nat) (document : Document) (text : List Char) : Option Document :=
  match steps with
  | 0 => none
  | steps + 1 => do
    match ← skipFiller false text with
    | [] => return document
    | text =>
      let (statement, rest) ← statement? text
      let document ← document.add statement
      fill? steps document (← skipLine false rest)

/-- A text may begin with a byte order mark. -/
def skipMark : List Char → List Char
  | c :: rest => if c = Char.ofNat 0xFEFF then rest else c :: rest
  | [] => []

/-- The root table of a text. -/
def read? (text : List Char) : Option Entries :=
  (fill? (text.length + 1) {} (skipMark text)).map fun document => document.root.entries

end Triage.Toml
