/-
# Triage.Toml.Quoted -- writing TOML strings

A text is written as a basic string on one line: the quote, the backslash and the control
characters are escaped. Main statements: `string?_quoted`, a written string reads back;
`fill?_line`, a written line adds its entry.
-/
import Triage.Toml.Reading

namespace Triage.Toml

set_option autoImplicit false

/-- A character inside a basic string. -/
def escapeChar (c : Char) : List Char :=
  if c = '"' ∨ c = '\\' then ['\\', c]
  else if c.toNat < 0x20 ∨ c = '\x7f' then
    ['\\', 'u', '0', '0', Json.hexDigit (c.toNat / 16), Json.hexDigit (c.toNat % 16)]
  else [c]

def quoted (text : List Char) : List Char := '"' :: text.flatMap escapeChar ++ ['"']

/-- A line that gives a key a text. -/
def line (key text : List Char) : List Char := key ++ ' ' :: '=' :: ' ' :: (quoted text ++ ['\n'])

theorem escape?_control : ∀ n < 0x80, ∀ rest : List Char,
    escape? ('u' :: '0' :: '0' :: Json.hexDigit (n / 16) :: Json.hexDigit (n % 16) :: rest) =
      some (Char.ofNat n, rest) := by
  intro n h rest
  have value : charOfHex? ['0', '0', Json.hexDigit (n / 16), Json.hexDigit (n % 16)] =
      some (Char.ofNat n) := by
    revert n
    decide +kernel
  rw [escape?, value]
  rfl

theorem basic?_escapeChar (c : Char) (steps : Nat) (rest : List Char) :
    basic? (steps + 1) (escapeChar c ++ rest) =
      (basic? steps rest).map fun (body, rest) => (c :: body, rest) := by
  unfold escapeChar
  split
  · next h =>
    rcases h with rfl | rfl <;>
      simp [basic?, escape?, shortEscape?] <;> cases basic? steps rest <;> rfl
  · next plain =>
    split
    · next control =>
      have small : c.toNat < 0x80 := by
        rcases control with h | rfl
        · omega
        · decide
      have read := escape?_control c.toNat small rest
      rw [Char.ofNat_toNat] at read
      simp only [List.cons_append, List.nil_append]
      rw [basic?, if_neg (by decide), if_pos rfl, read]
      simp only [Option.bind_eq_bind, Option.bind_some]
      cases basic? steps rest <;> rfl
    · next visible =>
      have notControl : isControl c = false := by
        have large : ¬ c.toNat < 0x20 := fun h => visible (.inl h)
        have notDelete : c ≠ '\x7f' := fun h => visible (.inr h)
        simp [isControl, large, notDelete]
      have notQuote : c ≠ '"' := fun h => plain (.inl h)
      have notBackslash : c ≠ '\\' := fun h => plain (.inr h)
      simp [basic?, notControl, notQuote, notBackslash]

/-- A written string reads back. -/
theorem basic?_quoted (text : List Char) (steps : Nat) (enough : text.length < steps)
    (rest : List Char) :
    basic? steps (text.flatMap escapeChar ++ '"' :: rest) = some (text, rest) := by
  induction text generalizing steps with
  | nil =>
    obtain ⟨steps, rfl⟩ : ∃ n, steps = n + 1 := ⟨steps - 1, by simp at enough; omega⟩
    rfl
  | cons c text ih =>
    obtain ⟨steps, rfl⟩ : ∃ n, steps = n + 1 := ⟨steps - 1, by simp at enough; omega⟩
    rw [List.flatMap_cons, List.append_assoc, basic?_escapeChar, ih steps (by simpa using enough)]
    rfl

theorem head?_escapeChar (c : Char) : ∃ d rest, escapeChar c = d :: rest ∧ d ≠ '"' := by
  unfold escapeChar
  split
  · exact ⟨'\\', [c], rfl, by decide⟩
  · next h =>
    split
    · exact ⟨_, _, rfl, by decide⟩
    · exact ⟨c, [], rfl, fun e => h (.inl e)⟩

theorem length_le_flatMap (text : List Char) : text.length ≤ (text.flatMap escapeChar).length := by
  induction text with
  | nil => simp
  | cons c text ih =>
    obtain ⟨d, rest, h, _⟩ := head?_escapeChar c
    simp only [List.flatMap_cons, List.length_append, List.length_cons, h]
    omega

theorem string?_quoted (text rest : List Char) (h : rest.head? ≠ some '"') :
    string? (quoted text ++ rest) = some (String.ofList text, rest) := by
  have body := basic?_quoted text ((quoted text ++ rest).length)
    (by
      have := length_le_flatMap text
      simp only [quoted, List.cons_append, List.length_cons, List.length_append]
      omega) rest
  have shape : string? (quoted text ++ rest) =
      (basic? (quoted text ++ rest).length (text.flatMap escapeChar ++ '"' :: rest)).map
        fun (body, rest) => (String.ofList body, rest) := by
    cases text with
    | nil =>
      cases rest with
      | nil => rfl
      | cons c rest =>
        have : c ≠ '"' := by simpa using h
        simp [quoted, string?, this]
    | cons c text =>
      obtain ⟨d, more, hd, ne⟩ := head?_escapeChar c
      simp [quoted, string?, hd, ne]
  rw [shape, body]
  rfl

/-- Reads a bare key before an equals sign. -/
theorem keyPath?_bare (key rest : List Char) (bare : key.all isBare = true) (some_key : key ≠ [])
    (steps : Nat) (h : 0 < steps) :
    keyPath? steps (key ++ ' ' :: '=' :: rest) = some ([], String.ofList key, '=' :: rest) := by
  obtain ⟨steps, rfl⟩ : ∃ n, steps = n + 1 := ⟨steps - 1, by omega⟩
  obtain ⟨c, key, rfl⟩ := List.exists_cons_of_ne_nil some_key
  have all : ∀ d ∈ c :: key, isBare d = true := by simpa using bare
  have first : isBare c = true := all c (by simp)
  have notQuote : c ≠ '"' ∧ c ≠ '\'' := ⟨by rintro rfl; exact absurd first (by decide),
    by rintro rfl; exact absurd first (by decide)⟩
  have taken : ((c :: key) ++ ' ' :: '=' :: rest).takeWhile isBare = c :: key := by
    rw [List.takeWhile_append_of_pos all]
    simp [isBare]
  have dropped : ((c :: key) ++ ' ' :: '=' :: rest).dropWhile isBare = ' ' :: '=' :: rest := by
    rw [List.dropWhile_append_of_pos all]
    simp [isBare]
  have read : key? ((c :: key) ++ ' ' :: '=' :: rest) =
      some (String.ofList (c :: key), ' ' :: '=' :: rest) := by
    unfold key?
    split
    · next h => exact absurd (List.cons.inj h).1 notQuote.1
    · next h => exact absurd (List.cons.inj h).1 notQuote.2
    · simp only [taken, dropped]; rfl
  rw [keyPath?, read]
  rfl

theorem value?_quoted (room : Nat) (text rest : List Char) (h : rest.head? ≠ some '"') :
    value? room (quoted text ++ rest) = some (.text (String.ofList text), rest) := by
  have read := string?_quoted text rest h
  rw [quoted, List.cons_append, List.cons_append] at read ⊢
  rw [value?, read]
  rfl

/-- A line that gives a bare key a written text. -/
theorem statement?_quoted (key text rest : List Char) (bare : key.all isBare = true)
    (some_key : key ≠ []) (h : rest.head? ≠ some '"') :
    statement? (key ++ ' ' :: '=' :: ' ' :: (quoted text ++ rest)) =
      some (.assign [] (String.ofList key) (.text (String.ofList text)), rest) := by
  have path := keyPath?_bare key (' ' :: (quoted text ++ rest)) bare some_key
  have value := value?_quoted maxNesting text rest h
  have noSpace : skipSpaces ('=' :: ' ' :: (quoted text ++ rest)) =
      '=' :: ' ' :: (quoted text ++ rest) := by
    simp [skipSpaces, isSpace]
  obtain ⟨c, key, rfl⟩ := List.exists_cons_of_ne_nil some_key
  have notBracket : c ≠ '[' := by
    rintro rfl
    exact absurd bare (by simp [isBare])
  have skipped : skipSpaces (' ' :: (quoted text ++ rest)) = quoted text ++ rest := by
    simp [skipSpaces, quoted, isSpace]
  unfold statement?
  split
  · next h => exact absurd (List.cons.inj h).1 notBracket
  · next h => exact absurd (List.cons.inj h).1 notBracket
  · rw [assignment?, path maxParts (by decide)]
    simp only [Option.bind_eq_bind, Option.bind_some, noSpace, skipped, value]
    rfl

/-- Writing a line adds its entry to the document that is read. -/
theorem fill?_line (steps : Nat) (document : Document) (key text rest : List Char)
    (bare : key.all isBare = true) (some_key : key ≠ []) :
    fill? (steps + 1) document (line key text ++ rest) =
      (document.add (.assign [] (String.ofList key) (.text (String.ofList text)))).bind
        fun document => fill? steps document rest := by
  have read := statement?_quoted key text ('\n' :: rest) bare some_key (by simp)
  have shape : line key text ++ rest =
      key ++ ' ' :: '=' :: ' ' :: (quoted text ++ '\n' :: rest) := by
    simp [line]
  rw [shape]
  obtain ⟨c, key, rfl⟩ := List.exists_cons_of_ne_nil some_key
  have first : isBare c = true := by
    simp only [List.all_cons, Bool.and_eq_true] at bare
    exact bare.1
  have plain : c ≠ '\n' ∧ c ≠ '\r' ∧ isSpace c = false ∧ c ≠ '#' := by
    refine ⟨?_, ?_, ?_, ?_⟩
    · rintro rfl; exact absurd first (by decide)
    · rintro rfl; exact absurd first (by decide)
    · cases h : isSpace c with
      | false => rfl
      | true =>
        simp only [isSpace, Bool.or_eq_true, decide_eq_true_eq] at h
        rcases h with rfl | rfl <;> exact absurd first (by decide)
    · rintro rfl; exact absurd first (by decide)
  have skipped : ∀ tail, skipFiller false (c :: tail) = some (c :: tail) := by
    intro tail
    rw [skipFiller] <;> simp [plain]
  rw [List.cons_append] at read ⊢
  rw [fill?, skipped]
  simp only [Option.bind_eq_bind, Option.bind_some, read]
  rfl

end Triage.Toml
