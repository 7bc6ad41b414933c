/-
# Triage.Proofs.TokenSplits -- a text cut in two where a token starts

A token looks ahead only to see where it ends, and the end of the text ends it as well.  So what is
left in front of a later token is cut as it was (`Written.of_append`), and what stands behind is cut
as it was from any position (`Token.scan_behind`).
Main statement: `Token.ofText_split`, the start of a token is a character boundary, and the two
parts of the text have the tokens in front of it and the others.
-/
import Triage.Proofs.LeafText
import Triage.Proofs.TokenForms

namespace Triage

open Triage.Text

set_option autoImplicit false

/-! ## One token -/

theorem mem_head?_append {c : Char} {left : List Char} (after : List Char)
    (front : c ∈ left.head?) : c ∈ (left ++ after).head? := by
  rw [List.head?_append, Option.mem_def.mp front]
  rfl

theorem EndsWord.of_append {left after : List Char} (ends : EndsWord (left ++ after)) :
    EndsWord left :=
  fun c front => ends c (mem_head?_append after front)

namespace Written

variable {taken left after : List Char} {token : Token}

/-- A token keeps its form when less text follows. -/
theorem of_append (written : Written taken token (left ++ after)) : Written taken token left := by
  cases written with
  | opening => exact .opening
  | closing => exact .closing
  | not mark => exact .not mark
  | single doubling other =>
      exact .single doubling fun front => other (mem_head?_append after front)
  | doubled doubling => exact .doubled doubling
  | quoted absent => exact .quoted absent
  | word plain undivided ends => exact .word plain undivided ends.of_append
  | bare plain divided ends unquoted =>
      exact .bare plain divided ends.of_append fun empty front =>
        unquoted empty (mem_head?_append after front)
  | named plain divided absent => exact .named plain divided absent

/-- Scanning takes the token that is in front, and goes on behind it. -/
theorem scan_eq (written : Written taken token left) (position : Nat) :
    Token.scan position (taken ++ left) =
      (Token.scan (position + byteLength taken) left).map (⟨token, position⟩ :: ·) := by
  obtain ⟨c, text, rfl, solid, cuts⟩ := written.cut
  obtain ⟨cut, done, rfl, taken, rest⟩ := cuts position
  rw [List.cons_append, Token.scan, if_neg (by simp [solid]), done]
  simp only [taken, rest]
  cases Token.scan (position + byteLength (c :: text)) left <;> rfl

end Written

/-- What is cut off at one position is scanned at any other. -/
theorem Token.scan_of_cutToken {place : Nat} {c : Char} {rest : List Char} {cut : Cut (c :: rest)}
    (solid : ¬ isBlank c = true) (done : cutToken place c rest = .ok cut) (position : Nat) :
    scan position (c :: rest) =
      (scan (position + byteLength cut.taken) cut.left).map (⟨cut.token, position⟩ :: ·) := by
  have written := written_of_cutToken (Bool.eq_false_iff.mpr solid) done
  have whole := written.scan_eq position
  rwa [cut.taken_append_left] at whole

/-! ## All tokens -/

/-- The token as it stands in the text behind `offset`. -/
def Located.behind (offset : Nat) (located : Located) : Located :=
  ⟨located.token, located.position - offset⟩

namespace Token

/-- Tokens stand one behind the other. -/
theorem scan_increasing (position : Nat) (text : List Char) {tokens : List Located}
    (scanned : scan position text = .ok tokens) :
    (∀ located ∈ tokens, position ≤ located.position) ∧
      tokens.Pairwise fun one other => one.position < other.position := by
  fun_induction scan position text generalizing tokens with
  | case1 =>
      cases scanned
      exact ⟨fun _ member => absurd member List.not_mem_nil, .nil⟩
  | case2 position c rest blank ih =>
      obtain ⟨behind, increasing⟩ := ih scanned
      exact ⟨fun located member => by have := behind located member; omega, increasing⟩
  | case3 => cases scanned
  | case4 => cases scanned
  | case5 position c rest solid cut done more found ih =>
      cases scanned
      obtain ⟨behind, increasing⟩ := ih found
      have advance := byteLength_pos cut.taken_ne_nil
      refine ⟨fun located member => ?_, .cons (fun located member => ?_) increasing⟩
      · rcases List.mem_cons.mp member with rfl | later
        · exact Nat.le_refl _
        · have := behind located later
          omega
      · have := behind located member
        show position < located.position
        omega

/-- The tokens of a text do not depend on where it stands. -/
theorem scan_behind (offset position : Nat) (text : List Char) {tokens : List Located}
    (scanned : scan (offset + position) text = .ok tokens) :
    scan position text = .ok (tokens.map (Located.behind offset)) := by
  generalize whole : offset + position = place at scanned
  fun_induction scan place text generalizing position tokens with
  | case1 =>
      cases scanned
      rw [scan]
      rfl
  | case2 place c rest blank ih =>
      rw [scan, if_pos blank]
      exact ih _ (by omega) scanned
  | case3 => cases scanned
  | case4 => cases scanned
  | case5 place c rest solid cut done more found ih =>
      cases scanned
      have front : Located.behind offset ⟨cut.token, place⟩ = ⟨cut.token, position⟩ := by
        simp [Located.behind, ← whole]
      rw [scan_of_cutToken solid done, ih _ (by omega) found, List.map_cons, front]
      rfl

/-- Where a token starts the text falls into two, and so do its tokens. -/
theorem scan_split (position : Nat) (text : List Char) {front back : List Located}
    {located : Located} (scanned : scan position text = .ok (front ++ located :: back)) :
    ∃ before after, text = before ++ after ∧ located.position = position + byteLength before ∧
      scan position before = .ok front ∧
      scan located.position after = .ok (located :: back) := by
  -- The tokens in front are cut one by one; behind the last of them stands nothing or blanks.
  fun_induction scan position text generalizing front with
  | case1 => simp at scanned
  | case2 position c rest blank ih =>
      obtain ⟨before, after, rfl, place, first, second⟩ := ih scanned
      refine ⟨c :: before, after, rfl, ?_, ?_, second⟩
      · rw [place, byteLength_cons, Nat.add_assoc]
      · rw [scan, if_pos blank, first]
  | case3 => cases scanned
  | case4 => cases scanned
  | case5 position c rest solid cut done more found ih =>
      have parts := Except.ok.inj scanned
      cases front with
      | nil =>
          obtain ⟨rfl, rfl⟩ := List.cons.inj parts
          refine ⟨[], c :: rest, rfl, rfl, by rw [scan], ?_⟩
          rw [scan_of_cutToken solid done, found]
          rfl
      | cons first others =>
          obtain ⟨rfl, rfl⟩ := List.cons.inj parts
          obtain ⟨before, after, split, place, firsts, second⟩ := ih found
          refine ⟨cut.taken ++ before, after, ?_, ?_, ?_, second⟩
          · rw [List.append_assoc, ← split, cut.taken_append_left]
          · rw [place, byteLength_append, Nat.add_assoc]
          · have written := written_of_cutToken (Bool.eq_false_iff.mpr solid) done
            rw [split] at written
            rw [written.of_append.scan_eq, firsts]
            rfl

/-- Of a text that is cut into tokens: they stand one behind the other, and each of them starts at a
character boundary.  Up to this boundary the text is cut into the tokens in front, and from there on
into the others, at their distances from it. -/
theorem ofText_split {text : String} {tokens : List Located} (scanned : ofText text = .ok tokens) :
    (tokens.Pairwise fun one other => one.position < other.position) ∧
    ∀ front located back, tokens = front ++ located :: back →
      ∃ boundary : text.Pos, boundary.offset.byteIdx = located.position ∧
        ofText (text.sliceTo boundary).copy = .ok front ∧
        ofText (text.sliceFrom boundary).copy =
          .ok ((located :: back).map (Located.behind located.position)) := by
  refine ⟨(scan_increasing 0 _ scanned).2, ?_⟩
  rintro front located back rfl
  obtain ⟨before, after, split, place, first, second⟩ := scan_split 0 _ scanned
  rw [Nat.zero_add] at place
  have whole : text = String.ofList before ++ String.ofList after := by
    apply String.toList_inj.mp
    rw [split, String.toList_append, String.toList_ofList, String.toList_ofList]
  have boundary := String.Pos.Raw.isValid_iff_exists_append.mpr ⟨_, _, whole, rfl⟩
  have splits : (⟨_, boundary⟩ : text.Pos).Splits (String.ofList before) (String.ofList after) :=
    ⟨whole, rfl⟩
  obtain ⟨front_, back_⟩ := splits.eq (String.Pos.splits _)
  refine ⟨⟨_, boundary⟩, ?_, ?_, ?_⟩
  · rw [place, ← utf8ByteSize_ofList]
    rfl
  · rw [← front_, ofText, String.toList_ofList, first]
  · rw [← back_, ofText, String.toList_ofList]
    exact scan_behind located.position 0 after second

/-- No blank stands beside the value in quotes, and two characters in front of it take more than one
byte. -/
theorem ofText_split_between :
    let source := "né ||\"ü\"a:\"x y\"!b"
    let front : List Located := [⟨.word "né", 0⟩, ⟨.or, 4⟩, ⟨.quoted "ü", 6⟩]
    let value : Located := ⟨.qualifier "a" "x y" true, 10⟩
    let back : List Located := [⟨.not, 17⟩, ⟨.word "b", 18⟩]
    ofText source = .ok (front ++ value :: back) ∧
      ∃ boundary : source.Pos, boundary.offset.byteIdx = 10 ∧
        ofText (source.sliceTo boundary).copy = .ok front ∧
        ofText (source.sliceFrom boundary).copy =
          .ok [⟨.qualifier "a" "x y" true, 0⟩, ⟨.not, 7⟩, ⟨.word "b", 8⟩] := by
  intro source front value back
  have scanned : ofText source = .ok (front ++ value :: back) :=
    toOption_eq_some_iff.mp (by decide +kernel)
  exact ⟨scanned, (ofText_split scanned).2 front value back rfl⟩

end Token

end Triage
