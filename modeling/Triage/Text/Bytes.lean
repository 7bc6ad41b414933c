/-
# Triage.Text.Bytes -- lengths in bytes

Positions in messages, and the length of a date literal, count the bytes of the UTF-8 form.
Main statement: `utf8ByteSize_ofList`, this is the byte size of a string.
-/

namespace Triage.Text

set_option autoImplicit false

/-- The number of bytes of the UTF-8 form of a text. -/
def byteLength : List Char → Nat
  | [] => 0
  | c :: text => c.utf8Size + byteLength text

@[simp] theorem byteLength_nil : byteLength [] = 0 := rfl

@[simp] theorem byteLength_cons (c : Char) (text : List Char) :
    byteLength (c :: text) = c.utf8Size + byteLength text := rfl

@[simp] theorem byteLength_append (a b : List Char) :
    byteLength (a ++ b) = byteLength a + byteLength b := by
  induction a with
  | nil => simp
  | cons c a ih => simp [ih, Nat.add_assoc]

theorem byteLength_pos {text : List Char} (solid : text ≠ []) : 0 < byteLength text := by
  cases text with
  | nil => exact absurd rfl solid
  | cons c rest =>
      have := c.utf8Size_pos
      rw [byteLength_cons]
      omega

/-- The length of a text is the byte size of its string. -/
theorem utf8ByteSize_ofList (text : List Char) :
    (String.ofList text).utf8ByteSize = byteLength text := by
  induction text with
  | nil => rfl
  | cons c text ih =>
    have parts : String.ofList (c :: text) = String.singleton c ++ String.ofList text := by
      apply String.toList_inj.mp
      simp
    rw [parts, String.utf8ByteSize_append, String.utf8ByteSize_singleton, ih, byteLength_cons]

end Triage.Text
