/-!
# Text

* `foreign` stands for words in messages that come from elsewhere: the operating system, a parser, a
  peer.  Nothing could be relied on in them.
* `isBlank` is the Unicode property `White_Space`; `trimBlank` removes it from both ends of a text.
  Every character of core's ASCII class `Char.isWhitespace` is blank.
* `Utf8.lenient` reads bytes as UTF-8.  Each maximal part that begins like a character but is none
  becomes one replacement character.
-/

namespace Sidecar

/-- What stands for text that comes from elsewhere. -/
def foreign : String := "<detail>"

/-! ### Blanks -/

/-- The Unicode property `White_Space`. -/
def isBlank (c : Char) : Bool :=
  let n := c.toNat
  (9 ≤ n && n ≤ 13) || n == 0x20 || n == 0x85 || n == 0xa0 || n == 0x1680 ||
    (0x2000 ≤ n && n ≤ 0x200a) || n == 0x2028 || n == 0x2029 || n == 0x202f ||
    n == 0x205f || n == 0x3000

/-- A list of characters without the blanks at either end. -/
def trimBlankList (cs : List Char) : List Char :=
  ((cs.dropWhile isBlank).reverse.dropWhile isBlank).reverse

/-- A text without the blanks at either end. -/
def trimBlank (s : String) : String :=
  String.ofList (trimBlankList s.toList)

end Sidecar

namespace Sidecar.Utf8

/-- What stands for bytes that are no text. -/
def replacement : Char := '\ufffd'

/-- What the first byte of a character says: how many bytes follow, the bits that it holds, and
the bounds of the second byte, which exclude overlong forms, surrogates and what lies beyond the
last character. -/
def lead? (b : Nat) : Option (Nat × Nat × Nat × Nat) :=
  if b < 0x80 then some (0, b, 0x80, 0xbf)
  else if b < 0xc2 then none
  else if b < 0xe0 then some (1, b - 0xc0, 0x80, 0xbf)
  else if b = 0xe0 then some (2, 0, 0xa0, 0xbf)
  else if b = 0xed then some (2, 0xd, 0x80, 0x9f)
  else if b < 0xf0 then some (2, b - 0xe0, 0x80, 0xbf)
  else if b = 0xf0 then some (3, 0, 0x90, 0xbf)
  else if b < 0xf4 then some (3, b - 0xf0, 0x80, 0xbf)
  else if b = 0xf4 then some (3, 4, 0x80, 0x8f)
  else none

/-- Take `count` following bytes into a character, the next one within the given bounds.  Gives the
character, or none if a byte does not fit, and the bytes that are left. -/
def tail : (count : Nat) → (bits least greatest : Nat) → List Nat → Option Char × List Nat
  | 0, bits, _, _, bs => (some (Char.ofNat bits), bs)
  | _ + 1, _, _, _, [] => (none, [])
  | n + 1, bits, least, greatest, b :: bs =>
    if least ≤ b ∧ b ≤ greatest then tail n (bits * 64 + (b - 0x80)) 0x80 0xbf bs
    else (none, b :: bs)

theorem tail_length_le (n bits least greatest : Nat) (bs : List Nat) :
    (tail n bits least greatest bs).2.length ≤ bs.length := by
  induction n generalizing bits least greatest bs with
  | zero => simp [tail]
  | succ n ih =>
    cases bs with
    | nil => simp [tail]
    | cons b bs =>
      unfold tail
      split
      · exact Nat.le_succ_of_le (ih ..)
      · simp

/-- The characters of bytes. -/
def chars : List Nat → List Char
  | [] => []
  | b :: bs =>
    match lead? b with
    | none => replacement :: chars bs
    | some (n, bits, least, greatest) =>
      have := tail_length_le n bits least greatest bs
      (tail n bits least greatest bs).1.getD replacement ::
        chars (tail n bits least greatest bs).2
termination_by bs => bs.length
decreasing_by all_goals (simp_wf <;> omega)

/-- The text of bytes. -/
def lenient (bytes : ByteArray) : String :=
  match String.fromUTF8? bytes with
  | some s => s
  | none => String.ofList (chars (bytes.toList.map UInt8.toNat))

end Sidecar.Utf8
