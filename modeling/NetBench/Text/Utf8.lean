/-! UTF-8: the bytes of a text, and the text of any bytes.
Bytes that are no text read as U+FFFD, one for each longest part that could have begun a
character. -/
namespace NetBench.Text

def utf8 (s : String) : List UInt8 := s.toList.flatMap String.utf8EncodeChar

/-- What a first byte promises: how many bytes follow, the range of the one right after it,
and the payload bits it carries itself. -/
structure Lead where
  more : Nat
  low : UInt8
  high : UInt8
  bits : Nat

/-- The nine ranges of first bytes; surrogates, overlong forms and values above U+10FFFF
are refused by the range of the second byte. -/
def Lead.ofByte? (b : UInt8) : Option Lead :=
  if b < 0x80 then some ⟨0, 0x80, 0xBF, b.toNat⟩
  else if b < 0xC2 then none
  else if b < 0xE0 then some ⟨1, 0x80, 0xBF, b.toNat - 0xC0⟩
  else if b == 0xE0 then some ⟨2, 0xA0, 0xBF, 0⟩
  else if b == 0xED then some ⟨2, 0x80, 0x9F, 0xD⟩
  else if b < 0xF0 then some ⟨2, 0x80, 0xBF, b.toNat - 0xE0⟩
  else if b == 0xF0 then some ⟨3, 0x90, 0xBF, 0⟩
  else if b < 0xF4 then some ⟨3, 0x80, 0xBF, b.toNat - 0xF0⟩
  else if b == 0xF4 then some ⟨3, 0x80, 0x8F, 4⟩
  else none

/-- Takes the bytes a first byte promised. It stops in front of the first that does not fit. -/
def follow : Nat → UInt8 → UInt8 → Nat → List UInt8 → Option Nat × List UInt8
  | 0, _, _, bits, bytes => (some bits, bytes)
  | _ + 1, _, _, _, [] => (none, [])
  | more + 1, low, high, bits, b :: bytes =>
    if low ≤ b && b ≤ high then follow more 0x80 0xBF (bits * 64 + (b.toNat - 0x80)) bytes
    else (none, b :: bytes)

theorem length_follow_le (more : Nat) (low high : UInt8) (bits : Nat) (bytes : List UInt8) :
    (follow more low high bits bytes).2.length ≤ bytes.length := by
  induction more generalizing low high bits bytes with
  | zero => simp [follow]
  | succ more ih =>
    cases bytes with
    | nil => simp [follow]
    | cons b bytes =>
      simp only [follow]
      split
      · exact Nat.le_succ_of_le (ih _ _ _ _)
      · simp

/-- The character that starts with byte `b`, and the bytes after it. -/
def nextChar (b : UInt8) (bytes : List UInt8) : Char × List UInt8 :=
  match Lead.ofByte? b with
  | none => ('\uFFFD', bytes)
  | some lead =>
    let (bits?, after) := follow lead.more lead.low lead.high lead.bits bytes
    (bits?.elim '\uFFFD' Char.ofNat, after)

theorem length_nextChar_le (b : UInt8) (bytes : List UInt8) :
    (nextChar b bytes).2.length ≤ bytes.length := by
  unfold nextChar
  split
  · simp
  · exact length_follow_le _ _ _ _ _

/-- The text of the bytes, with U+FFFD in place of what is no text. -/
def fromUtf8 : List UInt8 → List Char
  | [] => []
  | b :: bytes => (nextChar b bytes).1 :: fromUtf8 (nextChar b bytes).2
termination_by bytes => bytes.length
decreasing_by exact Nat.lt_succ_of_le (length_nextChar_le b bytes)

def textOf (bytes : List UInt8) : String := String.ofList (fromUtf8 bytes)

end NetBench.Text
