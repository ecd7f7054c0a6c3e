/-! Offsets into a text, in bytes of UTF-8. A text can be cut between two characters and nowhere
else. -/
namespace NetBench.Text

def size : List Char → Nat
  | [] => 0
  | c :: cs => c.utf8Size + size cs

/-- The parts before and after an offset. There are none if it falls inside of a character or
beyond the end. -/
def splitAt? : Nat → List Char → Option (List Char × List Char)
  | 0, s => some ([], s)
  | _ + 1, [] => none
  | n + 1, c :: cs =>
    if c.utf8Size ≤ n + 1 then
      (splitAt? (n + 1 - c.utf8Size) cs).map fun (front, back) => (c :: front, back)
    else none

def slice? (start stop : Nat) (s : List Char) : Option (List Char) := do
  let (_, back) ← splitAt? start s
  let (part, _) ← splitAt? (stop - start) back
  return part

end NetBench.Text
