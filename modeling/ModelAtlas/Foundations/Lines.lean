import ModelAtlas.Foundations.PyText

/-!
# Lines of texts

`str.splitlines`, which ends a line at every boundary that Python knows.
-/

namespace ModelAtlas.Foundations

/-- A character that ends a line; `\r\n` is one end. -/
def isLineBreak (char : Char) : Bool :=
  let code := char.toNat
  (0x0A ≤ code && code ≤ 0x0D) || (0x1C ≤ code && code ≤ 0x1E) || code == 0x85 ||
    code == 0x2028 || code == 0x2029

def splitLines : List Char → List Char → List (List Char)
  | [], [] => []
  | [], begun => [begun]
  | '\r' :: '\n' :: rest, begun => begun :: splitLines rest []
  | char :: rest, begun =>
    if isLineBreak char then begun :: splitLines rest [] else splitLines rest (begun ++ [char])

/-- `str.splitlines()`. -/
def pySplitlines (text : String) : List String :=
  (splitLines text.toList []).map String.ofList

end ModelAtlas.Foundations
