import Mathlib.Data.List.DropRight

/-!
# Python text operations

The `str` operations the services apply to names, roles and messages, over the
same white space that `str.isspace` accepts.  Case folding is not defined here:
it is a table of Unicode, and the definitions that need it take it as an
argument.
-/

namespace ModelAtlas.Foundations

/-- `str.isspace` for one character. -/
def isPySpace (char : Char) : Bool :=
  let code := char.toNat
  (0x09 ≤ code && code ≤ 0x0D) || (0x1C ≤ code && code ≤ 0x20)
    || code == 0x85 || code == 0xA0 || code == 0x1680 || (0x2000 ≤ code && code ≤ 0x200A)
    || code == 0x2028 || code == 0x2029 || code == 0x202F || code == 0x205F || code == 0x3000

/-- `str.strip()`. -/
def pyStrip (text : String) : String :=
  String.ofList ((text.toList.dropWhile isPySpace).reverse.dropWhile isPySpace).reverse

theorem dropWhile_of_prefix {Item : Type} {drops : Item → Bool} {start list : List Item}
    (isStart : start <+: list) (kept : list.dropWhile drops = list) :
    start.dropWhile drops = start := by
  rw [List.dropWhile_eq_self_iff] at kept ⊢
  intro positive
  obtain ⟨rest, rfl⟩ := isStart
  have longer : 0 < (start ++ rest).length := by
    rw [List.length_append]
    omega
  have first := kept longer
  rw [List.getElem_append_left positive] at first
  exact first

/-- The text that is left by `strip` has no space to strip. -/
theorem pyStrip_pyStrip (text : String) : pyStrip (pyStrip text) = pyStrip text := by
  have stripEq : ∀ chars : List Char,
      ((chars.dropWhile isPySpace).reverse.dropWhile isPySpace).reverse =
        (chars.dropWhile isPySpace).rdropWhile isPySpace := fun _ => rfl
  have front : ((text.toList.dropWhile isPySpace).rdropWhile isPySpace).dropWhile isPySpace =
        (text.toList.dropWhile isPySpace).rdropWhile isPySpace :=
    dropWhile_of_prefix (List.rdropWhile_prefix isPySpace _) (List.dropWhile_idempotent isPySpace _)
  rw [pyStrip, pyStrip, stripEq, String.toList_ofList, stripEq, front, List.rdropWhile_idempotent]

/-- `str.split()`: the maximal runs of characters that are not white space. -/
def pySplit (text : String) : List String :=
  ((text.toList.splitOnP isPySpace).filter (fun word => !word.isEmpty)).map String.ofList

/-- `text[:length]`. -/
def pyClip (length : Nat) (text : String) : String :=
  String.ofList (text.toList.take length)

/-- `text or fallback`: the empty text is false. -/
def pyOr (text fallback : String) : String :=
  if text = "" then fallback else text

/-- `text[len(start):]` where `text` starts with `start`. -/
def pyDropStart (start text : String) : String :=
  if start.toList.isPrefixOf text.toList then
    String.ofList (text.toList.drop start.toList.length)
  else text

/-- `part in text`. -/
def pyContains (text part : String) : Bool :=
  text.toList.tails.any (fun rest => part.toList.isPrefixOf rest)

def isHexDigest (text : String) : Bool :=
  text.toList.length = 64 &&
    text.toList.all (fun char => "0123456789abcdef".toList.contains char)

end ModelAtlas.Foundations
