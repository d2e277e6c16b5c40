import ModelAtlas.Foundations.PyText

/-!
# JSON values

The values that the `JSON` columns and the contracts hold, with the lookups the
services make on them.
-/

namespace ModelAtlas.Foundations

inductive Json where
  | null
  | bool (value : Bool)
  | int (value : Int)
  | float (value : Rat)
  | str (value : String)
  | arr (items : List Json)
  | obj (members : List (String × Json))

namespace Json

/-- `value.get(name)`, and nothing for a value that is not a `dict`. -/
def get? (value : Json) (name : String) : Option Json :=
  match value with
  | obj members => (members.find? (fun mem => mem.1 = name)).map Prod.snd
  | _ => none

/-- `bool(value)`. -/
def truthy : Json → Bool
  | null => false
  | bool value => value
  | int value => value ≠ 0
  | float value => value ≠ 0
  | str value => value ≠ ""
  | arr items => !items.isEmpty
  | obj members => !members.isEmpty

/-- `str(value)`, where `render` prints the values that are not texts. -/
def pyStr (render : Json → String) : Json → String
  | str value => value
  | value => render value

/-- `str(value or "")`. -/
def pyStrOrEmpty (render : Json → String) (value : Option Json) : String :=
  match value with
  | none => ""
  | some present => if present.truthy then present.pyStr render else ""

@[simp]
theorem pyStrOrEmpty_str (render : Json → String) (text : String) :
    pyStrOrEmpty render (some (str text)) = text := by
  by_cases empty : text = ""
  · simp [pyStrOrEmpty, truthy, empty]
  · simp [pyStrOrEmpty, truthy, pyStr, empty]

def truthyMember (value : Json) (name : String) : Bool :=
  (value.get? name).any truthy

/-- `isinstance(value, dict)`. -/
def isObject : Json → Bool
  | obj _ => true
  | _ => false

def isText (value : Option Json) (text : String) : Bool :=
  match value with
  | some (str stored) => stored = text
  | _ => false

/-- `value.get(name)` where the value is a list, and no items otherwise. -/
def items (value : Json) (name : String) : List Json :=
  match value.get? name with
  | some (arr members) => members
  | _ => []

/-- `value.get(name)` where the value is a `dict`, and `{}` otherwise. -/
def objectOr (value : Json) (name : String) : Json :=
  match value.get? name with
  | some (obj members) => obj members
  | _ => obj []

/-- `value == index` for an index: Python compares `1`, `1.0` and `True` as
equal. -/
def isIndex (value : Option Json) (index : Nat) : Bool :=
  match value with
  | some (int stored) => stored = index
  | some (float stored) => stored = index
  | some (bool stored) => stored.toNat = index
  | _ => false

/-- `members[name] = value`. -/
def setMember (members : List (String × Json)) (name : String) (value : Json) :
    List (String × Json) :=
  members.filter (fun mem => mem.1 ≠ name) ++ [(name, value)]

/-- `_string_list`: the texts of the items that are not blank. -/
def stringList (render : Json → String) (value : Option Json) : List String :=
  match value with
  | some (arr items) =>
    (items.map (pyStr render)).filter (fun text => pyStrip text ≠ "")
  | _ => []

def optionText (value : Option String) : Json :=
  match value with
  | none => null
  | some text => str text

end Json

end ModelAtlas.Foundations
