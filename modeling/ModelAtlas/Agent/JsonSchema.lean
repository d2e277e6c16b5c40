import Mathlib.Data.List.Sort
import Mathlib.Data.String.Basic
import ModelAtlas.Foundations.Json

/-!
# JSON schemas

`validate_json_schema` of `services/tool_execution.py`, which the executor of
tools and the evaluator of critical results share, over Python's equality of
JSON values.
-/

namespace ModelAtlas.Agent

open Foundations

/-- The number that a value is; Python counts `False` and `True` as `0` and
`1`. -/
def pyNumber : Json → Option Rat
  | .bool value => some value.toNat
  | .int value => some value
  | .float value => some value
  | _ => none

mutual

/-- `left == right` of two JSON values. -/
def pyEq : Json → Json → Bool
  | .null, .null => true
  | .str left, .str right => left = right
  | .arr left, .arr right => pyEqItems left right
  | .obj left, .obj right =>
    left.length = right.length && pyEqMembers left right
  | .bool left, right => pyNumber right = some (left.toNat : Rat)
  | .int left, right => pyNumber right = some (left : Rat)
  | .float left, right => pyNumber right = some left
  | _, _ => false

def pyEqItems : List Json → List Json → Bool
  | [], [] => true
  | left :: lefts, right :: rights => pyEq left right && pyEqItems lefts rights
  | _, _ => false

def pyEqMembers : List (String × Json) → List (String × Json) → Bool
  | [], _ => true
  | (name, left) :: lefts, rights =>
    rights.any (fun right => right.1 = name && pyEq left right.2) && pyEqMembers lefts rights

end

/-- `left == right`, where either may be `None` because it is missing. -/
def pyEqOption (left right : Option Json) : Bool :=
  pyEq (left.getD .null) (right.getD .null)

mutual

theorem pyEq_self : (value : Json) → pyEq value value = true
  | .null => by simp [pyEq]
  | .bool _ => by simp [pyEq, pyNumber]
  | .int _ => by simp [pyEq, pyNumber]
  | .float _ => by simp [pyEq, pyNumber]
  | .str _ => by simp [pyEq]
  | .arr items => by
    rw [pyEq]
    exact pyEqItems_self items
  | .obj members => by
    rw [pyEq, Bool.and_eq_true]
    exact ⟨by simp, pyEqMembers_of_subset members members (fun _ => id)⟩

theorem pyEqItems_self : (items : List Json) → pyEqItems items items = true
  | [] => by simp [pyEqItems]
  | item :: items => by
    rw [pyEqItems, pyEq_self item, pyEqItems_self items]
    rfl

theorem pyEqMembers_of_subset : (lefts rights : List (String × Json)) → lefts ⊆ rights →
      pyEqMembers lefts rights = true
  | [], _, _ => by simp [pyEqMembers]
  | (name, left) :: lefts, rights, subset => by
    have head : (name, left) ∈ rights := subset (List.mem_cons_self ..)
    have found : rights.any (fun right =>
        right.1 = name && pyEq left right.2) = true :=
      List.any_eq_true.mpr ⟨(name, left), head, by
        simpa using pyEq_self left⟩
    rw [pyEqMembers, found, Bool.true_and]
    exact pyEqMembers_of_subset lefts rights (fun _ mem => subset (List.mem_cons_of_mem _ mem))

end

def matchesType (value : Json) (expectedType : String) : Bool :=
  match expectedType, value with
  | "object", .obj _ => true
  | "object", _ => false
  | "array", .arr _ => true
  | "array", _ => false
  | "string", .str _ => true
  | "string", _ => false
  | "integer", .int _ => true
  | "integer", _ => false
  | "number", .int _ => true
  | "number", .float _ => true
  | "number", _ => false
  | "boolean", .bool _ => true
  | "boolean", _ => false
  | "null", .null => true
  | "null", _ => false
  | _, _ => true

/-- A value that is an instance of `int`. -/
def pyInt? : Option Json → Option Int
  | some (.int value) => some value
  | some (.bool value) => some value.toNat
  | _ => none

section Schema

variable (render : Json → String)

/-- `schema["type"]` where it does not match the value. -/
def mismatchedType (schema value : Json) : Option String :=
  let expectedType := Json.pyStrOrEmpty render (schema.get? "type")
  if expectedType ≠ "" && !matchesType value expectedType then
    some expectedType
  else none

/-- The errors of `enum`, `minLength` and `maxLength`. -/
def valueErrors (schema value : Json) (path : String) : List String :=
  (match schema.get? "enum" with
  | some (.arr items) =>
    if items.any (fun item => pyEq value item) then []
    else [path ++ " must be one of " ++ render (.arr items)]
  | _ => []) ++
  (match value with
  | .str text =>
    (match pyInt? (schema.get? "minLength") with
    | some minimum =>
      if (text.length : Int) < minimum then
        [path ++ " is shorter than " ++ toString minimum]
      else []
    | none => []) ++
    (match pyInt? (schema.get? "maxLength") with
    | some maximum =>
      if maximum < text.length then
        [path ++ " is longer than " ++ toString maximum]
      else []
    | none => [])
  | _ => [])

def requiredErrors (schema value : Json) (path : String) : List String :=
  match value with
  | .obj members =>
    (schema.items "required").flatMap (fun required =>
      match required with
      | .str name =>
        if ((Json.obj members).get? name).isSome then []
        else [path ++ "." ++ name ++ " is required"]
      | other => [path ++ "." ++ render other ++ " is required"])
  | _ => []

/-- The members of `properties`, if it is a `dict`; `{}` where it is missing. -/
def schemaProperties (schema : Json) : Option (List (String × Json)) :=
  match schema.get? "properties" with
  | none => some []
  | some (.obj properties) => some properties
  | some _ => none

def additionalErrors (schema value : Json) (path : String) : List String :=
  match value, schemaProperties schema, schema.get? "additionalProperties" with
  | .obj members, some properties, some (.bool false) =>
    (((members.map Prod.fst).filter (fun name =>
      !(properties.map Prod.fst).contains name)).insertionSort
        (fun left right => left ≤ right)).map
          (fun name => path ++ "." ++ name ++ " is not allowed")
  | _, _, _ => []

mutual

/-- `validate_json_schema`, of a schema that is a `dict`. -/
def validateJsonSchema : Json → Json → String → List String
  | .obj members, value, path =>
    match mismatchedType render (.obj members) value with
    | some expectedType => [path ++ " must be " ++ expectedType]
    | none =>
      valueErrors render (.obj members) value path ++
        requiredErrors render (.obj members) value path ++ propertyErrors members value path ++
        additionalErrors (.obj members) value path ++ itemErrors members value path
  | _, _, _ => []

def propertyErrors : List (String × Json) → Json → String → List String
  | [], _, _ => []
  | (name, schema) :: rest, value, path =>
    if name = "properties" then childErrors schema value path
    else propertyErrors rest value path

def childErrors : Json → Json → String → List String
  | .obj properties, value, path => childrenErrors properties value path
  | _, _, _ => []

def childrenErrors : List (String × Json) → Json → String → List String
  | [], _, _ => []
  | (name, child) :: rest, value, path =>
    (match value.get? name with
    | some present => validateJsonSchema child present (path ++ "." ++ name)
    | none => []) ++ childrenErrors rest value path

def itemErrors : List (String × Json) → Json → String → List String
  | [], _, _ => []
  | (name, schema) :: rest, value, path =>
    if name = "items" then
      match value with
      | .arr items => items.zipIdx.flatMap (fun item =>
        validateJsonSchema schema item.1
          (path ++ "[" ++ toString item.2 ++ "]"))
      | _ => []
    else itemErrors rest value path

end

theorem required_of_valid {members : List (String × Json)} {value : Json}
    {path name : String} (valid : validateJsonSchema render (.obj members) value path = [])
    (object : Json.isText ((Json.obj members).get? "type") "object" = true)
    (required : Json.str name ∈ (Json.obj members).items "required") :
    ∃ present, value.get? name = some present := by
  simp only [validateJsonSchema] at valid
  split at valid
  · cases valid
  next matched =>
  simp only [List.append_eq_nil_iff] at valid
  have noMissing := valid.1.1.1.2
  have typeEq : (Json.obj members).get? "type" = some (.str "object") := by
    simp only [Json.isText] at object
    split at object
    · next stored found =>
        have same : stored = "object" := by simpa using object
        rw [found, same]
    · cases object
  cases value with
  | obj valueMembers =>
    simp only [requiredErrors, List.flatMap_eq_nil_iff] at noMissing
    have present := noMissing _ required
    simp only at present
    split at present
    · next found => exact Option.isSome_iff_exists.mp found
    · cases present
  | _ =>
    simp [mismatchedType, typeEq, Json.pyStrOrEmpty_str, matchesType] at matched

end Schema

end ModelAtlas.Agent
