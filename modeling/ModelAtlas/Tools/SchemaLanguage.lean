import ModelAtlas.Agent.JsonSchema
import ModelAtlas.Foundations.Outcomes

/-!
# The schema language of tool arguments

`_check_supported_schema` of `services/tool_call_contract.py` and what
`validate_json_schema` decides. A reading says when a value has a type and when
two values are equal: Python's, or that of JSON.
-/

namespace ModelAtlas.Tools

open Foundations Agent

def schemaKeys : List String :=
  ["type", "properties", "required", "additionalProperties", "items", "enum", "minLength",
    "maxLength", "description", "title"]

def schemaTypes : List String :=
  ["object", "array", "string", "integer", "number", "boolean", "null"]

def hasSupportedType (schema : Json) : Bool :=
  match schema.get? "type" with
  | some (.str name) => schemaTypes.contains name
  | _ => false

def isSupportedLength : Option Json → Bool
  | none => true
  | some (.int length) => 0 ≤ length
  | some _ => false

def isSupportedEnum : Option Json → Bool
  | none => true
  | some (.arr items) => !items.isEmpty
  | some _ => false

def isSupportedAdditional : Option Json → Bool
  | none | some (.bool _) => true
  | some _ => false

def isSupportedRequired (properties : List (String × Json)) : Option Json → Bool
  | none => true
  | some (.arr items) => items.all (fun item =>
    match item with
    | .str name => properties.any (fun property => property.1 = name)
    | _ => false)
  | some _ => false

def checkKeywords (schema : Json) (members : List (String × Json)) : Except String Unit :=
  if members.any (fun entry => !schemaKeys.contains entry.1) then
    .error "argument schema contains unsupported constraints"
  else if !hasSupportedType schema then
    .error "argument schema requires a supported explicit type"
  else if !(isSupportedLength (schema.get? "minLength") &&
      isSupportedLength (schema.get? "maxLength")) then
    .error "invalid argument string length constraint"
  else if !isSupportedEnum (schema.get? "enum") then .error "invalid argument enum"
  else if !isSupportedAdditional (schema.get? "additionalProperties") then
    .error "unsupported additionalProperties schema"
  else if !(schemaProperties schema).any (fun properties =>
      isSupportedRequired properties (schema.get? "required")) then
    .error "invalid argument properties or required fields"
  else .ok ()

mutual

def checkSupportedSchema : Json → Except String Unit
  | .obj members => do
    checkKeywords (.obj members) members
    checkProperties members
    checkItems members
  | _ => .error "invalid child argument schema"

def checkProperties : List (String × Json) → Except String Unit
  | [] => .ok ()
  | (name, schema) :: rest =>
    if name = "properties" then checkChildren schema else checkProperties rest

def checkChildren : Json → Except String Unit
  | .obj properties => checkEach properties
  | _ => .ok ()

def checkEach : List (String × Json) → Except String Unit
  | [] => .ok ()
  | (_, child) :: rest => do
    checkSupportedSchema child
    checkEach rest

def checkItems : List (String × Json) → Except String Unit
  | [] => .ok ()
  | (name, schema) :: rest =>
    if name = "items" then checkSupportedSchema schema else checkItems rest

end

/-! ## Readings of the language -/

mutual

/-- The values are equal as JSON: a number is its value, and no boolean is a
number. -/
def jsonEq : Json → Json → Bool
  | .null, .null => true
  | .bool left, .bool right => left = right
  | .int left, .int right => left = right
  | .int left, .float right | .float right, .int left => (left : Rat) = right
  | .float left, .float right => left = right
  | .str left, .str right => left = right
  | .arr left, .arr right => jsonEqItems left right
  | .obj left, .obj right => left.length = right.length && jsonEqMembers left right
  | _, _ => false

def jsonEqItems : List Json → List Json → Bool
  | [], [] => true
  | left :: lefts, right :: rights => jsonEq left right && jsonEqItems lefts rights
  | _, _ => false

def jsonEqMembers : List (String × Json) → List (String × Json) → Bool
  | [], _ => true
  | (name, left) :: lefts, rights =>
    rights.any (fun right => right.1 = name && jsonEq left right.2) && jsonEqMembers lefts rights

end

structure SchemaReading where
  hasType : Json → String → Bool
  equal : Json → Json → Bool

/-- Python's types and its equality, which the validator uses. -/
def pyReading : SchemaReading := ⟨matchesType, pyEq⟩

def jsonReading : SchemaReading where
  hasType value name :=
    match name, value with
    | "integer", .float number => number.den = 1
    | _, _ => matchesType value name
  equal := jsonEq

inductive Keyword where
  | type
  | enum
  | minLength
  | maxLength
  | required (name : String)
  | additionalProperties (name : String)

def SchemaReading.Violated (reading : SchemaReading) (schema value : Json) : Keyword → Prop
  | .type => ∃ name, schema.get? "type" = some (.str name) ∧ reading.hasType value name = false
  | .enum => ∃ items, schema.get? "enum" = some (.arr items) ∧
      items.any (reading.equal value) = false
  | .minLength => ∃ minimum text, schema.get? "minLength" = some (.int minimum) ∧
      value = .str text ∧ (text.length : Int) < minimum
  | .maxLength => ∃ maximum text, schema.get? "maxLength" = some (.int maximum) ∧
      value = .str text ∧ maximum < (text.length : Int)
  | .required name => ∃ members, value = .obj members ∧
      .str name ∈ schema.items "required" ∧ value.get? name = none
  | .additionalProperties name => ∃ members properties, value = .obj members ∧
      schema.get? "additionalProperties" = some (.bool false) ∧
      schemaProperties schema = some properties ∧ name ∈ members.map Prod.fst ∧
      name ∉ properties.map Prod.fst

/-- The place of a schema and a value, and its path, where each schema on the way lets through
to its children. -/
inductive Place (through : Json → Json → Prop) :
    Json → Json → String → Json → Json → String → Prop
  | here (schema value : Json) (path : String) : Place through schema value path schema value path
  | property {schema value child present schema' value' : Json} {path name path' : String}
      {properties : List (String × Json)} :
      through schema value → schema.get? "properties" = some (.obj properties) →
      (name, child) ∈ properties → value.get? name = some present →
      Place through child present (path ++ "." ++ name) schema' value' path' →
      Place through schema value path schema' value' path'
  | item {schema child item schema' value' : Json} {path path' : String} {items : List Json}
      {index : Nat} :
      through schema (.arr items) → schema.get? "items" = some child →
      (item, index) ∈ items.zipIdx →
      Place through child item (path ++ "[" ++ toString index ++ "]") schema' value' path' →
      Place through schema (.arr items) path schema' value' path'

def SchemaReading.Valid (reading : SchemaReading) (schema value : Json) (path : String) : Prop :=
  ∀ schema' value' path', Place (fun _ _ => True) schema value path schema' value' path' →
    ∀ keyword, ¬ reading.Violated schema' value' keyword

def Keyword.message (render : Json → String) (schema : Json) (path : String) : Keyword → String
  | .type => path ++ " must be " ++ Json.pyStrOrEmpty render (schema.get? "type")
  | .enum => path ++ " must be one of " ++ render ((schema.get? "enum").getD .null)
  | .minLength =>
    path ++ " is shorter than " ++ toString ((pyInt? (schema.get? "minLength")).getD 0)
  | .maxLength =>
    path ++ " is longer than " ++ toString ((pyInt? (schema.get? "maxLength")).getD 0)
  | .required name => path ++ "." ++ name ++ " is required"
  | .additionalProperties name => path ++ "." ++ name ++ " is not allowed"

def PassesType (schema value : Json) : Prop := ¬ pyReading.Violated schema value .type

/-- The validator reports the keyword at the place: a type that does not match
hides the other keywords, and what is below. -/
structure Reported (schema value : Json) (path : String) (schema' value' : Json)
    (path' : String) (keyword : Keyword) : Prop where
  place : Place PassesType schema value path schema' value' path'
  violated : pyReading.Violated schema' value' keyword
  typed : keyword = .type ∨ PassesType schema' value'

section Supported

variable {members : List (String × Json)}

theorem checkProperties_eq : ∀ members : List (String × Json), checkProperties members =
    match (Json.obj members).get? "properties" with
    | some schema => checkChildren schema
    | none => .ok ()
  | [] => rfl
  | (name, schema) :: rest => by
    by_cases isProperties : name = "properties"
    · simp [checkProperties, Json.get?, isProperties]
    · simpa [checkProperties, Json.get?, isProperties] using checkProperties_eq rest

theorem checkItems_eq : ∀ members : List (String × Json), checkItems members =
    match (Json.obj members).get? "items" with
    | some schema => checkSupportedSchema schema
    | none => .ok ()
  | [] => rfl
  | (name, schema) :: rest => by
    by_cases isItems : name = "items"
    · simp [checkItems, Json.get?, isItems]
    · simpa [checkItems, Json.get?, isItems] using checkItems_eq rest

theorem checkEach_ok : ∀ {properties : List (String × Json)}, checkEach properties = .ok () →
    ∀ property ∈ properties, checkSupportedSchema property.2 = .ok ()
  | [], _, _, mem => by cases mem
  | (_, child) :: rest, checked, property, mem => by
    rw [checkEach] at checked
    obtain ⟨_, childChecked, restChecked⟩ := bind_eq_ok_iff.mp checked
    rcases List.mem_cons.mp mem with rfl | mem
    · exact childChecked
    · exact checkEach_ok restChecked property mem

structure Supported (schema : Json) : Prop where
  type : ∃ name, schema.get? "type" = some (.str name) ∧ name ∈ schemaTypes
  minLength : isSupportedLength (schema.get? "minLength") = true
  maxLength : isSupportedLength (schema.get? "maxLength") = true
  required : ∀ item ∈ schema.items "required", ∃ name, item = .str name
  property : ∀ {properties}, schema.get? "properties" = some (.obj properties) →
    ∀ entry ∈ properties, checkSupportedSchema entry.2 = .ok ()
  item : ∀ {child}, schema.get? "items" = some child → checkSupportedSchema child = .ok ()

theorem supported_of_check {schema : Json} (checked : checkSupportedSchema schema = .ok ()) :
    Supported schema := by
  cases schema with
  | obj members =>
    rw [checkSupportedSchema] at checked
    obtain ⟨_, keywords, checked⟩ := bind_eq_ok_iff.mp checked
    obtain ⟨_, children, items⟩ := bind_eq_ok_iff.mp checked
    rw [checkProperties_eq] at children
    rw [checkItems_eq] at items
    simp only [checkKeywords] at keywords
    split at keywords
    · cases keywords
    split at keywords
    · cases keywords
    next typed =>
    split at keywords
    · cases keywords
    next lengths =>
    split at keywords
    · cases keywords
    split at keywords
    · cases keywords
    split at keywords
    · cases keywords
    next required =>
    rw [Bool.not_eq_true, Bool.not_eq_false', Bool.and_eq_true] at lengths
    refine ⟨?_, lengths.1, lengths.2, ?_, ?_, ?_⟩
    · rw [Bool.not_eq_true, Bool.not_eq_false', hasSupportedType] at typed
      cases found : (Json.obj members).get? "type" with
      | none => rw [found] at typed; cases typed
      | some value =>
        rw [found] at typed
        cases value with
        | str name => exact ⟨name, rfl, List.contains_iff_mem.mp typed⟩
        | _ => cases typed
    · intro item mem
      rw [Bool.not_eq_true, Bool.not_eq_false', Option.any_eq_true] at required
      obtain ⟨properties, _, isRequired⟩ := required
      rw [Json.items] at mem
      cases found : (Json.obj members).get? "required" with
      | none => rw [found] at mem; cases mem
      | some value =>
        rw [found] at mem isRequired
        cases value with
        | arr items =>
          have isName := List.all_eq_true.mp isRequired item mem
          cases item with
          | str name => exact ⟨name, rfl⟩
          | _ => cases isName
        | _ => cases mem
    · intro properties found
      rw [found] at children
      exact checkEach_ok children
    · intro child found
      rw [found] at items
      exact items
  | _ => cases checked

end Supported

section Errors

variable {render : Json → String} {schema value : Json} {path message : String}

theorem passesType_iff (supported : Supported schema) :
    mismatchedType render schema value = none ↔ PassesType schema value := by
  obtain ⟨name, typeEq, isType⟩ := supported.type
  have named : name ≠ "" := by
    rintro rfl
    revert isType
    decide
  rw [mismatchedType, typeEq, Json.pyStrOrEmpty_str, PassesType, SchemaReading.Violated, typeEq]
  cases matched : matchesType value name with
  | true =>
    refine iff_of_true (by simp) ?_
    rintro ⟨other, same, mismatched⟩
    cases same
    exact Bool.false_ne_true (mismatched.symm.trans matched)
  | false =>
    exact iff_of_false (by simp [named]) (not_not_intro ⟨name, rfl, matched⟩)

theorem mem_valueErrors_iff (supported : Supported schema) :
    message ∈ valueErrors render schema value path ↔
      ∃ keyword, (keyword = .enum ∨ keyword = .minLength ∨ keyword = .maxLength) ∧
        pyReading.Violated schema value keyword ∧
        message = keyword.message render schema path := by
  rw [valueErrors.eq_def]
  refine List.mem_append.trans ((or_congr
    (c := pyReading.Violated schema value .enum ∧
      message = Keyword.enum.message render schema path)
    (d := (pyReading.Violated schema value .minLength ∧
        message = Keyword.minLength.message render schema path) ∨
      (pyReading.Violated schema value .maxLength ∧
        message = Keyword.maxLength.message render schema path)) ?_ ?_).trans ?_)
  · rw [SchemaReading.Violated, Keyword.message]
    cases schema.get? "enum" with
    | none => simp
    | some found =>
      cases found with
      | arr items =>
        cases isMem : items.any (pyEq value) with
        | true => simp_all [pyReading]
        | false => simp_all [pyReading]
      | _ => simp
  · rw [SchemaReading.Violated, SchemaReading.Violated, Keyword.message, Keyword.message]
    cases value with
    | str text =>
      dsimp only
      rw [List.mem_append]
      refine or_congr ?_ ?_
      · have isLength := supported.minLength
        revert isLength
        cases schema.get? "minLength" with
        | none => simp [pyInt?]
        | some found => cases found <;> simp [pyInt?, isSupportedLength]
      · have isLength := supported.maxLength
        revert isLength
        cases schema.get? "maxLength" with
        | none => simp [pyInt?]
        | some found => cases found <;> simp [pyInt?, isSupportedLength]
    | _ => simp
  · constructor
    · rintro (⟨violated, isMessage⟩ | ⟨violated, isMessage⟩ | ⟨violated, isMessage⟩)
      · exact ⟨.enum, Or.inl rfl, violated, isMessage⟩
      · exact ⟨.minLength, Or.inr (Or.inl rfl), violated, isMessage⟩
      · exact ⟨.maxLength, Or.inr (Or.inr rfl), violated, isMessage⟩
    · rintro ⟨_, rfl | rfl | rfl, violated, isMessage⟩
      · exact Or.inl ⟨violated, isMessage⟩
      · exact Or.inr (Or.inl ⟨violated, isMessage⟩)
      · exact Or.inr (Or.inr ⟨violated, isMessage⟩)

theorem mem_requiredErrors_iff (supported : Supported schema) :
    message ∈ requiredErrors render schema value path ↔
      ∃ name, pyReading.Violated schema value (.required name) ∧
        message = (Keyword.required name).message render schema path := by
  cases value with
  | obj members =>
    simp only [requiredErrors, List.mem_flatMap, SchemaReading.Violated, Keyword.message]
    constructor
    · rintro ⟨item, mem, isError⟩
      obtain ⟨name, rfl⟩ := supported.required item mem
      dsimp only at isError
      cases present : (Json.obj members).get? name with
      | none =>
        rw [present] at isError
        exact ⟨name, ⟨members, rfl, mem, present⟩, List.mem_singleton.mp isError⟩
      | some child =>
        rw [present] at isError
        cases isError
    · rintro ⟨name, ⟨_, _, mem, missing⟩, rfl⟩
      refine ⟨.str name, mem, ?_⟩
      dsimp only
      rw [missing]
      exact List.mem_singleton_self _
  | _ => simp [requiredErrors, SchemaReading.Violated]

theorem mem_additionalErrors_iff (render : Json → String) :
    message ∈ additionalErrors schema value path ↔
    ∃ name, pyReading.Violated schema value (.additionalProperties name) ∧
      message = (Keyword.additionalProperties name).message render schema path := by
  simp only [additionalErrors, SchemaReading.Violated, Keyword.message]
  split
  · next members properties additional found propertiesEq additionalEq =>
    constructor
    · intro mem
      obtain ⟨name, isUnknown, rfl⟩ := List.mem_map.mp mem
      rw [List.mem_insertionSort, List.mem_filter] at isUnknown
      exact ⟨name, ⟨_, _, rfl, additionalEq, propertiesEq, isUnknown.1,
        by simpa using isUnknown.2⟩, rfl⟩
    · rintro ⟨name, ⟨others, known, same, _, knownEq, isMem, isUnknown⟩, rfl⟩
      cases same
      rw [propertiesEq] at knownEq
      cases knownEq
      exact List.mem_map.mpr ⟨name, (List.mem_insertionSort _).mpr
        (List.mem_filter.mpr ⟨isMem, by simpa using isUnknown⟩), rfl⟩
  · next excluded =>
    refine iff_of_false (List.not_mem_nil) ?_
    rintro ⟨name, ⟨members, properties, valueEq, additional, propertiesEq, _⟩, _⟩
    exact excluded members properties valueEq propertiesEq additional

end Errors

section Reports

variable {render : Json → String}

theorem childrenErrors_eq (value : Json) (path : String) : ∀ properties : List (String × Json),
    childrenErrors render properties value path = properties.flatMap (fun property =>
      match value.get? property.1 with
      | some present => validateJsonSchema render property.2 present (path ++ "." ++ property.1)
      | none => [])
  | [] => by rw [childrenErrors, List.flatMap_nil]
  | (name, child) :: rest => by
    rw [childrenErrors]
    exact congrArg _ (childrenErrors_eq value path rest)

theorem mem_propertyErrors_iff {value : Json} {path message : String} :
    ∀ members : List (String × Json), message ∈ propertyErrors render members value path ↔
      ∃ properties, (Json.obj members).get? "properties" = some (.obj properties) ∧
        ∃ property ∈ properties, ∃ present, value.get? property.1 = some present ∧
          message ∈ validateJsonSchema render property.2 present (path ++ "." ++ property.1)
  | [] => by simp [propertyErrors, Json.get?]
  | (name, schema) :: rest => by
    by_cases isProperties : name = "properties"
    · rw [propertyErrors, if_pos isProperties]
      have found : (Json.obj ((name, schema) :: rest)).get? "properties" = some schema := by
        simp [Json.get?, isProperties]
      rw [found]
      cases schema with
      | obj properties =>
        rw [childErrors, childrenErrors_eq, List.mem_flatMap]
        constructor
        · rintro ⟨property, mem, isError⟩
          cases present : value.get? property.1 with
          | none => rw [present] at isError; cases isError
          | some child =>
            rw [present] at isError
            exact ⟨properties, rfl, property, mem, child, present, isError⟩
        · rintro ⟨_, same, property, mem, child, present, isError⟩
          cases same
          refine ⟨property, mem, ?_⟩
          rw [present]
          exact isError
      | _ => simp [childErrors]
    · rw [propertyErrors, if_neg isProperties, mem_propertyErrors_iff rest]
      have skipped : (Json.obj ((name, schema) :: rest)).get? "properties" =
          (Json.obj rest).get? "properties" := by
        simp [Json.get?, isProperties]
      rw [skipped]

theorem mem_itemErrors_iff {value : Json} {path message : String} :
    ∀ members : List (String × Json), message ∈ itemErrors render members value path ↔
      ∃ child items, (Json.obj members).get? "items" = some child ∧ value = .arr items ∧
        ∃ item ∈ items.zipIdx, message ∈ validateJsonSchema render child item.1
          (path ++ "[" ++ toString item.2 ++ "]")
  | [] => by simp [itemErrors, Json.get?]
  | (name, schema) :: rest => by
    by_cases isItems : name = "items"
    · rw [itemErrors.eq_def]
      dsimp only
      rw [if_pos isItems]
      have found : (Json.obj ((name, schema) :: rest)).get? "items" = some schema := by
        simp [Json.get?, isItems]
      rw [found]
      cases value with
      | arr items =>
        rw [List.mem_flatMap]
        constructor
        · rintro ⟨item, mem, isError⟩
          exact ⟨schema, items, rfl, rfl, item, mem, isError⟩
        · rintro ⟨_, _, same, sameItems, item, mem, isError⟩
          cases same
          cases sameItems
          exact ⟨item, mem, isError⟩
      | _ => simp
    · rw [itemErrors.eq_def]
      dsimp only
      rw [if_neg isItems, mem_itemErrors_iff rest]
      have skipped : (Json.obj ((name, schema) :: rest)).get? "items" =
          (Json.obj rest).get? "items" := by
        simp [Json.get?, isItems]
      rw [skipped]

def Reports (render : Json → String) (schema value : Json) (path message : String) : Prop :=
  ∃ schema' value' path' keyword, Reported schema value path schema' value' path' keyword ∧
    message = keyword.message render schema' path'

theorem Reports.here {schema value : Json} {path : String} {keyword : Keyword}
    (violated : pyReading.Violated schema value keyword)
    (typed : keyword = .type ∨ PassesType schema value) :
    Reports render schema value path (keyword.message render schema path) :=
  ⟨schema, value, path, keyword, ⟨.here schema value path, violated, typed⟩, rfl⟩

theorem validateJsonSchema_mem_iff {schema value : Json} {path message : String}
    (supported : Supported schema) (passes : PassesType schema value) :
    message ∈ validateJsonSchema render schema value path ↔
      (∃ keyword, keyword ≠ .type ∧ pyReading.Violated schema value keyword ∧
        message = keyword.message render schema path) ∨
      (∃ properties, schema.get? "properties" = some (.obj properties) ∧
        ∃ property ∈ properties, ∃ present, value.get? property.1 = some present ∧
          message ∈ validateJsonSchema render property.2 present (path ++ "." ++ property.1)) ∨
      (∃ child items, schema.get? "items" = some child ∧ value = .arr items ∧
        ∃ item ∈ items.zipIdx, message ∈ validateJsonSchema render child item.1
          (path ++ "[" ++ toString item.2 ++ "]")) := by
  obtain ⟨members, rfl⟩ : ∃ members, schema = .obj members := by
    obtain ⟨_, found, _⟩ := supported.type
    cases schema with
    | obj members => exact ⟨members, rfl⟩
    | _ => cases found
  rw [validateJsonSchema, (passesType_iff supported).mpr passes]
  simp only [List.mem_append, mem_propertyErrors_iff, mem_itemErrors_iff]
  rw [mem_valueErrors_iff supported, mem_requiredErrors_iff supported,
    mem_additionalErrors_iff render]
  constructor
  · rintro ((((⟨keyword, isLocal, violated, rfl⟩ | ⟨name, violated, rfl⟩) | below) |
      ⟨name, violated, rfl⟩) | below)
    · refine Or.inl ⟨keyword, ?_, violated, rfl⟩
      rcases isLocal with rfl | rfl | rfl <;> simp
    · exact Or.inl ⟨.required name, by simp, violated, rfl⟩
    · exact Or.inr (Or.inl below)
    · exact Or.inl ⟨.additionalProperties name, by simp, violated, rfl⟩
    · exact Or.inr (Or.inr below)
  · rintro (⟨keyword, notType, violated, rfl⟩ | below | below)
    · cases keyword with
      | type => exact absurd rfl notType
      | enum => exact Or.inl (Or.inl (Or.inl (Or.inl ⟨_, Or.inl rfl, violated, rfl⟩)))
      | minLength =>
        exact Or.inl (Or.inl (Or.inl (Or.inl ⟨_, Or.inr (Or.inl rfl), violated, rfl⟩)))
      | maxLength =>
        exact Or.inl (Or.inl (Or.inl (Or.inl ⟨_, Or.inr (Or.inr rfl), violated, rfl⟩)))
      | required name => exact Or.inl (Or.inl (Or.inl (Or.inr ⟨name, violated, rfl⟩)))
      | additionalProperties name => exact Or.inl (Or.inr ⟨name, violated, rfl⟩)
    · exact Or.inl (Or.inl (Or.inr below))
    · exact Or.inr below

theorem validateJsonSchema_mismatch {schema value : Json} {path message : String}
    (supported : Supported schema) (mismatch : pyReading.Violated schema value .type) :
    message ∈ validateJsonSchema render schema value path ↔
      message = Keyword.type.message render schema path := by
  obtain ⟨name, typeEq, matched⟩ := id mismatch
  cases schema with
  | obj members =>
    cases mismatched : mismatchedType render (.obj members) value with
    | none => exact absurd mismatch ((passesType_iff supported).mp mismatched)
    | some expected =>
      have isExpected : Json.pyStrOrEmpty render ((Json.obj members).get? "type") = expected := by
        rw [mismatchedType] at mismatched
        split at mismatched
        · exact Option.some.inj mismatched
        · cases mismatched
      rw [validateJsonSchema, mismatched, Keyword.message, isExpected, List.mem_singleton]
  | _ => cases typeEq

theorem sizeOf_get? {value child : Json} {name : String} (found : value.get? name = some child) :
    sizeOf child < sizeOf value := by
  cases value with
  | obj members =>
    rw [Json.get?, Option.map_eq_some_iff] at found
    obtain ⟨entry, found, rfl⟩ := found
    have smaller := List.sizeOf_lt_of_mem (List.mem_of_find?_eq_some found)
    have part : sizeOf entry = 1 + sizeOf entry.1 + sizeOf entry.2 := by
      cases entry
      rfl
    rw [Json.obj.sizeOf_spec]
    omega
  | _ => cases found

/-- Every message is reported at a place, by induction on the schema. -/
theorem reports_of_mem (schema value : Json) (path message : String)
    (checked : checkSupportedSchema schema = .ok ())
    (mem : message ∈ validateJsonSchema render schema value path) :
    Reports render schema value path message := by
  have supported := supported_of_check checked
  by_cases passes : PassesType schema value
  · rcases (validateJsonSchema_mem_iff supported passes).mp mem with
      ⟨keyword, _, violated, rfl⟩ | ⟨properties, found, property, isProperty, present, isPresent,
        below⟩ | ⟨child, items, found, rfl, item, isItem, below⟩
    · exact Reports.here violated (Or.inr passes)
    · have smaller : sizeOf property.2 < sizeOf schema := by
        have outer := sizeOf_get? found
        have inner := List.sizeOf_lt_of_mem isProperty
        have part : sizeOf property = 1 + sizeOf property.1 + sizeOf property.2 := by
          cases property
          rfl
        rw [Json.obj.sizeOf_spec] at outer
        omega
      obtain ⟨schema', value', path', keyword, reported, rfl⟩ :=
        reports_of_mem property.2 present _ message (supported.property found _ isProperty) below
      exact ⟨_, _, _, keyword, ⟨.property passes found isProperty isPresent reported.place,
        reported.violated, reported.typed⟩, rfl⟩
    · have smaller : sizeOf child < sizeOf schema := sizeOf_get? found
      obtain ⟨schema', value', path', keyword, reported, rfl⟩ :=
        reports_of_mem child item.1 _ message (supported.item found) below
      exact ⟨_, _, _, keyword, ⟨.item passes found isItem reported.place, reported.violated,
        reported.typed⟩, rfl⟩
  · have mismatch := not_not.mp passes
    rw [(validateJsonSchema_mismatch supported mismatch).mp mem]
    exact Reports.here mismatch (Or.inl rfl)
termination_by sizeOf schema

/-- Every place that reports is visited, by induction on the place. -/
theorem mem_validateJsonSchema {schema value schema' value' : Json} {path path' : String}
    {keyword : Keyword} (checked : checkSupportedSchema schema = .ok ())
    (place : Place PassesType schema value path schema' value' path')
    (violated : pyReading.Violated schema' value' keyword)
    (typed : keyword = .type ∨ PassesType schema' value') :
    keyword.message render schema' path' ∈ validateJsonSchema render schema value path := by
  induction place with
  | here schema value path =>
    have supported := supported_of_check checked
    by_cases passes : PassesType schema value
    · refine (validateJsonSchema_mem_iff supported passes).mpr (Or.inl ⟨keyword, ?_, violated, rfl⟩)
      rintro rfl
      exact passes violated
    · have isType := typed.resolve_right passes
      subst isType
      exact (validateJsonSchema_mismatch supported violated).mpr rfl
  | property passes found mem present place ih =>
    have supported := supported_of_check checked
    exact (validateJsonSchema_mem_iff supported passes).mpr (Or.inr (Or.inl ⟨_, found, _, mem, _,
      present, ih (supported.property found _ mem) violated typed⟩))
  | item passes found mem place ih =>
    have supported := supported_of_check checked
    exact (validateJsonSchema_mem_iff supported passes).mpr (Or.inr (Or.inr ⟨_, _, found, rfl, _,
      mem, ih (supported.item found) violated typed⟩))

end Reports

end ModelAtlas.Tools
