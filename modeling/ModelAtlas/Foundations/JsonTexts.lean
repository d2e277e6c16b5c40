import ModelAtlas.Foundations.Json

/-!
# Equality and texts of JSON values
-/

namespace ModelAtlas.Foundations

namespace Json

mutual

def same : Json → Json → Bool
  | .null, .null => true
  | .bool left, .bool right => left = right
  | .int left, .int right => left = right
  | .float left, .float right => left = right
  | .str left, .str right => left = right
  | .arr left, .arr right => sameItems left right
  | .obj left, .obj right => sameMembers left right
  | _, _ => false

def sameItems : List Json → List Json → Bool
  | [], [] => true
  | left :: lefts, right :: rights => same left right && sameItems lefts rights
  | _, _ => false

def sameMembers : List (String × Json) → List (String × Json) → Bool
  | [], [] => true
  | (name, left) :: lefts, (other, right) :: rights =>
    name = other && same left right && sameMembers lefts rights
  | _, _ => false

end

mutual

theorem same_iff : ∀ left right : Json, same left right = true ↔ left = right
  | .null, right => by cases right <;> simp [same]
  | .bool left, right => by cases right <;> simp [same]
  | .int left, right => by cases right <;> simp [same]
  | .float left, right => by cases right <;> simp [same]
  | .str left, right => by cases right <;> simp [same]
  | .arr left, right => by
    cases right with
    | arr right => simp [same, sameItems_iff left right]
    | _ => simp [same]
  | .obj left, right => by
    cases right with
    | obj right => simp [same, sameMembers_iff left right]
    | _ => simp [same]

theorem sameItems_iff : ∀ left right : List Json, sameItems left right = true ↔ left = right
  | [], right => by cases right <;> simp [sameItems]
  | left :: lefts, right => by
    cases right with
    | nil => simp [sameItems]
    | cons right rights =>
      simp [sameItems, same_iff left right, sameItems_iff lefts rights]

theorem sameMembers_iff : ∀ left right : List (String × Json),
    sameMembers left right = true ↔ left = right
  | [], right => by cases right <;> simp [sameMembers]
  | (name, left) :: lefts, right => by
    cases right with
    | nil => simp [sameMembers]
    | cons right rights =>
      simp [sameMembers, same_iff left right.2, sameMembers_iff lefts rights,
        Prod.ext_iff, and_assoc]
end

instance : DecidableEq Json := fun left right =>
  decidable_of_iff (same left right = true) (same_iff left right)

mutual

/-- `canonical_json`, of texts that need no escape. -/
def canonicalText : Json → String
  | .null => "null"
  | .bool value => if value then "true" else "false"
  | .int value => toString value
  | .float value => toString value
  | .str text => "\"" ++ text ++ "\""
  | .arr items => "[" ++ itemsText items ++ "]"
  | .obj members => "\x7b" ++ membersText members ++ "\x7d"

def itemsText : List Json → String
  | [] => ""
  | [item] => canonicalText item
  | item :: rest => canonicalText item ++ "," ++ itemsText rest

def membersText : List (String × Json) → String
  | [] => ""
  | [(name, value)] => "\"" ++ name ++ "\":" ++ canonicalText value
  | (name, value) :: rest =>
    "\"" ++ name ++ "\":" ++ canonicalText value ++ "," ++ membersText rest

end

end Json

end ModelAtlas.Foundations
