import ModelAtlas.Tools.SchemaLanguage

/-!
# What the validator of tool arguments decides

The validator's reading of a schema against that of JSON: they differ on
integers that are written with a fraction, and where a boolean meets a number in
an `enum`.
-/

namespace ModelAtlas.Tools

open Foundations Agent

mutual

theorem pyEq_of_jsonEq : (left right : Json) → jsonEq left right = true → pyEq left right = true
  | .null, right, same => by cases right <;> simp_all [jsonEq, pyEq]
  | .bool left, right, same => by cases right <;> simp_all [jsonEq, pyEq, pyNumber]
  | .int left, right, same => by cases right <;> simp_all [jsonEq, pyEq, pyNumber]
  | .float left, right, same => by cases right <;> simp_all [jsonEq, pyEq, pyNumber]
  | .str left, right, same => by cases right <;> simp_all [jsonEq, pyEq]
  | .arr left, right, same => by
    cases right with
    | arr right =>
      rw [jsonEq] at same
      rw [pyEq]
      exact pyEqItems_of_jsonEqItems left right same
    | _ => simp [jsonEq] at same
  | .obj left, right, same => by
    cases right with
    | obj right =>
      rw [jsonEq, Bool.and_eq_true] at same
      rw [pyEq, Bool.and_eq_true]
      exact ⟨same.1, pyEqMembers_of_jsonEqMembers left right same.2⟩
    | _ => simp [jsonEq] at same

theorem pyEqItems_of_jsonEqItems : (lefts rights : List Json) → jsonEqItems lefts rights = true →
    pyEqItems lefts rights = true
  | [], rights, same => by cases rights <;> simp_all [jsonEqItems, pyEqItems]
  | left :: lefts, rights, same => by
    cases rights with
    | nil => simp [jsonEqItems] at same
    | cons right rights =>
      rw [jsonEqItems, Bool.and_eq_true] at same
      rw [pyEqItems, pyEq_of_jsonEq left right same.1, pyEqItems_of_jsonEqItems lefts rights same.2]
      rfl

theorem pyEqMembers_of_jsonEqMembers : (lefts rights : List (String × Json)) →
    jsonEqMembers lefts rights = true → pyEqMembers lefts rights = true
  | [], _, _ => by rw [pyEqMembers]
  | (name, left) :: lefts, rights, same => by
    rw [jsonEqMembers, Bool.and_eq_true, List.any_eq_true] at same
    obtain ⟨⟨right, mem, isSame⟩, rest⟩ := same
    rw [Bool.and_eq_true] at isSame
    rw [pyEqMembers, Bool.and_eq_true, List.any_eq_true]
    refine ⟨⟨right, mem, ?_⟩, pyEqMembers_of_jsonEqMembers lefts rights rest⟩
    rw [isSame.1, pyEq_of_jsonEq left right.2 isSame.2]
    rfl

end

def IsDecimalInteger (schema value : Json) : Prop :=
  schema.get? "type" = some (.str "integer") ∧ ∃ number, value = .float number ∧ number.den = 1

/-- The value is in the `enum` only where booleans count as numbers. -/
def CountsBoolean (schema value : Json) : Prop :=
  ∃ items, schema.get? "enum" = some (.arr items) ∧ items.any (pyEq value) = true ∧
    items.any (jsonEq value) = false

section Readings

variable {schema value : Json} {keyword : Keyword}

theorem hasType_of_matchesType {name : String} (matched : matchesType value name = true) :
    jsonReading.hasType value name = true := by
  simp only [jsonReading]
  split
  · simp [matchesType] at matched
  · exact matched

theorem violated_of_py (violated : pyReading.Violated schema value keyword)
    (notDecimal : ¬ IsDecimalInteger schema value) :
    jsonReading.Violated schema value keyword := by
  cases keyword with
  | type =>
    obtain ⟨name, found, mismatched⟩ := violated
    refine ⟨name, found, ?_⟩
    simp only [jsonReading]
    split
    · next number =>
      exact decide_eq_false fun isInteger => notDecimal ⟨found, number, rfl, isInteger⟩
    · exact mismatched
  | enum =>
    obtain ⟨items, found, unequal⟩ := violated
    refine ⟨items, found, ?_⟩
    rw [List.any_eq_false] at unequal ⊢
    exact fun item mem same => unequal item mem (pyEq_of_jsonEq value item same)
  | _ => exact violated

theorem violated_of_json (violated : jsonReading.Violated schema value keyword)
    (notCounted : ¬ CountsBoolean schema value) :
    pyReading.Violated schema value keyword := by
  cases keyword with
  | type =>
    obtain ⟨name, found, mismatched⟩ := violated
    refine ⟨name, found, Bool.eq_false_iff.mpr fun matched => ?_⟩
    exact Bool.false_ne_true (mismatched.symm.trans (hasType_of_matchesType matched))
  | enum =>
    obtain ⟨items, found, unequal⟩ := violated
    exact ⟨items, found, Bool.eq_false_iff.mpr fun counted =>
      notCounted ⟨items, found, counted, unequal⟩⟩
  | _ => exact violated

theorem IsDecimalInteger.violated (decimal : IsDecimalInteger schema value) :
    pyReading.Violated schema value .type := by
  obtain ⟨found, number, rfl, _⟩ := decimal
  exact ⟨"integer", found, rfl⟩

theorem IsDecimalInteger.not_violated (decimal : IsDecimalInteger schema value) :
    ¬ jsonReading.Violated schema value .type := by
  obtain ⟨found, number, rfl, isInteger⟩ := decimal
  rintro ⟨name, named, mismatched⟩
  rw [found] at named
  cases named
  exact Bool.false_ne_true (mismatched.symm.trans (decide_eq_true isInteger))

end Readings

theorem Place.mono {through more : Json → Json → Prop} {schema value schema' value' : Json}
    {path path' : String} (weaker : ∀ schema value, through schema value → more schema value)
    (place : Place through schema value path schema' value' path') :
    Place more schema value path schema' value' path' := by
  induction place with
  | here schema value path => exact .here schema value path
  | property passes found mem present _ ih =>
    exact .property (weaker _ _ passes) found mem present ih
  | item passes found mem _ ih =>
    exact .item (weaker _ _ passes) found mem ih

theorem exists_mem_of_violated (render : Json → String) {schema value schema' value' : Json}
    {path path' : String} {keyword : Keyword} (checked : checkSupportedSchema schema = .ok ())
    (place : Place (fun _ _ => True) schema value path schema' value' path')
    (violated : pyReading.Violated schema' value' keyword) :
    ∃ message, message ∈ validateJsonSchema render schema value path := by
  induction place with
  | here schema value path =>
    have supported := supported_of_check checked
    by_cases passes : PassesType schema value
    · exact ⟨_, mem_validateJsonSchema checked (.here schema value path) violated (Or.inr passes)⟩
    · exact ⟨_, (validateJsonSchema_mismatch supported (not_not.mp passes)).mpr rfl⟩
  | @property schema value _ _ _ _ _ _ _ _ _ found mem present _ ih =>
    have supported := supported_of_check checked
    by_cases passes : PassesType schema value
    · obtain ⟨message, below⟩ := ih (supported.property found _ mem) violated
      exact ⟨message, (validateJsonSchema_mem_iff supported passes).mpr
        (Or.inr (Or.inl ⟨_, found, _, mem, _, present, below⟩))⟩
    · exact ⟨_, (validateJsonSchema_mismatch supported (not_not.mp passes)).mpr rfl⟩
  | @item schema _ _ _ _ _ _ items _ _ found mem _ ih =>
    have supported := supported_of_check checked
    by_cases passes : PassesType schema (.arr items)
    · obtain ⟨message, below⟩ := ih (supported.item found) violated
      exact ⟨message, (validateJsonSchema_mem_iff supported passes).mpr
        (Or.inr (Or.inr ⟨_, _, found, rfl, _, mem, below⟩))⟩
    · exact ⟨_, (validateJsonSchema_mismatch supported (not_not.mp passes)).mpr rfl⟩

/-- No errors where the value is valid as JSON, and each message is one of a place and is
violated. -/
structure Decides (render : Json → String) (schema value : Json) (path : String) : Prop where
  empty : validateJsonSchema render schema value path = [] ↔ jsonReading.Valid schema value path
  reported : ∀ message, message ∈ validateJsonSchema render schema value path ↔
    Reports render schema value path message
  genuine : ∀ schema' value' path' keyword,
    Reported schema value path schema' value' path' keyword →
      jsonReading.Violated schema' value' keyword

theorem validateJsonSchema_decides_iff (render : Json → String) {schema : Json} (value : Json)
    (path : String) (checked : checkSupportedSchema schema = .ok ()) :
    Decides render schema value path ↔
      (∀ schema' value' path', Place PassesType schema value path schema' value' path' →
        ¬ IsDecimalInteger schema' value') ∧
      ((∃ schema' value' path',
          Place (fun _ _ => True) schema value path schema' value' path' ∧
            CountsBoolean schema' value') →
        ∃ schema' value' path' keyword,
          Place (fun _ _ => True) schema value path schema' value' path' ∧
            pyReading.Violated schema' value' keyword) := by
  have anywhere : ∀ schema' value' path', Place PassesType schema value path schema' value' path' →
      Place (fun _ _ => True) schema value path schema' value' path' :=
    fun _ _ _ => Place.mono fun _ _ _ => trivial
  have reported : ∀ message, message ∈ validateJsonSchema render schema value path ↔
      Reports render schema value path message := by
    intro message
    constructor
    · exact reports_of_mem schema value path message checked
    · rintro ⟨_, _, _, keyword, found, rfl⟩
      exact mem_validateJsonSchema checked found.place found.violated found.typed
  constructor
  · intro decides
    constructor
    · intro schema' value' path' place decimal
      exact decimal.not_violated (decides.genuine schema' value' path' .type
        ⟨place, decimal.violated, Or.inl rfl⟩)
    · rintro ⟨schema', value', path', place, items, found, _, unequal⟩
      have invalid : ¬ jsonReading.Valid schema value path := fun valid =>
        valid schema' value' path' place .enum ⟨items, found, unequal⟩
      obtain ⟨message, mem⟩ := List.exists_mem_of_ne_nil _
        (fun noErrors => invalid (decides.empty.mp noErrors))
      obtain ⟨schema', value', path', keyword, report, _⟩ := (reported message).mp mem
      exact ⟨schema', value', path', keyword, anywhere _ _ _ report.place, report.violated⟩
  · rintro ⟨noDecimal, noCounted⟩
    have genuine : ∀ schema' value' path' keyword,
        Reported schema value path schema' value' path' keyword →
          jsonReading.Violated schema' value' keyword :=
      fun schema' value' path' _ report =>
        violated_of_py report.violated (noDecimal schema' value' path' report.place)
    refine ⟨⟨?_, ?_⟩, reported, genuine⟩
    · intro noErrors
      have noneViolated : ∀ schema' value' path' keyword,
          Place (fun _ _ => True) schema value path schema' value' path' →
            ¬ pyReading.Violated schema' value' keyword := by
        intro schema' value' path' keyword place violated
        obtain ⟨message, mem⟩ := exists_mem_of_violated render checked place violated
        rw [noErrors] at mem
        cases mem
      intro schema' value' path' place keyword violated
      refine noneViolated schema' value' path' keyword place
        (violated_of_json violated fun counted => ?_)
      obtain ⟨_, _, _, _, found, isViolated⟩ := noCounted ⟨schema', value', path', place, counted⟩
      exact noneViolated _ _ _ _ found isViolated
    · intro valid
      refine List.eq_nil_iff_forall_not_mem.mpr fun message mem => ?_
      obtain ⟨schema', value', path', keyword, report, _⟩ := (reported message).mp mem
      exact valid schema' value' path' (anywhere _ _ _ report.place) keyword
        (genuine schema' value' path' keyword report)

theorem validateJsonSchema_decides_integer :
    checkSupportedSchema (.obj [("type", .str "integer")]) = .ok () ∧
      (Decides (fun _ => "") (.obj [("type", .str "integer")]) (.int 3) "$" ↔
        (∀ schema' value' path',
          Place PassesType (.obj [("type", .str "integer")]) (.int 3) "$" schema' value' path' →
            ¬ IsDecimalInteger schema' value') ∧
        ((∃ schema' value' path',
            Place (fun _ _ => True) (.obj [("type", .str "integer")]) (.int 3) "$" schema' value'
              path' ∧ CountsBoolean schema' value') →
          ∃ schema' value' path' keyword,
            Place (fun _ _ => True) (.obj [("type", .str "integer")]) (.int 3) "$" schema' value'
              path' ∧ pyReading.Violated schema' value' keyword)) :=
  ⟨rfl, validateJsonSchema_decides_iff (fun _ => "") (.int 3) "$" rfl⟩

/-- `1.0` is an integer of JSON, and `true` is not the number `1`. -/
theorem validateJsonSchema_undecided :
    ¬ Decides (fun _ => "") (.obj [("type", .str "integer")]) (.float 1) "$" ∧
      ¬ Decides (fun _ => "")
        (.obj [("type", .str "boolean"), ("enum", .arr [.int 1])]) (.bool true) "$" := by
  constructor
  · intro decides
    have decimal : IsDecimalInteger (.obj [("type", .str "integer")]) (.float 1) :=
      ⟨rfl, 1, rfl, rfl⟩
    exact decimal.not_violated (decides.genuine _ _ _ .type
      ⟨.here _ _ _, decimal.violated, Or.inl rfl⟩)
  · intro decides
    have noErrors : validateJsonSchema (fun _ => "")
        (.obj [("type", .str "boolean"), ("enum", .arr [.int 1])]) (.bool true) "$" = [] := by
      decide +kernel
    exact decides.empty.mp noErrors _ _ _ (.here _ _ _) .enum ⟨_, rfl, by decide +kernel⟩

end ModelAtlas.Tools
