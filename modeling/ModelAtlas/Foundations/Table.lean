import Mathlib.Data.List.Nodup

/-!
# Tables of rows with a primary key

A list of rows in insertion order, no two with the same key, and the operations
of a relational table. Each operation has one lemma saying which rows it leaves
behind.
-/

namespace ModelAtlas.Foundations

universe u v w

/-- The first of the rows that no later row of the list strictly precedes:
`ORDER BY … LIMIT 1`. -/
def firstInOrder {Row : Type u} (precedes : Row → Row → Bool) : List Row → Option Row
  | [] => none
  | row :: rest =>
    match firstInOrder precedes rest with
    | none => some row
    | some best => if precedes best row then some best else some row

theorem firstInOrder_mem {Row : Type u} {precedes : Row → Row → Bool} :
    ∀ {rows : List Row} {row : Row},
      firstInOrder precedes rows = some row → row ∈ rows
  | [], row, selected => by
    cases selected
  | head :: rest, row, selected => by
    rw [firstInOrder] at selected
    split at selected
    · obtain rfl := Option.some.inj selected
      exact List.mem_cons_self
    · next best inRest =>
        split at selected
        · obtain rfl := Option.some.inj selected
          exact List.mem_cons_of_mem head (firstInOrder_mem inRest)
        · obtain rfl := Option.some.inj selected
          exact List.mem_cons_self

theorem sublist_map_filterMap {Row : Type u} {Image : Type w} {Key : Type v}
    {change : Row → Option Image} {rowKey : Row → Key} {imageKey : Image → Key}
    (keeps : ∀ row image, change row = some image → imageKey image = rowKey row) (rows : List Row) :
    List.Sublist ((rows.filterMap change).map imageKey) (rows.map rowKey) := by
  induction rows with
  | nil =>
    exact List.Sublist.slnil
  | cons row rest ih =>
    rw [List.map_cons]
    cases changed : change row with
    | none =>
      rw [List.filterMap_cons_none changed]
      exact ih.cons (rowKey row)
    | some image =>
      rw [List.filterMap_cons_some changed, List.map_cons, keeps row image changed]
      exact ih.cons_cons (rowKey row)

/-- A row type with a primary key. -/
class Keyed (Row : Type u) (Key : outParam (Type v)) where
  key : Row → Key

export Keyed (key)

/-- Rows in insertion order, no two with the same primary key. -/
structure Table (Row : Type u) {Key : Type v} [Keyed Row Key] where
  rows : List Row
  keysNodup : (rows.map key).Nodup

namespace Table

variable {Row : Type u} {Key : Type v} [Keyed Row Key]

instance : Membership Row (Table Row) where
  mem table row := row ∈ table.rows

instance : EmptyCollection (Table Row) where
  emptyCollection := ⟨[], List.nodup_nil⟩

theorem mem_rows {table : Table Row} {row : Row} : row ∈ table.rows ↔ row ∈ table :=
  Iff.rfl

@[simp]
theorem not_mem_empty (row : Row) : row ∉ (∅ : Table Row) :=
  List.not_mem_nil

theorem eq_of_key_eq {table : Table Row} {left right : Row} (leftMem : left ∈ table)
    (rightMem : right ∈ table) (sameKey : key left = key right) :
    left = right :=
  List.inj_on_of_nodup_map table.keysNodup leftMem rightMem sameKey

section Lookup

variable [DecidableEq Key]

def find? (table : Table Row) (wanted : Key) : Option Row :=
  table.rows.find? (fun row => decide (key row = wanted))

theorem find?_eq_some_iff {table : Table Row} {wanted : Key} {row : Row} :
    table.find? wanted = some row ↔ row ∈ table ∧ key row = wanted := by
  constructor
  · intro found
    exact ⟨List.mem_of_find?_eq_some found, by
      simpa using List.find?_some found⟩
  · rintro ⟨mem, rfl⟩
    cases found : table.find? (key row) with
    | none =>
      have absent := List.find?_eq_none.mp found row mem
      simp at absent
    | some other =>
      have otherMem : other ∈ table :=
        List.mem_of_find?_eq_some found
      have otherKey : key other = key row := by
        simpa using List.find?_some found
      rw [eq_of_key_eq otherMem mem otherKey]

end Lookup

def insert (table : Table Row) (row : Row)
    (fresh : ∀ other ∈ table, key other ≠ key row) : Table Row where
  rows := table.rows ++ [row]
  keysNodup := by
    rw [List.map_append, List.nodup_append]
    refine ⟨table.keysNodup, by simp, ?_⟩
    rintro _ otherKey _ rowKey
    obtain ⟨other, mem, rfl⟩ := List.mem_map.mp otherKey
    simp only [List.map_cons, List.map_nil, List.mem_singleton] at rowKey
    subst rowKey
    exact fresh other mem

@[simp]
theorem mem_insert {table : Table Row} {row tested : Row}
    {fresh : ∀ other ∈ table, key other ≠ key row} :
    tested ∈ table.insert row fresh ↔ tested ∈ table ∨ tested = row := by
  change tested ∈ table.rows ++ [row] ↔ _
  rw [List.mem_append, List.mem_singleton, mem_rows]

theorem find?_insert [DecidableEq Key] (table : Table Row) (row : Row)
    (fresh : ∀ other ∈ table, key other ≠ key row) (wanted : Key) :
    (table.insert row fresh).find? wanted =
      if key row = wanted then some row else table.find? wanted := by
  by_cases atRow : key row = wanted
  · rw [if_pos atRow]
    exact find?_eq_some_iff.mpr ⟨mem_insert.mpr (Or.inr rfl), atRow⟩
  · rw [if_neg atRow]
    change (table.rows ++ [row]).find? _ = table.rows.find? _
    simp [List.find?_append, atRow]

def update (table : Table Row) (change : Row → Row)
    (keeps : ∀ row, key (change row) = key row) : Table Row where
  rows := table.rows.map change
  keysNodup := by
    have sameKeys : (table.rows.map change).map key = table.rows.map key := by
      rw [List.map_map]
      exact List.map_congr_left (fun row _ => keeps row)
    rw [sameKeys]
    exact table.keysNodup

@[simp]
theorem mem_update {table : Table Row} {change : Row → Row}
    {keeps : ∀ row, key (change row) = key row} {tested : Row} :
    tested ∈ table.update change keeps ↔ ∃ row ∈ table, change row = tested :=
  List.mem_map

theorem find?_update [DecidableEq Key] (table : Table Row) (change : Row → Row)
    (keeps : ∀ row, key (change row) = key row) (wanted : Key) :
    (table.update change keeps).find? wanted = (table.find? wanted).map change := by
  change (table.rows.map change).find? _ = (table.rows.find? _).map change
  rw [List.find?_map]
  have sameTest :
      (fun row => decide (key row = wanted)) ∘ change =
        fun row : Row => decide (key row = wanted) := by
    funext row
    simp [keeps]
  rw [sameTest]

section Modify

variable [DecidableEq Key]

def modify (table : Table Row) (wanted : Key) (change : Row → Row)
    (keeps : ∀ row, key (change row) = key row) : Table Row :=
  table.update (fun row => if key row = wanted then change row else row) (by
      intro row
      split
      · exact keeps row
      · rfl)

/-- A row after `modify` is either the changed row with the wanted key or an
untouched row with another key. -/
theorem mem_modify {table : Table Row} {wanted : Key} {change : Row → Row}
    {keeps : ∀ row, key (change row) = key row} {tested : Row} :
    tested ∈ table.modify wanted change keeps ↔
      (∃ row ∈ table, key row = wanted ∧ change row = tested) ∨
        (tested ∈ table ∧ key tested ≠ wanted) := by
  rw [modify, mem_update]
  constructor
  · rintro ⟨row, mem, changed⟩
    by_cases atKey : key row = wanted
    · rw [if_pos atKey] at changed
      exact Or.inl ⟨row, mem, atKey, changed⟩
    · rw [if_neg atKey] at changed
      subst changed
      exact Or.inr ⟨mem, atKey⟩
  · rintro (⟨row, mem, atKey, changed⟩ | ⟨mem, otherKey⟩)
    · exact ⟨row, mem, by rw [if_pos atKey, changed]⟩
    · exact ⟨tested, mem, by rw [if_neg otherKey]⟩

theorem find?_modify (table : Table Row) (wanted tested : Key) (change : Row → Row)
    (keeps : ∀ row, key (change row) = key row) :
    (table.modify wanted change keeps).find? tested =
      if tested = wanted then (table.find? tested).map change
      else table.find? tested := by
  rw [modify, find?_update]
  cases found : table.find? tested with
  | none =>
    simp
  | some row =>
    have atTested := (find?_eq_some_iff.mp found).2
    simp only [Option.map_some, atTested]
    split <;> rfl

end Modify

def rewrite (table : Table Row) (change : Row → Option Row)
    (keeps : ∀ row new, change row = some new → key new = key row) :
    Table Row where
  rows := table.rows.filterMap change
  keysNodup :=
    table.keysNodup.sublist (sublist_map_filterMap keeps table.rows)

theorem mem_rewrite {table : Table Row} {change : Row → Option Row}
    {keeps : ∀ row new, change row = some new → key new = key row} {tested : Row} :
    tested ∈ table.rewrite change keeps ↔ ∃ row ∈ table, change row = some tested :=
  List.mem_filterMap

end Table

end ModelAtlas.Foundations
