import Mathlib.Data.List.Pairwise

/-!
# Rows under unique constraints

A table whose unique constraints are given by one test. The rows carry the proof
that no two of them clash; an insertion that would break a constraint is
refused.
-/

namespace ModelAtlas.Foundations

universe u

/-- Rows in insertion order, no two of which clash. -/
structure UniqueRows (Row : Type u) (clash : Row → Row → Bool) where
  rows : List Row
  distinct : rows.Pairwise (fun left right => clash left right = false)

namespace UniqueRows

variable {Row : Type u} {clash : Row → Row → Bool}

instance : Membership Row (UniqueRows Row clash) where
  mem table row := row ∈ table.rows

instance : EmptyCollection (UniqueRows Row clash) where
  emptyCollection := ⟨[], List.Pairwise.nil⟩

theorem eq_of_clash {table : UniqueRows Row clash} {left right : Row}
    (leftMem : left ∈ table) (rightMem : right ∈ table)
    (clashes : clash left right = true) (back : clash right left = true) :
    left = right := by
  let Apart : Row → Row → Prop := fun first second =>
    clash first second = false ∨ clash second first = false
  have symmetric : Std.Symm Apart :=
    { symm := fun _ _ either => either.symm }
  have pairwise : table.rows.Pairwise Apart :=
    table.distinct.imp Or.inl
  by_contra different
  have apart : Apart left right :=
    pairwise.forall leftMem rightMem different
  cases apart with
  | inl forward =>
    rw [clashes] at forward
    cases forward
  | inr backward =>
    rw [back] at backward
    cases backward

def insert? (table : UniqueRows Row clash) (row : Row) : Option (UniqueRows Row clash) :=
  if free : ∀ other ∈ table.rows, clash other row = false then
    some
      { rows := table.rows ++ [row]
        distinct := by
          refine List.pairwise_append.mpr ⟨table.distinct, List.pairwise_singleton .., ?_⟩
          intro other otherMem new newMem
          rw [List.mem_singleton.mp newMem]
          exact free other otherMem }
  else none

theorem mem_of_insert? {table inserted : UniqueRows Row clash} {row tested : Row}
    (accepted : table.insert? row = some inserted) :
    tested ∈ inserted ↔ tested ∈ table ∨ tested = row := by
  rw [insert?] at accepted
  split at accepted
  · have same := Option.some.inj accepted
    rw [← same]
    change tested ∈ table.rows ++ [row] ↔ _
    rw [List.mem_append, List.mem_singleton]
    exact Iff.rfl
  · cases accepted

def update (table : UniqueRows Row clash) (change : Row → Row)
    (keeps : ∀ left right, clash (change left) (change right) =
      clash left right) : UniqueRows Row clash where
  rows := table.rows.map change
  distinct := by
    rw [List.pairwise_map]
    exact table.distinct.imp (fun apart => (keeps _ _).trans apart)

theorem mem_update {table : UniqueRows Row clash} {change : Row → Row}
    {keeps : ∀ left right, clash (change left) (change right) = clash left right} {tested : Row} :
    tested ∈ table.update change keeps ↔ ∃ row ∈ table, change row = tested :=
  List.mem_map

end UniqueRows

end ModelAtlas.Foundations
