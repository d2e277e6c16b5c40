import Mathlib.Data.List.Sort

/-!
# Latest rows

A loop that keeps one row of each root, the one with the greatest key.  Which rows
it keeps depends on the rows only, not on their order.
-/

namespace ModelAtlas.Foundations

universe u v w

variable {Row : Type u} {Root : Type v} {Key : Type w}

section Latest

variable [LinearOrder Key] {root : Row → Root} {key : Row → Key}

/-- One row of each root, with the greatest key of its root. -/
structure LatestOf (root : Row → Root) (key : Row → Key) (rows latest : List Row) :
    Prop where
  within : ∀ selected ∈ latest, selected ∈ rows
  one : (latest.map root).Nodup
  covers : ∀ row ∈ rows, ∃ selected ∈ latest, root selected = root row
  greatest : ∀ selected ∈ latest, ∀ row ∈ rows, root row = root selected →
    key row ≤ key selected

theorem LatestOf.eq_of_root {rows latest : List Row} (latestOf : LatestOf root key rows latest)
    {left right : Row} (leftMem : left ∈ latest) (rightMem : right ∈ latest)
    (same : root left = root right) : left = right :=
  List.inj_on_of_nodup_map latestOf.one leftMem rightMem same

theorem LatestOf.mem_of_same {rows others latest selection : List Row}
    (latestOf : LatestOf root key rows latest)
    (selectionOf : LatestOf root key others selection)
    (same : ∀ row, row ∈ rows ↔ row ∈ others)
    (tellsApart : ∀ left ∈ rows, ∀ right ∈ rows, key left = key right →
      left = right) {selected : Row} (mem : selected ∈ latest) :
    selected ∈ selection := by
  have isRow := latestOf.within selected mem
  obtain ⟨found, foundMem, sameRoot⟩ :=
    selectionOf.covers selected ((same selected).mp isRow)
  have foundRow := (same found).mpr (selectionOf.within found foundMem)
  have upper := latestOf.greatest selected mem found foundRow sameRoot
  have lower := selectionOf.greatest found foundMem selected
    ((same selected).mp isRow) sameRoot.symm
  have equal := tellsApart found foundRow selected isRow (le_antisymm upper lower)
  rw [← equal]
  exact foundMem

variable [DecidableEq Root]

/-- A row replaces the one of its root that has a smaller key. -/
def keepLatestBy (root : Row → Root) (key : Row → Key) (latest : List Row) (row : Row) : List Row :=
  match latest.find? (fun other => root other = root row) with
  | none => latest ++ [row]
  | some current =>
    if key current < key row then
      latest.map (fun other => if root other = root row then row else other)
    else latest

theorem map_root_replace {latest : List Row} {row : Row} :
    (latest.map (fun other => if root other = root row then row else other)).map
      root = latest.map root := by
  rw [List.map_map]
  apply List.map_congr_left
  intro other _
  by_cases own : root other = root row
  · simp [own]
  · simp [own]

theorem LatestOf.keepLatestBy {done latest : List Row}
    (latestOf : LatestOf root key done latest) (row : Row) :
    LatestOf root key (done ++ [row]) (keepLatestBy root key latest row) := by
  rw [Foundations.keepLatestBy]
  split
  · next missing =>
      have fresh : ∀ other ∈ latest, root other ≠ root row := by
        intro other mem same
        exact List.find?_eq_none.mp missing other mem (decide_eq_true same)
      constructor
      · intro selected mem
        rw [List.mem_append] at mem ⊢
        rcases mem with old | own
        · exact Or.inl (latestOf.within selected old)
        · exact Or.inr own
      · rw [List.map_append, List.nodup_append]
        refine ⟨latestOf.one, List.nodup_singleton _, ?_⟩
        intro left leftMem right rightMem
        obtain ⟨other, otherMem, rfl⟩ := List.mem_map.mp leftMem
        rw [List.map_singleton, List.mem_singleton] at rightMem
        rw [rightMem]
        exact fresh other otherMem
      · intro tested mem
        rw [List.mem_append, List.mem_singleton] at mem
        rcases mem with old | rfl
        · obtain ⟨selected, selectedMem, same⟩ := latestOf.covers tested old
          exact ⟨selected, List.mem_append_left _ selectedMem, same⟩
        · exact ⟨tested, List.mem_append_right _ List.mem_cons_self, rfl⟩
      · intro selected selectedMem tested mem same
        rw [List.mem_append, List.mem_singleton] at selectedMem mem
        rcases selectedMem with oldSelected | rfl
        · rcases mem with old | rfl
          · exact latestOf.greatest selected oldSelected tested old same
          · exact absurd same.symm (fresh selected oldSelected)
        · rcases mem with old | rfl
          · obtain ⟨other, otherMem, sameRoot⟩ := latestOf.covers tested old
            exact absurd (sameRoot.trans same) (fresh other otherMem)
          · exact le_refl _
  · next current found =>
      have currentMem : current ∈ latest := List.mem_of_find?_eq_some found
      have ofRoot : root current = root row := by
        have accepted := List.find?_some found
        exact of_decide_eq_true accepted
      split
      · next smaller =>
          have replaced : row ∈ latest.map (fun other =>
              if root other = root row then row else other) :=
            List.mem_map.mpr ⟨current, currentMem, if_pos ofRoot⟩
          constructor
          · intro selected mem
            obtain ⟨old, oldMem, rfl⟩ := List.mem_map.mp mem
            by_cases own : root old = root row
            · rw [if_pos own]
              exact List.mem_append_right _ List.mem_cons_self
            · rw [if_neg own]
              exact List.mem_append_left _ (latestOf.within old oldMem)
          · rw [map_root_replace]
            exact latestOf.one
          · intro tested mem
            rw [List.mem_append, List.mem_singleton] at mem
            rcases mem with old | rfl
            · obtain ⟨selected, selectedMem, same⟩ := latestOf.covers tested old
              by_cases own : root selected = root row
              · exact ⟨row, replaced, own.symm.trans same⟩
              · exact ⟨selected, List.mem_map.mpr ⟨selected, selectedMem, if_neg own⟩, same⟩
            · exact ⟨tested, replaced, rfl⟩
          · intro selected selectedMem tested mem same
            obtain ⟨old, oldMem, rfl⟩ := List.mem_map.mp selectedMem
            rw [List.mem_append, List.mem_singleton] at mem
            by_cases own : root old = root row
            · rw [if_pos own] at same ⊢
              rcases mem with earlier | rfl
              · have le := latestOf.greatest current currentMem tested earlier
                  (same.trans ofRoot.symm)
                exact le_of_lt (lt_of_le_of_lt le smaller)
              · exact le_refl _
            · rw [if_neg own] at same ⊢
              rcases mem with earlier | rfl
              · exact latestOf.greatest old oldMem tested earlier same
              · exact absurd same.symm own
      · next notSmaller =>
          refine ⟨fun selected mem => List.mem_append_left _
            (latestOf.within selected mem), latestOf.one, ?_, ?_⟩
          · intro tested mem
            rw [List.mem_append, List.mem_singleton] at mem
            rcases mem with old | rfl
            · exact latestOf.covers tested old
            · exact ⟨current, currentMem, ofRoot⟩
          · intro selected selectedMem tested mem same
            rw [List.mem_append, List.mem_singleton] at mem
            rcases mem with old | rfl
            · exact latestOf.greatest selected selectedMem tested old same
            · have isCurrent := latestOf.eq_of_root selectedMem currentMem
                (same.symm.trans ofRoot.symm)
              rw [isCurrent]
              exact not_lt.mp notSmaller

theorem latestOf_foldl (rows : List Row) :
    ∀ {done latest : List Row}, LatestOf root key done latest →
      LatestOf root key (done ++ rows) (rows.foldl (keepLatestBy root key) latest) := by
  induction rows with
  | nil =>
    intro done latest latestOf
    rw [List.append_nil]
    exact latestOf
  | cons row rest ih =>
    intro done latest latestOf
    have later := ih (latestOf.keepLatestBy row)
    rw [List.append_assoc, List.singleton_append] at later
    exact later

theorem latestOf_all (rows : List Row) :
    LatestOf root key rows (rows.foldl (keepLatestBy root key) []) := by
  have start : LatestOf root key ([] : List Row) [] := by
    refine ⟨?_, List.nodup_nil, ?_, ?_⟩
    · intro selected mem
      cases mem
    · intro row mem
      cases mem
    · intro selected mem
      cases mem
  exact latestOf_foldl rows start

/-- A change of rows that keeps their roots and keys changes nothing else. -/
theorem foldl_keepLatestBy_map {edit : Row → Row} (sameRoot : ∀ row, root (edit row) = root row)
    (sameKey : ∀ row, key (edit row) = key row) (rows latest : List Row) :
    (rows.map edit).foldl (keepLatestBy root key) (latest.map edit) =
      (rows.foldl (keepLatestBy root key) latest).map edit := by
  induction rows generalizing latest with
  | nil => rfl
  | cons row rest ih =>
    rw [List.map_cons, List.foldl_cons, List.foldl_cons, ← ih]
    congr 1
    simp only [keepLatestBy, List.find?_map, Function.comp_def, sameRoot]
    cases latest.find? (fun other => root other = root row) with
    | none => simp
    | some current =>
      simp only [Option.map_some, sameKey]
      split
      · rw [List.map_map, List.map_map]
        refine List.map_congr_left fun other _ => ?_
        by_cases own : root other = root row
        · simp [own, sameRoot]
        · simp [own, sameRoot]
      · rfl

end Latest

section Sorted

variable [LinearOrder Key]

def sortedBy (key : Row → Key) (rows : List Row) : List Row :=
  rows.insertionSort (fun left right => key left ≤ key right)

theorem mem_sortedBy {key : Row → Key} {rows : List Row} {row : Row} :
    row ∈ sortedBy key rows ↔ row ∈ rows :=
  List.mem_insertionSort _

theorem sortedBy_perm (key : Row → Key) (rows : List Row) : (sortedBy key rows).Perm rows :=
  List.perm_insertionSort _ rows

theorem sortedBy_pairwise (key : Row → Key) (rows : List Row) :
    (sortedBy key rows).Pairwise (fun left right => key left ≤ key right) := by
  have total : Std.Total (fun left right : Row => key left ≤ key right) :=
    ⟨fun left right => le_total (key left) (key right)⟩
  have transitive : IsTrans Row (fun left right => key left ≤ key right) :=
    ⟨fun _ _ _ first second => le_trans first second⟩
  exact List.pairwise_insertionSort _ rows

theorem sortedBy_map {key : Row → Key} {edit : Row → Row} (sameKey : ∀ row, key (edit row) = key row)
    (rows : List Row) : sortedBy key (rows.map edit) = (sortedBy key rows).map edit :=
  (List.map_insertionSort _ _ edit rows fun left _ right _ => by rw [sameKey, sameKey]).symm

theorem sortedBy_eq_of_perm {key : Row → Key} {rows others : List Row} (perm : rows.Perm others)
    (tellsApart : ∀ left ∈ rows, ∀ right ∈ rows, key left = key right →
      left = right) : sortedBy key rows = sortedBy key others := by
  have sortedPerm : (sortedBy key rows).Perm (sortedBy key others) :=
    (sortedBy_perm key rows).trans (perm.trans (sortedBy_perm key others).symm)
  refine List.Perm.eq_of_pairwise ?_ (sortedBy_pairwise key rows)
    (sortedBy_pairwise key others) sortedPerm
  intro left right leftMem rightMem le ge
  have leftRow := mem_sortedBy.mp leftMem
  have rightRow := perm.mem_iff.mpr (mem_sortedBy.mp rightMem)
  exact tellsApart left leftRow right rightRow (le_antisymm le ge)

end Sorted

end ModelAtlas.Foundations
