import Mathlib.Data.Set.Insert

/-!
# Lineages

Versions with a parent each. A version that is added under one without children,
with a number above those of its lineage, keeps every lineage a chain in the
order of the numbers.
-/

namespace ModelAtlas.Foundations

universe u

/-- A version; `rootId` is the id of the first one of its lineage. -/
structure Version (Content : Type u) where
  id : Nat
  parent : Option Nat
  rootId : Nat
  number : Int
  content : Content

variable {Content : Type u}

def Childless (versions : Set (Version Content)) (version : Version Content) :
    Prop :=
  ∀ other ∈ versions, other.parent ≠ some version.id

/-- The versions form chains; the ids from `fresh` on are not used yet. -/
structure Lineage (keeps : Content → Content → Prop)
    (versions : Set (Version Content)) (fresh : Nat) : Prop where
  drawn : ∀ version ∈ versions, version.id < fresh ∧ version.rootId < fresh
  unique : ∀ left ∈ versions, ∀ right ∈ versions, left.id = right.id →
    left = right
  parents : ∀ version ∈ versions, ∀ parentId, version.parent = some parentId →
    ∃ parent ∈ versions, parent.id = parentId ∧
      parent.rootId = version.rootId ∧ parent.number < version.number
  numbers : ∀ left ∈ versions, ∀ right ∈ versions, left.rootId = right.rootId →
    left.number = right.number → left = right
  oneChild : ∀ left ∈ versions, ∀ right ∈ versions, ∀ parentId,
    left.parent = some parentId → right.parent = some parentId → left = right
  childlessLast : ∀ last ∈ versions, Childless versions last →
    ∀ other ∈ versions, other.rootId = last.rootId → other.number ≤ last.number
  kept : ∀ earlier ∈ versions, ∀ later ∈ versions,
    earlier.rootId = later.rootId → earlier.number ≤ later.number →
      keeps earlier.content later.content

namespace Lineage

variable {keeps : Content → Content → Prop}
  {versions : Set (Version Content)} {fresh : Nat}

theorem empty : Lineage keeps (∅ : Set (Version Content)) fresh where
  drawn _ mem := mem.elim
  unique _ mem := mem.elim
  parents _ mem := mem.elim
  numbers _ mem := mem.elim
  oneChild _ mem := mem.elim
  childlessLast _ mem := mem.elim
  kept _ mem := mem.elim

theorem later (lineage : Lineage keeps versions fresh) {next : Nat}
    (later : fresh ≤ next) : Lineage keeps versions next :=
  { lineage with
    drawn := by
      intro version mem
      have drawn := lineage.drawn version mem
      omega }

theorem insertRoot (lineage : Lineage keeps versions fresh)
    (reflexive : ∀ content, keeps content content) {root : Version Content}
    (isFresh : root.id = fresh) (own : root.rootId = fresh) (noParent : root.parent = none) :
    Lineage keeps (insert root versions) (fresh + 1) := by
  -- The versions so far are of other lineages.
  have apart : ∀ old ∈ versions, old.rootId ≠ root.rootId := by
    intro old mem
    have drawn := lineage.drawn old mem
    omega
  have noChild : ∀ old ∈ versions, old.parent ≠ some root.id := by
    intro old mem isParent
    obtain ⟨parent, parentMem, isId, _⟩ :=
      lineage.parents old mem _ isParent
    have drawn := lineage.drawn parent parentMem
    omega
  constructor
  · rintro version (rfl | mem)
    · omega
    · have drawn := lineage.drawn version mem
      omega
  · rintro left (rfl | leftMem) right (rfl | rightMem) same
    · rfl
    · have drawn := lineage.drawn right rightMem
      omega
    · have drawn := lineage.drawn left leftMem
      omega
    · exact lineage.unique left leftMem right rightMem same
  · rintro version (rfl | mem) parentId isParent
    · rw [noParent] at isParent
      cases isParent
    · obtain ⟨parent, parentMem, found⟩ :=
        lineage.parents version mem parentId isParent
      exact ⟨parent, Set.mem_insert_of_mem _ parentMem, found⟩
  · rintro left (rfl | leftMem) right (rfl | rightMem) sameRoot same
    · rfl
    · exact absurd sameRoot.symm (apart right rightMem)
    · exact absurd sameRoot (apart left leftMem)
    · exact lineage.numbers left leftMem right rightMem sameRoot same
  · rintro left (rfl | leftMem) right (rfl | rightMem) parentId ofLeft ofRight
    · rfl
    · rw [noParent] at ofLeft
      cases ofLeft
    · rw [noParent] at ofRight
      cases ofRight
    · exact lineage.oneChild left leftMem right rightMem parentId ofLeft ofRight
  · rintro last (rfl | lastMem) childless other (rfl | otherMem) sameRoot
    · exact le_refl _
    · exact absurd sameRoot (apart other otherMem)
    · exact absurd sameRoot.symm (apart last lastMem)
    · exact lineage.childlessLast last lastMem
        (fun old mem => childless old (Set.mem_insert_of_mem _ mem)) other
        otherMem sameRoot
  · rintro earlier (rfl | earlierMem) later (rfl | laterMem) sameRoot order
    · exact reflexive _
    · exact absurd sameRoot.symm (apart later laterMem)
    · exact absurd sameRoot (apart earlier earlierMem)
    · exact lineage.kept earlier earlierMem later laterMem sameRoot order

theorem insertChild (lineage : Lineage keeps versions fresh)
    (reflexive : ∀ content, keeps content content)
    (transitive : ∀ first second third, keeps first second → keeps second third → keeps first third)
    {parent child : Version Content} (mem : parent ∈ versions)
    (childless : Childless versions parent) (isFresh : child.id = fresh)
    (isParent : child.parent = some parent.id)
    (sameRoot : child.rootId = parent.rootId)
    (above : ∀ other ∈ versions, other.rootId = child.rootId → other.number < child.number)
    (keepsParent : keeps parent.content child.content) :
    Lineage keeps (insert child versions) (fresh + 1) := by
  have parentDrawn := lineage.drawn parent mem
  constructor
  · rintro version (rfl | old)
    · omega
    · have drawn := lineage.drawn version old
      omega
  · rintro left (rfl | leftMem) right (rfl | rightMem) same
    · rfl
    · have drawn := lineage.drawn right rightMem
      omega
    · have drawn := lineage.drawn left leftMem
      omega
    · exact lineage.unique left leftMem right rightMem same
  · rintro version (rfl | old) parentId ofVersion
    · rw [isParent, Option.some.injEq] at ofVersion
      exact ⟨parent, Set.mem_insert_of_mem _ mem, ofVersion, sameRoot.symm,
        above parent mem sameRoot.symm⟩
    · obtain ⟨other, otherMem, found⟩ :=
        lineage.parents version old parentId ofVersion
      exact ⟨other, Set.mem_insert_of_mem _ otherMem, found⟩
  · rintro left (rfl | leftMem) right (rfl | rightMem) ofRoot same
    · rfl
    · have lower := above right rightMem ofRoot.symm
      omega
    · have lower := above left leftMem ofRoot
      omega
    · exact lineage.numbers left leftMem right rightMem ofRoot same
  · rintro left (rfl | leftMem) right (rfl | rightMem) parentId ofLeft ofRight
    · rfl
    · rw [isParent, Option.some.injEq] at ofLeft
      rw [← ofLeft] at ofRight
      exact absurd ofRight (childless right rightMem)
    · rw [isParent, Option.some.injEq] at ofRight
      rw [← ofRight] at ofLeft
      exact absurd ofLeft (childless left leftMem)
    · exact lineage.oneChild left leftMem right rightMem parentId ofLeft ofRight
  · rintro last (rfl | lastMem) lastChildless other (rfl | otherMem) ofRoot
    · exact le_refl _
    · exact le_of_lt (above other otherMem ofRoot)
    · -- The last version so far is the parent, which has a child now.
      have wasChildless : Childless versions last := fun old oldMem =>
        lastChildless old (Set.mem_insert_of_mem _ oldMem)
      have ofParent : parent.rootId = last.rootId := sameRoot.symm.trans ofRoot
      have parentLe := lineage.childlessLast last lastMem wasChildless parent mem ofParent
      have lastLe := lineage.childlessLast parent mem childless last lastMem ofParent.symm
      have same := lineage.numbers parent mem last lastMem ofParent (le_antisymm parentLe lastLe)
      rw [same] at isParent
      exact absurd isParent (lastChildless _ (Set.mem_insert _ _))
    · exact lineage.childlessLast last lastMem
        (fun old oldMem => lastChildless old (Set.mem_insert_of_mem _ oldMem)) other otherMem ofRoot
  · rintro earlier (rfl | earlierMem) later (rfl | laterMem) ofRoot order
    · exact reflexive _
    · have lower := above later laterMem ofRoot.symm
      omega
    · have ofParent : earlier.rootId = parent.rootId := ofRoot.trans sameRoot
      have lower := lineage.childlessLast parent mem childless earlier earlierMem ofParent
      exact transitive _ _ _ (lineage.kept earlier earlierMem parent mem ofParent lower) keepsParent
    · exact lineage.kept earlier earlierMem later laterMem ofRoot order

end Lineage

end ModelAtlas.Foundations
