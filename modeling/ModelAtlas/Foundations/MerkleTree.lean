import Mathlib.Algebra.Ring.Nat
import Mathlib.Data.Nat.Log
import Mathlib.Data.List.Basic

/-!
# Merkle trees of any size

The tree hash and the audit paths of RFC 6962 over abstract hashes, and which
siblings lead from a digest to a tree hash. A `route` is the sequence of sides
from the root to a leaf.
-/

namespace ModelAtlas.Foundations.Merkle

universe u v

def splitSize (size : Nat) : Nat :=
  2 ^ Nat.log 2 (size - 1)

theorem splitSize_pos (size : Nat) : 0 < splitSize size :=
  Nat.two_pow_pos _

theorem splitSize_lt {size : Nat} (large : 2 ≤ size) : splitSize size < size := by
  have below : 2 ^ Nat.log 2 (size - 1) ≤ size - 1 :=
    Nat.pow_log_le_self 2 (by omega)
  rw [splitSize]
  omega

theorem le_two_mul_splitSize {size : Nat} (large : 2 ≤ size) : size ≤ 2 * splitSize size := by
  have above : size - 1 < 2 ^ (Nat.log 2 (size - 1)).succ :=
    Nat.lt_pow_succ_log_self Nat.one_lt_two (size - 1)
  rw [Nat.pow_succ] at above
  rw [splitSize]
  omega

theorem splitSize_le_two_pow
    {size height : Nat} (large : 2 ≤ size) (bounded : size ≤ 2 ^ (height + 1)) :
    splitSize size ≤ 2 ^ height := by
  have small : Nat.log 2 (size - 1) < height + 1 :=
    Nat.log_lt_of_lt_pow (by omega) (by omega)
  exact Nat.pow_le_pow_right Nat.two_pos (by omega)

theorem splitSize_two_pow (height : Nat) : splitSize (2 ^ (height + 1)) = 2 ^ height := by
  have positive : 0 < 2 ^ height := Nat.two_pow_pos height
  have doubled : 2 ^ (height + 1) = 2 * 2 ^ height := Nat.pow_succ'
  have logarithm : Nat.log 2 (2 ^ (height + 1) - 1) = height := by
    apply Nat.log_eq_of_pow_le_of_lt_pow <;> omega
  rw [splitSize, logarithm]

theorem splitSize_half {size : Nat} (large : 3 ≤ size) :
    splitSize size = 2 * splitSize ((size + 1) / 2) := by
  have halves : (size + 1) / 2 - 1 = (size - 1) / 2 := by omega
  have logarithm : Nat.log 2 (size - 1) = Nat.log 2 ((size - 1) / 2) + 1 := by
    exact Nat.log_of_one_lt_of_le Nat.one_lt_two (by omega)
  rw [splitSize, splitSize, halves, logarithm, Nat.pow_succ']

structure TreeHashing (Leaf : Type u) (Digest : Type v) where
  leaf : Leaf → Digest
  node : Digest → Digest → Digest
  empty : Digest

/-- Both hashes are injective, and no leaf hash is a node hash. -/
structure TreeHashing.CollisionFree
    {Leaf : Type u} {Digest : Type v} (hashing : TreeHashing Leaf Digest) :
    Prop where
  leaf : Function.Injective hashing.leaf
  node : ∀ left right left' right',
    hashing.node left right = hashing.node left' right' →
      left = left' ∧ right = right'
  disjoint : ∀ value left right,
    hashing.leaf value ≠ hashing.node left right

/-- The side of a node that a leaf lies on. -/
inductive Side where
  | left
  | right
  deriving DecidableEq, Repr

def firstPart {Leaf : Type u} (leaves : List Leaf) : List Leaf :=
  leaves.take (splitSize leaves.length)

def secondPart {Leaf : Type u} (leaves : List Leaf) : List Leaf :=
  leaves.drop (splitSize leaves.length)

section Parts

variable {Leaf : Type u} {leaves : List Leaf}

theorem firstPart_length (large : 2 ≤ leaves.length) :
    (firstPart leaves).length = splitSize leaves.length := by
  have inside := splitSize_lt large
  rw [firstPart, List.length_take]
  omega

theorem secondPart_length (leaves : List Leaf) :
    (secondPart leaves).length = leaves.length - splitSize leaves.length := by
  rw [secondPart, List.length_drop]

theorem firstPart_lt (large : 2 ≤ leaves.length) : (firstPart leaves).length < leaves.length := by
  rw [firstPart_length large]
  exact splitSize_lt large

theorem secondPart_lt (large : 2 ≤ leaves.length) : (secondPart leaves).length < leaves.length := by
  have positive := splitSize_pos leaves.length
  rw [secondPart_length]
  omega

theorem secondPart_pos (large : 2 ≤ leaves.length) : 1 ≤ (secondPart leaves).length := by
  have inside := splitSize_lt large
  rw [secondPart_length]
  omega

end Parts

section Hashes

variable {Leaf : Type u} {Digest : Type v}
  (hashing : TreeHashing Leaf Digest)

/-- `MTH`: the Merkle tree hash of a list of leaves. -/
def merkleTreeHash (leaves : List Leaf) : Digest :=
  if _large : 2 ≤ leaves.length then
    hashing.node (merkleTreeHash (firstPart leaves)) (merkleTreeHash (secondPart leaves))
  else
    match leaves with
    | [] => hashing.empty
    | leaf :: _ => hashing.leaf leaf
termination_by leaves.length
decreasing_by
  · exact firstPart_lt _large
  · exact secondPart_lt _large

/-- `PATH`: the audit path of a leaf, from the leaf to the root. -/
def auditPath (index : Nat) (leaves : List Leaf) : List Digest :=
  if _large : 2 ≤ leaves.length then
    if index < splitSize leaves.length then
      auditPath index (firstPart leaves) ++ [merkleTreeHash hashing (secondPart leaves)]
    else
      auditPath (index - splitSize leaves.length) (secondPart leaves) ++
        [merkleTreeHash hashing (firstPart leaves)]
  else []
termination_by leaves.length
decreasing_by
  · exact firstPart_lt _large
  · exact secondPart_lt _large

theorem merkleTreeHash_split {leaves : List Leaf} (large : 2 ≤ leaves.length) :
    merkleTreeHash hashing leaves = hashing.node (merkleTreeHash hashing (firstPart leaves))
        (merkleTreeHash hashing (secondPart leaves)) := by
  rw [merkleTreeHash, dif_pos large]

theorem merkleTreeHash_singleton (leaf : Leaf) :
    merkleTreeHash hashing [leaf] = hashing.leaf leaf := by
  rw [merkleTreeHash, dif_neg (by simp)]

def stepUp (current : Digest) (step : Side × Digest) : Digest :=
  match step.1 with
  | .left => hashing.node current step.2
  | .right => hashing.node step.2 current

@[simp]
theorem stepUp_left (current sibling : Digest) :
    stepUp hashing current (.left, sibling) = hashing.node current sibling :=
  rfl

@[simp]
theorem stepUp_right (current sibling : Digest) :
    stepUp hashing current (.right, sibling) = hashing.node sibling current :=
  rfl

def siblings (leaves : List Leaf) : List Side → List Digest
  | [] => []
  | side :: rest =>
    if 2 ≤ leaves.length then
      match side with
      | .left => merkleTreeHash hashing (secondPart leaves) :: siblings (firstPart leaves) rest
      | .right => merkleTreeHash hashing (firstPart leaves) :: siblings (secondPart leaves) rest
    else []

end Hashes

section Routes

variable {Leaf : Type u}

def descend (leaves : List Leaf) : List Side → Option (List Leaf)
  | [] => some leaves
  | side :: rest =>
    if 2 ≤ leaves.length then
      match side with
      | .left => descend (firstPart leaves) rest
      | .right => descend (secondPart leaves) rest
    else none

def route (index size : Nat) : List Side :=
  if _large : 2 ≤ size then
    if index < splitSize size then .left :: route index (splitSize size)
    else .right :: route (index - splitSize size) (size - splitSize size)
  else []
termination_by size
decreasing_by
  · exact splitSize_lt _large
  · have positive := splitSize_pos size
    omega

theorem route_left {index size : Nat} (large : 2 ≤ size) (inFirst : index < splitSize size) :
    route index size = .left :: route index (splitSize size) := by
  rw [route, dif_pos large, if_pos inFirst]

theorem route_right {index size : Nat} (large : 2 ≤ size) (inSecond : ¬ index < splitSize size) :
    route index size = .right :: route (index - splitSize size) (size - splitSize size) := by
  rw [route, dif_pos large, if_neg inSecond]

theorem route_small {index size : Nat} (small : ¬ 2 ≤ size) : route index size = [] := by
  rw [route, dif_neg small]

theorem descend_route {index : Nat} {leaves : List Leaf} {leaf : Leaf}
    (found : leaves[index]? = some leaf) :
    descend leaves (route index leaves.length) = some [leaf] := by
  obtain ⟨inside, isLeaf⟩ := List.getElem?_eq_some_iff.mp found
  by_cases large : 2 ≤ leaves.length
  · by_cases inFirst : index < splitSize leaves.length
    · have shorter := firstPart_lt large
      have sameLeaf : (firstPart leaves)[index]? = some leaf := by
        rw [firstPart, List.getElem?_take_of_lt inFirst, found]
      have below := descend_route sameLeaf
      rw [firstPart_length large] at below
      rw [route_left large inFirst, descend, if_pos large]
      exact below
    · have shorter := secondPart_lt large
      have restored : splitSize leaves.length + (index - splitSize leaves.length) =
            index := by omega
      have sameLeaf : (secondPart leaves)[index - splitSize leaves.length]? = some leaf := by
        rw [secondPart, List.getElem?_drop, restored, found]
      have below := descend_route sameLeaf
      rw [secondPart_length] at below
      rw [route_right large inFirst, descend, if_pos large]
      exact below
  · have single : leaves.length = 1 := by omega
    obtain ⟨only, rfl⟩ := List.length_eq_one_iff.mp single
    have first : index = 0 := by simpa using inside
    subst first
    rw [route_small large]
    simpa [descend] using found
termination_by leaves.length

theorem auditPath_eq_siblings {Digest : Type v} (hashing : TreeHashing Leaf Digest)
    (index : Nat) (leaves : List Leaf) :
    auditPath hashing index leaves =
      (siblings hashing leaves (route index leaves.length)).reverse := by
  by_cases large : 2 ≤ leaves.length
  · by_cases inFirst : index < splitSize leaves.length
    · have shorter := firstPart_lt large
      have below := auditPath_eq_siblings hashing index (firstPart leaves)
      rw [firstPart_length large] at below
      rw [auditPath, dif_pos large, if_pos inFirst, route_left large inFirst,
        siblings, if_pos large, below, List.reverse_cons]
    · have shorter := secondPart_lt large
      have below := auditPath_eq_siblings hashing
        (index - splitSize leaves.length) (secondPart leaves)
      rw [secondPart_length] at below
      rw [auditPath, dif_pos large, if_neg inFirst, route_right large inFirst,
        siblings, if_pos large, below, List.reverse_cons]
  · rw [auditPath, dif_neg large, route_small large]
    rfl
termination_by leaves.length

theorem siblings_length {Digest : Type v} (hashing : TreeHashing Leaf Digest)
    {leaves block : List Leaf} {sides : List Side} (descended : descend leaves sides = some block) :
    (siblings hashing leaves sides).length = sides.length := by
  induction sides generalizing leaves with
  | nil =>
    rfl
  | cons side rest ih =>
    by_cases large : 2 ≤ leaves.length
    · cases side with
      | left =>
        rw [descend, if_pos large] at descended
        rw [siblings, if_pos large, List.length_cons, List.length_cons, ih descended]
      | right =>
        rw [descend, if_pos large] at descended
        rw [siblings, if_pos large, List.length_cons, List.length_cons, ih descended]
    · simp [descend, large] at descended

theorem descend_eq_none_of_long {height : Nat} {leaves : List Leaf} {sides : List Side}
    (bounded : leaves.length ≤ 2 ^ height) (long : height < sides.length) :
    descend leaves sides = none := by
  induction height generalizing leaves sides with
  | zero =>
    cases sides with
    | nil =>
      simp at long
    | cons side rest =>
      have small : ¬ 2 ≤ leaves.length := by
        rw [Nat.pow_zero] at bounded
        omega
      simp [descend, small]
  | succ height ih =>
    cases sides with
    | nil =>
      simp at long
    | cons side rest =>
      by_cases large : 2 ≤ leaves.length
      · have restLong : height < rest.length := by
          rw [List.length_cons] at long
          omega
        have firstBounded := splitSize_le_two_pow large bounded
        have halves := le_two_mul_splitSize large
        cases side with
        | left =>
          have bound : (firstPart leaves).length ≤ 2 ^ height := by
            rw [firstPart_length large]
            exact firstBounded
          rw [descend, if_pos large]
          exact ih bound restLong
        | right =>
          have bound : (secondPart leaves).length ≤ 2 ^ height := by
            rw [secondPart_length]
            omega
          rw [descend, if_pos large]
          exact ih bound restLong
      · simp [descend, large]

theorem route_length_two_pow {index height : Nat} (inside : index < 2 ^ height) :
    (route index (2 ^ height)).length = height := by
  induction height generalizing index with
  | zero =>
    rw [route_small (by simp)]
    rfl
  | succ height ih =>
    have large : 2 ≤ 2 ^ (height + 1) := by
      have positive := Nat.two_pow_pos height
      rw [Nat.pow_succ]
      omega
    have half := splitSize_two_pow height
    have doubled : 2 ^ (height + 1) = 2 * 2 ^ height := Nat.pow_succ'
    by_cases inFirst : index < splitSize (2 ^ (height + 1))
    · rw [route_left large inFirst, half, List.length_cons, ih (by omega)]
    · have remaining : 2 ^ (height + 1) - 2 ^ height = 2 ^ height := by omega
      rw [route_right large inFirst, half, remaining, List.length_cons, ih (by omega)]

theorem descend_turned_right
    {index turns : Nat} {leaves : List Leaf} (inside : index < leaves.length) :
    descend leaves (List.replicate (turns + 1) .right ++ route index leaves.length) = none := by
  rw [List.replicate_succ, List.cons_append, descend]
  by_cases large : 2 ≤ leaves.length
  · rw [if_pos large]
    have halves := le_two_mul_splitSize large
    by_cases inFirst : index < splitSize leaves.length
    · have height : (route index (splitSize leaves.length)).length =
          Nat.log 2 (leaves.length - 1) :=
        route_length_two_pow inFirst
      have bounded : (secondPart leaves).length ≤ 2 ^ Nat.log 2 (leaves.length - 1) := by
        rw [secondPart_length]
        change leaves.length - splitSize leaves.length ≤ splitSize leaves.length
        omega
      apply descend_eq_none_of_long bounded
      rw [route_left large inFirst, List.length_append, List.length_cons, height]
      omega
    · have shorter := secondPart_lt large
      have size := secondPart_length leaves
      have below : descend (secondPart leaves) (List.replicate (turns + 1) .right ++
            route (index - splitSize leaves.length) (secondPart leaves).length) = none :=
        descend_turned_right (by omega)
      rw [size, List.replicate_succ', List.append_assoc] at below
      rw [route_right large inFirst]
      exact below
  · rw [if_neg large]
termination_by leaves.length

end Routes

section Climbing

variable {Leaf : Type u} {Digest : Type v}
  {hashing : TreeHashing Leaf Digest}

def climb (hashing : TreeHashing Leaf Digest) (current : Digest)
    (steps : List (Side × Digest)) : Digest :=
  steps.foldl (stepUp hashing) current

theorem merkleTreeHash_leaf {leaves : List Leaf} (nonempty : 1 ≤ leaves.length)
    (small : ¬ 2 ≤ leaves.length) :
    ∃ leaf, leaves = [leaf] ∧ merkleTreeHash hashing leaves = hashing.leaf leaf := by
  have single : leaves.length = 1 := by omega
  obtain ⟨leaf, rfl⟩ := List.length_eq_one_iff.mp single
  exact ⟨leaf, rfl, merkleTreeHash_singleton hashing leaf⟩

/-- Steps from the root reach a tree hash exactly when they follow a route of
the tree and pass by its siblings. -/
theorem foldr_stepUp_eq_iff (free : hashing.CollisionFree) (steps : List (Side × Digest))
    (current : Digest) (leaves : List Leaf) (nonempty : 1 ≤ leaves.length) :
    steps.foldr (fun step below => stepUp hashing below step) current =
        merkleTreeHash hashing leaves ↔
      ∃ block, descend leaves (steps.map Prod.fst) = some block ∧
        current = merkleTreeHash hashing block ∧
        steps.map Prod.snd = siblings hashing leaves (steps.map Prod.fst) := by
  induction steps generalizing leaves with
  | nil =>
    simp [descend, siblings]
  | cons step rest ih =>
    obtain ⟨side, sibling⟩ := step
    rw [List.foldr_cons, List.map_cons, List.map_cons]
    by_cases large : 2 ≤ leaves.length
    · have firstNonempty : 1 ≤ (firstPart leaves).length := by
        rw [firstPart_length large]
        exact splitSize_pos leaves.length
      have secondNonempty := secondPart_pos large
      rw [merkleTreeHash_split hashing large]
      cases side with
      | left =>
        have below := ih (firstPart leaves) firstNonempty
        rw [descend, if_pos large, siblings, if_pos large, List.cons.injEq, stepUp_left]
        constructor
        · intro equal
          obtain ⟨inFirst, isSecond⟩ := free.node _ _ _ _ equal
          obtain ⟨block, descended, atBlock, passed⟩ := below.mp inFirst
          exact ⟨block, descended, atBlock, isSecond, passed⟩
        · intro ⟨block, descended, atBlock, isSecond, passed⟩
          have second : sibling = merkleTreeHash hashing (secondPart leaves) := isSecond
          rw [below.mpr ⟨block, descended, atBlock, passed⟩, second]
      | right =>
        have below :=
          ih (secondPart leaves) secondNonempty
        rw [descend, if_pos large, siblings, if_pos large, List.cons.injEq, stepUp_right]
        constructor
        · intro equal
          obtain ⟨isFirst, inSecond⟩ := free.node _ _ _ _ equal
          obtain ⟨block, descended, atBlock, passed⟩ := below.mp inSecond
          exact ⟨block, descended, atBlock, isFirst, passed⟩
        · intro ⟨block, descended, atBlock, isFirst, passed⟩
          have first : sibling = merkleTreeHash hashing (firstPart leaves) := isFirst
          rw [below.mpr ⟨block, descended, atBlock, passed⟩, first]
    · obtain ⟨leaf, _, isLeaf⟩ : ∃ leaf, leaves = [leaf] ∧
          merkleTreeHash hashing leaves = hashing.leaf leaf :=
        merkleTreeHash_leaf nonempty large
      constructor
      · intro equal
        rw [isLeaf] at equal
        cases side with
        | left => exact absurd equal.symm (free.disjoint _ _ _)
        | right => exact absurd equal.symm (free.disjoint _ _ _)
      · intro ⟨block, descended, _⟩
        simp [descend, large] at descended

end Climbing

/-- The sides of a leaf from the bottom up, from its index and the last index: a node without a
sibling is promoted. -/
def climbSides (index last : Nat) : List Side :=
  if _positive : last = 0 then []
  else if index % 2 = 1 then .right :: climbSides (index / 2) (last / 2)
  else if index = last then climbSides (index / 2) (last / 2)
  else .left :: climbSides (index / 2) (last / 2)
termination_by last

def lastTurn (index size : Nat) : List Side :=
  if index % 2 = 1 then [.right]
  else if index + 1 = size then []
  else [.left]

theorem route_half {index size : Nat} (inside : index < size) : route index size =
      route (index / 2) ((size + 1) / 2) ++ lastTurn index size := by
  by_cases large : 3 ≤ size
  · have half := splitSize_half large
    have splits := splitSize_lt (show 2 ≤ size by omega)
    have halfPositive := splitSize_pos ((size + 1) / 2)
    by_cases inFirst : index < splitSize size
    · have halfInFirst : index / 2 < splitSize ((size + 1) / 2) := by omega
      have halfSize : (splitSize size + 1) / 2 = splitSize ((size + 1) / 2) := by
        omega
      have below := route_half inFirst
      have sameTurn : lastTurn index (splitSize size) = lastTurn index size := by
        rw [lastTurn, lastTurn]
        by_cases odd : index % 2 = 1
        · rw [if_pos odd, if_pos odd]
        · rw [if_neg odd, if_neg odd, if_neg (by omega), if_neg (by omega)]
      rw [route_left (by omega) inFirst, route_left (by omega) halfInFirst,
        below, halfSize, sameTurn, List.cons_append]
    · have halfInSecond : ¬ index / 2 < splitSize ((size + 1) / 2) := by omega
      have halfIndex : (index - splitSize size) / 2 =
          index / 2 - splitSize ((size + 1) / 2) := by omega
      have halfSize : (size - splitSize size + 1) / 2 =
          (size + 1) / 2 - splitSize ((size + 1) / 2) := by omega
      have below := route_half (show index - splitSize size < size - splitSize size by omega)
      have sameTurn : lastTurn (index - splitSize size)
          (size - splitSize size) = lastTurn index size := by
        have sameParity : (index - splitSize size) % 2 = index % 2 := by omega
        rw [lastTurn, lastTurn, sameParity]
        by_cases odd : index % 2 = 1
        · rw [if_pos odd, if_pos odd]
        · rw [if_neg odd, if_neg odd]
          by_cases promoted : index + 1 = size
          · rw [if_pos (by omega), if_pos promoted]
          · rw [if_neg (by omega), if_neg promoted]
      rw [route_right (by omega) inFirst,
        route_right (by omega) halfInSecond, below, halfIndex, halfSize,
        sameTurn, List.cons_append]
  · have pair : splitSize 2 = 1 := splitSize_two_pow 0
    have small : size = 1 ∨ size = 2 := by omega
    rcases small with rfl | rfl
    · have first : index = 0 := by omega
      subst first
      rw [route_small (by omega), lastTurn]
      simp
    · have ends : index = 0 ∨ index = 1 := by omega
      rcases ends with rfl | rfl
      · rw [route_left (by omega) (by omega), pair, route_small (by omega)]
        rfl
      · rw [route_right (by omega) (by omega), pair, route_small (by omega)]
        rfl
termination_by size

theorem climbSides_eq_reverse_route {index size : Nat} (inside : index < size) :
    climbSides index (size - 1) = (route index size).reverse := by
  rw [climbSides]
  by_cases single : size - 1 = 0
  · rw [dif_pos single, route_small (by omega)]
    rfl
  · have halves : (size - 1) / 2 = (size + 1) / 2 - 1 := by omega
    have below := climbSides_eq_reverse_route (show index / 2 < (size + 1) / 2 by omega)
    rw [dif_neg single, route_half inside, List.reverse_append, halves, below, lastTurn]
    by_cases odd : index % 2 = 1
    · rw [if_pos odd, if_pos odd]
      rfl
    · rw [if_neg odd, if_neg odd]
      by_cases promoted : index + 1 = size
      · rw [if_pos (by omega), if_pos promoted]
        rfl
      · rw [if_neg (by omega), if_neg promoted]
        rfl
termination_by size

/-- A climb by the sides of a leaf, and then to the right, reaches a tree hash only from the
leaf, by its audit path. -/
theorem climb_eq_merkleTreeHash_iff {Leaf : Type u} {Digest : Type v}
    {hashing : TreeHashing Leaf Digest} (free : hashing.CollisionFree) {leaves : List Leaf}
    {index : Nat} {leaf : Leaf} (found : leaves[index]? = some leaf) {steps : List (Side × Digest)}
    {turns : Nat} (current : Digest) (sides : steps.map Prod.fst =
      climbSides index (leaves.length - 1) ++ List.replicate turns .right) :
    climb hashing current steps = merkleTreeHash hashing leaves ↔ current = hashing.leaf leaf ∧
        steps.map Prod.snd = auditPath hashing index leaves := by
  obtain ⟨inside, _⟩ := List.getElem?_eq_some_iff.mp found
  have fromRoot : steps.reverse.map Prod.fst =
      List.replicate turns .right ++ route index leaves.length := by
    rw [List.map_reverse, sides, climbSides_eq_reverse_route inside,
      List.reverse_append, List.reverse_reverse, List.reverse_replicate]
  have reached := foldr_stepUp_eq_iff free steps.reverse current leaves (by omega)
  rw [climb, List.foldl_eq_foldr_reverse, reached, fromRoot]
  cases turns with
  | zero =>
    rw [List.replicate_zero, List.nil_append, descend_route found,
      auditPath_eq_siblings, List.map_reverse, List.reverse_eq_iff]
    constructor
    · intro ⟨block, single, atBlock, passed⟩
      obtain rfl := Option.some.inj single
      rw [merkleTreeHash_singleton] at atBlock
      exact ⟨atBlock, passed⟩
    · intro ⟨atLeaf, passed⟩
      refine ⟨[leaf], rfl, ?_, passed⟩
      rw [merkleTreeHash_singleton, atLeaf]
  | succ turns =>
    rw [descend_turned_right inside]
    constructor
    · intro ⟨block, outside, _⟩
      cases outside
    · intro ⟨_, passed⟩
      -- an audit path has no step after the last side
      have stepCount := congrArg List.length sides
      have pathCount := congrArg List.length passed
      rw [auditPath_eq_siblings, List.length_reverse,
        siblings_length hashing (descend_route found), List.length_map]
        at pathCount
      rw [climbSides_eq_reverse_route inside, List.length_map,
        List.length_append, List.length_reverse, List.length_replicate]
        at stepCount
      omega

end ModelAtlas.Foundations.Merkle
