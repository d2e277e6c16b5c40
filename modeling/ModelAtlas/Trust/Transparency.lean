import Mathlib.Data.Nat.Pairing
import ModelAtlas.Foundations.MerkleTree
import ModelAtlas.Records

/-!
# Transparency inclusion proofs

`calculate_transparency_root` of `services/trust_registry.py` climbs from a leaf
hash to the root of the log with two counters.
-/

namespace ModelAtlas.Trust

open Foundations Merkle

/-- What the proofs take from outside: `str.lower`, the bytes of a text of 64
hex digits and back, and the tree hashes of the log. -/
structure TransparencyEnvironment (Entry Digest : Type) where
  lower : String → String
  fromHex : String → Option Digest
  hex : Digest → String
  hashing : TreeHashing Entry Digest

section Root

variable {Entry Digest : Type}
  (env : TransparencyEnvironment Entry Digest)

/-- `_normalized_hash`, with the bytes of the normalized text. -/
def normalizedHash (value : String) : Except ServiceError Digest :=
  match env.fromHex
      (pyDropStart "sha256:" (env.lower (pyStrip value))) with
  | none =>
    .error (.domainValidation
      "transparency proof contains an invalid SHA-256 hash")
  | some digest => .ok digest

/-- The inner loop of `calculate_transparency_root`: shift while the node index
is even and not zero. -/
def skipAligned (nodeIndex lastNode : Nat) : Nat × Nat :=
  if _aligned : nodeIndex ≠ 0 ∧ nodeIndex % 2 = 0 then
    skipAligned (nodeIndex / 2) (lastNode / 2)
  else (nodeIndex, lastNode)
termination_by nodeIndex
decreasing_by omega

/-- The loop of `calculate_transparency_root`: the current hash and the last
node after the siblings of a path. -/
def climbPath (hashing : TreeHashing Entry Digest) : List Digest → Digest → Nat → Nat → Digest × Nat
  | [], current, _, lastNode => (current, lastNode)
  | sibling :: rest, current, nodeIndex, lastNode =>
    if nodeIndex = lastNode ∨ nodeIndex % 2 = 1 then
      let skipped := skipAligned nodeIndex lastNode
      climbPath hashing rest (hashing.node sibling current) (skipped.1 / 2) (skipped.2 / 2)
    else
      climbPath hashing rest (hashing.node current sibling) (nodeIndex / 2) (lastNode / 2)

def calculateTransparencyRoot (leafHash : String) (logIndex treeSize : Int)
    (inclusionPath : List String) : Except ServiceError String :=
  if treeSize ≤ 0 ∨ logIndex < 0 ∨ treeSize ≤ logIndex then
    .error (.domainValidation "transparency proof tree position is invalid")
  else do
    let current ← normalizedHash env leafHash
    let siblings ← inclusionPath.mapM (normalizedHash env)
    let climbed := climbPath env.hashing siblings current logIndex.toNat (treeSize.toNat - 1)
    if climbed.2 ≠ 0 then
      .error (.domainValidation "transparency inclusion path is incomplete")
    else .ok (env.hex climbed.1)

end Root

theorem skipAligned_odd {nodeIndex lastNode : Nat} (odd : nodeIndex % 2 = 1) :
    skipAligned nodeIndex lastNode = (nodeIndex, lastNode) := by
  rw [skipAligned, dif_neg (by omega)]

theorem skipAligned_le {nodeIndex lastNode : Nat} (inside : nodeIndex ≤ lastNode) :
    (skipAligned nodeIndex lastNode).1 ≤ (skipAligned nodeIndex lastNode).2 := by
  rw [skipAligned]
  by_cases aligned : nodeIndex ≠ 0 ∧ nodeIndex % 2 = 0
  · have half : nodeIndex / 2 ≤ lastNode / 2 := by omega
    rw [dif_pos aligned]
    exact skipAligned_le half
  · rw [dif_neg aligned]
    exact inside
termination_by nodeIndex

theorem climbSides_last {last : Nat} (positive : last ≠ 0) : climbSides last last =
      .right :: climbSides ((skipAligned last last).1 / 2) ((skipAligned last last).2 / 2) := by
  rw [climbSides, dif_neg positive]
  by_cases odd : last % 2 = 1
  · rw [if_pos odd, skipAligned_odd odd]
  · have aligned : last ≠ 0 ∧ last % 2 = 0 := by omega
    have promoted := climbSides_last (show last / 2 ≠ 0 by omega)
    rw [if_neg odd, if_pos rfl, skipAligned, dif_pos aligned]
    exact promoted
termination_by last

theorem climbSides_right {nodeIndex lastNode : Nat} (positive : lastNode ≠ 0)
    (turns : nodeIndex = lastNode ∨ nodeIndex % 2 = 1) :
    climbSides nodeIndex lastNode = .right :: climbSides ((skipAligned nodeIndex lastNode).1 / 2)
        ((skipAligned nodeIndex lastNode).2 / 2) := by
  rcases turns with rfl | odd
  · exact climbSides_last positive
  · rw [climbSides, dif_neg positive, if_pos odd, skipAligned_odd odd]

theorem climbSides_left {nodeIndex lastNode : Nat} (inside : nodeIndex ≤ lastNode)
    (turns : ¬ (nodeIndex = lastNode ∨ nodeIndex % 2 = 1)) :
    climbSides nodeIndex lastNode = .left :: climbSides (nodeIndex / 2) (lastNode / 2) := by
  rw [climbSides, dif_neg (by omega), if_neg (by omega), if_neg (by omega)]

section Loop

variable {Entry Digest : Type} {hashing : TreeHashing Entry Digest}

/-- A path climbs by the given sides, then turns right; it ends at the root
level exactly when it is long enough. -/
structure Climbs (hashing : TreeHashing Entry Digest) (path : List Digest)
    (current : Digest) (sides : List Side) (res : Digest × Nat) : Prop where
  complete : res.2 = 0 ↔ sides.length ≤ path.length
  reached : sides.length ≤ path.length → ∃ steps : List (Side × Digest),
    steps.map Prod.snd = path ∧
      steps.map Prod.fst =
        sides ++ List.replicate (path.length - sides.length) .right ∧
      res.1 = climb hashing current steps

theorem Climbs.cons {path : List Digest} {current sibling : Digest} {side : Side}
    {sides : List Side} {res : Digest × Nat}
    (climbs : Climbs hashing path (stepUp hashing current (side, sibling)) sides res) :
    Climbs hashing (sibling :: path) current (side :: sides) res where
  complete := by
    rw [climbs.complete, List.length_cons, List.length_cons]
    omega
  reached long := by
    rw [List.length_cons, List.length_cons] at long
    obtain ⟨steps, siblings, turns, res⟩ := climbs.reached (by omega)
    refine ⟨(side, sibling) :: steps, ?_, ?_, ?_⟩
    · rw [List.map_cons, siblings]
    · rw [List.map_cons, turns, List.length_cons, List.length_cons,
        Nat.add_sub_add_right, List.cons_append]
    · rw [res, climb, climb, List.foldl_cons]

theorem Climbs.beyond {path : List Digest} {current sibling : Digest} {res : Digest × Nat}
    (climbs : Climbs hashing path (stepUp hashing current (.right, sibling)) [] res) :
    Climbs hashing (sibling :: path) current [] res where
  complete := by
    rw [climbs.complete, List.length_nil]
    omega
  reached _ := by
    obtain ⟨steps, siblings, turns, res⟩ := climbs.reached (by simp)
    refine ⟨(.right, sibling) :: steps, ?_, ?_, ?_⟩
    · rw [List.map_cons, siblings]
    · rw [List.map_cons, turns]
      simp [List.replicate_succ]
    · rw [res, climb, climb, List.foldl_cons]

theorem climbPath_climbs (path : List Digest) (current : Digest) {nodeIndex lastNode : Nat}
    (inside : nodeIndex ≤ lastNode) :
    Climbs hashing path current (climbSides nodeIndex lastNode)
      (climbPath hashing path current nodeIndex lastNode) := by
  induction path generalizing current nodeIndex lastNode with
  | nil =>
    rw [climbPath]
    by_cases root : lastNode = 0
    · have noSides : climbSides nodeIndex lastNode = [] := by
        rw [climbSides, dif_pos root]
      rw [noSides]
      exact
        { complete := by simp [root]
          reached := fun _ => ⟨[], rfl, rfl, rfl⟩ }
    · have someSides : 0 < (climbSides nodeIndex lastNode).length := by
        by_cases turns : nodeIndex = lastNode ∨ nodeIndex % 2 = 1
        · rw [climbSides_right root turns]
          exact Nat.succ_pos _
        · rw [climbSides_left inside turns]
          exact Nat.succ_pos _
      exact
        { complete := by
            rw [List.length_nil]
            omega
          reached := fun long => by
            rw [List.length_nil] at long
            omega }
  | cons sibling rest ih =>
    rw [climbPath]
    by_cases turns : nodeIndex = lastNode ∨ nodeIndex % 2 = 1
    · have skippedInside := skipAligned_le inside
      have climbs : Climbs hashing rest (stepUp hashing current (.right, sibling))
          (climbSides ((skipAligned nodeIndex lastNode).1 / 2)
            ((skipAligned nodeIndex lastNode).2 / 2)) _ :=
        ih _ (Nat.div_le_div_right skippedInside)
      rw [if_pos turns]
      by_cases root : lastNode = 0
      · have atRoot : nodeIndex = 0 := by omega
        subst root atRoot
        have noSides : climbSides 0 0 = [] := by
          rw [climbSides, dif_pos rfl]
        have noSkip : skipAligned 0 0 = (0, 0) := by
          rw [skipAligned, dif_neg (by simp)]
        have atTop : Climbs hashing rest (stepUp hashing current (.right, sibling)) []
            (climbPath hashing rest (hashing.node sibling current) 0 0) := by
          simpa [noSkip, noSides] using climbs
        simpa [noSkip, noSides] using atTop.beyond
      · rw [climbSides_right root turns]
        exact climbs.cons
    · have climbs : Climbs hashing rest (stepUp hashing current (.left, sibling))
          (climbSides (nodeIndex / 2) (lastNode / 2)) _ :=
        ih _ (Nat.div_le_div_right inside)
      rw [if_neg turns, climbSides_left inside turns]
      exact climbs.cons

theorem climbPath_eq_root_iff (free : hashing.CollisionFree) {entries : List Entry} {index : Nat}
    {entry : Entry} (found : entries[index]? = some entry) (path : List Digest) (current : Digest) :
    climbPath hashing path current index (entries.length - 1) =
        (merkleTreeHash hashing entries, 0) ↔
      current = hashing.leaf entry ∧ path = auditPath hashing index entries := by
  obtain ⟨inside, _⟩ := List.getElem?_eq_some_iff.mp found
  have climbs : Climbs hashing path current _ _ :=
    climbPath_climbs path current (show index ≤ entries.length - 1 by omega)
  by_cases long : (climbSides index (entries.length - 1)).length ≤ path.length
  · obtain ⟨steps, siblings, turns, res⟩ := climbs.reached long
    have reaches := climb_eq_merkleTreeHash_iff free found current turns
    rw [siblings] at reaches
    rw [Prod.ext_iff, res, reaches]
    exact and_iff_left (climbs.complete.mpr long)
  · constructor
    · intro equal
      have ended : (climbPath hashing path current index
          (entries.length - 1)).2 = 0 := by rw [equal]
      exact absurd (climbs.complete.mp ended) long
    · intro ⟨_, isPath⟩
      have count : path.length = (climbSides index (entries.length - 1)).length := by
        rw [isPath, auditPath_eq_siblings, List.length_reverse,
          siblings_length hashing (descend_route found),
          climbSides_eq_reverse_route inside, List.length_reverse]
      omega

end Loop

section Proofs

variable {Entry Digest : Type}
  {env : TransparencyEnvironment Entry Digest}

theorem calculateTransparencyRoot_eq_ok_iff {leafHash root : String} {index size : Nat}
    {path : List String} (inside : index < size) :
    calculateTransparencyRoot env leafHash index size path = .ok root ↔
      ∃ current siblings, normalizedHash env leafHash = .ok current ∧
        path.mapM (normalizedHash env) = .ok siblings ∧
        (climbPath env.hashing siblings current index (size - 1)).2 = 0 ∧
        env.hex (climbPath env.hashing siblings current index (size - 1)).1 = root := by
  have valid : ¬ ((size : Int) ≤ 0 ∨ (index : Int) < 0 ∨ (size : Int) ≤ index) := by omega
  rw [calculateTransparencyRoot, if_neg valid]
  cases leaf : normalizedHash env leafHash with
  | error raised =>
    simp [bind, Except.bind]
  | ok current =>
    cases decoded : path.mapM (normalizedHash env) with
    | error raised =>
      simp [bind, Except.bind]
    | ok siblings =>
      simp [bind, Except.bind]
      split <;> simp_all

/-- The computed root is that of a log exactly for the hash of the entry at the position with
its audit path. -/
theorem calculateTransparencyRoot_eq_root_iff (free : env.hashing.CollisionFree)
    (hexInjective : Function.Injective env.hex) (entries : List Entry) (index : Nat)
    (inside : index < entries.length) (leafHash : String) (path : List String) :
    calculateTransparencyRoot env leafHash index entries.length path =
        .ok (env.hex (merkleTreeHash env.hashing entries)) ↔
      normalizedHash env leafHash = .ok (env.hashing.leaf entries[index]) ∧
        path.mapM (normalizedHash env) = .ok (auditPath env.hashing index entries) := by
  have found : entries[index]? = some entries[index] :=
    List.getElem?_eq_getElem inside
  rw [calculateTransparencyRoot_eq_ok_iff inside]
  constructor
  · intro ⟨current, siblings, leaf, decoded, ended, isRoot⟩
    have reached : climbPath env.hashing siblings current index (entries.length - 1) =
          (merkleTreeHash env.hashing entries, 0) :=
      Prod.ext (hexInjective isRoot) ended
    obtain ⟨isLeaf, isPath⟩ :=
      (climbPath_eq_root_iff free found siblings current).mp reached
    rw [leaf, decoded, isLeaf, isPath]
    exact ⟨rfl, rfl⟩
  · intro ⟨leaf, decoded⟩
    have reached := (climbPath_eq_root_iff free found (auditPath env.hashing index entries)
      (env.hashing.leaf entries[index])).mpr ⟨rfl, rfl⟩
    refine ⟨_, _, leaf, decoded, ?_, ?_⟩
    · rw [reached]
    · rw [reached]

end Proofs

def pairedHashing : TreeHashing Nat Nat where
  leaf entry := 2 * entry
  node left right := 2 * Nat.pair left right + 1
  empty := 0

theorem pairedHashing_collisionFree : pairedHashing.CollisionFree where
  leaf := by
    intro first second equal
    simp only [pairedHashing] at equal
    omega
  node left right left' right' equal := by
    simp only [pairedHashing] at equal
    have samePair : Nat.pair left right = Nat.pair left' right' := by omega
    exact Nat.pair_eq_pair.mp samePair
  disjoint value left right := by
    simp only [pairedHashing]
    omega

def unaryTransparency : TransparencyEnvironment Nat Nat where
  lower := id
  fromHex text := some text.toList.length
  hex digest := String.ofList (List.replicate digest 'a')
  hashing := pairedHashing

theorem unaryTransparency_hex_injective : Function.Injective unaryTransparency.hex := by
  intro first second equal
  have lengths := congrArg (fun text => text.toList.length) equal
  simpa [unaryTransparency] using lengths

theorem secondAuditPath : auditPath unaryTransparency.hashing 1 [0, 1, 2] = [0, 4] := by
  have three : splitSize 3 = 2 := rfl
  have two : splitSize 2 = 1 := rfl
  have first : firstPart [0, 1, 2] = [0, 1] := rfl
  have second : secondPart [0, 1, 2] = [2] := rfl
  have firstFirst : firstPart [0, 1] = [0] := rfl
  have firstSecond : secondPart [0, 1] = [1] := rfl
  simp [auditPath, merkleTreeHash, three, two, first, second, firstFirst,
    firstSecond, unaryTransparency, pairedHashing]

theorem calculateTransparencyRoot_eq_root_iff_second :
    calculateTransparencyRoot unaryTransparency "aa" (1 : Nat)
        ([0, 1, 2] : List Nat).length ["", "aaaa"] =
      .ok (unaryTransparency.hex (merkleTreeHash pairedHashing [0, 1, 2])) :=
  (calculateTransparencyRoot_eq_root_iff pairedHashing_collisionFree
    unaryTransparency_hex_injective [0, 1, 2] 1 (by decide) "aa"
    ["", "aaaa"]).mpr ⟨rfl, by rw [secondAuditPath]; rfl⟩

end ModelAtlas.Trust
