import ModelAtlas.Foundations.Outcomes
import ModelAtlas.Trust.Transparency

/-!
# Lengths of inclusion paths

`calculate_transparency_root` tests its last counter only after the loop, so a
path that is too short is rejected and one that is too long is not.
-/

namespace ModelAtlas.Trust

open Foundations Merkle

def auditPathLength (index size : Nat) : Nat :=
  (route index size).length

theorem climbSides_length {index size : Nat} (inside : index < size) :
    (climbSides index (size - 1)).length = auditPathLength index size := by
  rw [climbSides_eq_reverse_route inside, List.length_reverse]
  rfl

section Lengths

variable {Entry Digest : Type}
  {env : TransparencyEnvironment Entry Digest}

def WellFormedHash (env : TransparencyEnvironment Entry Digest) (hash : String) : Prop :=
  ∃ digest, normalizedHash env hash = .ok digest

theorem exists_mapM_normalizedHash {path : List String}
    (wellFormed : ∀ hash ∈ path, WellFormedHash env hash) :
    ∃ siblings, path.mapM (normalizedHash env) = .ok siblings ∧ siblings.length = path.length := by
  induction path with
  | nil =>
    exact ⟨[], rfl, rfl⟩
  | cons hash rest ih =>
    obtain ⟨digest, decoded⟩ := wellFormed hash (List.mem_cons_self ..)
    obtain ⟨siblings, restDecoded, sameLength⟩ :=
      ih (fun other mem =>
        wellFormed other (List.mem_cons_of_mem _ mem))
    refine ⟨digest :: siblings, ?_, ?_⟩
    · rw [List.mapM_cons, decoded, restDecoded]
      rfl
    · rw [List.length_cons, List.length_cons, sameLength]

theorem calculateTransparencyRoot_returns_iff {leafHash : String} {index size : Nat}
    {path : List String} (inside : index < size) (leaf : WellFormedHash env leafHash)
    (wellFormed : ∀ hash ∈ path, WellFormedHash env hash) :
    (∃ root, calculateTransparencyRoot env leafHash index size path = .ok root) ↔
      auditPathLength index size ≤ path.length := by
  obtain ⟨current, atLeaf⟩ := leaf
  obtain ⟨siblings, decoded, sameLength⟩ := exists_mapM_normalizedHash wellFormed
  have climbs : Climbs env.hashing siblings current (climbSides index (size - 1)) _ :=
    climbPath_climbs siblings current (show index ≤ size - 1 by omega)
  have complete := climbs.complete
  rw [climbSides_length inside, sameLength] at complete
  rw [← complete]
  constructor
  · rintro ⟨root, returned⟩
    obtain ⟨current', siblings', atLeaf', decoded', ended, _⟩ :=
      (calculateTransparencyRoot_eq_ok_iff inside).mp returned
    rw [atLeaf] at atLeaf'
    rw [decoded] at decoded'
    cases atLeaf'
    cases decoded'
    exact ended
  · intro ended
    exact ⟨_, (calculateTransparencyRoot_eq_ok_iff inside).mpr
      ⟨current, siblings, atLeaf, decoded, ended, rfl⟩⟩

/-- The length of a path decides whether a root is returned exactly for the
paths that have no surplus sibling. -/
theorem calculateTransparencyRoot_lengthExact_iff {leafHash : String} {index size : Nat}
    {path : List String} (inside : index < size) (leaf : WellFormedHash env leafHash)
    (wellFormed : ∀ hash ∈ path, WellFormedHash env hash) :
    ((∃ root, calculateTransparencyRoot env leafHash index size path =
        .ok root) ↔ path.length = auditPathLength index size) ↔
      path.length ≤ auditPathLength index size := by
  rw [calculateTransparencyRoot_returns_iff inside leaf wellFormed]
  omega

end Lengths

section Binding

variable {Entry Digest : Type} {env : TransparencyEnvironment Entry Digest}

theorem climbPath_inj {hashing : TreeHashing Entry Digest} (free : hashing.CollisionFree) :
    ∀ {path other : List Digest} {current claimed : Digest} {nodeIndex lastNode : Nat},
      path.length = other.length → (climbPath hashing path current nodeIndex lastNode).1 =
        (climbPath hashing other claimed nodeIndex lastNode).1 → current = claimed ∧ path = other
  | [], [], _, _, _, _, _, same => ⟨same, rfl⟩
  | sibling :: rest, otherSibling :: otherRest, current, claimed, nodeIndex, lastNode, lengths,
      same => by
    have lengths : rest.length = otherRest.length := Nat.succ.inj lengths
    rw [climbPath, climbPath] at same
    split at same
    · obtain ⟨nodes, rfl⟩ := climbPath_inj free lengths same
      obtain ⟨rfl, rfl⟩ := free.node _ _ _ _ nodes
      exact ⟨rfl, rfl⟩
    · obtain ⟨nodes, rfl⟩ := climbPath_inj free lengths same
      obtain ⟨rfl, rfl⟩ := free.node _ _ _ _ nodes
      exact ⟨rfl, rfl⟩

/-- Two paths of one length that give one root for a position are of one leaf. -/
theorem calculateTransparencyRoot_binding (free : env.hashing.CollisionFree)
    (hexInjective : Function.Injective env.hex) {index size : Nat} (inside : index < size)
    {leafHash otherHash root : String} {path other : List String}
    (lengths : path.length = other.length)
    (proved : calculateTransparencyRoot env leafHash index size path = .ok root)
    (alsoProved : calculateTransparencyRoot env otherHash index size other = .ok root) :
    normalizedHash env leafHash = normalizedHash env otherHash ∧
      path.mapM (normalizedHash env) = other.mapM (normalizedHash env) := by
  obtain ⟨current, siblings, leaf, decoded, _, reached⟩ :=
    (calculateTransparencyRoot_eq_ok_iff inside).mp proved
  obtain ⟨claimed, others, otherLeaf, otherDecoded, _, otherReached⟩ :=
    (calculateTransparencyRoot_eq_ok_iff inside).mp alsoProved
  have count : siblings.length = others.length := by
    rw [length_of_mapM_eq_ok decoded, length_of_mapM_eq_ok otherDecoded, lengths]
  obtain ⟨rfl, rfl⟩ := climbPath_inj free count (hexInjective (reached.trans otherReached.symm))
  exact ⟨leaf.trans otherLeaf.symm, decoded.trans otherDecoded.symm⟩

end Binding

theorem calculateTransparencyRoot_binding_first :
    normalizedHash unaryTransparency "aa" = normalizedHash unaryTransparency " aa" ∧
      ["a"].mapM (normalizedHash unaryTransparency) =
        ["a "].mapM (normalizedHash unaryTransparency) :=
  calculateTransparencyRoot_binding pairedHashing_collisionFree unaryTransparency_hex_injective
    (show 0 < 2 by decide) rfl rfl rfl

theorem wellFormedHash_unary (hash : String) : WellFormedHash unaryTransparency hash :=
  ⟨_, rfl⟩

theorem auditPathLength_single : auditPathLength 0 1 = 0 := by
  rw [auditPathLength, route_small (by omega)]
  rfl

theorem calculateTransparencyRoot_lengthExact_iff_single :
    (∃ root, calculateTransparencyRoot unaryTransparency "aa" (0 : Nat) (1 : Nat)
        [] = .ok root) ↔ ([] : List String).length = auditPathLength 0 1 :=
  (calculateTransparencyRoot_lengthExact_iff (by omega)
    (wellFormedHash_unary "aa") (fun hash _ => wellFormedHash_unary hash)).mpr
      (Nat.zero_le _)

/-- A surplus sibling of the only entry is accepted. -/
theorem calculateTransparencyRoot_surplus : ¬ (∀ path : List String,
      (∀ hash ∈ path, WellFormedHash unaryTransparency hash) →
      ((∃ root, calculateTransparencyRoot unaryTransparency "aa" (0 : Nat)
        (1 : Nat) path = .ok root) ↔ path.length = auditPathLength 0 1)) := by
  intro exact
  have surplus := exact ["aa"] (fun hash _ => wellFormedHash_unary hash)
  rw [calculateTransparencyRoot_returns_iff (by omega)
    (wellFormedHash_unary "aa") (fun hash _ => wellFormedHash_unary hash),
    auditPathLength_single] at surplus
  simp at surplus

end ModelAtlas.Trust
