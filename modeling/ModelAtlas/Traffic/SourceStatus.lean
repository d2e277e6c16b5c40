import Mathlib.Data.List.Dedup
import ModelAtlas.Traffic.SignedBatches

/-!
# Traffic source status

`list_traffic_source_status` of `services/agent_traffic_ingestion.py`, over the
key map that `_env_json_string_map` of `core/config.py` reads.
-/

namespace ModelAtlas.Traffic

open Foundations

variable {keys : TrafficKeyMap} {name secret sourceSystem keyId : String}

/-- A map of compound names to secrets, without empty names and secrets. -/
structure TrafficKeyMap where
  entries : List (String × String)
  distinct : (entries.map Prod.fst).Nodup
  filled : ∀ entry ∈ entries, entry.1 ≠ "" ∧ entry.2 ≠ ""

namespace TrafficKeyMap

def get (keys : TrafficKeyMap) (name : String) : Option String :=
  (keys.entries.find? (fun entry => entry.1 = name)).map Prod.snd

theorem get_of_mem (mem : (name, secret) ∈ keys.entries) : ∃ found, keys.get name = some found := by
  cases found : keys.entries.find? (fun entry => entry.1 = name) with
  | none =>
    have absent := List.find?_eq_none.mp found _ mem
    simp at absent
  | some entry => exact ⟨entry.2, by rw [get, found]; rfl⟩

theorem mem_of_get (found : keys.get name = some secret) : (name, secret) ∈ keys.entries := by
  obtain ⟨entry, first, rfl⟩ := Option.map_eq_some_iff.mp found
  have named : entry.1 = name := by
    simpa using List.find?_some first
  rw [← named]
  exact List.mem_of_find?_eq_some first

theorem ne_empty_of_get
    (found : keys.get name = some secret) : secret ≠ "" :=
  (keys.filled _ (mem_of_get found)).2

end TrafficKeyMap

/-! ## Reading a compound name -/

/-- `text.partition(separator)` for a separator of one character. -/
def pyPartition (separator : Char) (text : String) : String × Bool × String :=
  let characters := text.toList
  let rest := characters.dropWhile (· ≠ separator)
  (String.ofList (characters.takeWhile (· ≠ separator)), !rest.isEmpty, String.ofList rest.tail)

def keyOwner (compoundKey : String) : String × String :=
  let parts := pyPartition ':' compoundKey
  (parts.1, if parts.2.1 then parts.2.2 else "legacy")

/-- The name under which `_traffic_secret` looks for a key of a source. -/
def compoundName (sourceSystem keyId : String) : String :=
  sourceSystem ++ ":" ++ keyId

theorem colon_notMem_keyOwner (compoundKey : String) : ':' ∉ (keyOwner compoundKey).1.toList := by
  intro mem
  have kept : ':' ∈ compoundKey.toList.takeWhile (· ≠ ':') := by
    simpa only [keyOwner, pyPartition, String.toList_ofList] using mem
  have passed := List.mem_takeWhile_imp kept
  simp at passed

theorem takeWhile_eq_self_of_notMem {separator : Char} {characters : List Char}
    (absent : separator ∉ characters) :
    characters.takeWhile (· ≠ separator) = characters := by
  rw [List.takeWhile_eq_self_iff]
  intro character mem
  have differs : character ≠ separator := by
    rintro rfl
    exact absent mem
  simpa using differs

theorem dropWhile_eq_nil_of_notMem {separator : Char} {characters : List Char}
    (absent : separator ∉ characters) :
    characters.dropWhile (· ≠ separator) = [] := by
  rw [List.dropWhile_eq_nil_iff]
  intro character mem
  have differs : character ≠ separator := by
    rintro rfl
    exact absent mem
  simpa using differs

theorem keyOwner_plain (plain : ':' ∉ sourceSystem.toList) :
    keyOwner sourceSystem = (sourceSystem, "legacy") := by
  have taken := takeWhile_eq_self_of_notMem plain
  have dropped := dropWhile_eq_nil_of_notMem plain
  simp only [keyOwner, pyPartition, taken, dropped, String.ofList_toList]
  rfl

theorem keyOwner_compoundName (plain : ':' ∉ sourceSystem.toList) (keyId : String) :
    keyOwner (compoundName sourceSystem keyId) = (sourceSystem, keyId) := by
  have characters : (compoundName sourceSystem keyId).toList =
      sourceSystem.toList ++ ':' :: keyId.toList := by
    simp [compoundName]
  have taken : (sourceSystem.toList ++ ':' :: keyId.toList).takeWhile
      (· ≠ ':') = sourceSystem.toList := by
    rw [List.takeWhile_append, takeWhile_eq_self_of_notMem plain]
    simp
  have dropped : (sourceSystem.toList ++ ':' :: keyId.toList).dropWhile
      (· ≠ ':') = ':' :: keyId.toList := by
    rw [List.dropWhile_append, dropWhile_eq_nil_of_notMem plain]
    simp
  simp only [keyOwner, pyPartition, characters, taken, dropped, String.ofList_toList]
  simp

theorem eq_of_keyOwner {compoundKey : String}
    (owner : keyOwner compoundKey = (sourceSystem, keyId)) :
    compoundKey = compoundName sourceSystem keyId ∨
      compoundKey = sourceSystem ∧ keyId = "legacy" := by
  have split := List.takeWhile_append_dropWhile (p := (· ≠ ':')) (l := compoundKey.toList)
  cases rest : compoundKey.toList.dropWhile (· ≠ ':') with
  | nil =>
    right
    have all : compoundKey.toList.takeWhile (· ≠ ':') = compoundKey.toList := by
      rw [rest, List.append_nil] at split
      exact split
    simp only [keyOwner, pyPartition, rest, all, String.ofList_toList] at owner
    exact ⟨(Prod.mk.inj owner).1, (Prod.mk.inj owner).2.symm⟩
  | cons separator tail =>
    left
    have colon : separator = ':' := by
      have first := List.head?_dropWhile_not (· ≠ ':') compoundKey.toList
      rw [rest] at first
      simpa using first
    simp only [keyOwner, pyPartition, rest] at owner
    have source := (Prod.mk.inj owner).1
    have key : String.ofList tail = keyId := (Prod.mk.inj owner).2
    rw [rest, colon] at split
    rw [compoundName, ← source, ← key, ← String.toList_inj]
    simp only [String.toList_append, String.toList_ofList]
    rw [List.append_assoc]
    exact split.symm

def agentTrafficSourceStatusVersion : String := "agent-traffic-source-status-v1"

inductive SourceHealth where
  | neverSeen
  | stale
  | active
  deriving DecidableEq, Repr

structure AgentTrafficSourceStatus where
  (schemaVersion sourceSystem : String)
  health : SourceHealth
  (batchCount replayCount : Nat)
  lastReceivedAt : Option Time
  lastJobId : Option Uuid
  (collectorVersions observedKeyIds configuredKeyIds : List String)

def sortedSet (values : List String) : List String :=
  values.dedup.mergeSort (fun left right => decide (left ≤ right))

theorem mem_sortedSet {value : String} {values : List String} :
    value ∈ sortedSet values ↔ value ∈ values := by
  rw [sortedSet, List.mem_mergeSort, List.mem_dedup]

/-- `configured_sources`, one pair for each key. -/
def configuredSources (hmacKeys : TrafficKeyMap) : List (String × String) :=
  hmacKeys.entries.map (fun entry => keyOwner entry.1)

/-- `configured_sources.get(source_system, set())`. -/
def configuredKeyIds (hmacKeys : TrafficKeyMap) (sourceSystem : String) : List String :=
  ((configuredSources hmacKeys).filter (fun owner => owner.1 = sourceSystem)).map Prod.snd

def sourceHealth (latest : Option AgentTrafficReceipt) (staleCutoff : Time) :
    SourceHealth :=
  match latest with
  | none => .neverSeen
  | some receipt =>
    if receipt.lastSeenAt < staleCutoff then .stale else .active

def sourceStatus (hmacKeys : TrafficKeyMap) (sourceReceipts : List AgentTrafficReceipt)
    (staleCutoff : Time) (sourceSystem : String) : AgentTrafficSourceStatus where
  schemaVersion := agentTrafficSourceStatusVersion
  sourceSystem := sourceSystem
  health := sourceHealth sourceReceipts.head? staleCutoff
  batchCount := sourceReceipts.length
  replayCount := (sourceReceipts.map AgentTrafficReceipt.replayCount).sum
  lastReceivedAt := sourceReceipts.head?.map AgentTrafficReceipt.lastSeenAt
  lastJobId := sourceReceipts.head?.map AgentTrafficReceipt.jobId
  collectorVersions :=
    sortedSet (sourceReceipts.map AgentTrafficReceipt.collectorVersion)
  observedKeyIds := sortedSet (sourceReceipts.map AgentTrafficReceipt.keyId)
  configuredKeyIds := sortedSet (configuredKeyIds hmacKeys sourceSystem)

def listTrafficSourceStatus (table : ReceiptTable) (hmacKeys : TrafficKeyMap)
    (staleAfterSeconds : Int) (now : Time) : List AgentTrafficSourceStatus :=
  let receipts := table.rows.mergeSort
    (fun left right => decide (right.lastSeenAt ≤ left.lastSeenAt))
  let sourceNames := sortedSet ((configuredSources hmacKeys).map Prod.fst ++
      receipts.map AgentTrafficReceipt.sourceSystem)
  let staleCutoff := now - max 10 staleAfterSeconds
  sourceNames.map (fun sourceSystem =>
    sourceStatus hmacKeys (receipts.filter (fun receipt => receipt.sourceSystem = sourceSystem))
      staleCutoff sourceSystem)

def ReportsKey (report : List AgentTrafficSourceStatus) (sourceSystem keyId : String) : Prop :=
  ∃ row ∈ report, row.sourceSystem = sourceSystem ∧ keyId ∈ row.configuredKeyIds

theorem mem_configuredKeyIds {hmacKeys : TrafficKeyMap} :
    keyId ∈ configuredKeyIds hmacKeys sourceSystem ↔ ∃ entry ∈ hmacKeys.entries,
        keyOwner entry.1 = (sourceSystem, keyId) := by
  simp only [configuredKeyIds, configuredSources, List.mem_map, List.mem_filter, decide_eq_true_eq]
  constructor
  · rintro ⟨owner, ⟨⟨entry, mem, rfl⟩, source⟩, key⟩
    exact ⟨entry, mem, Prod.ext source key⟩
  · rintro ⟨entry, mem, owner⟩
    exact ⟨keyOwner entry.1, ⟨⟨entry, mem, rfl⟩, by rw [owner]⟩, by rw [owner]⟩

theorem reportsKey_iff {table : ReceiptTable} {hmacKeys : TrafficKeyMap}
    {staleAfterSeconds : Int} {now : Time} :
    ReportsKey (listTrafficSourceStatus table hmacKeys staleAfterSeconds now) sourceSystem keyId ↔
      ∃ entry ∈ hmacKeys.entries, keyOwner entry.1 = (sourceSystem, keyId) := by
  rw [← mem_configuredKeyIds]
  constructor
  · rintro ⟨row, mem, source, key⟩
    obtain ⟨name, -, rfl⟩ := List.mem_map.mp mem
    have named : name = sourceSystem := source
    have listed : keyId ∈ sortedSet (configuredKeyIds hmacKeys name) := key
    rw [named] at listed
    exact mem_sortedSet.mp listed
  · intro configured
    obtain ⟨entry, mem, owner⟩ := mem_configuredKeyIds.mp configured
    refine ⟨_, List.mem_map.mpr ⟨sourceSystem, mem_sortedSet.mpr ?_, rfl⟩, rfl,
      mem_sortedSet.mpr configured⟩
    apply List.mem_append_left
    refine List.mem_map.mpr ⟨keyOwner entry.1, List.mem_map.mpr ⟨entry, mem, rfl⟩, ?_⟩
    rw [owner]

end ModelAtlas.Traffic
