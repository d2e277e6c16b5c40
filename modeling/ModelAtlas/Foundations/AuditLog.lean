import Mathlib.Data.List.MinMax
import Mathlib.Data.List.Nodup
import ModelAtlas.Foundations.Execution

/-!
# Hash chains in an audit log

A record that is appended names, as its predecessor, the record of its chain
that sorts last by time. Where one record has the last time, every chain stays
linear.
-/

namespace ModelAtlas.Foundations

universe u v w

/-- The columns of a record that its chain depends on. -/
class Chained (Record : Type u) (Chain : outParam (Type v))
    (Digest : outParam (Type w)) where
  chain : Record → Chain
  occurredAt : Record → Int
  previous : Record → Option Digest
  digest : Record → Digest

namespace Chained

variable {Record : Type u} {Chain : Type v} {Digest : Type w}
  [Chained Record Chain Digest] [DecidableEq Chain]

def chainOf (log : List Record) (wanted : Chain) : List Record :=
  log.filter (fun record => chain record = wanted)

/-- `ORDER BY occurred_at DESC … LIMIT 1` may return this record of a chain. -/
def ReadsLatest (log : List Record) (wanted : Chain) (read : Option Record) : Prop :=
  match read with
  | none => chainOf log wanted = []
  | some latest => latest ∈ chainOf log wanted ∧
      ∀ other ∈ chainOf log wanted, occurredAt other ≤ occurredAt latest

/-- What the database returns for `ORDER BY occurred_at DESC … LIMIT 1` on a
chain: some record that sorts last. -/
structure LatestQuery (Record : Type u) {Chain : Type v} {Digest : Type w}
    [Chained Record Chain Digest] [DecidableEq Chain] where
  read : List Record → Option Record
  reads : ∀ log wanted, ReadsLatest log wanted (read (chainOf log wanted))

/-- The query that returns the record appended first, of those that sort
last. -/
def firstLatest : LatestQuery Record where
  read :=
    letI : Preorder Int := Int.instLinearOrder.toPreorder
    List.argmax occurredAt
  reads log wanted := by
    cases found : List.argmax occurredAt (chainOf log wanted) with
    | none =>
      exact List.argmax_eq_none.mp found
    | some latest =>
      exact ⟨List.argmax_mem found, fun other mem =>
        List.le_of_mem_argmax mem found⟩

def OneLatest (log : List Record) (wanted : Chain) : Prop :=
  ∀ left right, ReadsLatest log wanted (some left) →
    ReadsLatest log wanted (some right) → left = right

theorem OneLatest.congr {left right : List Record} {wanted : Chain} (held : OneLatest left wanted)
    (same : chainOf right wanted = chainOf left wanted) :
    OneLatest right wanted := by
  intro first second firstReads secondReads
  have moved : ∀ record, ReadsLatest right wanted (some record) →
      ReadsLatest left wanted (some record) := by
    intro record reads
    rw [ReadsLatest, same] at reads
    exact reads
  exact held first second (moved first firstReads) (moved second secondReads)

theorem oneLatest_of_length {log : List Record} {wanted : Chain}
    (short : (chainOf log wanted).length ≤ 1) : OneLatest log wanted := by
  intro left right leftReads rightReads
  have leftMem := leftReads.1
  have rightMem := rightReads.1
  cases records : chainOf log wanted with
  | nil =>
    rw [records] at leftMem
    exact absurd leftMem List.not_mem_nil
  | cons record rest =>
    rw [records, List.length_cons] at short
    have empty : rest = [] := List.length_eq_zero_iff.mp (by omega)
    rw [records, empty] at leftMem rightMem
    rw [List.mem_singleton.mp leftMem, List.mem_singleton.mp rightMem]

theorem oneLatest_of_short {log : List Record} (wanted : Chain)
    (short : log.length ≤ 1) : OneLatest log wanted :=
  oneLatest_of_length (le_trans (List.length_filter_le ..) short)

/-- The first record has no predecessor, and every other one has the record
before it. -/
def LinearChain (records : List Record) : Prop :=
  ∀ index record, records[index]? = some record → previous record =
      if index = 0 then none else (records[index - 1]?).map digest

/-- A single chain: it is linear, and no two of its records have the same
predecessor, so the first is the only one without. -/
def SingleChain (records : List Record) : Prop :=
  LinearChain records ∧ ∀ (left right : Nat) (leftRecord rightRecord : Record),
    records[left]? = some leftRecord → records[right]? = some rightRecord →
      previous leftRecord = previous rightRecord → left = right

/-- A record is appended, with the record read as its predecessor. -/
structure Appends (log : List Record) (read : Option Record)
    (record : Record) : Prop where
  reads : ReadsLatest log (chain record) read
  linked : previous record = read.map digest
  unique : digest record ∉ log.map digest
  inOrder : ∀ other ∈ log, occurredAt other ≤ occurredAt record

/-- The log of a chain that is linear: its times do not decrease, and its
digests are distinct. -/
structure LinearLog (log : List Record) (wanted : Chain) : Prop where
  linear : LinearChain (chainOf log wanted)
  inOrder : (chainOf log wanted).Pairwise
    (fun earlier later => occurredAt earlier ≤ occurredAt later)
  distinct : ((chainOf log wanted).map digest).Nodup

theorem linearLog_nil (wanted : Chain) : LinearLog ([] : List Record) wanted where
  linear index record stored := by
    simp [chainOf] at stored
  inOrder := List.Pairwise.nil
  distinct := List.nodup_nil

theorem LinearLog.unshared {log : List Record} {wanted : Chain}
    (held : LinearLog log wanted) {left right : Nat}
    {leftRecord rightRecord : Record}
    (leftStored : (chainOf log wanted)[left]? = some leftRecord)
    (rightStored : (chainOf log wanted)[right]? = some rightRecord)
    (same : previous leftRecord = previous rightRecord) : left = right := by
  have leftPrevious := held.linear left leftRecord leftStored
  have rightPrevious := held.linear right rightRecord rightStored
  have leftLength := (List.getElem?_eq_some_iff.mp leftStored).1
  have rightLength := (List.getElem?_eq_some_iff.mp rightStored).1
  by_cases leftFirst : left = 0
  · by_cases rightFirst : right = 0
    · rw [leftFirst, rightFirst]
    · rw [if_pos leftFirst] at leftPrevious
      rw [if_neg rightFirst] at rightPrevious
      have before : right - 1 < (chainOf log wanted).length := by omega
      rw [List.getElem?_eq_getElem before] at rightPrevious
      rw [leftPrevious, rightPrevious] at same
      cases same
  · by_cases rightFirst : right = 0
    · rw [if_neg leftFirst] at leftPrevious
      rw [if_pos rightFirst] at rightPrevious
      have before : left - 1 < (chainOf log wanted).length := by omega
      rw [List.getElem?_eq_getElem before] at leftPrevious
      rw [leftPrevious, rightPrevious] at same
      cases same
    · rw [if_neg leftFirst] at leftPrevious
      rw [if_neg rightFirst] at rightPrevious
      have leftBefore : left - 1 < ((chainOf log wanted).map digest).length :=
        by
          rw [List.length_map]
          omega
      rw [leftPrevious, rightPrevious, ← List.getElem?_map, ← List.getElem?_map] at same
      have equal := (List.getElem?_inj leftBefore held.distinct).mp same
      omega

theorem LinearLog.singleChain {log : List Record} {wanted : Chain}
    (held : LinearLog log wanted) : SingleChain (chainOf log wanted) :=
  ⟨held.linear, fun _ _ _ _ leftStored rightStored same =>
    held.unshared leftStored rightStored same⟩

section Append

variable {log : List Record} {record : Record} {read : Option Record}
  {wanted : Chain}

theorem chainOf_append_own : chainOf (log ++ [record]) (chain record) =
      chainOf log (chain record) ++ [record] := by
  simp [chainOf]

theorem chainOf_append_other (other : chain record ≠ wanted) :
    chainOf (log ++ [record]) wanted = chainOf log wanted := by
  simp [chainOf, other]

theorem read_eq_getLast (held : LinearLog log wanted)
    (one : OneLatest log wanted) (reads : ReadsLatest log wanted read) :
    read = (chainOf log wanted).getLast? := by
  rcases List.eq_nil_or_concat (chainOf log wanted) with
    empty | ⟨start, last, split⟩
  · cases read with
    | none =>
      rw [empty]
      rfl
    | some latest =>
      have mem := reads.1
      rw [empty] at mem
      exact absurd mem List.not_mem_nil
  · rw [List.concat_eq_append] at split
    have lastReads : ReadsLatest log wanted (some last) := by
      refine ⟨?_, ?_⟩
      · rw [split]
        exact List.mem_append_right start (List.mem_singleton_self last)
      · intro other mem
        have ordered := held.inOrder
        rw [split] at ordered mem
        rcases List.mem_append.mp mem with early | same
        · exact (List.pairwise_append.mp ordered).2.2 other early last
            (List.mem_singleton_self last)
        · exact Int.le_of_eq (by rw [List.mem_singleton.mp same])
    cases read with
    | none =>
      have empty : chainOf log wanted = [] := reads
      rw [empty] at split
      simp at split
    | some latest =>
      have same := one latest last reads lastReads
      rw [split, same, List.getLast?_append]
      rfl

omit [DecidableEq Chain] in
theorem LinearChain.append {records : List Record} {next : Record} (held : LinearChain records)
    (linked : previous next = records.getLast?.map digest) :
    LinearChain (records ++ [next]) := by
  intro index stored found
  by_cases inside : index < records.length
  · rw [List.getElem?_append_left inside] at found
    rw [held index stored found]
    by_cases first : index = 0
    · rw [if_pos first, if_pos first]
    · have before : index - 1 < records.length := by omega
      rw [if_neg first, if_neg first, List.getElem?_append_left before]
  · have atEnd : index = records.length := by
      have bound := (List.getElem?_eq_some_iff.mp found).1
      rw [List.length_append, List.length_singleton] at bound
      omega
    subst atEnd
    rw [List.getElem?_concat_length] at found
    have same := Option.some.inj found
    rw [← same, linked]
    by_cases empty : records.length = 0
    · rw [if_pos empty, List.length_eq_zero_iff.mp empty]
      rfl
    · have before : records.length - 1 < records.length := by omega
      rw [if_neg empty, List.getElem?_append_left before, List.getLast?_eq_getElem?]

theorem LinearLog.append (held : LinearLog log wanted) (appends : Appends log read record)
    (one : chain record = wanted → OneLatest log wanted) :
    LinearLog (log ++ [record]) wanted := by
  by_cases own : chain record = wanted
  · subst own
    have last := read_eq_getLast held (one rfl) appends.reads
    have inChain : ∀ other ∈ chainOf log (chain record), other ∈ log :=
      fun other mem => List.mem_of_mem_filter mem
    refine ⟨?_, ?_, ?_⟩
    · rw [chainOf_append_own]
      refine held.linear.append ?_
      rw [appends.linked, last]
    · rw [chainOf_append_own]
      refine List.pairwise_append.mpr ⟨held.inOrder, List.pairwise_singleton .., ?_⟩
      intro other mem next nextMem
      rw [List.mem_singleton.mp nextMem]
      exact appends.inOrder other (inChain other mem)
    · rw [chainOf_append_own, List.map_append, List.nodup_append]
      refine ⟨held.distinct, List.nodup_singleton _, ?_⟩
      rintro _ earlier _ new same
      obtain ⟨other, mem, rfl⟩ := List.mem_map.mp earlier
      rw [List.map_singleton, List.mem_singleton] at new
      refine appends.unique ?_
      rw [← new, ← same]
      exact List.mem_map_of_mem (inChain other mem)
  · have same : chainOf (log ++ [record]) wanted = chainOf log wanted :=
      chainOf_append_other own
    exact ⟨same ▸ held.linear, same ▸ held.inOrder, same ▸ held.distinct⟩

end Append

end Chained

end ModelAtlas.Foundations
