import Mathlib.Data.Prod.Lex
import ModelAtlas.Foundations.DecimalTexts
import ModelAtlas.Foundations.Json
import ModelAtlas.Foundations.LatestRows

/-!
# Latest result revisions

`_latest_result_revisions` and `_evidence_revision_manifest` of
`deployment_gate/evidence.py`, where a revision is compared by the text of its
creation time.  Creation times are in UTC, and an id is the text of its UUID.
-/

namespace ModelAtlas.Gate

open Foundations

variable {left right : ResultRevision}

/-- A `datetime` in UTC. -/
structure UtcDateTime where
  (year month day hour minute second microsecond : Nat)
  yearFits : year < 10 ^ 4
  monthFits : month < 10 ^ 2
  dayFits : day < 10 ^ 2
  hourFits : hour < 10 ^ 2
  minuteFits : minute < 10 ^ 2
  secondFits : second < 10 ^ 2
  microsecondFits : microsecond < 10 ^ 6
  deriving DecidableEq

def UtcDateTime.fields (time : UtcDateTime) : List Nat :=
  [time.year, time.month, time.day, time.hour, time.minute, time.second, time.microsecond]

/-- The microseconds, which are left out where they are zero, and the offset. -/
def fractionText (microsecond : Nat) : List Char :=
  (if microsecond = 0 then [] else '.' :: decimal 6 microsecond) ++ ['+', '0', '0', ':', '0', '0']

def UtcDateTime.isoformat (time : UtcDateTime) : String :=
  String.ofList (decimal 4 time.year ++ '-' :: (decimal 2 time.month ++ '-' ::
    (decimal 2 time.day ++ 'T' :: (decimal 2 time.hour ++ ':' ::
      (decimal 2 time.minute ++ ':' :: (decimal 2 time.second ++ fractionText time.microsecond))))))

theorem decimal_cons_lt_iff {width left right : Nat} {separator : Char}
    {leftRest rightRest : List Char} (leftFits : left < 10 ^ width)
    (rightFits : right < 10 ^ width) :
    decimal width left ++ separator :: leftRest < decimal width right ++ separator :: rightRest ↔
      left < right ∨ (left = right ∧ leftRest < rightRest) := by
  rw [decimal_append_lt_iff leftFits rightFits, List.cons_lt_cons_iff]
  simp

theorem fractionText_lt_iff {left right : Nat} (leftFits : left < 10 ^ 6)
    (rightFits : right < 10 ^ 6) :
    fractionText left < fractionText right ↔ left < right := by
  have plusDot : '+' < '.' := by decide
  have notDotPlus : ¬ '.' < '+' := by decide
  rw [fractionText, fractionText]
  by_cases leftZero : left = 0
  · by_cases rightZero : right = 0
    · simp [leftZero, rightZero]
    · rw [if_pos leftZero, if_neg rightZero, List.nil_append, List.cons_append,
        List.cons_lt_cons_iff]
      simp only [plusDot, true_or, true_iff]
      omega
  · by_cases rightZero : right = 0
    · rw [if_neg leftZero, if_pos rightZero, List.nil_append, List.cons_append,
        List.cons_lt_cons_iff]
      simp [notDotPlus, rightZero]
    · rw [if_neg leftZero, if_neg rightZero, List.cons_append, List.cons_append,
        List.cons_lt_cons_iff, decimal_append_lt_iff leftFits rightFits]
      simp

theorem isoformat_lt_iff (left right : UtcDateTime) :
    left.isoformat < right.isoformat ↔ left.fields < right.fields := by
  rw [String.lt_iff_toList_lt, UtcDateTime.isoformat, UtcDateTime.isoformat,
    String.toList_ofList, String.toList_ofList,
    decimal_cons_lt_iff left.yearFits right.yearFits,
    decimal_cons_lt_iff left.monthFits right.monthFits,
    decimal_cons_lt_iff left.dayFits right.dayFits,
    decimal_cons_lt_iff left.hourFits right.hourFits,
    decimal_cons_lt_iff left.minuteFits right.minuteFits,
    decimal_append_lt_iff left.secondFits right.secondFits,
    fractionText_lt_iff left.microsecondFits right.microsecondFits,
    UtcDateTime.fields, UtcDateTime.fields]
  simp only [List.cons_lt_cons_iff, List.not_lt_nil, and_false, or_false]

/-- The columns of `BenchmarkResult` that the selection and the manifest read. -/
structure ResultRevision where
  (id benchmarkRunId : String)
  (evaluationCaseId parentBenchmarkResultId rootBenchmarkResultId : Option String)
  revisionNumber : Int
  createdAt : Option UtcDateTime
  evidenceRevisionHash : Option String
  sampleId : String
  scores : Json
  normalizedOutput : Option String
  metadata : Json
  dataSource : String

namespace ResultRevision

/-- `root_benchmark_result_id or id`. -/
def rootId (res : ResultRevision) : String :=
  res.rootBenchmarkResultId.getD res.id

/-- `max(1, int(revision_number or 1))`. -/
def revision (res : ResultRevision) : Int :=
  max 1 res.revisionNumber

/-- `created_at.isoformat() if created_at else ""`. -/
def createdText (res : ResultRevision) : String :=
  match res.createdAt with
  | some time => time.isoformat
  | none => ""

def createdFields (res : ResultRevision) : List Nat :=
  match res.createdAt with
  | some time => time.fields
  | none => []

def sortKey (res : ResultRevision) : Int ×ₗ (String ×ₗ String) :=
  toLex (res.revision, toLex (res.createdText, res.id))

/-- `(sample_id, str(id))`. -/
def listKey (res : ResultRevision) : String ×ₗ String :=
  toLex (res.sampleId, res.id)

def Precedes (left right : ResultRevision) : Prop :=
  left.revision < right.revision ∨ (left.revision = right.revision ∧
      (left.createdFields < right.createdFields ∨
        (left.createdFields = right.createdFields ∧ left.id < right.id)))

end ResultRevision

def latestResultRevisions (results : List ResultRevision) : List ResultRevision :=
  sortedBy ResultRevision.listKey
    (results.foldl (keepLatestBy ResultRevision.rootId ResultRevision.sortKey) [])

section Manifest

variable (stableHash : Json → String)

def resultRevisionHash (res : ResultRevision) : String :=
  stableHash (.obj
    [("benchmark_result_id", .str res.id),
      ("benchmark_run_id", .str res.benchmarkRunId),
      ("evaluation_case_id", Json.optionText res.evaluationCaseId),
      ("sample_id", .str res.sampleId), ("scores", res.scores),
      ("normalized_output", Json.optionText res.normalizedOutput),
      ("metadata", if res.metadata.truthy then res.metadata else .obj []),
      ("data_source", .str res.dataSource)])

/-- The entry of a result in `_evidence_revision_manifest`. -/
def manifestEntry (res : ResultRevision) : Json :=
  .obj
    [("benchmark_result_id", .str res.id),
      ("benchmark_run_id", .str res.benchmarkRunId),
      ("root_benchmark_result_id", .str res.rootId),
      ("parent_benchmark_result_id",
        Json.optionText res.parentBenchmarkResultId),
      ("revision_number", .int res.revision),
      ("sample_id", .str res.sampleId),
      ("evidence_revision_hash",
        .str ((res.evidenceRevisionHash.filter (fun hash => hash ≠ "")).getD
          (resultRevisionHash stableHash res)))]

def evidenceRevisionManifest (selected : List ResultRevision) : Json :=
  .arr (selected.map (manifestEntry stableHash))

def evidenceRevisionHash (selected : List ResultRevision) : String :=
  stableHash (evidenceRevisionManifest stableHash selected)

end Manifest

theorem createdText_lt_iff (left right : ResultRevision) : left.createdText < right.createdText ↔
      left.createdFields < right.createdFields := by
  rw [ResultRevision.createdText, ResultRevision.createdText,
    ResultRevision.createdFields, ResultRevision.createdFields]
  cases left.createdAt with
  | none =>
    cases right.createdAt with
    | none => simp
    | some time =>
      have nonempty : "".toList < time.isoformat.toList := by
        rw [UtcDateTime.isoformat, String.toList_ofList]
        cases decimal 4 time.year with
        | nil => simp
        | cons first rest => simp
      have before : "" < time.isoformat := String.lt_iff_toList_lt.mpr nonempty
      simp [before, UtcDateTime.fields]
  | some time =>
    cases right.createdAt with
    | none =>
      have notBefore : ¬ time.isoformat < "" := by
        rw [String.lt_iff_toList_lt]
        simp
      simp [notBefore]
    | some other => exact isoformat_lt_iff time other

theorem createdText_eq_iff (left right : ResultRevision) : left.createdText = right.createdText ↔
      left.createdFields = right.createdFields := by
  have forward := createdText_lt_iff left right
  have backward := createdText_lt_iff right left
  constructor
  · intro same
    rw [same] at forward backward
    apply le_antisymm
    · exact not_lt.mp (fun later => lt_irrefl _ (backward.mpr later))
    · exact not_lt.mp (fun earlier => lt_irrefl _ (forward.mpr earlier))
  · intro same
    rw [same] at forward backward
    apply le_antisymm
    · exact not_lt.mp (fun later => lt_irrefl _ (backward.mp later))
    · exact not_lt.mp (fun earlier => lt_irrefl _ (forward.mp earlier))

theorem sortKey_lt_iff (left right : ResultRevision) :
    left.sortKey < right.sortKey ↔ left.Precedes right := by
  rw [ResultRevision.sortKey, ResultRevision.sortKey, Prod.Lex.toLex_lt_toLex,
    Prod.Lex.toLex_lt_toLex, createdText_lt_iff, createdText_eq_iff,
    ResultRevision.Precedes]

theorem id_of_sortKey_eq (same : left.sortKey = right.sortKey) : left.id = right.id := by
  have pair := toLex.injective same
  have inner := toLex.injective (Prod.ext_iff.mp pair).2
  exact (Prod.ext_iff.mp inner).2

theorem id_of_listKey_eq (same : left.listKey = right.listKey) : left.id = right.id :=
  (Prod.ext_iff.mp (toLex.injective same)).2

/-- One result of each lineage, the greatest one, sorted by sample and id. -/
structure SelectsLatest (results selection : List ResultRevision) : Prop where
  within : ∀ selected ∈ selection, selected ∈ results
  exactlyOne : ∀ res ∈ results, ∃! selected, selected ∈ selection ∧
    selected.rootId = res.rootId
  distinct : (selection.map ResultRevision.rootId).Nodup
  greatest : ∀ selected ∈ selection, ∀ res ∈ results,
    res.rootId = selected.rootId → res = selected ∨ res.Precedes selected
  sorted : selection.Pairwise (fun left right => left.sampleId < right.sampleId ∨
    (left.sampleId = right.sampleId ∧ left.id < right.id))

section Selection

variable {results others : List ResultRevision}

theorem eq_of_id (stored : (results.map ResultRevision.id).Nodup) (leftMem : left ∈ results)
    (rightMem : right ∈ results) (same : left.id = right.id) : left = right :=
  List.inj_on_of_nodup_map stored leftMem rightMem same

theorem latestOf_results (results : List ResultRevision) :
    LatestOf ResultRevision.rootId ResultRevision.sortKey results
      (results.foldl (keepLatestBy ResultRevision.rootId ResultRevision.sortKey) []) :=
  latestOf_all results

theorem latestOf_latestResultRevisions (results : List ResultRevision) :
    LatestOf ResultRevision.rootId ResultRevision.sortKey results
      (latestResultRevisions results) := by
  have kept := latestOf_results results
  have perm := sortedBy_perm ResultRevision.listKey (results.foldl
    (keepLatestBy ResultRevision.rootId ResultRevision.sortKey) [])
  constructor
  · intro selected mem
    exact kept.within selected (perm.mem_iff.mp mem)
  · exact (perm.map ResultRevision.rootId).nodup_iff.mpr kept.one
  · intro res mem
    obtain ⟨selected, selectedMem, same⟩ := kept.covers res mem
    exact ⟨selected, perm.mem_iff.mpr selectedMem, same⟩
  · intro selected mem
    exact kept.greatest selected (perm.mem_iff.mp mem)

theorem latestResultRevisions_sorted (stored : (results.map ResultRevision.id).Nodup) :
    (latestResultRevisions results).Pairwise (fun left right =>
      left.sampleId < right.sampleId ∨ (left.sampleId = right.sampleId ∧ left.id < right.id)) := by
  have latestOf := latestOf_latestResultRevisions results
  have sorted := sortedBy_pairwise ResultRevision.listKey (results.foldl
    (keepLatestBy ResultRevision.rootId ResultRevision.sortKey) [])
  have different : (latestResultRevisions results).Nodup :=
    List.Nodup.of_map _ latestOf.one
  refine (sorted.and different).imp_of_mem ?_
  rintro left right leftMem rightMem ⟨le, apart⟩
  have idApart : left.id ≠ right.id := by
    intro same
    exact apart (eq_of_id stored (latestOf.within left leftMem)
      (latestOf.within right rightMem) same)
  have before : left.listKey < right.listKey := by
    refine lt_of_le_of_ne le (fun same => ?_)
    exact idApart (id_of_listKey_eq same)
  rw [ResultRevision.listKey, ResultRevision.listKey, Prod.Lex.toLex_lt_toLex] at before
  exact before

theorem selectsLatest (stored : (results.map ResultRevision.id).Nodup) :
    SelectsLatest results (latestResultRevisions results) := by
  have latestOf := latestOf_latestResultRevisions results
  constructor
  · exact latestOf.within
  · intro res mem
    obtain ⟨selected, selectedMem, same⟩ := latestOf.covers res mem
    refine ⟨selected, ⟨selectedMem, same⟩, ?_⟩
    rintro other ⟨otherMem, otherSame⟩
    exact latestOf.eq_of_root otherMem selectedMem (otherSame.trans same.symm)
  · exact latestOf.one
  · intro selected mem res resultMem same
    have le := latestOf.greatest selected mem res resultMem same
    rcases eq_or_lt_of_le le with equal | before
    · left
      exact eq_of_id stored resultMem (latestOf.within selected mem) (id_of_sortKey_eq equal)
    · exact Or.inr ((sortKey_lt_iff res selected).mp before)
  · exact latestResultRevisions_sorted stored

theorem latestResultRevisions_perm (stored : (results.map ResultRevision.id).Nodup)
    (perm : results.Perm others) :
    latestResultRevisions others = latestResultRevisions results := by
  have ofResults := latestOf_results results
  have ofOthers := latestOf_results others
  have tellsApart : ∀ left ∈ results, ∀ right ∈ results,
      left.sortKey = right.sortKey → left = right :=
    fun left leftMem right rightMem same =>
      eq_of_id stored leftMem rightMem (id_of_sortKey_eq same)
  have tellsOthers : ∀ left ∈ others, ∀ right ∈ others,
      left.sortKey = right.sortKey → left = right :=
    fun left leftMem right rightMem => tellsApart left
      (perm.mem_iff.mpr leftMem) right (perm.mem_iff.mpr rightMem)
  have sameRows : ∀ selected, selected ∈ others.foldl
        (keepLatestBy ResultRevision.rootId ResultRevision.sortKey) [] ↔
      selected ∈ results.foldl (keepLatestBy ResultRevision.rootId ResultRevision.sortKey) [] := by
    intro selected
    constructor
    · exact ofOthers.mem_of_same ofResults (fun _ => perm.mem_iff.symm) tellsOthers
    · exact ofResults.mem_of_same ofOthers (fun _ => perm.mem_iff) tellsApart
  have samePerm := (List.perm_ext_iff_of_nodup
    (List.Nodup.of_map _ ofOthers.one) (List.Nodup.of_map _ ofResults.one)).mpr sameRows
  apply sortedBy_eq_of_perm samePerm
  intro left leftMem right rightMem same
  have leftRow := perm.mem_iff.mpr (ofOthers.within left leftMem)
  have rightRow := perm.mem_iff.mpr (ofOthers.within right rightMem)
  exact eq_of_id stored leftRow rightRow (id_of_listKey_eq same)

theorem latestResultRevisions_append {revised : ResultRevision}
    (stored : ((results ++ [revised]).map ResultRevision.id).Nodup)
    (isNewest : ∀ res ∈ results, res.rootId = revised.rootId → res.Precedes revised) :
    latestResultRevisions (results ++ [revised]) =
      sortedBy ResultRevision.listKey ((latestResultRevisions results).filter
        (fun selected => selected.rootId ≠ revised.rootId) ++ [revised]) := by
  have ofResults := latestOf_latestResultRevisions results
  have ofAll := latestOf_results (results ++ [revised])
  have storedResults : (results.map ResultRevision.id).Nodup := by
    rw [List.map_append] at stored
    exact (List.nodup_append.mp stored).1
  have isNew : revised ∉ results := by
    intro mem
    rw [List.map_append, List.nodup_append] at stored
    exact stored.2.2 revised.id (List.mem_map_of_mem mem) revised.id
      (List.mem_map_of_mem List.mem_cons_self) rfl
  have revisedMem : revised ∈ results ++ [revised] :=
    List.mem_append_right _ List.mem_cons_self
  have sameRows : ∀ selected, selected ∈ (results ++ [revised]).foldl
        (keepLatestBy ResultRevision.rootId ResultRevision.sortKey) [] ↔
      selected ∈ (latestResultRevisions results).filter
        (fun own => own.rootId ≠ revised.rootId) ++ [revised] := by
    intro selected
    rw [List.mem_append, List.mem_singleton, List.mem_filter, decide_eq_true_eq]
    constructor
    · intro mem
      by_cases own : selected.rootId = revised.rootId
      · right
        by_contra other
        have isOld : selected ∈ results := by
          have within := ofAll.within selected mem
          rw [List.mem_append, List.mem_singleton] at within
          exact within.resolve_right other
        have before := (sortKey_lt_iff selected revised).mpr (isNewest selected isOld own)
        have le := ofAll.greatest selected mem revised revisedMem own.symm
        exact absurd before (not_lt.mpr le)
      · left
        refine ⟨?_, own⟩
        have isOld : selected ∈ results := by
          have within := ofAll.within selected mem
          rw [List.mem_append, List.mem_singleton] at within
          exact within.resolve_right (fun same => own (congrArg _ same))
        obtain ⟨found, foundMem, same⟩ := ofResults.covers selected isOld
        have foundOld := ofResults.within found foundMem
        have upper := ofAll.greatest selected mem found (List.mem_append_left _ foundOld) same
        have lower := ofResults.greatest found foundMem selected isOld same.symm
        have equal := eq_of_id storedResults foundOld isOld
          (id_of_sortKey_eq (le_antisymm upper lower))
        rw [← equal]
        exact foundMem
    · rintro (⟨mem, apart⟩ | rfl)
      · have isOld := ofResults.within selected mem
        obtain ⟨found, foundMem, same⟩ := ofAll.covers selected (List.mem_append_left _ isOld)
        have foundOld : found ∈ results := by
          have within := ofAll.within found foundMem
          rw [List.mem_append, List.mem_singleton] at within
          refine within.resolve_right (fun isRevised => apart ?_)
          rw [← same, isRevised]
        have upper := ofResults.greatest selected mem found foundOld same
        have lower := ofAll.greatest found foundMem selected
          (List.mem_append_left _ isOld) same.symm
        have equal := eq_of_id storedResults foundOld isOld
          (id_of_sortKey_eq (le_antisymm upper lower))
        rw [← equal]
        exact foundMem
      · obtain ⟨found, foundMem, same⟩ := ofAll.covers selected revisedMem
        have within := ofAll.within found foundMem
        rw [List.mem_append, List.mem_singleton] at within
        rcases within with isOld | isRevised
        · have before := (sortKey_lt_iff found selected).mpr (isNewest found isOld same)
          have le := ofAll.greatest found foundMem selected revisedMem same.symm
          exact absurd before (not_lt.mpr le)
        · rw [isRevised] at foundMem
          exact foundMem
  have distinct : ((latestResultRevisions results).filter
      (fun own => own.rootId ≠ revised.rootId) ++ [revised]).Nodup := by
    rw [List.nodup_append]
    refine ⟨(List.Nodup.of_map _ ofResults.one).filter _, List.nodup_singleton _, ?_⟩
    intro left leftMem right rightMem same
    rw [List.mem_singleton] at rightMem
    rw [same, rightMem] at leftMem
    exact isNew (ofResults.within revised (List.mem_of_mem_filter leftMem))
  have samePerm := (List.perm_ext_iff_of_nodup (List.Nodup.of_map _ ofAll.one)
    distinct).mpr sameRows
  apply sortedBy_eq_of_perm samePerm
  intro left leftMem right rightMem same
  exact eq_of_id stored (ofAll.within left leftMem)
    (ofAll.within right rightMem) (id_of_listKey_eq same)

/-- The selection is exact, does not depend on the order of the rows, nor do its manifest and
hash, and a new revision replaces the entry of its lineage alone. -/
theorem latestResultRevisions_exact (stableHash : Json → String) (results : List ResultRevision)
    (stored : (results.map ResultRevision.id).Nodup) :
    SelectsLatest results (latestResultRevisions results) ∧ (∀ others, results.Perm others →
        latestResultRevisions others = latestResultRevisions results ∧
        evidenceRevisionManifest stableHash (latestResultRevisions others) =
          evidenceRevisionManifest stableHash (latestResultRevisions results) ∧
        evidenceRevisionHash stableHash (latestResultRevisions others) =
          evidenceRevisionHash stableHash (latestResultRevisions results)) ∧
      ∀ revised, revised.id ∉ results.map ResultRevision.id →
        (∀ res ∈ results, res.rootId = revised.rootId → res.Precedes revised) →
        latestResultRevisions (results ++ [revised]) =
          sortedBy ResultRevision.listKey ((latestResultRevisions results).filter
            (fun selected => selected.rootId ≠ revised.rootId) ++ [revised]) := by
  refine ⟨selectsLatest stored, ?_, ?_⟩
  · intro others perm
    have same := latestResultRevisions_perm stored perm
    exact ⟨same, by rw [same], by rw [same]⟩
  · intro revised isNew isNewest
    have storedAll : ((results ++ [revised]).map ResultRevision.id).Nodup := by
      rw [List.map_append, List.nodup_append]
      refine ⟨stored, List.nodup_singleton _, ?_⟩
      intro left leftMem right rightMem same
      rw [List.map_singleton, List.mem_singleton] at rightMem
      rw [same, rightMem] at leftMem
      exact isNew leftMem
    exact latestResultRevisions_append storedAll isNewest

end Selection

def captureTime (second microsecond : Nat) (secondFits : second < 10 ^ 2)
    (microsecondFits : microsecond < 10 ^ 6) : UtcDateTime where
  year := 2026
  month := 7
  day := 1
  hour := 9
  minute := 30
  second := second
  microsecond := microsecond
  yearFits := by decide
  monthFits := by decide
  dayFits := by decide
  hourFits := by decide
  minuteFits := by decide
  secondFits := secondFits
  microsecondFits := microsecondFits

/-- A revision of the result `"a1"`. -/
def revisionOf (id : String) (root : Option String) (revisionNumber : Int)
    (createdAt : UtcDateTime) : ResultRevision where
  id := id
  benchmarkRunId := "run"
  evaluationCaseId := some "case"
  parentBenchmarkResultId := root
  rootBenchmarkResultId := root
  revisionNumber := revisionNumber
  createdAt := some createdAt
  evidenceRevisionHash := none
  sampleId := "case-1"
  scores := .obj []
  normalizedOutput := none
  metadata := .null
  dataSource := "local_actual_runtime"

theorem latestResultRevisions_exact_pair : SelectsLatest
      [revisionOf "a1" none 1 (captureTime 5 0 (by decide) (by decide)),
        revisionOf "b2" (some "a1") 1 (captureTime 5 400 (by decide) (by decide))]
      (latestResultRevisions
        [revisionOf "a1" none 1 (captureTime 5 0 (by decide) (by decide)),
          revisionOf "b2" (some "a1") 1
            (captureTime 5 400 (by decide) (by decide))]) :=
  (latestResultRevisions_exact (fun _ => "") _ (by decide)).1

end ModelAtlas.Gate
