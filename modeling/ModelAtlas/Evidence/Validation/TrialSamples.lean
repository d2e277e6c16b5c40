import ModelAtlas.Foundations.Execution
import ModelAtlas.Evidence.Validation.EvidenceSelection

/-!
# Samples of trials

`_prepare_trials` of `services/benchmark_execution.py` names a sample for every trial
of every case, and the readers of results take the run and the sample for a key.
-/

namespace ModelAtlas.Validation

open Foundations Labels

structure ActiveCase where
  id : Uuid
  externalCaseId : String

structure TrialPlan where
  cases : List ActiveCase
  trialsPerCase : Nat
  distinct : (cases.map ActiveCase.externalCaseId).Nodup
  short : ∀ case ∈ cases, case.externalCaseId.length ≤ 120
  positive : 1 ≤ trialsPerCase
  limited : trialsPerCase ≤ 20

/-- `::trial-{trial_index:02d}`. -/
def trialSuffix (trialIndex : Nat) : String :=
  "::trial-" ++ (if trialIndex < 10 then "0" else "") ++ toString trialIndex

def trialSampleId (externalCaseId : String) (trialIndex totalTrials : Nat) : String :=
  if totalTrials = 1 then externalCaseId
  else pyClip (120 - (trialSuffix trialIndex).length) externalCaseId ++ trialSuffix trialIndex

structure PreparedTrial where
  evaluationCase : ActiveCase
  trialIndex : Nat
  sampleId : String

def prepareTrials (plan : TrialPlan) : List PreparedTrial :=
  plan.cases.flatMap (fun case =>
    (List.range plan.trialsPerCase).map (fun index =>
      ⟨case, index + 1, trialSampleId case.externalCaseId (index + 1) plan.trialsPerCase⟩))

def sampleIds (plan : TrialPlan) : List String := (prepareTrials plan).map PreparedTrial.sampleId

def KeepsApart (plan : TrialPlan) : Prop :=
  plan.trialsPerCase = 1 ∨ (plan.cases.map (fun case => pyClip 110 case.externalCaseId)).Nodup

/-! ## Sample ids -/

theorem trialSuffix_inj : ∀ left < 20, ∀ right < 20,
    trialSuffix (left + 1) = trialSuffix (right + 1) → left = right := by decide +kernel

theorem trialSuffix_length : ∀ index < 20, (trialSuffix (index + 1)).toList.length = 10 := by
  decide +kernel

theorem trialSampleId_eq_iff {left right : String} {i j total : Nat} (several : total ≠ 1)
    (leftTrial : i < 20) (rightTrial : j < 20) :
    trialSampleId left (i + 1) total = trialSampleId right (j + 1) total ↔
      pyClip 110 left = pyClip 110 right ∧ i = j := by
  have lengths := trialSuffix_length
  simp only [trialSampleId, if_neg several, ← String.length_toList, lengths i leftTrial,
    lengths j rightTrial]
  constructor
  · intro same
    have chars := congrArg String.toList same
    rw [String.toList_append, String.toList_append] at chars
    obtain ⟨kept, suffix⟩ := List.append_inj' chars
      ((lengths i leftTrial).trans (lengths j rightTrial).symm)
    exact ⟨String.toList_inj.mp kept,
      trialSuffix_inj i leftTrial j rightTrial (String.toList_inj.mp suffix)⟩
  · rintro ⟨kept, rfl⟩
    rw [kept]

def trialIds (plan : TrialPlan) (case : ActiveCase) : List String :=
  (List.range plan.trialsPerCase).map (fun index =>
    trialSampleId case.externalCaseId (index + 1) plan.trialsPerCase)

theorem sampleIds_eq (plan : TrialPlan) : sampleIds plan = plan.cases.flatMap (trialIds plan) := by
  simp only [sampleIds, prepareTrials, List.map_flatMap, List.map_map]
  rfl

section Several

variable {plan : TrialPlan} (several : plan.trialsPerCase ≠ 1)
include several

theorem trialIds_nodup (case : ActiveCase) : (trialIds plan case).Nodup := by
  refine List.Nodup.map_on (fun left leftMem right rightMem same => ?_) List.nodup_range
  have limited := plan.limited
  rw [List.mem_range] at leftMem rightMem
  exact ((trialSampleId_eq_iff several (by omega) (by omega)).mp same).2

theorem trialIds_disjoint_iff (left right : ActiveCase) :
    List.Disjoint (trialIds plan left) (trialIds plan right) ↔
      pyClip 110 left.externalCaseId ≠ pyClip 110 right.externalCaseId := by
  have limited := plan.limited
  constructor
  · intro apart same
    have first : 0 ∈ List.range plan.trialsPerCase := List.mem_range.mpr plan.positive
    refine apart (List.mem_map_of_mem first) ?_
    rw [(trialSampleId_eq_iff several (by omega) (by omega)).mpr ⟨same, rfl⟩]
    exact List.mem_map_of_mem first
  · intro apart id leftMem rightMem
    obtain ⟨i, leftTrial, rfl⟩ := List.mem_map.mp leftMem
    obtain ⟨j, rightTrial, same⟩ := List.mem_map.mp rightMem
    rw [List.mem_range] at leftTrial rightTrial
    exact apart ((trialSampleId_eq_iff several (by omega) (by omega)).mp same).1.symm

end Several

theorem sampleIds_nodup_iff (plan : TrialPlan) : (sampleIds plan).Nodup ↔ KeepsApart plan := by
  rw [sampleIds_eq, KeepsApart]
  by_cases single : plan.trialsPerCase = 1
  · have alone : trialIds plan = fun case => [case.externalCaseId] := by
      funext case
      simp [trialIds, single, trialSampleId]
    rw [alone, ← List.map_eq_flatMap]
    exact iff_of_true plan.distinct (Or.inl single)
  · rw [or_iff_right single, List.nodup_flatMap,
      and_iff_right (fun case _ => trialIds_nodup single case), List.Nodup, List.pairwise_map]
    exact List.Pairwise.iff (trialIds_disjoint_iff single)

theorem sampleIds_short (plan : TrialPlan) : ∀ id ∈ sampleIds plan, id.length ≤ 120 := by
  intro id mem
  rw [sampleIds_eq, List.mem_flatMap] at mem
  obtain ⟨case, caseMem, idMem⟩ := mem
  obtain ⟨index, indexMem, rfl⟩ := List.mem_map.mp idMem
  rw [trialSampleId]
  split
  · exact plan.short case caseMem
  · have length := trialSuffix_length index ((List.mem_range.mp indexMem).trans_le plan.limited)
    rw [← String.length_toList, String.toList_append, List.length_append, length, pyClip,
      String.toList_ofList, List.length_take, ← String.length_toList, length]
    omega

/-! ## Results with their metrics -/

structure Measured where
  (ttftMs endToEndLatencyMs : Rat)
  (promptTokens completionTokens retryCount : Nat)

def Measured.before (measured : Measured) (duration : Rat) (retries : Nat) : Measured :=
  { measured with
    endToEndLatencyMs := max 0 (measured.endToEndLatencyMs - duration)
    retryCount := measured.retryCount - retries }

structure TrialMetric extends InferenceMetric where
  measured : Measured

/-- The stored results, each beside the metric that was added after it. -/
structure TrialStore where
  pairs : List (BenchmarkResult × TrialMetric)
  keysNodup : ((pairs.map Prod.fst).map key).Nodup

namespace TrialStore

variable (store : TrialStore)

def results : Table BenchmarkResult := ⟨store.pairs.map Prod.fst, store.keysNodup⟩

def metrics : List TrialMetric := store.pairs.map Prod.snd

/-- What `collect_evidence` reads of the store. -/
def evidence (cases : Table StoredCase) (runs : Table BenchmarkRun) : EvidenceState :=
  ⟨cases, runs, store.results, store.metrics.map TrialMetric.toInferenceMetric⟩

/-- The metric that `_apply_persisted_decisions` reads. -/
def metric? (res : BenchmarkResult) : Option TrialMetric :=
  store.metrics.find? (fun metric => metric.Measures res)

def resumeBase (res : BenchmarkResult) (originalDuration : Rat) (originalRetries : Nat) :
    Except ServiceError Measured :=
  match store.metric? res with
  | none => .error (.domainValidation "agent resume requires an inference metric")
  | some metric => .ok (metric.measured.before originalDuration originalRetries)

/-- `result_by_sample.get(sample_id)` of `import_judge_label_rows`: the last row of a key
stays in the dictionary. -/
def resultBySample (runId : Uuid) (sampleId : String) : Option BenchmarkResult :=
  (store.results.rows.filter (fun res => res.benchmarkRunId = runId)).reverse.find?
    (fun res => res.sampleId = sampleId)

end TrialStore

structure TrialOutcome where
  resultId : Uuid
  createdAt : Time
  qualityScore : Option Rat
  errorType : Option String
  metadata : Metadata
  oomOccurred : Bool
  measured : Measured

def outcomePair (runId : Uuid) (evaluationCaseId rootId : Option Uuid) (revisionNumber : Int)
    (sampleId dataSource : String) (outcome : TrialOutcome) : BenchmarkResult × TrialMetric :=
  (⟨outcome.resultId, runId, evaluationCaseId, rootId, revisionNumber, outcome.createdAt, sampleId,
      dataSource, outcome.qualityScore, outcome.errorType, outcome.metadata⟩,
    ⟨⟨runId, sampleId, dataSource, outcome.oomOccurred⟩, outcome.measured⟩)

/-- The loop over the prepared trials, which ends with the outcomes where a run fails. -/
def trialPairs (runId : Uuid) (dataSource : String) (trials : List PreparedTrial)
    (outcomes : List TrialOutcome) : List (BenchmarkResult × TrialMetric) :=
  List.zipWith (fun trial outcome =>
    outcomePair runId (some trial.evaluationCase.id) none 1 trial.sampleId dataSource outcome)
    trials outcomes

def resultRevision (store : TrialStore) (res : BenchmarkResult) : Int :=
  ((store.results.rows.filter (fun other =>
    other.id = res.rootId ∨ other.rootBenchmarkResultId = some res.rootId)).map
      BenchmarkResult.revisionNumber).foldr max (max 1 res.revisionNumber) + 1

inductive TrialLabel where
  | executed (plan : TrialPlan) (runId : Uuid) (dataSource : String)
      (outcomes : List TrialOutcome)
  | resumed (resultId runId : Uuid) (originalDuration : Rat) (originalRetries : Nat)
      (continued : Measured → TrialOutcome)
  | imported (runId evaluationCaseId : Uuid) (sampleId dataSource : String)
      (outcome : TrialOutcome)

/-- The pairs that a step adds, `none` where it raises.  Runs get new ids. -/
def addedPairs (store : TrialStore) : TrialLabel → Option (List (BenchmarkResult × TrialMetric))
  | .executed plan runId dataSource outcomes =>
    if store.results.rows.any (fun res => res.benchmarkRunId = runId) then none
    else some (trialPairs runId dataSource (prepareTrials plan) outcomes)
  | .resumed resultId runId originalDuration originalRetries continued =>
    match store.results.find? resultId with
    | none => none
    | some res =>
      match store.resumeBase res originalDuration originalRetries with
      | .error _ => none
      | .ok base =>
        if store.results.rows.any (fun other => other.benchmarkRunId = runId) then none
        else
          let outcome := continued base
          some [outcomePair runId res.evaluationCaseId (some res.rootId) (resultRevision store res)
            res.sampleId res.dataSource
            { outcome with measured := { outcome.measured with ttftMs := base.ttftMs } }]
  | .imported runId evaluationCaseId sampleId dataSource outcome =>
    if store.results.rows.any (fun res =>
        res.benchmarkRunId = runId ∧ res.sampleId = sampleId) then none
    else some [outcomePair runId (some evaluationCaseId) none 1 sampleId dataSource outcome]

def trialStep (before : TrialStore) (label : TrialLabel) (after : TrialStore) : Prop :=
  ∃ added, addedPairs before label = some added ∧ after.pairs = before.pairs ++ added

/-- The metrics of a bundle are those that were added beside its results. -/
def SelectsOwn (store : TrialStore) (bundle : EvidenceBundle) : Prop :=
  (∀ res ∈ bundle.results, res ∈ store.results) ∧ bundle.metrics = (store.pairs.filter (fun pair =>
      pair.1.id ∈ bundle.results.map BenchmarkResult.id)).map (fun pair => pair.2.toInferenceMetric)

/-- Every reader that takes run and sample for a key gets the rows of one pair. -/
structure SoundJoins (store : TrialStore) : Prop where
  result : ∀ pair ∈ store.pairs, store.results.rows.filter (fun res =>
    res.benchmarkRunId = pair.1.benchmarkRunId ∧ res.sampleId = pair.1.sampleId) = [pair.1]
  metric : ∀ pair ∈ store.pairs,
    store.metrics.filter (fun metric => metric.Measures pair.1) = [pair.2]
  collected : ∀ cases runs configurationId suiteId, SelectsOwn store
    (collectEvidence (store.evidence cases runs) configurationId suiteId)
  resumed : ∀ pair ∈ store.pairs, ∀ originalDuration originalRetries,
    store.resumeBase pair.1 originalDuration originalRetries =
      .ok (pair.2.measured.before originalDuration originalRetries)
  labelled : ∀ pair ∈ store.pairs,
    store.resultBySample pair.1.benchmarkRunId pair.1.sampleId = some pair.1

def sampleKey (pair : BenchmarkResult × TrialMetric) : Uuid × String :=
  (pair.1.benchmarkRunId, pair.1.sampleId)

/-- Run and sample name one pair, and a metric has the names of its result. -/
structure SampleKeyed (store : TrialStore) : Prop where
  one : (store.pairs.map sampleKey).Nodup
  own : ∀ pair ∈ store.pairs, (pair.2.benchmarkRunId, pair.2.sampleId) = sampleKey pair

section Keyed

variable {store : TrialStore} {pair other : BenchmarkResult × TrialMetric}

theorem filter_sampleKey {pairs : List (BenchmarkResult × TrialMetric)}
    (one : (pairs.map sampleKey).Nodup) (mem : pair ∈ pairs) :
    pairs.filter (fun other => sampleKey other = sampleKey pair) = [pair] := by
  induction pairs with
  | nil => cases mem
  | cons first rest ih =>
    rw [List.map_cons, List.nodup_cons] at one
    rcases List.mem_cons.mp mem with rfl | later
    · have alone : rest.filter (fun other => sampleKey other = sampleKey pair) = [] := by
        refine List.filter_eq_nil_iff.mpr (fun other otherMem same => one.1 ?_)
        exact of_decide_eq_true same ▸ List.mem_map_of_mem otherMem
      rw [List.filter_cons_of_pos (by simp), alone]
    · rw [List.filter_cons_of_neg, ih one.2 later]
      intro same
      exact one.1 (of_decide_eq_true same ▸ List.mem_map_of_mem later)

theorem SampleKeyed.measures_iff (keyed : SampleKeyed store) (mem : other ∈ store.pairs) :
    other.2.Measures pair.1 ↔ sampleKey other = sampleKey pair := by
  rw [← keyed.own other mem, sampleKey, Prod.mk.injEq]
  exact and_congr eq_comm eq_comm

theorem SampleKeyed.metrics_filter (keyed : SampleKeyed store) (mem : pair ∈ store.pairs) :
    store.metrics.filter (fun metric => metric.Measures pair.1) = [pair.2] := by
  have same : store.pairs.filter ((fun metric : TrialMetric =>
      decide (metric.Measures pair.1)) ∘ Prod.snd) = [pair] := by
    rw [← filter_sampleKey keyed.one mem]
    exact List.filter_congr (fun other otherMem =>
      decide_eq_decide.mpr (keyed.measures_iff otherMem))
  rw [TrialStore.metrics, List.filter_map, same, List.map_singleton]

theorem SampleKeyed.results_filter (keyed : SampleKeyed store) (mem : pair ∈ store.pairs) :
    store.results.rows.filter (fun res => res.benchmarkRunId = pair.1.benchmarkRunId ∧
      res.sampleId = pair.1.sampleId) = [pair.1] := by
  have same : store.pairs.filter ((fun res : BenchmarkResult =>
      decide (res.benchmarkRunId = pair.1.benchmarkRunId ∧ res.sampleId = pair.1.sampleId)) ∘
        Prod.fst) = [pair] := by
    rw [← filter_sampleKey keyed.one mem]
    exact List.filter_congr (fun other _ => decide_eq_decide.mpr Prod.mk_inj.symm)
  rw [TrialStore.results, List.filter_map, same, List.map_singleton]

theorem SampleKeyed.selectsOwn (keyed : SampleKeyed store) (cases : Table StoredCase)
    (runs : Table BenchmarkRun) (configurationId suiteId : Uuid) :
    SelectsOwn store (collectEvidence (store.evidence cases runs) configurationId suiteId) := by
  have within : ∀ res ∈ (collectEvidence (store.evidence cases runs) configurationId
      suiteId).results, res ∈ store.results := fun res mem =>
    (List.mem_filter.mp ((latestOf_revisions _).within res mem)).1
  refine ⟨within, ?_⟩
  have chosen : (collectEvidence (store.evidence cases runs) configurationId suiteId).metrics =
      (store.metrics.map TrialMetric.toInferenceMetric).filter (fun metric =>
        (collectEvidence (store.evidence cases runs) configurationId suiteId).results.any
          (fun res => metric.Measures res)) := rfl
  rw [chosen, TrialStore.metrics, List.map_map, List.filter_map]
  refine congrArg (List.map _) (List.filter_congr (fun pair mem => ?_))
  rw [eq_comm, Bool.eq_iff_iff, decide_eq_true_iff, List.mem_map]
  simp only [Function.comp_apply, List.any_eq_true, decide_eq_true_iff]
  constructor
  · rintro ⟨res, selected, same⟩
    obtain rfl : res = pair.1 := store.results.eq_of_key_eq (within res selected)
      (List.mem_map_of_mem mem) same
    exact ⟨_, selected, (keyed.measures_iff mem).mpr rfl⟩
  · rintro ⟨res, selected, measures⟩
    obtain ⟨other, otherMem, rfl⟩ := List.mem_map.mp (within res selected)
    have same : other = pair := List.inj_on_of_nodup_map keyed.one otherMem mem
      ((keyed.measures_iff mem).mp measures).symm
    exact ⟨_, selected, by rw [same]⟩

theorem SampleKeyed.soundJoins (keyed : SampleKeyed store) : SoundJoins store where
  result _ mem := keyed.results_filter mem
  metric _ mem := keyed.metrics_filter mem
  collected := keyed.selectsOwn
  resumed pair mem originalDuration originalRetries := by
    have found : store.metric? pair.1 = some pair.2 := by
      rw [TrialStore.metric?, ← List.head?_filter, keyed.metrics_filter mem, List.head?_cons]
    rw [TrialStore.resumeBase, found]
  labelled pair mem := by
    have named := keyed.results_filter mem
    rw [TrialStore.resultBySample, ← List.head?_filter, List.filter_reverse, List.filter_filter]
    simp only [Bool.decide_and, Bool.and_comm] at named ⊢
    rw [named, List.reverse_singleton, List.head?_cons]

end Keyed

theorem trialPairs_spec (runId : Uuid) (dataSource : String) (trials : List PreparedTrial)
    (outcomes : List TrialOutcome) :
    ((trialPairs runId dataSource trials outcomes).map sampleKey).Sublist
        (trials.map (fun trial => (runId, trial.sampleId))) ∧
      ∀ pair ∈ trialPairs runId dataSource trials outcomes,
        (pair.2.benchmarkRunId, pair.2.sampleId) = sampleKey pair := by
  induction trials generalizing outcomes with
  | nil => simp [trialPairs]
  | cons trial rest ih =>
    cases outcomes with
    | nil => simp [trialPairs]
    | cons outcome later =>
      obtain ⟨sublist, own⟩ := ih later
      exact ⟨sublist.cons_cons _, fun pair mem =>
        (List.mem_cons.mp mem).elim (fun same => same ▸ rfl) (own pair)⟩

variable {before after : TrialStore} {added : List (BenchmarkResult × TrialMetric)}

theorem SampleKeyed.append (keyed : SampleKeyed before)
    (grows : after.pairs = before.pairs ++ added) (one : (added.map sampleKey).Nodup)
    (own : ∀ pair ∈ added, (pair.2.benchmarkRunId, pair.2.sampleId) = sampleKey pair)
    (fresh : ∀ pair ∈ added, ∀ res ∈ before.results,
      ¬ (res.benchmarkRunId = pair.1.benchmarkRunId ∧ res.sampleId = pair.1.sampleId)) :
    SampleKeyed after := by
  constructor
  · rw [grows, List.map_append, List.nodup_append]
    refine ⟨keyed.one, one, fun oldKey oldMem newKey newMem same => ?_⟩
    obtain ⟨old, stored, rfl⟩ := List.mem_map.mp oldMem
    obtain ⟨pair, isNew, rfl⟩ := List.mem_map.mp newMem
    exact fresh pair isNew old.1 (List.mem_map_of_mem stored) (Prod.mk.inj same)
  · intro pair mem
    rw [grows, List.mem_append] at mem
    exact mem.elim (keyed.own pair) (own pair)

/-- The plan of an execution keeps its samples apart. -/
def TrialLabel.Admits (plans : TrialPlan → Prop) : TrialLabel → Prop
  | .executed plan _ _ _ => plans plan
  | _ => True

theorem TrialLabel.Admits.mono {plans others : TrialPlan → Prop} {label : TrialLabel}
    (admits : label.Admits plans) (within : ∀ plan, plans plan → others plan) :
    label.Admits others := by
  cases label with
  | executed plan => exact within plan admits
  | resumed | imported => trivial

theorem SampleKeyed.step {label : TrialLabel} (keyed : SampleKeyed before)
    (apart : label.Admits KeepsApart) (step : trialStep before label after) :
    SampleKeyed after := by
  obtain ⟨added, adds, grows⟩ := step
  cases label with
  | executed plan runId dataSource outcomes =>
    rw [addedPairs] at adds
    split at adds
    · cases adds
    · next unused =>
      obtain rfl := Option.some.inj adds
      obtain ⟨sublist, own⟩ := trialPairs_spec runId dataSource (prepareTrials plan) outcomes
      have named : ((prepareTrials plan).map (fun trial => (runId, trial.sampleId))).Nodup := by
        have ids := (sampleIds_nodup_iff plan).mpr apart
        have keys := ids.map (Prod.mk_right_injective runId)
        rwa [sampleIds, List.map_map] at keys
      refine keyed.append grows (named.sublist sublist) own (fun pair mem res stored same => ?_)
      obtain ⟨trial, -, isKey⟩ := List.mem_map.mp (sublist.subset (List.mem_map_of_mem mem))
      have isRun : runId = pair.1.benchmarkRunId := (Prod.mk.inj isKey).1
      exact unused (List.any_eq_true.mpr ⟨res, stored, decide_eq_true (same.1.trans isRun.symm)⟩)
  | resumed resultId runId originalDuration originalRetries continued =>
    rw [addedPairs] at adds
    cases found : before.results.find? resultId with
    | none => simp only [found, reduceCtorEq] at adds
    | some res =>
      cases read : before.resumeBase res originalDuration originalRetries with
      | error message => simp only [found, read, reduceCtorEq] at adds
      | ok base =>
        simp only [found, read] at adds
        split at adds
        · cases adds
        · next unused =>
          obtain rfl := Option.some.inj adds
          refine keyed.append grows (List.nodup_singleton _) (by simp [outcomePair, sampleKey])
            (fun pair mem other stored same => unused (List.any_eq_true.mpr ⟨other, stored, ?_⟩))
          obtain rfl := List.mem_singleton.mp mem
          exact decide_eq_true same.1
  | imported runId evaluationCaseId sampleId dataSource outcome =>
    rw [addedPairs] at adds
    split at adds
    · cases adds
    · next unused =>
      obtain rfl := Option.some.inj adds
      refine keyed.append grows (List.nodup_singleton _) (by simp [outcomePair, sampleKey])
        (fun pair mem other stored same => unused (List.any_eq_true.mpr ⟨other, stored, ?_⟩))
      obtain rfl := List.mem_singleton.mp mem
      exact decide_eq_true same

def emptyTrialStore : TrialStore := ⟨[], List.nodup_nil⟩

/-- The ids of every plan are keys that fit, and in every store that runs, resumes and imports
lead to, the readers join rows of one pair. -/
def FaithfulSamples (plans : TrialPlan → Prop) : Prop :=
  (∀ plan, plans plan → (sampleIds plan).Nodup ∧ ∀ id ∈ sampleIds plan, id.length ≤ 120) ∧
    ∀ labels store, Execution trialStep emptyTrialStore labels store →
      (∀ label ∈ labels, label.Admits plans) → SoundJoins store

theorem faithfulSamples_iff (plans : TrialPlan → Prop) :
    FaithfulSamples plans ↔ ∀ plan, plans plan → KeepsApart plan := by
  constructor
  · intro faithful plan isPlan
    exact (sampleIds_nodup_iff plan).mp (faithful.1 plan isPlan).1
  · intro apart
    refine ⟨fun plan isPlan => ⟨(sampleIds_nodup_iff plan).mpr (apart plan isPlan),
      sampleIds_short plan⟩, fun labels store ran admitted => ?_⟩
    have keyed : (∀ label ∈ labels, label.Admits KeepsApart) → SampleKeyed store := by
      refine ran.invariant_of_labels (fun labels store =>
        (∀ label ∈ labels, label.Admits KeepsApart) → SampleKeyed store)
        (fun _ => ⟨by simp [emptyTrialStore], by simp [emptyTrialStore]⟩) ?_
      intro past before label after keyed step kept
      rw [List.forall_mem_append] at kept
      exact (keyed kept.1).step (kept.2 label (List.mem_singleton_self label)) step
    exact (keyed (fun label mem => (admitted label mem).mono apart)).soundJoins

/-! ## Ids that share what is left of them -/

def longCaseId (last : Char) : String := String.ofList (List.replicate 110 'c' ++ [last])

def clippedPlan : TrialPlan where
  cases := [⟨1, longCaseId 'a'⟩, ⟨2, longCaseId 'b'⟩]
  trialsPerCase := 2
  distinct := by decide +kernel
  short := by decide +kernel
  positive := by decide
  limited := by decide

def trialOutcome (resultId : Uuid) : TrialOutcome :=
  ⟨resultId, 0, none, none, fun _ => none, false, ⟨0, 0, 0, 0, 0⟩⟩

def clippedStore : TrialStore where
  pairs := trialPairs 7 "local_actual_runtime" (prepareTrials clippedPlan)
    [trialOutcome 11, trialOutcome 12, trialOutcome 13, trialOutcome 14]
  keysNodup := by decide +kernel

/-- The first trials of both cases are one sample of the run. -/
theorem clippedPlan_joined : ¬ FaithfulSamples (fun plan => plan = clippedPlan) ∧
    (∃ label, trialStep emptyTrialStore label clippedStore) ∧ ¬ SoundJoins clippedStore := by
  refine ⟨fun faithful => ?_, ⟨.executed clippedPlan 7 "local_actual_runtime"
    [trialOutcome 11, trialOutcome 12, trialOutcome 13, trialOutcome 14], _, rfl, rfl⟩,
    fun joins => ?_⟩
  · have ids := (faithful.1 clippedPlan rfl).1
    revert ids
    decide +kernel
  · have one := congrArg (fun rows => rows.map BenchmarkResult.id)
      (joins.result _ (List.mem_of_getElem? (i := 0) rfl))
    revert one
    decide +kernel

end ModelAtlas.Validation
