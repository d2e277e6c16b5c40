import ModelAtlas.Traffic.BatchJobs

/-!
# What a traffic job writes

The session of a body holds the rows of the events it is done with, each once,
and its commit adds rows of its own job only.  This holds of every run.
-/

namespace ModelAtlas.Traffic

open Foundations Jobs

variable {event : AgentEvidenceImportCreate} {worker : Nat} {prog : ImportProgress}

def resultKey (row : BenchmarkResult) : Uuid × String × Option String :=
  (row.benchmarkRunId, row.sampleId, row.sourceEventId)

def metricKey (row : InferenceMetric) : Uuid × String :=
  (row.benchmarkRunId, row.sampleId)

def eventKey (event : AgentEvidenceImportCreate) : Uuid × String × Option String :=
  (event.benchmarkRunId, event.sampleId, some event.provenance.sourceEventId)

def sampleKey (event : AgentEvidenceImportCreate) : Uuid × String :=
  (event.benchmarkRunId, event.sampleId)

namespace EvidenceTables

def resultsOf (tables : EvidenceTables) (jobId : Uuid) : List BenchmarkResult :=
  tables.results.filter (fun row => row.writer = some jobId)

def metricsOf (tables : EvidenceTables) (jobId : Uuid) : List InferenceMetric :=
  tables.metrics.filter (fun row => row.writer = some jobId)

end EvidenceTables

/-- The job wrote one result row and one metric row for each event, and no
others. -/
structure PersistsBatch (tables : EvidenceTables) (jobId : Uuid)
    (events : List AgentEvidenceImportCreate) : Prop where
  oneResult : ∀ event ∈ events,
    ((tables.resultsOf jobId).map resultKey).count (eventKey event) = 1
  oneMetric : ∀ event ∈ events,
    ((tables.metricsOf jobId).map metricKey).count (sampleKey event) = 1
  noOtherResult : (tables.resultsOf jobId).length = events.length
  noOtherMetric : (tables.metricsOf jobId).length = events.length

structure PersistsNothing (tables : EvidenceTables) (jobId : Uuid) : Prop where
  noResult : tables.resultsOf jobId = []
  noMetric : tables.metricsOf jobId = []

structure ImportedPart (jobId : Uuid) (done : List AgentEvidenceImportCreate)
    (imported : List ImportedEvidence) : Prop where
  resultKeys : imported.map (fun item => resultKey item.result) =
    done.map eventKey
  metricKeys : imported.map (fun item => metricKey item.metric) =
    done.map sampleKey
  resultWriters : ∀ item ∈ imported, item.result.writer = some jobId
  metricWriters : ∀ item ∈ imported, item.metric.writer = some jobId
  distinct : (done.map sampleKey).Nodup

namespace ImportedPart

variable {jobId : Uuid} {done : List AgentEvidenceImportCreate}
  {imported : List ImportedEvidence}

theorem nil : ImportedPart jobId [] [] :=
  ⟨rfl, rfl, by simp, by simp, by simp⟩

theorem sampleKey_fresh (part : ImportedPart jobId done imported)
    (fresh : ∀ row ∈ imported.map ImportedEvidence.result, duplicates event row = false) :
    sampleKey event ∉ done.map sampleKey := by
  intro mem
  obtain ⟨earlier, earlierMem, sameSample⟩ := List.mem_map.mp mem
  have keyMem : eventKey earlier ∈
      imported.map (fun item => resultKey item.result) := by
    rw [part.resultKeys]
    exact List.mem_map_of_mem earlierMem
  obtain ⟨item, itemMem, sameKey⟩ := List.mem_map.mp keyMem
  have notDuplicate := fresh item.result (List.mem_map_of_mem itemMem)
  simp only [resultKey, eventKey, Prod.mk.injEq] at sameKey
  simp only [sampleKey, Prod.mk.injEq] at sameSample
  simp [duplicates, sameKey, sameSample] at notDuplicate

theorem snoc (part : ImportedPart jobId done imported) {item : ImportedEvidence}
    (imports : ImportsEvent (some jobId) event item)
    (fresh : ∀ row ∈ imported.map ImportedEvidence.result, duplicates event row = false) :
    ImportedPart jobId (done ++ [event]) (imported ++ [item]) where
  resultKeys := by
    have own : resultKey item.result = eventKey event := by
      simp [resultKey, eventKey, imports.resultRun, imports.resultSample,
        imports.resultEvent]
    rw [List.map_append, List.map_append, part.resultKeys, List.map_singleton,
      List.map_singleton, own]
  metricKeys := by
    have own : metricKey item.metric = sampleKey event := by
      simp [metricKey, sampleKey, imports.metricRun, imports.metricSample]
    rw [List.map_append, List.map_append, part.metricKeys, List.map_singleton,
      List.map_singleton, own]
  resultWriters := by
    intro other mem
    rcases List.mem_append.mp mem with old | new
    · exact part.resultWriters other old
    · rw [List.mem_singleton.mp new]
      exact imports.resultWriter
  metricWriters := by
    intro other mem
    rcases List.mem_append.mp mem with old | new
    · exact part.metricWriters other old
    · rw [List.mem_singleton.mp new]
      exact imports.metricWriter
  distinct := by
    have notDone := part.sampleKey_fresh fresh
    rw [List.map_append, List.map_singleton, List.nodup_append]
    refine ⟨part.distinct, List.nodup_singleton _, ?_⟩
    intro earlier earlierMem last lastMem same
    rw [List.mem_singleton.mp lastMem] at same
    exact notDone (same ▸ earlierMem)

theorem length_eq (part : ImportedPart jobId done imported) :
    imported.length = done.length := by
  have lengths := congrArg List.length part.metricKeys
  simpa using lengths

theorem resultsOf_add (part : ImportedPart jobId done imported) (tables : EvidenceTables) :
    (tables.add imported).resultsOf jobId =
      tables.resultsOf jobId ++ imported.map ImportedEvidence.result := by
  have own : (imported.map ImportedEvidence.result).filter
      (fun row => row.writer = some jobId) =
        imported.map ImportedEvidence.result := by
    apply List.filter_eq_self.mpr
    intro row mem
    obtain ⟨item, itemMem, rfl⟩ := List.mem_map.mp mem
    simpa using part.resultWriters item itemMem
  simp only [EvidenceTables.resultsOf, EvidenceTables.add, List.filter_append, own]

theorem metricsOf_add (part : ImportedPart jobId done imported) (tables : EvidenceTables) :
    (tables.add imported).metricsOf jobId =
      tables.metricsOf jobId ++ imported.map ImportedEvidence.metric := by
  have own : (imported.map ImportedEvidence.metric).filter
      (fun row => row.writer = some jobId) =
        imported.map ImportedEvidence.metric := by
    apply List.filter_eq_self.mpr
    intro row mem
    obtain ⟨item, itemMem, rfl⟩ := List.mem_map.mp mem
    simpa using part.metricWriters item itemMem
  simp only [EvidenceTables.metricsOf, EvidenceTables.add, List.filter_append, own]

theorem resultsOf_add_of_ne (part : ImportedPart jobId done imported) (tables : EvidenceTables)
    {other : Uuid} (different : other ≠ jobId) :
    (tables.add imported).resultsOf other = tables.resultsOf other := by
  have none : (imported.map ImportedEvidence.result).filter
      (fun row => row.writer = some other) = [] := by
    apply List.filter_eq_nil_iff.mpr
    intro row mem
    obtain ⟨item, itemMem, rfl⟩ := List.mem_map.mp mem
    rw [part.resultWriters item itemMem]
    simpa using Ne.symm different
  simp only [EvidenceTables.resultsOf, EvidenceTables.add, List.filter_append,
    none, List.append_nil]

theorem metricsOf_add_of_ne (part : ImportedPart jobId done imported) (tables : EvidenceTables)
    {other : Uuid} (different : other ≠ jobId) :
    (tables.add imported).metricsOf other = tables.metricsOf other := by
  have none : (imported.map ImportedEvidence.metric).filter
      (fun row => row.writer = some other) = [] := by
    apply List.filter_eq_nil_iff.mpr
    intro row mem
    obtain ⟨item, itemMem, rfl⟩ := List.mem_map.mp mem
    rw [part.metricWriters item itemMem]
    simpa using Ne.symm different
  simp only [EvidenceTables.metricsOf, EvidenceTables.add, List.filter_append,
    none, List.append_nil]

theorem persistsBatch (part : ImportedPart jobId done imported) {tables : EvidenceTables}
    (nothing : PersistsNothing tables jobId) :
    PersistsBatch (tables.add imported) jobId done := by
  have results : (tables.add imported).resultsOf jobId =
      imported.map ImportedEvidence.result := by
    rw [part.resultsOf_add, nothing.noResult, List.nil_append]
  have metrics : (tables.add imported).metricsOf jobId =
      imported.map ImportedEvidence.metric := by
    rw [part.metricsOf_add, nothing.noMetric, List.nil_append]
  have resultKeys : ((tables.add imported).resultsOf jobId).map resultKey = done.map eventKey := by
    rw [results, List.map_map]
    exact part.resultKeys
  have metricKeys : ((tables.add imported).metricsOf jobId).map metricKey = done.map sampleKey := by
    rw [metrics, List.map_map]
    exact part.metricKeys
  -- Events with distinct samples have distinct result keys.
  have eventsDistinct : (done.map eventKey).Nodup := by
    apply List.Nodup.of_map (fun triple => (triple.1, triple.2.1))
    rw [List.map_map]
    exact part.distinct
  refine ⟨?_, ?_, ?_, ?_⟩
  · intro event mem
    rw [resultKeys]
    exact List.count_eq_one_of_mem eventsDistinct (List.mem_map_of_mem mem)
  · intro event mem
    rw [metricKeys]
    exact List.count_eq_one_of_mem part.distinct (List.mem_map_of_mem mem)
  · rw [results, List.length_map, part.length_eq]
  · rw [metrics, List.length_map, part.length_eq]

end ImportedPart

def ProgressOf (jobId : Uuid) (events : List AgentEvidenceImportCreate)
    (prog : ImportProgress) : Prop :=
  ∃ done, events = done ++ prog.remaining ∧ ImportedPart jobId done prog.imported

section EveryRun

open TrafficState

/-- Each session is one of its job's events, and rows are written by jobs that
exist. -/
structure EvidenceInvariant (state : TrafficState) : Prop where
  sessions : ∀ worker jobId token prog,
    state.queue.worker worker = .running jobId token →
    state.body worker = .importing prog →
      ∃ job, state.importJob? worker = some job ∧
        ProgressOf jobId (batchEvents job.payloadJson) prog
  resultWriters : ∀ jobId, state.queue.store.uuids ≤ jobId →
    state.evidence.resultsOf jobId = []
  metricWriters : ∀ jobId, state.queue.store.uuids ≤ jobId →
    state.evidence.metricsOf jobId = []

variable {env : TrafficEnvironment} {before after : TrafficState}

theorem importJob?_of_running {state : TrafficState} {jobId token : Uuid} {job : TrafficJob}
    (running : state.queue.worker worker = .running jobId token)
    (found : state.queue.store.job? jobId = some job)
    (traffic : job.jobType = .trafficEvidenceImport) :
    state.importJob? worker = some job := by
  unfold importJob?
  rw [running]
  simp [found, traffic]

theorem sessions_of_queue_step (inv : EvidenceInvariant before) {action : TrafficQueueAction}
    {queue : TrafficQueue} (taken : before.queue.next env.jobs action = some queue)
    {jobId token : Uuid} (running : queue.worker worker = .running jobId token)
    (importing : before.bodyAfter action worker = .importing prog) :
    ∃ job, TrafficState.importJob?
        { before with queue := queue, body := before.bodyAfter action } worker = some job ∧
      ProgressOf jobId (batchEvents job.payloadJson) prog := by
  have notStarted : action ≠ .start worker := by
    rintro rfl
    simp [bodyAfter] at importing
  have runningBefore : before.queue.worker worker = .running jobId token := by
    rcases running_of_step taken running with ⟨_, kept⟩ | started
    · exact kept
    · exact absurd started notStarted
  have importingBefore : before.body worker = .importing prog := by
    unfold bodyAfter at importing
    split at importing
    · next starting =>
        by_cases same : worker = starting
        · subst starting
          exact absurd rfl notStarted
        · rwa [Function.update_of_ne same] at importing
    · next crashing =>
        by_cases same : worker = crashing
        · subst crashing
          simp at importing
        · rwa [Function.update_of_ne same] at importing
    · exact importing
  obtain ⟨job, importJob, session⟩ :=
    inv.sessions worker jobId token prog runningBefore
      importingBefore
  obtain ⟨runningToken, phase, found, traffic⟩ := importJob?_eq_some importJob
  rw [runningBefore] at phase
  obtain ⟨atJob, _⟩ := WorkerPhase.running.inj phase
  rw [← atJob] at found
  obtain ⟨later, laterFound, same⟩ := sameJob_of_step taken found
  refine ⟨later, ?_, ?_⟩
  · apply importJob?_of_running running laterFound
    exact same.jobType.trans traffic
  · rw [same.payloadJson]
    exact session

namespace EvidenceInvariant

theorem initial (benchmarkRuns : List BenchmarkRun) (evaluationCases : List EvaluationCase) :
    EvidenceInvariant (TrafficState.initial benchmarkRuns evaluationCases) where
  sessions := by simp [TrafficState.initial]
  resultWriters _ _ := rfl
  metricWriters _ _ := rfl

theorem setBody (inv : EvidenceInvariant before) {body : ImportBody} {job : TrafficJob}
    (running : before.importJob? worker = some job) (session : ∀ prog, body = .importing prog →
      ProgressOf job.id (batchEvents job.payloadJson) prog) :
    EvidenceInvariant (before.setBody worker body) where
  sessions other jobId token prog phase importing := by
    by_cases same : other = worker
    · subst other
      obtain ⟨runningToken, ownPhase, _⟩ := importJob?_eq_some running
      have atJob : job.id = jobId :=
        (WorkerPhase.running.inj (ownPhase.symm.trans phase)).1
      refine ⟨job, running, ?_⟩
      rw [← atJob]
      exact session prog (by simpa [TrafficState.setBody] using importing)
    · apply inv.sessions other jobId token prog phase
      simpa [TrafficState.setBody, Function.update_of_ne same] using importing
  resultWriters := inv.resultWriters
  metricWriters := inv.metricWriters

theorem add (inv : EvidenceInvariant before) {jobId : Uuid} {done : List AgentEvidenceImportCreate}
    {imported : List ImportedEvidence} (part : ImportedPart jobId done imported)
    (drawn : jobId < before.queue.store.uuids) :
    EvidenceInvariant
      { before with evidence := before.evidence.add imported } where
  sessions := inv.sessions
  resultWriters other undrawn := by
    have different : other ≠ jobId :=
      Nat.ne_of_gt (Nat.lt_of_lt_of_le drawn undrawn)
    rw [← inv.resultWriters other undrawn]
    exact part.resultsOf_add_of_ne before.evidence different
  metricWriters other undrawn := by
    have different : other ≠ jobId :=
      Nat.ne_of_gt (Nat.lt_of_lt_of_le drawn undrawn)
    rw [← inv.metricWriters other undrawn]
    exact part.metricsOf_add_of_ne before.evidence different

end EvidenceInvariant

theorem resultsOf_addOthers (tables : EvidenceTables) (jobId : Uuid)
    (benchmarkRuns : List BenchmarkRun) (evaluationCases : List EvaluationCase)
    (results : List BenchmarkResult) (metrics : List InferenceMetric) :
    (tables.addOthers benchmarkRuns evaluationCases results metrics).resultsOf
      jobId = tables.resultsOf jobId := by
  simp [EvidenceTables.resultsOf, EvidenceTables.addOthers]

theorem metricsOf_addOthers (tables : EvidenceTables) (jobId : Uuid)
    (benchmarkRuns : List BenchmarkRun) (evaluationCases : List EvaluationCase)
    (results : List BenchmarkResult) (metrics : List InferenceMetric) :
    (tables.addOthers benchmarkRuns evaluationCases results metrics).metricsOf
      jobId = tables.metricsOf jobId := by
  simp [EvidenceTables.metricsOf, EvidenceTables.addOthers]

theorem progressOf_openImport {payload : Option TrafficJobPayload}
    (opened : openImport payload = .importing prog) (jobId : Uuid) :
    ProgressOf jobId (batchEvents payload) prog := by
  cases payload with
  | none =>
    cases opened
  | some stored =>
    simp only [openImport] at opened
    split at opened
    · cases opened
    · split at opened
      · cases opened
      · obtain rfl := ImportBody.importing.inj opened
        exact ⟨[], rfl, ImportedPart.nil⟩

theorem progressOf_afterEvent {jobId : Uuid} {events rest : List AgentEvidenceImportCreate}
    {later : ImportProgress} {evidenceEnvironment : EvidenceEnvironment} {tables : EvidenceTables}
    {resultId metricId : Uuid} (session : ProgressOf jobId events prog)
    (remaining : prog.remaining = event :: rest)
    (continued : prog.afterEvent rest (importProductionAgentEvidence evidenceEnvironment tables
        (tables.results ++ prog.imported.map ImportedEvidence.result)
        prog.signerIdentity event (some jobId) resultId metricId) = .importing later) :
    ProgressOf jobId events later := by
  unfold ImportProgress.afterEvent at continued
  split at continued
  · cases continued
  · next item accepted =>
      obtain rfl := ImportBody.importing.inj continued
      obtain ⟨imports, fresh⟩ := importProductionAgentEvidence_eq_ok accepted
      obtain ⟨done, split, part⟩ := session
      refine ⟨done ++ [event], ?_, part.snoc imports ?_⟩
      · rw [split, remaining, List.append_assoc]
        rfl
      · intro row mem
        exact fresh row (List.mem_append_right _ mem)

theorem evidenceInvariant_step {action : TrafficAction} (inv : EvidenceInvariant before)
    (taken : Step env before action after) :
    EvidenceInvariant after := by
  cases action with
  | queue action =>
    obtain ⟨_, queue, stepped, rfl⟩ := next_queue taken
    have drawn := uuids_le_of_step stepped
    exact {
      sessions := fun worker jobId token prog running importing =>
        sessions_of_queue_step inv stepped running importing
      resultWriters := fun jobId undrawn =>
        inv.resultWriters jobId (Nat.le_trans drawn undrawn)
      metricWriters := fun jobId undrawn =>
        inv.metricWriters jobId (Nat.le_trans drawn undrawn) }
  | openImport worker =>
    obtain ⟨job, running, _, rfl⟩ := next_openImport taken
    exact inv.setBody running (fun prog opened => progressOf_openImport opened job.id)
  | importEvent worker resultId metricId =>
    obtain ⟨job, prog, event, rest, running, importing, remaining, rfl⟩ :=
      next_importEvent taken
    obtain ⟨token, phase, _⟩ := importJob?_eq_some running
    obtain ⟨sameJob, sameRunning, session⟩ :=
      inv.sessions worker job.id token prog phase importing
    obtain rfl : job = sameJob :=
      Option.some.inj (running.symm.trans sameRunning)
    exact inv.setBody running (fun later continued =>
        progressOf_afterEvent session remaining continued)
  | interruptImport worker raised =>
    obtain ⟨job, prog, running, _, rfl⟩ := next_interruptImport taken
    exact inv.setBody running (fun later ended => by cases ended)
  | commitImport worker =>
    obtain ⟨job, prog, running, importing, _, rfl⟩ :=
      next_commitImport taken
    obtain ⟨token, phase, found, _⟩ := importJob?_eq_some running
    obtain ⟨_, _, done, _, part⟩ :=
      inv.sessions worker job.id token prog phase importing
    have kept : EvidenceInvariant (before.setBody worker (.ended (.ok prog.outcome))) :=
      inv.setBody running (fun later ended => by cases ended)
    exact kept.add part (JobStore.job?_id_lt found)
  | endImport worker =>
    obtain ⟨job, outcome, queue, running, ended, stepped, rfl⟩ :=
      next_endImport taken
    have drawn := uuids_le_of_step stepped
    exact {
      sessions := fun other jobId token prog runningAfter importing =>
        sessions_of_queue_step inv stepped runningAfter importing
      resultWriters := fun jobId undrawn =>
        inv.resultWriters jobId (Nat.le_trans drawn undrawn)
      metricWriters := fun jobId undrawn =>
        inv.metricWriters jobId (Nat.le_trans drawn undrawn) }
  | writeEvidence benchmarkRuns evaluationCases results metrics =>
    obtain rfl := Option.some.inj taken
    exact {
      sessions := inv.sessions
      resultWriters := fun jobId undrawn => by
        rw [resultsOf_addOthers]
        exact inv.resultWriters jobId undrawn
      metricWriters := fun jobId undrawn => by
        rw [metricsOf_addOthers]
        exact inv.metricWriters jobId undrawn }

end EveryRun

end ModelAtlas.Traffic
