import ModelAtlas.Jobs.Workers
import ModelAtlas.Reliability.Incidents

/-!
# Deliveries and their jobs

A capture cycle commits the deliveries of its transitions and enqueues a job for
each of them afterwards; so does the request of a test page. What is not
enqueued yet is lost with its worker or request.
-/

namespace ModelAtlas.Reliability

open Foundations Approval Jobs

variable {jobId deliveryId : Uuid} {pager : Pager}

/-! ## What a capture queues -/

/-- The deliveries after a step are those before it and, without a job, those
whose ids it returned. -/
def Queues (store : ReliabilityStore) (ids : List Uuid) (next : ReliabilityStore) : Prop :=
  ∀ delivery ∈ next.deliveries, delivery ∈ store.deliveries ∨
    (delivery.id ∈ ids ∧ delivery.deliveryJobId = none)

theorem Queues.trans {store middle last : ReliabilityStore} {ids others : List Uuid}
    (first : Queues store ids middle) (second : Queues middle others last) :
    Queues store (ids ++ others) last := by
  intro delivery mem
  rcases second delivery mem with old | ⟨new, noJob⟩
  · rcases first delivery old with older | ⟨new, noJob⟩
    · exact Or.inl older
    · exact Or.inr ⟨List.mem_append_left others new, noJob⟩
  · exact Or.inr ⟨List.mem_append_right ids new, noJob⟩

theorem queues_of_same {store next : ReliabilityStore} (ids : List Uuid)
    (same : next.deliveries = store.deliveries) : Queues store ids next := by
  intro delivery mem
  rw [same] at mem
  exact Or.inl mem

theorem Queues.of_same {store middle next : ReliabilityStore}
    {ids : List Uuid} (held : Queues middle ids next)
    (same : middle.deliveries = store.deliveries) : Queues store ids next := by
  intro delivery mem
  rw [← same]
  exact held delivery mem

section Queues

variable {env : ReliabilityEnvironment}
  {settings : ReliabilitySettings} {query : LatestActionQuery}
  {store next : ReliabilityStore} {observedAt : Time} {ids : List Uuid}

theorem queues_createDelivery {incident : OperationalAlertIncident} {transition : TransitionType}
    (created : createDelivery settings store incident transition observedAt =
      .ok (next, ids)) : Queues store ids next := by
  rcases createDelivery_ok created with
    ⟨_, rfl, rfl⟩ | ⟨signingKeyId, provider, _, _, rfl, rfl⟩
  · exact queues_of_same [] rfl
  · intro delivery mem
    rcases ReliabilityStore.mem_insertDelivery.mp mem with old | rfl
    · exact Or.inl old
    · exact Or.inr ⟨List.mem_singleton_self _, rfl⟩

theorem queues_reconcileAlert {openIncidents : List OperationalAlertIncident} {state : AlertState}
    (done : reconcileAlert env settings query openIncidents observedAt
      store state = .ok (next, ids)) : Queues store ids next := by
  rw [reconcileAlert] at done
  split at done
  · rw [openIncident] at done
    split at done
    · cases done
    · exact (queues_createDelivery done).of_same rfl
  · simp only [] at done
    rcases maybeEscalateIncident_ok done with
      ⟨_, rfl, rfl⟩ | ⟨_, recorded, appended, delivered⟩
    · exact queues_of_same [] rfl
    · obtain ⟨_, rfl⟩ := appendIncidentAction_ok appended
      exact (queues_createDelivery delivered).of_same rfl

theorem queues_resolveIncident {incident : OperationalAlertIncident}
    (resolved : resolveIncident settings observedAt store incident =
      .ok (next, ids)) : Queues store ids next := by
  rw [resolveIncident] at resolved
  exact (queues_createDelivery resolved).of_same rfl

theorem queues_forEach {Item : Type} {body : ReliabilityStore → Item →
      Except ServiceError (ReliabilityStore × List Uuid)}
    (turn : ∀ item store next ids, body store item = .ok (next, ids) → Queues store ids next) :
    ∀ {items : List Item} {store last : ReliabilityStore} {ids : List Uuid},
      forEach body items store = .ok (last, ids) → Queues store ids last := by
  intro items
  induction items with
  | nil =>
    intro store last ids done
    rw [forEach] at done
    obtain ⟨rfl, rfl⟩ := Prod.mk.inj (Except.ok.inj done)
    exact queues_of_same [] rfl
  | cons item rest ih =>
    intro store last ids done
    rw [forEach] at done
    split at done
    · cases done
    · next middle first taken =>
        split at done
        · cases done
        · next final others remaining =>
            obtain ⟨rfl, rfl⟩ := Prod.mk.inj (Except.ok.inj done)
            exact (turn item store middle first taken).trans (ih remaining)

theorem queues_capture {locked : List Uuid} {call : CaptureCall}
    (done : captureOperationalReliabilityCycle env settings locked
      store call = .ok (next, ids)) : Queues store ids next := by
  rw [captureOperationalReliabilityCycle] at done
  split at done
  · cases done
  · split at done
    · obtain ⟨rfl, rfl⟩ := Prod.mk.inj (Except.ok.inj done)
      exact queues_of_same [] rfl
    · rw [captureBucket] at done
      split at done
      · cases done
      · obtain ⟨fired, firedIds, resolvedIds, alertsDone, restDone, rfl⟩ :=
          reconcileOperationalIncidents_ok done
        have alerts := queues_forEach (fun _ _ _ _ taken => queues_reconcileAlert taken) alertsDone
        have rest := queues_forEach (fun _ _ _ _ taken => queues_resolveIncident taken) restDone
        exact (alerts.of_same rfl).trans rest

theorem queues_testPage {call : TestPageCall}
    (done : createOperationalTestDelivery env settings store call =
      .ok (next, ids)) : Queues store ids next := by
  rw [createOperationalTestDelivery] at done
  split at done
  · cases done
  · split at done
    · cases done
    · exact (queues_createDelivery done).of_same rfl

theorem queues_act {call : IncidentActionCall}
    (done : recordOperationalIncidentAction env store call = .ok next) :
    Queues store [] next := by
  rw [recordOperationalIncidentAction] at done
  split at done
  · cases done
  · split at done
    · cases done
    · split at done
      · cases done
      · obtain ⟨_, rfl⟩ := appendIncidentAction_ok done
        exact queues_of_same [] rfl

end Queues

def deliveryKeyStart : String := "operational-alert-delivery:"

def deliveryKey (env : ReliabilityEnvironment) (deliveryId : Uuid) :
    String :=
  deliveryKeyStart ++ env.uuidText deliveryId

def isDeliveryKey (dedupeKey : String) : Bool :=
  deliveryKeyStart.toList.isPrefixOf dedupeKey.toList

theorem isDeliveryKey_deliveryKey (env : ReliabilityEnvironment) (deliveryId : Uuid) :
    isDeliveryKey (deliveryKey env deliveryId) = true := by
  rw [isDeliveryKey, deliveryKey, String.toList_append, List.isPrefixOf_iff_prefix]
  exact List.prefix_append ..

/-- The job that `enqueue_operational_alert_delivery_job` enqueues. -/
def deliveryJobRequest (env : ReliabilityEnvironment)
    (deliveryId : Uuid) (identity : SignerIdentity) : EnqueueRequest Json where
  jobType := .operationalAlertDelivery
  dedupeKey := deliveryKey env deliveryId
  payloadJson := .obj
    [("schema_version", .str "operational-alert-delivery-job-v1"),
      ("delivery_id", .str (env.uuidText deliveryId))]
  signerIdentity := identity
  priority := 5
  benchmarkRunId := none
  benchmarkResultId := none
  checkpointRecordId := none
  maxAttempts := 4

/-- `enqueue_operational_alert_delivery_job` up to the commit of the job, and no job where the
delivery has one. -/
def enqueueOperationalAlertDeliveryJob {Result : Type} (env : ReliabilityEnvironment)
    (store : ReliabilityStore) (jobs : JobStore Json Result) (deliveryId : Uuid)
    (identity : SignerIdentity) (now : Time) :
    Except ServiceError (JobStore Json Result × Option Uuid) :=
  match assertMaintenanceIdentity env.text.lower identity with
  | .error raised => .error raised
  | .ok () =>
    match store.deliveries.find? deliveryId with
    | none =>
      .error (.domainValidation "operational alert delivery was not found")
    | some delivery =>
      match delivery.deliveryJobId with
      | some jobId =>
        match getAgentJob jobs jobId with
        | .error raised => .error raised
        | .ok _ => .ok (jobs, none)
      | none =>
        let enqueued := enqueueJob jobs (deliveryJobRequest env deliveryId identity) now
        match enqueued.2 with
        | .error raised => .error raised
        | .ok job => .ok (enqueued.1, some job.id)

def linkDelivery (store : ReliabilityStore) (deliveryId jobId : Uuid) :
    ReliabilityStore :=
  match store.deliveries.find? deliveryId with
  | none => store
  | some delivery =>
    if delivery.deliveryJobId.isNone then
      store.putDelivery { delivery with deliveryJobId := some jobId }
    else store

/-! ## The system -/

/-- Who enqueues deliveries: a worker that runs a cycle, or the request of a
test page. -/
inductive Pager where
  | worker (number : Nat)
  | request (number : Nat)
  deriving DecidableEq, Repr

structure PageSystem (Result : Type) where
  reliability : ReliabilityStore
  queue : QueueState Json Result
  outbox : Pager → Option (List Uuid)
  /-- The delivery whose job is committed, and not linked yet. -/
  linking : Pager → Option (Uuid × Uuid)

inductive PageAction (Result : Type) where
  | queue (action : QueueAction Json Result)
  | capture (worker : Nat) (call : CaptureCall) (locked : List Uuid)
  | testPage (request : Nat) (call : TestPageCall)
  | enqueue (pager : Pager) (identity : SignerIdentity) (now : Time)
  | link (pager : Pager)
  | endRequest (request : Nat)
  | act (call : IncidentActionCall)

namespace PageSystem

variable {Result : Type}

def initial : PageSystem Result where
  reliability := .empty
  queue := .initial
  outbox _ := none
  linking _ := none

/-- What a pager still has to do is lost, or done. -/
def forget (sys : PageSystem Result) (pager : Pager) : PageSystem Result :=
  { sys with
    outbox := Function.update sys.outbox pager none
    linking := Function.update sys.linking pager none }

def leavesBody : QueueAction Json Result → Option Nat
  | .observe worker _ => some worker
  | .crash worker => some worker
  | _ => none

def runsCycle (sys : PageSystem Result) (worker : Nat) : Bool :=
  match sys.queue.worker worker with
  | .running jobId _ => (sys.queue.store.job? jobId).any (fun job =>
    job.jobType = .operationalObservabilityCycle)
  | _ => false

/-- A body that returns has done all its work; the jobs of deliveries are
enqueued by their own action. -/
def allows (sys : PageSystem Result) : QueueAction Json Result → Bool
  | .observe worker (.ok _) =>
    !sys.runsCycle worker || (sys.outbox (.worker worker) = some [] &&
        (sys.linking (.worker worker)).isNone)
  | .enqueue request _ => !isDeliveryKey request.dedupeKey
  | _ => true

variable [DecidableEq Result]

def next (env : ReliabilityEnvironment) (jobEnvironment : JobEnvironment Json)
    (settings : ReliabilitySettings) (sys : PageSystem Result) :
    PageAction Result → Option (PageSystem Result)
  | .queue action =>
    if sys.allows action then
      match sys.queue.next jobEnvironment action with
      | none => none
      | some queue =>
        match leavesBody action with
        | none => some { sys with queue := queue }
        | some worker =>
          some ({ sys with queue := queue }.forget (.worker worker))
    else none
  | .capture worker call locked =>
    if sys.runsCycle worker && (sys.outbox (.worker worker)).isNone then
      match captureOperationalReliabilityCycle env settings locked sys.reliability call with
      | .error _ => some sys
      | .ok (store, ids) =>
        some { sys with
          reliability := store
          outbox := Function.update sys.outbox (.worker worker) (some ids) }
    else none
  | .testPage request call =>
    if (sys.outbox (.request request)).isNone then
      match createOperationalTestDelivery env settings sys.reliability call with
      | .error _ => some sys
      | .ok (store, ids) =>
        some { sys with
          reliability := store
          outbox := Function.update sys.outbox (.request request) (some ids) }
    else none
  | .enqueue pager identity now =>
    match sys.outbox pager, sys.linking pager with
    | some (deliveryId :: rest), none =>
      match enqueueOperationalAlertDeliveryJob env
          sys.reliability sys.queue.store deliveryId identity now with
      | .error _ => none
      | .ok (jobs, linked) =>
        some { sys with
          queue := sys.queue.withStore jobs
          outbox := Function.update sys.outbox pager (some rest)
          linking := Function.update sys.linking pager
            (linked.map (fun jobId => (deliveryId, jobId))) }
    | _, _ => none
  | .link pager =>
    match sys.linking pager with
    | none => none
    | some (deliveryId, jobId) =>
      some { sys with
        reliability := linkDelivery sys.reliability deliveryId jobId
        linking := Function.update sys.linking pager none }
  | .endRequest request => some (sys.forget (.request request))
  | .act call =>
    match recordOperationalIncidentAction env sys.reliability call with
    | .error _ => some sys
    | .ok store => some { sys with reliability := store }

end PageSystem

/-! ## Every delivery has its job -/

variable {Result : Type}

def IsJobOf (env : ReliabilityEnvironment)
    (jobs : JobStore Json Result) (jobId deliveryId : Uuid) : Prop :=
  ∃ job, jobs.job? jobId = some job ∧ job.dedupeKey = deliveryKey env deliveryId ∧
    job.jobType = .operationalAlertDelivery

def HasOneJob (env : ReliabilityEnvironment)
    (jobs : JobStore Json Result) (deliveryId : Uuid) : Prop :=
  ∃ job ∈ jobs.jobs, job.jobType = .operationalAlertDelivery ∧ ∀ other ∈ jobs.jobs,
      other.dedupeKey = deliveryKey env deliveryId ↔ other = job

def PageSystem.Pending (sys : PageSystem Result) (deliveryId : Uuid) :
    Prop :=
  ∃ pager ids, sys.outbox pager = some ids ∧ deliveryId ∈ ids

/-- Every delivery is in an outbox or has its job, and the links between
deliveries and jobs name the right ones. -/
structure Paged (env : ReliabilityEnvironment)
    (sys : PageSystem Result) : Prop where
  covered : ∀ delivery ∈ sys.reliability.deliveries,
    sys.Pending delivery.id ∨
      ∃ jobId, IsJobOf env sys.queue.store jobId delivery.id
  linked : ∀ delivery ∈ sys.reliability.deliveries, ∀ jobId,
    delivery.deliveryJobId = some jobId →
      IsJobOf env sys.queue.store jobId delivery.id
  linking : ∀ pager deliveryId jobId,
    sys.linking pager = some (deliveryId, jobId) →
      IsJobOf env sys.queue.store jobId deliveryId
  typed : ∀ jobId job, sys.queue.store.job? jobId = some job →
    isDeliveryKey job.dedupeKey = true →
      job.jobType = .operationalAlertDelivery

theorem hasOneJob_of_isJobOf {env : ReliabilityEnvironment} {jobs : JobStore Json Result}
    (isJob : IsJobOf env jobs jobId deliveryId) :
    HasOneJob env jobs deliveryId := by
  obtain ⟨job, found, keyed, typed⟩ := isJob
  have mem := JobStore.job?_mem found
  refine ⟨job, mem, typed, fun other otherMem => ⟨fun same => ?_, ?_⟩⟩
  · exact jobs.dedupeKeysDistinct other otherMem job mem (same.trans keyed.symm)
  · rintro rfl
    exact keyed

theorem IsJobOf.enqueueJob {env : ReliabilityEnvironment} {jobs : JobStore Json Result}
    (isJob : IsJobOf env jobs jobId deliveryId) (request : EnqueueRequest Json) (now : Time) :
    IsJobOf env (enqueueJob jobs request now).1 jobId deliveryId := by
  obtain ⟨job, found, keyed, typed⟩ := isJob
  exact ⟨job, job?_enqueueJob_of_some found request now, keyed, typed⟩

def KeepsOutbox (sys : PageSystem Result) : PageAction Result → Prop
  | .queue action => ∀ worker, PageSystem.leavesBody action = some worker →
      ∀ ids, sys.outbox (.worker worker) = some ids → ids = []
  | .endRequest request =>
    ∀ ids, sys.outbox (.request request) = some ids → ids = []
  | _ => True

section Steps

variable {env : ReliabilityEnvironment}
  {jobEnvironment : JobEnvironment Json} {settings : ReliabilitySettings}
  {before after : PageSystem Result}

theorem Paged.of_jobs (held : Paged env before)
    (reliability : after.reliability = before.reliability)
    (jobs : ∀ jobId deliveryId, IsJobOf env before.queue.store jobId deliveryId →
        IsJobOf env after.queue.store jobId deliveryId)
    (pending : ∀ deliveryId, before.Pending deliveryId → after.Pending deliveryId ∨
        ∃ jobId, IsJobOf env after.queue.store jobId deliveryId)
    (linking : ∀ pager deliveryId jobId, after.linking pager = some (deliveryId, jobId) →
        IsJobOf env after.queue.store jobId deliveryId)
    (typed : ∀ jobId job, after.queue.store.job? jobId = some job →
      isDeliveryKey job.dedupeKey = true → job.jobType = .operationalAlertDelivery) :
    Paged env after where
  covered delivery mem := by
    rw [reliability] at mem
    rcases held.covered delivery mem with waiting | ⟨jobId, isJob⟩
    · exact pending delivery.id waiting
    · exact Or.inr ⟨jobId, jobs jobId delivery.id isJob⟩
  linked delivery mem jobId link := by
    rw [reliability] at mem
    exact jobs jobId delivery.id (held.linked delivery mem jobId link)
  linking := linking
  typed := typed

theorem pending_forget {sys : PageSystem Result}
    (empty : ∀ ids, sys.outbox pager = some ids → ids = []) (waiting : sys.Pending deliveryId) :
    (sys.forget pager).Pending deliveryId := by
  obtain ⟨other, ids, held, mem⟩ := waiting
  refine ⟨other, ids, ?_, mem⟩
  have apart : other ≠ pager := by
    rintro rfl
    rw [empty ids held] at mem
    exact absurd mem List.not_mem_nil
  exact (Function.update_of_ne apart ..).trans held

theorem linking_forget {sys : PageSystem Result} {other : Pager} {link : Uuid × Uuid}
    (kept : (sys.forget pager).linking other = some link) :
    sys.linking other = some link := by
  by_cases same : other = pager
  · subst same
    have gone : (sys.forget other).linking other = none :=
      Function.update_self ..
    rw [gone] at kept
    cases kept
  · exact (Function.update_of_ne same ..).symm.trans kept

theorem Paged.forget (held : Paged env before)
    (empty : ∀ ids, before.outbox pager = some ids → ids = []) :
    Paged env (before.forget pager) :=
  held.of_jobs rfl (fun _ _ isJob => isJob) (fun _ waiting => Or.inl (pending_forget empty waiting))
    (fun other deliveryId jobId kept =>
      held.linking other deliveryId jobId (linking_forget kept))
    held.typed

theorem Paged.queueStep [DecidableEq Result] (held : Paged env before)
    {action : QueueAction Json Result} {queue : QueueState Json Result}
    (allowed : before.allows action = true)
    (taken : before.queue.next jobEnvironment action = some queue) :
    Paged env { before with queue := queue } := by
  have jobs : ∀ jobId deliveryId, IsJobOf env before.queue.store jobId deliveryId →
        IsJobOf env queue.store jobId deliveryId := by
    rintro jobId deliveryId ⟨job, found, keyed, typed⟩
    obtain ⟨later, laterFound, same⟩ := sameJob_of_step taken found
    exact ⟨later, laterFound, same.dedupeKey.trans keyed, same.jobType.trans typed⟩
  refine held.of_jobs rfl jobs (fun _ waiting => Or.inl waiting) (fun pager deliveryId jobId kept =>
      jobs jobId deliveryId (held.linking pager deliveryId jobId kept)) ?_
  intro jobId job found isKey
  rcases sameJob_or_new taken found with
    ⟨row, rowFound, same⟩ | ⟨request, now, rfl, _, _, rfl⟩
  · rw [same.dedupeKey] at isKey
    rw [same.jobType]
    exact held.typed jobId row rowFound isKey
  · have otherKey : isDeliveryKey request.dedupeKey = false := by
      simpa [PageSystem.allows] using allowed
    have newKey : isDeliveryKey request.dedupeKey = true := isKey
    rw [otherKey] at newKey
    cases newKey

theorem Paged.commits (held : Paged env before) {store : ReliabilityStore} {ids : List Uuid}
    (free : before.outbox pager = none) (queued : Queues before.reliability ids store) :
    Paged env { before with
      reliability := store
      outbox := Function.update before.outbox pager (some ids) } where
  covered delivery mem := by
    rcases queued delivery mem with old | ⟨new, _⟩
    · rcases held.covered delivery old with ⟨other, kept, stored, inside⟩ | found
      · refine Or.inl ⟨other, kept, ?_, inside⟩
        have apart : other ≠ pager := by
          rintro rfl
          rw [free] at stored
          cases stored
        exact (Function.update_of_ne apart ..).trans stored
      · exact Or.inr found
    · exact Or.inl ⟨pager, ids, Function.update_self .., new⟩
  linked delivery mem jobId link := by
    rcases queued delivery mem with old | ⟨_, noJob⟩
    · exact held.linked delivery old jobId link
    · rw [noJob] at link
      cases link
  linking := held.linking
  typed := held.typed

theorem Paged.commitsNone (held : Paged env before)
    {store : ReliabilityStore} (queued : Queues before.reliability [] store) :
    Paged env { before with reliability := store } where
  covered delivery mem := by
    rcases queued delivery mem with old | ⟨new, _⟩
    · exact held.covered delivery old
    · exact absurd new List.not_mem_nil
  linked delivery mem jobId link := by
    rcases queued delivery mem with old | ⟨new, _⟩
    · exact held.linked delivery old jobId link
    · exact absurd new List.not_mem_nil
  linking := held.linking
  typed := held.typed

theorem enqueueDelivery_ok (held : Paged env before) {identity : SignerIdentity} {now : Time}
    {jobs : JobStore Json Result} {linked : Option Uuid}
    (enqueued : enqueueOperationalAlertDeliveryJob env
      before.reliability before.queue.store deliveryId identity now = .ok (jobs, linked)) :
    (∀ jobId otherId, IsJobOf env before.queue.store jobId otherId →
      IsJobOf env jobs jobId otherId) ∧
    (∃ jobId, IsJobOf env jobs jobId deliveryId) ∧
    (∀ jobId, linked = some jobId → IsJobOf env jobs jobId deliveryId) ∧
    ∀ jobId job, jobs.job? jobId = some job → isDeliveryKey job.dedupeKey = true →
        job.jobType = .operationalAlertDelivery := by
  rw [enqueueOperationalAlertDeliveryJob] at enqueued
  split at enqueued
  · cases enqueued
  · split at enqueued
    · cases enqueued
    · next delivery found =>
        obtain ⟨mem, named⟩ := Table.find?_eq_some_iff.mp found
        split at enqueued
        · next jobId link =>
            split at enqueued
            · cases enqueued
            · obtain ⟨rfl, rfl⟩ := Prod.mk.inj (Except.ok.inj enqueued)
              have isJob := held.linked delivery mem jobId link
              have same : delivery.id = deliveryId := named
              rw [same] at isJob
              exact ⟨fun _ _ old => old, ⟨jobId, isJob⟩,
                fun _ absent => (by cases absent), held.typed⟩
        · simp only [] at enqueued
          split at enqueued
          · cases enqueued
          · next job outcome =>
              obtain ⟨rfl, rfl⟩ := Prod.mk.inj (Except.ok.inj enqueued)
              let request := deliveryJobRequest env deliveryId identity
              have isJob : IsJobOf env (enqueueJob before.queue.store request now).1 job.id
                    deliveryId := by
                rcases enqueueJob_cases before.queue.store request now with
                  ⟨existing, keyed, same⟩ | ⟨raised, same⟩ | ⟨absent, _, same⟩
                · rw [same] at outcome ⊢
                  obtain rfl := Except.ok.inj outcome
                  obtain ⟨row, keyOf⟩ := byDedupeKey?_eq_some_iff.mp keyed
                  have stored := JobStore.mem_jobs_iff.mp row
                  refine ⟨existing, stored, keyOf, ?_⟩
                  refine held.typed existing.id existing stored ?_
                  rw [keyOf]
                  exact isDeliveryKey_deliveryKey env deliveryId
                · rw [same] at outcome
                  cases outcome
                · rw [same] at outcome ⊢
                  obtain rfl := Except.ok.inj outcome
                  refine ⟨newJob before.queue.store.uuids request now, ?_,
                    rfl, rfl⟩
                  rw [job?_insertNewJob]
                  exact if_pos rfl
              refine ⟨fun _ _ old => old.enqueueJob request now, ⟨job.id, isJob⟩, ?_, ?_⟩
              · intro jobId same
                rw [← Option.some.inj same]
                exact isJob
              · intro jobId row rowFound isKey
                rcases job?_enqueueJob rowFound with old | ⟨_, _, _, rfl⟩
                · exact held.typed jobId row old isKey
                · rfl

theorem Paged.enqueues (held : Paged env before) {rest : List Uuid} {identity : SignerIdentity}
    {now : Time} {jobs : JobStore Json Result} {linked : Option Uuid}
    (waiting : before.outbox pager = some (deliveryId :: rest))
    (enqueued : enqueueOperationalAlertDeliveryJob env
      before.reliability before.queue.store deliveryId identity now = .ok (jobs, linked)) :
    Paged env { before with
      queue := before.queue.withStore jobs
      outbox := Function.update before.outbox pager (some rest)
      linking := Function.update before.linking pager
        (linked.map (fun jobId => (deliveryId, jobId))) } := by
  obtain ⟨kept, present, links, typed⟩ := enqueueDelivery_ok held enqueued
  refine held.of_jobs rfl kept ?_ ?_ typed
  · rintro otherId ⟨other, ids, stored, mem⟩
    by_cases same : other = pager
    · subst same
      rw [waiting] at stored
      rw [← Option.some.inj stored] at mem
      rcases List.mem_cons.mp mem with rfl | later
      · exact Or.inr present
      · exact Or.inl ⟨other, rest, Function.update_self .., later⟩
    · exact Or.inl ⟨other, ids, (Function.update_of_ne same ..).trans stored, mem⟩
  · intro other otherId jobId stored
    by_cases same : other = pager
    · subst same
      have own := (Function.update_self ..).symm.trans stored
      obtain ⟨_, isLinked, pair⟩ := Option.map_eq_some_iff.mp own
      obtain ⟨rfl, rfl⟩ := Prod.mk.inj pair
      exact links _ isLinked
    · have old := (Function.update_of_ne same ..).symm.trans stored
      exact kept jobId otherId (held.linking other otherId jobId old)

theorem Paged.links (held : Paged env before)
    (stored : before.linking pager = some (deliveryId, jobId)) :
    Paged env { before with
      reliability := linkDelivery before.reliability deliveryId jobId
      linking := Function.update before.linking pager none } := by
  have isJob := held.linking pager deliveryId jobId stored
  have rows : ∀ delivery ∈ (linkDelivery before.reliability deliveryId jobId).deliveries,
      ∃ old ∈ before.reliability.deliveries, delivery.id = old.id ∧
        (delivery.deliveryJobId = old.deliveryJobId ∨
          (delivery.id = deliveryId ∧ delivery.deliveryJobId = some jobId)) := by
    intro delivery mem
    rw [linkDelivery] at mem
    split at mem
    · exact ⟨delivery, mem, rfl, Or.inl rfl⟩
    · next old found =>
        obtain ⟨oldMem, named⟩ := Table.find?_eq_some_iff.mp found
        split at mem
        · rcases ReliabilityStore.mem_putDelivery mem with kept | rfl
          · exact ⟨delivery, kept, rfl, Or.inl rfl⟩
          · exact ⟨old, oldMem, rfl, Or.inr ⟨named, rfl⟩⟩
        · exact ⟨delivery, mem, rfl, Or.inl rfl⟩
  refine ⟨?_, ?_, ?_, held.typed⟩
  · intro delivery mem
    obtain ⟨old, oldMem, same, _⟩ := rows delivery mem
    rw [same]
    exact held.covered old oldMem
  · intro delivery mem linkedId link
    obtain ⟨old, oldMem, same, unchanged | ⟨own, new⟩⟩ := rows delivery mem
    · rw [same]
      exact held.linked old oldMem linkedId (unchanged ▸ link)
    · rw [new] at link
      rw [own, ← Option.some.inj link]
      exact isJob
  · intro other otherId otherJob kept
    by_cases same : other = pager
    · subst same
      have own := (Function.update_self ..).symm.trans kept
      cases own
    · have old := (Function.update_of_ne same ..).symm.trans kept
      exact held.linking other otherId otherJob old

theorem Paged.step [DecidableEq Result] {action : PageAction Result}
    (held : Paged env before) (keeps : KeepsOutbox before action)
    (taken : stepsOf (PageSystem.next env jobEnvironment settings)
      before action after) : Paged env after := by
  rw [stepsOf] at taken
  cases action with
  | queue action =>
    simp only [PageSystem.next] at taken
    split at taken
    · next allowed =>
        split at taken
        · cases taken
        · next queue stepped =>
            have moved := held.queueStep allowed stepped
            split at taken
            · rw [← Option.some.inj taken]
              exact moved
            · next worker leaves =>
                rw [← Option.some.inj taken]
                exact moved.forget (keeps worker leaves)
    · cases taken
  | capture worker call locked =>
    simp only [PageSystem.next] at taken
    split at taken
    · next ready =>
        rw [Bool.and_eq_true, Option.isNone_iff_eq_none] at ready
        split at taken
        · rw [← Option.some.inj taken]
          exact held
        · next store ids done =>
            rw [← Option.some.inj taken]
            exact held.commits ready.2 (queues_capture done)
    · cases taken
  | testPage request call =>
    simp only [PageSystem.next] at taken
    split at taken
    · next free =>
        rw [Option.isNone_iff_eq_none] at free
        split at taken
        · rw [← Option.some.inj taken]
          exact held
        · next store ids done =>
            rw [← Option.some.inj taken]
            exact held.commits free (queues_testPage done)
    · cases taken
  | enqueue pager identity now =>
    simp only [PageSystem.next] at taken
    split at taken
    · next deliveryId rest waiting _ =>
        split at taken
        · cases taken
        · next jobs linked enqueued =>
            rw [← Option.some.inj taken]
            exact held.enqueues waiting enqueued
    · cases taken
  | link pager =>
    simp only [PageSystem.next] at taken
    split at taken
    · cases taken
    · next deliveryId jobId stored =>
        rw [← Option.some.inj taken]
        exact held.links stored
  | endRequest request =>
    simp only [PageSystem.next] at taken
    rw [← Option.some.inj taken]
    exact held.forget keeps
  | act call =>
    simp only [PageSystem.next] at taken
    split at taken
    · rw [← Option.some.inj taken]
      exact held
    · next store done =>
        rw [← Option.some.inj taken]
        exact held.commitsNone (queues_act done)

/-- In every run in which no outbox is lost, a committed delivery has exactly one job, unless a
pager still enqueues it. -/
theorem deliveries_haveOneJob [DecidableEq Result] {actions : List (PageAction Result)}
    {finish : PageSystem Result}
    (run : Execution (Guarded KeepsOutbox (stepsOf (PageSystem.next env jobEnvironment settings)))
        .initial actions finish) :
    ∀ delivery ∈ finish.reliability.deliveries, ¬ finish.Pending delivery.id →
        HasOneJob env finish.queue.store delivery.id := by
  have held : Paged env finish := by
    refine run.invariant (Paged env) ?_ (fun _ _ _ held taken => held.step taken.1 taken.2)
    refine ⟨?_, ?_, ?_, ?_⟩
    · exact fun delivery mem => absurd mem (Table.not_mem_empty delivery)
    · exact fun delivery mem => absurd mem (Table.not_mem_empty delivery)
    · intro pager deliveryId jobId link
      cases link
    · intro jobId job found
      rw [PageSystem.initial, QueueState.initial, JobStore.job?_empty] at found
      cases found
  intro delivery mem settled
  rcases held.covered delivery mem with waiting | ⟨jobId, isJob⟩
  · exact absurd waiting settled
  · exact hasOneJob_of_isJobOf isJob

end Steps

def pagingEnvironment : ReliabilityEnvironment where
  text := { lower := fun text => text, render := fun _ => "" }
  canonicalHash _ := ""
  uuidText id := String.ofList (List.replicate id 'i')
  isoFormat _ := ""

def pagingJobEnvironment : JobEnvironment Json where
  lower text := text
  retryPolicy _ := none
  digest _ := 0

def pagingSettings : ReliabilitySettings where
  pagingEnabled := true
  activePagingKeyId := .ok "key"
  pagingProvider := .ok "provider"
  escalationSeconds := 900
  escalationPositive := by decide
  snapshotIntervalSeconds := 600
  snapshotRetentionSeconds := 86400

def executorIdentity : SignerIdentity :=
  { systemWorker with role := some "system worker" }

def cycleRequest : EnqueueRequest Json where
  jobType := .operationalObservabilityCycle
  dedupeKey := "operational-observability:1"
  payloadJson := .null
  signerIdentity := executorIdentity
  priority := 15
  benchmarkRunId := none
  benchmarkResultId := none
  checkpointRecordId := none
  maxAttempts := 3

def startsCycle (now : Time) : List (PageAction Unit) :=
  [.queue (.claim 0 (claimAt now)), .queue (.read 0), .queue (.start 0)]

def capturesAlert (now : Time) : PageAction Unit :=
  .capture 0 ⟨executorIdentity, [⟨"queue", .warning⟩], [], now,
    Chained.firstLatest⟩ []

def endsCycle (now : Time) : List (PageAction Unit) :=
  [.queue (.observe 0 (.ok ())), .queue (.finish 0 now)]

def afterPages (actions : List (PageAction Unit)) : Option (PageSystem Unit) :=
  perform (PageSystem.next pagingEnvironment pagingJobEnvironment pagingSettings) .initial actions

def keepsOutbox (sys : PageSystem Unit) : PageAction Unit → Bool
  | .queue action =>
    match PageSystem.leavesBody action with
    | none => true
    | some worker => (sys.outbox (.worker worker)).getD [] = []
  | .endRequest request => (sys.outbox (.request request)).getD [] = []
  | _ => true

theorem keepsOutbox_sound (sys : PageSystem Unit) (action : PageAction Unit)
    (checked : keepsOutbox sys action = true) :
    KeepsOutbox sys action := by
  cases action with
  | queue action =>
    intro worker leaves ids stored
    simp only [keepsOutbox, leaves, stored, Option.getD_some, decide_eq_true_eq] at checked
    exact checked
  | endRequest request =>
    intro ids stored
    simp only [keepsOutbox, stored, Option.getD_some, decide_eq_true_eq] at checked
    exact checked
  | capture | testPage | enqueue | link | act =>
    trivial

theorem deliveries_haveOneJob_cycle : ∃ finish : PageSystem Unit,
      afterPages ([.queue (.enqueue cycleRequest 0)] ++ startsCycle 0 ++
          [capturesAlert 0, .enqueue (.worker 0) executorIdentity 1,
            .link (.worker 0)] ++ endsCycle 2) = some finish ∧
        ∀ delivery ∈ finish.reliability.deliveries, ¬ finish.Pending delivery.id →
            HasOneJob pagingEnvironment finish.queue.store delivery.id := by
  let actions : List (PageAction Unit) :=
    [.queue (.enqueue cycleRequest 0)] ++ startsCycle 0 ++
      [capturesAlert 0, .enqueue (.worker 0) executorIdentity 1, .link (.worker 0)] ++ endsCycle 2
  set_option maxRecDepth 8000 in
  have performed : (afterPages actions).isSome = true := by decide
  obtain ⟨finish, reached⟩ := Option.isSome_iff_exists.mp performed
  have guarded : MeetsGuard KeepsOutbox
      (PageSystem.next pagingEnvironment pagingJobEnvironment pagingSettings)
      .initial actions := by
    refine MeetsGuard.of_checks keepsOutbox keepsOutbox_sound ?_
    set_option maxRecDepth 8000 in
    decide
  exact ⟨finish, reached, deliveries_haveOneJob (Execution.of_perform_guarded reached guarded)⟩

/-- The worker crashes between the capture and the job of its delivery; the
retried cycle finds the bucket captured and completes. -/
theorem deliveries_loseJob : ¬ ∀ (actions : List (PageAction Unit)) (finish : PageSystem Unit),
      Execution (stepsOf (PageSystem.next pagingEnvironment
          pagingJobEnvironment pagingSettings)) .initial actions finish →
        (∀ job ∈ finish.queue.store.jobs, job.status.active = false) →
          ∀ delivery ∈ finish.reliability.deliveries,
            HasOneJob pagingEnvironment finish.queue.store delivery.id := by
  intro always
  let actions : List (PageAction Unit) :=
    [.queue (.enqueue cycleRequest 0)] ++ startsCycle 0 ++
      [capturesAlert 0, .queue (.crash 0)] ++ startsCycle 400 ++
        [capturesAlert 400] ++ endsCycle 401
  set_option maxRecDepth 8000 in
  have checked : (afterPages actions).any (fun finish =>
      finish.queue.store.jobs.rows.all (fun job => !job.status.active &&
          job.jobType ≠ .operationalAlertDelivery) &&
        !finish.reliability.deliveries.rows.isEmpty) = true := by
    decide
  obtain ⟨finish, reached, facts⟩ := (Option.any_eq_true _ _).mp checked
  rw [Bool.and_eq_true, List.all_eq_true] at facts
  obtain ⟨jobs, someDelivery⟩ := facts
  have noJob : ∀ job ∈ finish.queue.store.jobs, job.status.active = false ∧
      job.jobType ≠ .operationalAlertDelivery := by
    intro job mem
    have checks := jobs job mem
    rw [Bool.and_eq_true, Bool.not_eq_true', decide_eq_true_eq] at checks
    exact checks
  cases rows : finish.reliability.deliveries.rows with
  | nil =>
    rw [rows] at someDelivery
    cases someDelivery
  | cons delivery rest =>
    have mem : delivery ∈ finish.reliability.deliveries := by
      rw [← Table.mem_rows, rows]
      exact List.mem_cons_self
    obtain ⟨job, jobMem, typed, _⟩ := always actions finish (Execution.of_perform reached)
      (fun job inJobs => (noJob job inJobs).1) delivery mem
    exact (noJob job jobMem).2 typed

end ModelAtlas.Reliability
