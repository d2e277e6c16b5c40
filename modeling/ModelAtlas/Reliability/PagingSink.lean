import ModelAtlas.Foundations.Json
import Mathlib.Data.List.Infix
import Mathlib.Data.List.Nodup

/-!
# The paging sink

`operations/paging_sink.py`: the ids of the pages that were accepted and the
receipts that are retained, over signed requests that are handled one after another.
-/

namespace ModelAtlas.Reliability

open Foundations

structure PageReceipt where
  (eventId provider providerEventId receiptId : String)
  (incidentId transitionType severity : Option Json)
  (signingKeyId payloadHash : String)
  acceptedAt : Nat

/-- `_event_ids` and `_receipts`. -/
structure SinkState where
  eventIds : List String
  receipts : List PageReceipt

/-- A request whose size, time, key and signature have passed their checks. -/
structure PageRequest where
  (eventIdHeader keyIdHeader : Option String)
  body : String
  receivedAt : Nat

/-- `json.loads` of a body, the hash, and `_provider_name`, which may raise. -/
structure SinkEnvironment where
  loads : String → Option Json
  sha256 : String → String
  providerName : Option String

structure PageAnswer where
  (provider providerEventId receiptId : String)
  acceptedAt : Nat
  replay : Bool

inductive PageOutcome where
  | rejected (status : Nat)
  | raised
  | answered (status : Nat) (answer : PageAnswer)

def maxReceipts : Nat := 500

def PageRequest.eventId (req : PageRequest) : String :=
  pyStrip (req.eventIdHeader.getD "")

def PageRequest.keyId (req : PageRequest) : String :=
  pyStrip (pyOr (req.keyIdHeader.getD "") "legacy")

def contractFailure (payload : Json) (eventId : String) : Option PageOutcome :=
  if !payload.isObject then some (.rejected 422)
  else
    match payload.get? "schema_version" with
    | some (.arr _) | some (.obj _) => some .raised
    | version =>
      if !(Json.isText version "model-atlas-paging-event-v1" ||
          Json.isText version "model-atlas-paging-event-v2") ||
        !Json.isText (payload.get? "delivery_id") eventId then some (.rejected 422)
      else none

/-- `(payload.get("alert") or {}).get("severity")`, and nothing where it raises. -/
def alertSeverity (payload : Json) : Option (Option Json) :=
  match payload.get? "alert" with
  | none => some none
  | some alert =>
    if !alert.truthy then some none
    else if alert.isObject then some (alert.get? "severity")
    else none

section Requests

variable (env : SinkEnvironment)

def receiptIdOf (eventId : String) : String := "receipt-" ++ pyClip 32 (env.sha256 eventId)

def pageReceipt (req : PageRequest) (payload : Json) (provider : String)
    (severity : Option Json) : PageReceipt where
  eventId := req.eventId
  provider := provider
  providerEventId := req.eventId
  receiptId := receiptIdOf env req.eventId
  incidentId := payload.get? "incident_id"
  transitionType := payload.get? "transition_type"
  severity := severity
  signingKeyId := req.keyId
  payloadHash := env.sha256 req.body
  acceptedAt := req.receivedAt

def PageReceipt.answer (receipt : PageReceipt) (provider : String) (replay : Bool) : PageAnswer :=
  ⟨provider, receipt.providerEventId, receipt.receiptId, receipt.acceptedAt, replay⟩

def SinkState.evict (state : SinkState) : SinkState :=
  if maxReceipts < state.receipts.length then
    match state.receipts with
    | [] => state
    | removed :: rest => ⟨state.eventIds.filter (fun known => known ≠ removed.eventId), rest⟩
  else state

def recordPage (state : SinkState) (req : PageRequest) (payload : Json) (provider : String) :
    PageOutcome × SinkState :=
  if req.eventId ∈ state.eventIds then
    match state.receipts.find? (fun receipt => receipt.eventId = req.eventId) with
    | none => (.raised, state)
    | some receipt => (.answered 200 (receipt.answer provider true), state)
  else
    let known := state.eventIds ++ [req.eventId]
    match alertSeverity payload with
    | none => (.raised, ⟨known, state.receipts⟩)
    | some severity =>
      let receipt := pageReceipt env req payload provider severity
      (.answered 202 (receipt.answer provider false),
        SinkState.evict ⟨known, state.receipts ++ [receipt]⟩)

/-- `do_POST`, of a signed request. -/
def doPost (state : SinkState) (req : PageRequest) : PageOutcome × SinkState :=
  if req.eventId = "" ∨ 100 < req.eventId.length then (.rejected 401, state)
  else
    match env.loads req.body with
    | none => (.rejected 400, state)
    | some payload =>
      match contractFailure payload req.eventId with
      | some failure => (failure, state)
      | none =>
        match env.providerName with
        | none => (.raised, state)
        | some provider => recordPage env state req payload provider

def runSink (requests : List PageRequest) : SinkState :=
  requests.foldl (fun state req => (doPost env state req).2) ⟨[], []⟩

def Reaches (req : PageRequest) (payload : Json) (provider : String) : Prop :=
  req.eventId ≠ "" ∧ req.eventId.length ≤ 100 ∧ env.loads req.body = some payload ∧
    contractFailure payload req.eventId = none ∧ env.providerName = some provider

end Requests

section Consistency

variable {env : SinkEnvironment} {state : SinkState} {req : PageRequest}
  {requests : List PageRequest} {payload : Json} {provider : String}

structure SinkConsistent (state : SinkState) : Prop where
  known : ∀ eventId, eventId ∈ state.eventIds ↔ eventId ∈ state.receipts.map PageReceipt.eventId
  distinct : (state.receipts.map PageReceipt.eventId).Nodup
  bounded : state.receipts.length ≤ maxReceipts

/-- The receipt is that of a request that was accepted, and was retained since. -/
def RecordedBy (env : SinkEnvironment) (requests : List PageRequest) (receipt : PageReceipt) :
    Prop :=
  ∃ early accepted later provider, requests = early ++ accepted :: later ∧
    accepted.eventId = receipt.eventId ∧
    (doPost env (runSink env early) accepted).1 = .answered 202 (receipt.answer provider false) ∧
    ∀ since, since <+: later → receipt ∈ (runSink env (early ++ accepted :: since)).receipts

structure FaithfulPost (env : SinkEnvironment) (before : List PageRequest)
    (req : PageRequest) : Prop where
  consistent : SinkConsistent (runSink env (before ++ [req]))
  replayed : ∀ payload provider, Reaches env req payload provider →
    ∀ receipt ∈ (runSink env before).receipts, receipt.eventId = req.eventId →
      (doPost env (runSink env before) req).1 = .answered 200 (receipt.answer provider true) ∧
        RecordedBy env before receipt
  accepted : ∀ payload provider, Reaches env req payload provider →
    req.eventId ∉ (runSink env before).receipts.map PageReceipt.eventId →
      ∃ receipt, receipt.eventId = req.eventId ∧
        (doPost env (runSink env before) req).1 =
          .answered 202 (receipt.answer provider false) ∧
        receipt ∈ (runSink env (before ++ [req])).receipts ∧
        (runSink env (before ++ [req])).receipts <:+
          (runSink env before).receipts ++ [receipt]
  unchanged : (∀ answer, (doPost env (runSink env before) req).1 ≠ .answered 202 answer) →
    runSink env (before ++ [req]) = runSink env before

def BreaksReceipt (env : SinkEnvironment) (state : SinkState) (req : PageRequest) : Prop :=
  ∃ payload provider, Reaches env req payload provider ∧
    req.eventId ∉ state.eventIds ∧ alertSeverity payload = none

theorem runSink_concat (requests : List PageRequest) (req : PageRequest) :
    runSink env (requests ++ [req]) = (doPost env (runSink env requests) req).2 := by
  rw [runSink, List.foldl_append]
  rfl

theorem doPost_reaches (reaches : Reaches env req payload provider) :
    doPost env state req = recordPage env state req payload provider := by
  obtain ⟨named, short, loaded, passed, isProvider⟩ := reaches
  have notRejected : ¬ (req.eventId = "" ∨ 100 < req.eventId.length) := by
    rintro (empty | long)
    · exact named empty
    · omega
  rw [doPost, if_neg notRejected, loaded]
  dsimp only
  rw [passed, isProvider]

/-- A request that does not get to the lock changes nothing. -/
theorem doPost_cases (env : SinkEnvironment) (state : SinkState) (req : PageRequest) :
    (∃ payload provider, Reaches env req payload provider) ∨ (doPost env state req).2 = state ∧
        ∀ status answer, (doPost env state req).1 ≠ .answered status answer := by
  rw [doPost]
  by_cases rejected : req.eventId = "" ∨ 100 < req.eventId.length
  · rw [if_pos rejected]
    exact Or.inr ⟨rfl, nofun⟩
  · rw [if_neg rejected]
    rw [not_or, not_lt] at rejected
    cases loaded : env.loads req.body with
    | none => exact Or.inr ⟨rfl, nofun⟩
    | some payload =>
      dsimp only
      cases failed : contractFailure payload req.eventId with
      | some failure =>
        refine Or.inr ⟨rfl, fun status answer same => ?_⟩
        dsimp only at same
        simp only [contractFailure] at failed
        split at failed
        · cases failed
          cases same
        · split at failed
          · cases failed
            cases same
          · cases failed
            cases same
          · split at failed <;> cases failed
            cases same
      | none =>
        dsimp only
        cases isProvider : env.providerName with
        | none => exact Or.inr ⟨rfl, nofun⟩
        | some provider =>
          exact Or.inl ⟨payload, provider, rejected.1, rejected.2, loaded, failed, isProvider⟩

theorem SinkConsistent.evict (consistent : SinkConsistent state) {receipt : PageReceipt}
    (fresh : receipt.eventId ∉ state.eventIds) :
    SinkConsistent (SinkState.evict
      ⟨state.eventIds ++ [receipt.eventId], state.receipts ++ [receipt]⟩) ∧
    (SinkState.evict ⟨state.eventIds ++ [receipt.eventId], state.receipts ++ [receipt]⟩).receipts
      <:+ state.receipts ++ [receipt] ∧
    receipt ∈ (SinkState.evict
      ⟨state.eventIds ++ [receipt.eventId], state.receipts ++ [receipt]⟩).receipts := by
  have known := consistent.known
  have distinct := consistent.distinct
  have bounded := consistent.bounded
  rw [known] at fresh
  have stillDistinct : ((state.receipts ++ [receipt]).map PageReceipt.eventId).Nodup := by
    rw [List.map_append, List.nodup_append]
    refine ⟨distinct, by simp, fun eventId mem other single same => fresh ?_⟩
    rw [List.map_singleton, List.mem_singleton] at single
    rwa [← single, ← same]
  rw [SinkState.evict]
  dsimp only
  by_cases full : maxReceipts < (state.receipts ++ [receipt]).length
  · rw [if_pos full]
    cases isReceipts : state.receipts with
    | nil =>
      rw [isReceipts] at full
      simp [maxReceipts] at full
    | cons removed rest =>
      rw [isReceipts] at known stillDistinct bounded
      simp only [List.cons_append, List.map_cons, List.nodup_cons] at stillDistinct ⊢
      refine ⟨⟨fun eventId => ?_, stillDistinct.2, ?_⟩, List.suffix_cons _ _, by simp⟩
      · have apart := stillDistinct.1
        rw [List.mem_filter, List.mem_append, known, List.map_append, List.map_cons]
        rw [List.map_append] at apart
        simp only [List.mem_cons, List.mem_append, decide_eq_true_eq] at apart ⊢
        grind
      · simp at bounded ⊢
        omega
  · rw [if_neg full]
    refine ⟨⟨fun eventId => ?_, stillDistinct, Nat.le_of_not_lt full⟩, List.suffix_rfl, by simp⟩
    rw [List.map_append, List.mem_append, List.mem_append, known]
    rfl

theorem recordPage_cases (consistent : SinkConsistent state) (payload : Json) (provider : String) :
    (∃ receipt ∈ state.receipts, receipt.eventId = req.eventId ∧
      recordPage env state req payload provider =
        (.answered 200 (receipt.answer provider true), state)) ∨
    req.eventId ∉ state.eventIds ∧ (alertSeverity payload = none ∧
      recordPage env state req payload provider =
        (.raised, ⟨state.eventIds ++ [req.eventId], state.receipts⟩) ∨
      ∃ receipt, receipt.eventId = req.eventId ∧ recordPage env state req payload provider =
          (.answered 202 (receipt.answer provider false), SinkState.evict
            ⟨state.eventIds ++ [receipt.eventId], state.receipts ++ [receipt]⟩)) := by
  rw [recordPage]
  by_cases known : req.eventId ∈ state.eventIds
  · rw [if_pos known]
    cases found : state.receipts.find? (fun receipt => receipt.eventId = req.eventId) with
    | none =>
      obtain ⟨receipt, mem, named⟩ := List.mem_map.mp ((consistent.known _).mp known)
      exact absurd named (by simpa using List.find?_eq_none.mp found receipt mem)
    | some receipt =>
      exact Or.inl ⟨receipt, List.mem_of_find?_eq_some found, by simpa using List.find?_some found,
        rfl⟩
  · rw [if_neg known]
    refine Or.inr ⟨known, ?_⟩
    cases readable : alertSeverity payload with
    | none => exact Or.inl ⟨rfl, rfl⟩
    | some severity =>
      exact Or.inr ⟨pageReceipt env req payload provider severity, rfl, rfl⟩

structure PostStep (env : SinkEnvironment) (state : SinkState) (req : PageRequest) : Prop where
  consistent : SinkConsistent (doPost env state req).2
  replayed : ∀ payload provider, Reaches env req payload provider →
    ∀ receipt ∈ state.receipts, receipt.eventId = req.eventId →
      (doPost env state req).1 = .answered 200 (receipt.answer provider true)
  accepted : ∀ payload provider, Reaches env req payload provider →
    req.eventId ∉ state.receipts.map PageReceipt.eventId →
      ∃ receipt, receipt.eventId = req.eventId ∧
        (doPost env state req).1 = .answered 202 (receipt.answer provider false) ∧
        receipt ∈ (doPost env state req).2.receipts ∧
        (doPost env state req).2.receipts <:+ state.receipts ++ [receipt]
  unchanged : (∀ answer, (doPost env state req).1 ≠ .answered 202 answer) →
    (doPost env state req).2 = state

theorem postStep (consistent : SinkConsistent state) (intact : ¬ BreaksReceipt env state req) :
    PostStep env state req := by
  by_cases reachable : ∃ payload provider, Reaches env req payload provider
  · obtain ⟨payload, provider, reaches⟩ := reachable
    have only : ∀ payload' provider', Reaches env req payload' provider' →
        provider' = provider := fun _ _ other =>
      Option.some.inj (other.2.2.2.2.symm.trans reaches.2.2.2.2)
    have done : doPost env state req = recordPage env state req payload provider :=
      doPost_reaches reaches
    rcases @recordPage_cases env state req consistent payload provider with
      ⟨receipt, mem, named, recorded⟩ | ⟨unknown, ⟨unreadable, -⟩ | ⟨receipt, named, recorded⟩⟩
    · rw [recorded] at done
      refine ⟨by rwa [done], fun _ _ other receipt' mem' named' => ?_, fun _ _ other absent => ?_,
        fun _ => by rw [done]⟩
      · rw [done, only _ _ other,
          List.inj_on_of_nodup_map consistent.distinct mem mem' (named.trans named'.symm)]
      · exact absurd (named ▸ List.mem_map_of_mem mem) absent
    · exact absurd ⟨payload, provider, reaches, unknown, unreadable⟩ intact
    · rw [recorded] at done
      rw [← named] at unknown
      obtain ⟨stays, suffix, retained⟩ := consistent.evict unknown
      refine ⟨by rwa [done], fun _ _ other receipt' mem' named' => ?_, fun _ _ other absent => ?_,
        fun never => absurd (congrArg Prod.fst done) (never _)⟩
      · exact absurd ((consistent.known _).mpr (List.mem_map_of_mem mem'))
          (by rwa [named', ← named])
      · exact ⟨receipt, named, by rw [done, only _ _ other], by rwa [done], by rwa [done]⟩
  · obtain ⟨same, -⟩ := (doPost_cases env state req).resolve_left reachable
    exact ⟨by rwa [same], fun _ _ reaches => absurd ⟨_, _, reaches⟩ reachable,
      fun _ _ reaches => absurd ⟨_, _, reaches⟩ reachable, fun _ => same⟩

def Intact (env : SinkEnvironment) (requests : List PageRequest) : Prop :=
  ∀ before req after, requests = before ++ req :: after →
    ¬ BreaksReceipt env (runSink env before) req

theorem Intact.of_append {more : List PageRequest} (intact : Intact env (requests ++ more)) :
    Intact env requests := fun before req after split =>
  intact before req (after ++ more) (by rw [split]; simp)

theorem runSink_consistent (intact : Intact env requests) : SinkConsistent (runSink env requests) ∧
    ∀ receipt ∈ (runSink env requests).receipts, RecordedBy env requests receipt := by
  induction requests using List.reverseRecOn with
  | nil => exact ⟨⟨fun _ => Iff.rfl, List.nodup_nil, Nat.zero_le _⟩, nofun⟩
  | append_singleton before req ih =>
    obtain ⟨consistent, recorded⟩ := ih intact.of_append
    have step := postStep consistent (intact before req [] rfl)
    rw [runSink_concat]
    refine ⟨step.consistent, fun receipt mem => ?_⟩
    -- a receipt is of this request, or its request stands before
    by_cases old : receipt ∈ (runSink env before).receipts
    · obtain ⟨early, first, later, provider, split, named, answered, retained⟩ :=
        recorded receipt old
      refine ⟨early, first, later ++ [req], provider, by simp [split], named, answered,
        fun since isPrefix => ?_⟩
      rcases List.prefix_concat_iff.mp isPrefix with rfl | shorter
      · rwa [← List.cons_append, ← List.append_assoc, ← split, runSink_concat]
      · exact retained since shorter
    · by_cases reachable : ∃ payload provider, Reaches env req payload provider
      · obtain ⟨payload, provider, reaches⟩ := reachable
        by_cases known : req.eventId ∈ (runSink env before).receipts.map PageReceipt.eventId
        · obtain ⟨other, isOther, named⟩ := List.mem_map.mp known
          rw [step.unchanged fun answer same => by
            rw [step.replayed payload provider reaches other isOther named] at same
            cases same] at mem
          exact absurd mem old
        · obtain ⟨new, named, answered, isNew, suffix⟩ :=
            step.accepted payload provider reaches known
          have same : receipt = new := by
            simpa [old] using suffix.subset mem
          refine ⟨before, req, [], provider, rfl, by rw [same, named], by rw [same, answered],
            fun since isPrefix => ?_⟩
          rw [List.prefix_nil.mp isPrefix, runSink_concat]
          exact mem
      · obtain ⟨same, -⟩ := (doPost_cases env (runSink env before) req).resolve_left reachable
        rw [same] at mem
        exact absurd mem old

theorem faithfulPosts_iff (env : SinkEnvironment) (requests : List PageRequest) :
    (∀ before req after, requests = before ++ req :: after → FaithfulPost env before req) ↔
    ∀ before req after, requests = before ++ req :: after →
      ¬ BreaksReceipt env (runSink env before) req := by
  constructor
  · rintro faithful before req after split ⟨payload, provider, reaches, unknown, unreadable⟩
    have recorded : (doPost env (runSink env before) req) =
        (.raised, ⟨(runSink env before).eventIds ++ [req.eventId],
          (runSink env before).receipts⟩) := by
      rw [doPost_reaches reaches, recordPage, if_neg unknown, unreadable]
    have unchanged := (faithful before req after split).unchanged fun answer same => by
      rw [recorded] at same
      cases same
    rw [runSink_concat, recorded] at unchanged
    have grown := congrArg (fun state => state.eventIds.length) unchanged
    simp at grown
  · intro intact before req after split
    have earlier : Intact env before := fun start first rest isStart =>
      intact start first (rest ++ req :: after) (by rw [split, isStart]; simp)
    obtain ⟨consistent, recorded⟩ := runSink_consistent earlier
    have step := postStep consistent (intact before req after split)
    refine ⟨?_, fun payload provider reaches receipt mem named => ⟨?_, recorded receipt mem⟩,
      ?_, ?_⟩
    · rw [runSink_concat]
      exact step.consistent
    · exact step.replayed payload provider reaches receipt mem named
    · rw [runSink_concat]
      exact step.accepted
    · rw [runSink_concat]
      exact step.unchanged

def textAlert : PageRequest where
  eventIdHeader := some "delivery-1"
  keyIdHeader := none
  body := "alert"
  receivedAt := 0

def developmentSink : SinkEnvironment where
  loads _ := some (.obj [("schema_version", .str "model-atlas-paging-event-v2"),
    ("delivery_id", .str "delivery-1"), ("alert", .str "down")])
  sha256 := id
  providerName := some "model-atlas-development-sink"

theorem textAlert_unfaithful : ¬ ∀ before req after,
    [textAlert] = before ++ req :: after → FaithfulPost developmentSink before req := by
  intro faithful
  have known := (faithful [] textAlert [] rfl).consistent.known "delivery-1"
  revert known
  decide +kernel

end Consistency

end ModelAtlas.Reliability
