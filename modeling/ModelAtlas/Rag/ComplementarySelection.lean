import ModelAtlas.Corpus.Markdown
import ModelAtlas.Foundations.JsonTexts
import Mathlib.Data.List.Perm.Subperm
import Mathlib.Data.List.Nodup

/-!
# Complementary sources

`services/rag_complementary.py`: the sources of a pool are shortlisted in batches,
round after round, until one request holds those that are left.
-/

namespace ModelAtlas.Rag

open Foundations
open Corpus (RagChunk)
open scoped List

variable {batches : List (List RagChunk)} {stages : List SelectionStage} {remaining : List RagChunk}

/-- What a selection request asks: the sources are named by their places. -/
structure SelectionRequest where
  (query translation : String)
  limit : Nat
  sources : List RagChunk

/-- The size of the JSON text of a request, and `json.loads` without repeated keys. -/
structure SelectionEnvironment where
  requestBytes : SelectionRequest → Nat
  loads : String → Except String Json

def maxRequestBytes : Nat := 12000

def maxBatchSources : Nat := 12

def maxSelectionCalls : Nat := 12

section Requests

variable (env : SelectionEnvironment) (query translation : String)

/-- `selection_request`, with `native_request` and the check of `protected_terms`. -/
def selectionRequest (chunks : List RagChunk) (limit : Nat) : Except String SelectionRequest :=
  if pyStrip query = "" ∨ 4096 < query.length then
    .error "query must contain 1-4096 characters"
  else if limit < 1 ∨ 5 < limit then .error "selection limit must be 1-5"
  else if chunks = [] ∨ ¬ (chunks.map RagChunk.chunkId).Nodup then
    .error "selection sources must be nonempty and unique"
  else if maxRequestBytes < env.requestBytes ⟨query, translation, limit, chunks⟩ then
    .error "request exceeds byte budget; source text must not be truncated"
  else .ok ⟨query, translation, limit, chunks⟩

def parseNative (response : Json) : Except String (List (String × Json)) := do
  if !(response.isObject && Json.isText (response.get? "model") "qwen2.5:1.5b") then
    throw "unexpected model response"
  if response.get? "done" ≠ some (.bool true) ∨
      !Json.isText (response.get? "done_reason") "stop" then
    throw "native generation did not complete normally"
  match (response.get? "message").bind (·.get? "content") with
  | some (.str content) =>
    if 8192 < content.length then throw "invalid native content"
    match ← env.loads content with
    | .obj members => return members
    | _ => throw "native content must be a JSON object"
  | _ => throw "invalid native content"

/-- `aliases.get(item)`: the sources are named `S1`, `S2` and so on. -/
def aliased (chunks : List RagChunk) (item : Json) : Option RagChunk :=
  ((List.range chunks.length).find? (fun index =>
    item = .str ("S" ++ toString (index + 1)))).bind (chunks[·]?)

def parseSelection (response : Json) (chunks : List RagChunk) (limit : Nat) :
    Except String (List RagChunk) := do
  let members ← parseNative env response
  match members.map Prod.fst, (Json.obj members).get? "selected" with
  | ["selected"], some (.arr selected) =>
    if limit < selected.length then .error "invalid source selection shape"
    else if !selected.all (fun item => (aliased chunks item).isSome) then
      .error "selected alias is not a supplied source"
    else if ¬ selected.Nodup then .error "duplicate selected source"
    else .ok (selected.filterMap (aliased chunks))
  | _, _ => .error "invalid source selection shape"

def fitsBatch (batch : List RagChunk) : Bool :=
  (selectionRequest env query translation batch 3).isOk && batch.length ≤ maxBatchSources

/-- The loop of `partition_sources`, from the batch that is begun. -/
def partitionFrom (current : List RagChunk) : List RagChunk → Except String (List (List RagChunk))
  | [] => .ok (if current = [] then [] else [current])
  | chunk :: rest =>
    if fitsBatch env query translation (current ++ [chunk]) then
      partitionFrom (current ++ [chunk]) rest
    else if current = [] then .error "one complete source exceeds request budget"
    else do
      let _ ← selectionRequest env query translation [chunk] 3
      return current :: (← partitionFrom [chunk] rest)

def partitionSources (chunks : List RagChunk) : Except String (List (List RagChunk)) :=
  partitionFrom env query translation [] chunks

end Requests

structure SelectionStage where
  isFinal : Bool
  (inputIds selectedIds : List String)

def stageOf (isFinal : Bool) (chunks chosen : List RagChunk) : SelectionStage :=
  ⟨isFinal, chunks.map RagChunk.chunkId, chosen.map RagChunk.chunkId⟩

structure Selection where
  chosen : List RagChunk
  stages : List SelectionStage
  calls : List SelectionRequest

/-- A `ValueError`, with the requests that were sent. -/
structure SelectionStopped where
  message : String
  calls : List SelectionRequest

section Rounds

-- the callback may answer by all the requests that were sent before
variable (env : SelectionEnvironment) (call : List SelectionRequest → SelectionRequest → Json)
  (query translation : String)

def shortlist : List (List RagChunk) → Selection → Except SelectionStopped Selection
  | [], progress => .ok progress
  | batch :: rest, progress =>
    if maxSelectionCalls ≤ progress.calls.length then
      .error ⟨"selection call budget exhausted", progress.calls⟩
    else
      match selectionRequest env query translation batch 3 with
      | .error message => .error ⟨message, progress.calls⟩
      | .ok request =>
        match parseSelection env (call progress.calls request) batch 3 with
        | .error message => .error ⟨message, progress.calls ++ [request]⟩
        | .ok chosen =>
          shortlist rest ⟨progress.chosen ++ chosen,
            progress.stages ++ [stageOf false batch chosen], progress.calls ++ [request]⟩

/-- The loop of `select_complementary`. -/
def selectFrom (remaining : List RagChunk) (stages : List SelectionStage)
    (calls : List SelectionRequest) : Except SelectionStopped Selection :=
  if remaining = [] then .ok ⟨[], stages, calls⟩
  else
    match selectionRequest env query translation remaining 5 with
    | .ok request =>
      if maxSelectionCalls ≤ calls.length then
        .error ⟨"selection call budget exhausted", calls⟩
      else
        match parseSelection env (call calls request) remaining 5 with
        | .error message => .error ⟨message, calls ++ [request]⟩
        | .ok chosen =>
          .ok ⟨chosen, stages ++ [stageOf true remaining chosen], calls ++ [request]⟩
    | .error _ =>
      match partitionSources env query translation remaining with
      | .error message => .error ⟨message, calls⟩
      | .ok batches =>
        match shortlist env call query translation batches ⟨[], stages, calls⟩ with
        | .error stopped => .error stopped
        | .ok next =>
          if next.chosen.length < remaining.length then
            selectFrom next.chosen next.stages next.calls
          else .error ⟨"selection failed to reduce the candidate set", next.calls⟩
termination_by remaining.length

def selectComplementary (pool : List RagChunk) : Except SelectionStopped Selection :=
  selectFrom env call query translation pool [] []

end Rounds

section Bounds

variable {env : SelectionEnvironment} {call : List SelectionRequest → SelectionRequest → Json}
  {query translation : String} {chunks chosen : List RagChunk}

theorem partitionFrom_yields (current : List RagChunk)
    (begun : current = [] ∨ fitsBatch env query translation current = true) :
    ∀ {batches}, partitionFrom env query translation current chunks = .ok batches →
      batches.flatten = current ++ chunks ∧
        ∀ batch ∈ batches, batch ≠ [] ∧ fitsBatch env query translation batch = true := by
  induction chunks generalizing current with
  | nil =>
    intro batches parted
    by_cases empty : current = []
    · simp [partitionFrom, empty] at parted
      simp [parted, empty]
    · simp [partitionFrom, empty] at parted
      simp [← parted, empty, begun.resolve_left empty]
  | cons chunk rest ih =>
    intro batches parted
    rw [partitionFrom] at parted
    by_cases fits : fitsBatch env query translation (current ++ [chunk]) = true
    · rw [if_pos fits] at parted
      simpa using ih _ (Or.inr fits) parted
    · rw [if_neg fits] at parted
      by_cases empty : current = []
      · rw [if_pos empty] at parted
        cases parted
      · rw [if_neg empty] at parted
        obtain ⟨request, requested, parted⟩ := bind_eq_ok_iff.mp parted
        obtain ⟨later, laterParted, same⟩ := bind_eq_ok_iff.mp parted
        have single : fitsBatch env query translation [chunk] = true := by
          simp [fitsBatch, requested, Except.isOk, Except.toBool, maxBatchSources]
        obtain ⟨flat, each⟩ := ih _ (Or.inr single) laterParted
        cases same
        refine ⟨by simp [flat], fun batch mem => ?_⟩
        rcases List.mem_cons.mp mem with rfl | mem
        · exact ⟨empty, begun.resolve_left empty⟩
        · exact each batch mem

theorem aliased_eq_some {item : Json} {chunk : RagChunk}
    (found : aliased chunks item = some chunk) :
    ∃ index, chunks[index]? = some chunk ∧ item = .str ("S" ++ toString (index + 1)) := by
  obtain ⟨index, named, isChunk⟩ := Option.bind_eq_some_iff.mp found
  exact ⟨index, isChunk, by simpa using List.find?_some named⟩

theorem parseSelection_ok {response : Json} {limit : Nat} (distinct : chunks.Nodup)
    (parsed : parseSelection env response chunks limit = .ok chosen) :
    chosen <+~ chunks ∧ chosen.length ≤ limit := by
  obtain ⟨members, -, parsed⟩ := bind_eq_ok_iff.mp parsed
  split at parsed
  · next selected _ _ =>
    split at parsed
    · cases parsed
    · next short =>
      split at parsed
      · cases parsed
      · split at parsed
        · cases parsed
        · next nodup =>
          cases parsed
          rw [not_not] at nodup
          refine ⟨List.subperm_of_subset (nodup.filterMap ?_) fun chunk mem => ?_, ?_⟩
          · intro left right chunk isLeft isRight
            obtain ⟨index, atIndex, rfl⟩ := aliased_eq_some isLeft
            obtain ⟨other, atOther, rfl⟩ := aliased_eq_some isRight
            have inside := (List.getElem?_eq_some_iff.mp atIndex).1
            rw [(List.getElem?_inj inside distinct).mp (atIndex.trans atOther.symm)]
          · obtain ⟨item, -, found⟩ := List.mem_filterMap.mp mem
            obtain ⟨index, atIndex, -⟩ := aliased_eq_some found
            exact List.mem_of_getElem? atIndex
          · exact (List.length_filterMap_le _ _).trans (Nat.le_of_not_lt short)
  · cases parsed

inductive Shortlisted (env : SelectionEnvironment) (query translation : String) :
    List (List RagChunk) → List (List RagChunk) → List SelectionStage → Prop
  | nil : Shortlisted env query translation [] [] []
  | cons {batch chosen : List RagChunk} {batches selections : List (List RagChunk)}
      {stages : List SelectionStage} (selected : chosen <+~ batch) (short : chosen.length ≤ 3) :
      Shortlisted env query translation batches selections stages →
      Shortlisted env query translation (batch :: batches) (chosen :: selections)
        (stageOf false batch chosen :: stages)

theorem shortlist_ok (distinct : ∀ batch ∈ batches, batch.Nodup) :
    ∀ {progress next}, shortlist env call query translation batches progress = .ok next →
      ∃ selections stages, Shortlisted env query translation batches selections stages ∧
        next.chosen = progress.chosen ++ selections.flatten ∧
        next.stages = progress.stages ++ stages := by
  induction batches with
  | nil =>
    intro progress next ran
    cases ran
    exact ⟨[], [], .nil, by simp, by simp⟩
  | cons batch rest ih =>
    intro progress next ran
    rw [shortlist] at ran
    split at ran
    · cases ran
    · cases requested : selectionRequest env query translation batch 3 with
      | error message =>
        rw [requested] at ran
        cases ran
      | ok request =>
        simp only [requested] at ran
        cases parsed : parseSelection env (call progress.calls request) batch 3 with
        | error message =>
          rw [parsed] at ran
          cases ran
        | ok chosen =>
          simp only [parsed] at ran
          obtain ⟨selections, stages, listed, isChosen, isStages⟩ :=
            ih (fun batch mem => distinct batch (List.mem_cons_of_mem _ mem)) ran
          obtain ⟨selected, short⟩ := parseSelection_ok (distinct batch List.mem_cons_self) parsed
          exact ⟨chosen :: selections, _ :: stages, .cons selected short listed, by simp [isChosen],
            by simp [isStages]⟩

def sentRequests : Except SelectionStopped Selection → List SelectionRequest
  | .error stopped => stopped.calls
  | .ok selection => selection.calls

theorem shortlist_sent {progress : Selection}
    (started : progress.calls.length ≤ maxSelectionCalls) :
    (sentRequests (shortlist env call query translation batches progress)).length ≤
      maxSelectionCalls := by
  induction batches generalizing progress with
  | nil => exact started
  | cons batch rest ih =>
    rw [shortlist]
    split
    · exact started
    · next left =>
      cases requested : selectionRequest env query translation batch 3 with
      | error message => exact started
      | ok request =>
        have room : (progress.calls ++ [request]).length ≤ maxSelectionCalls := by
          rw [List.length_append, List.length_singleton]
          omega
        cases parsed : parseSelection env (call progress.calls request) batch 3 with
        | error message =>
          simp only [parsed]
          exact room
        | ok chosen =>
          simp only [parsed]
          exact ih room

/-! ## Whole selections -/

/-- The rounds of a selection: the batches of each are its input, and the next
starts from what they selected. -/
inductive SelectionRun (env : SelectionEnvironment) (query translation : String) :
    List RagChunk → List SelectionStage → List RagChunk → Prop
  | exhausted : SelectionRun env query translation [] [] []
  | final {remaining chosen : List RagChunk} (selected : chosen <+~ remaining)
      (short : chosen.length ≤ 5) :
      SelectionRun env query translation remaining [stageOf true remaining chosen] chosen
  | round {remaining chosen : List RagChunk} {batches selections : List (List RagChunk)}
      {stages later : List SelectionStage} (parted : batches.flatten = remaining)
      (fit : ∀ batch ∈ batches, batch ≠ [] ∧ fitsBatch env query translation batch = true)
      (listed : Shortlisted env query translation batches selections stages)
      (present : stages ≠ [])
      (reduced : selections.flatten.length < remaining.length) :
      SelectionRun env query translation selections.flatten later chosen →
      SelectionRun env query translation remaining (stages ++ later) chosen

theorem Shortlisted.subperm {selections : List (List RagChunk)}
    (listed : Shortlisted env query translation batches selections stages) :
    selections.flatten <+~ batches.flatten ∧
      stages.flatMap SelectionStage.selectedIds = selections.flatten.map RagChunk.chunkId := by
  induction listed with
  | nil => exact ⟨List.Subperm.refl _, rfl⟩
  | cons selected short _ ih =>
    refine ⟨selected.append ih.1, ?_⟩
    rw [List.flatMap_cons, ih.2, List.flatten_cons, List.map_append]
    rfl

theorem SelectionRun.of_nil (run : SelectionRun env query translation remaining [] chosen) :
    remaining = [] ∧ chosen = [] := by
  generalize isStages : [] = stages at run
  cases run with
  | exhausted => exact ⟨rfl, rfl⟩
  | final selected short => cases isStages
  | round parted fit listed present reduced run =>
    exact absurd (List.append_eq_nil_iff.mp isStages.symm).1 present

theorem SelectionRun.bounded (run : SelectionRun env query translation remaining stages chosen) :
    chosen <+~ remaining ∧ chosen.length ≤ 5 ∧ ∀ last, stages.getLast? = some last →
      last.selectedIds = chosen.map RagChunk.chunkId := by
  induction run with
  | exhausted => exact ⟨List.Subperm.refl _, Nat.zero_le _, nofun⟩
  | final selected short =>
    refine ⟨selected, short, fun last isLast => ?_⟩
    cases isLast
    rfl
  | @round remaining chosen batches selections stages later parted fit listed present reduced run
      ih =>
    obtain ⟨subperm, ids⟩ := listed.subperm
    refine ⟨ih.1.trans (parted ▸ subperm), ih.2.1, fun last isLast => ?_⟩
    rw [List.getLast?_append] at isLast
    cases isLater : later.getLast? with
    | some stage =>
      rw [isLater] at isLast
      cases isLast
      exact ih.2.2 _ isLater
    | none =>
      -- the last round selected nothing
      rw [List.getLast?_eq_none_iff] at isLater
      subst isLater
      obtain ⟨empty, rfl⟩ := run.of_nil
      rw [empty, List.map_nil, List.flatMap_eq_nil_iff] at ids
      exact ids last (List.mem_of_getLast? (by simpa using isLast))

theorem selectFrom_ok (distinct : remaining.Nodup) {calls : List SelectionRequest}
    {selection : Selection}
    (ran : selectFrom env call query translation remaining stages calls = .ok selection) :
    ∃ later, selection.stages = stages ++ later ∧
      SelectionRun env query translation remaining later selection.chosen := by
  induction h : remaining.length using Nat.strong_induction_on
    generalizing remaining stages calls with
  | _ size ih =>
    rw [selectFrom] at ran
    split at ran
    · next empty =>
      subst empty
      cases ran
      exact ⟨[], (List.append_nil _).symm, .exhausted⟩
    · next present =>
      cases requested : selectionRequest env query translation remaining 5 with
      | ok request =>
        simp only [requested] at ran
        split at ran
        · cases ran
        · cases parsed : parseSelection env (call calls request) remaining 5 with
          | error message =>
            rw [parsed] at ran
            cases ran
          | ok chosen =>
            rw [parsed] at ran
            cases ran
            obtain ⟨selected, short⟩ := parseSelection_ok distinct parsed
            exact ⟨_, rfl, .final selected short⟩
      | error message =>
        simp only [requested] at ran
        cases parted : partitionSources env query translation remaining with
        | error message =>
          rw [parted] at ran
          cases ran
        | ok batches =>
          simp only [parted] at ran
          obtain ⟨flat, fit⟩ := partitionFrom_yields [] (Or.inl rfl) parted
          rw [List.nil_append] at flat
          cases listing : shortlist env call query translation batches ⟨[], stages, calls⟩ with
          | error stopped =>
            rw [listing] at ran
            cases ran
          | ok next =>
            simp only [listing] at ran
            split at ran
            · next reduced =>
              obtain ⟨selections, found, listed, isChosen, isStages⟩ :=
                shortlist_ok (List.nodup_flatten.mp (flat ▸ distinct)).1 listing
              rw [List.nil_append] at isChosen
              have nextDistinct : next.chosen.Nodup := by
                obtain ⟨arranged, perm, sublist⟩ := listed.subperm.1
                rw [isChosen]
                exact perm.nodup_iff.mp ((flat ▸ distinct).sublist sublist)
              obtain ⟨later, isLater, run⟩ := ih _ (h ▸ reduced) nextDistinct ran rfl
              rw [isChosen] at reduced run
              refine ⟨found ++ later, by simp [isLater, isStages], .round flat fit listed ?_
                reduced run⟩
              rintro rfl
              cases listed
              exact present flat.symm
            · cases ran

theorem selectFrom_sent
    {calls : List SelectionRequest} (started : calls.length ≤ maxSelectionCalls) :
    (sentRequests (selectFrom env call query translation remaining stages calls)).length ≤
      maxSelectionCalls := by
  induction h : remaining.length using Nat.strong_induction_on
    generalizing remaining stages calls with
  | _ size ih =>
    rw [selectFrom]
    split
    · exact started
    · cases requested : selectionRequest env query translation remaining 5 with
      | ok request =>
        dsimp only
        split
        · exact started
        · next left =>
          have room : (calls ++ [request]).length ≤ maxSelectionCalls := by
            rw [List.length_append, List.length_singleton]
            omega
          cases parsed : parseSelection env (call calls request) remaining 5 <;>
            exact room
      | error message =>
        dsimp only
        cases parted : partitionSources env query translation remaining with
        | error message => exact started
        | ok batches =>
          dsimp only
          have sent : (sentRequests (shortlist env call query translation batches
              ⟨[], stages, calls⟩)).length ≤ maxSelectionCalls := shortlist_sent started
          cases listing : shortlist env call query translation batches ⟨[], stages, calls⟩ with
          | error stopped => simpa only [listing] using sent
          | ok next =>
            rw [listing] at sent
            dsimp only
            split
            · next reduced => exact ih _ (h ▸ reduced) sent rfl
            · exact sent

theorem selectComplementary_bounded (env : SelectionEnvironment)
    (call : List SelectionRequest → SelectionRequest → Json) (query translation : String)
    (pool : List RagChunk) (distinct : (pool.map RagChunk.chunkId).Nodup) :
    (sentRequests (selectComplementary env call query translation pool)).length ≤
        maxSelectionCalls ∧
      ∀ selection, selectComplementary env call query translation pool = .ok selection →
        selection.chosen.length ≤ 5 ∧ (selection.chosen.map RagChunk.chunkId).Nodup ∧
        selection.chosen ⊆ pool ∧
        SelectionRun env query translation pool selection.stages selection.chosen ∧
        ∀ last, selection.stages.getLast? = some last →
          last.selectedIds = selection.chosen.map RagChunk.chunkId := by
  refine ⟨selectFrom_sent (Nat.zero_le _), fun selection ran => ?_⟩
  obtain ⟨stages, isStages, run⟩ := selectFrom_ok (distinct.of_map _) ran
  rw [List.nil_append] at isStages
  obtain ⟨subperm, short, last⟩ := run.bounded
  obtain ⟨arranged, perm, sublist⟩ := subperm
  have ids : (arranged.map RagChunk.chunkId).Nodup := distinct.sublist (sublist.map _)
  rw [isStages]
  exact ⟨short, (perm.map _).nodup_iff.mp ids,
    fun chunk mem => sublist.subset (perm.mem_iff.mpr mem), run, last⟩

def tokenChunk : RagChunk := ⟨"ko-1", "guide.md", "Tokens", "A token is hidden.", ["Tokens"], ""⟩

def firstSource : List SelectionRequest → SelectionRequest → Json := fun _ _ =>
  .obj [("model", .str "qwen2.5:1.5b"), ("done", .bool true), ("done_reason", .str "stop"),
    ("message", .obj [("content", .str "first")])]

def firstSourceEnvironment : SelectionEnvironment :=
  ⟨fun _ => 100, fun _ => .ok (.obj [("selected", .arr [.str "S1"])])⟩

theorem selectComplementary_bounded_one : ∃ selection,
    selectComplementary firstSourceEnvironment firstSource "token?" "token" [tokenChunk] =
      .ok selection ∧ selection.chosen = [tokenChunk] ∧ selection.chosen ⊆ [tokenChunk] := by
  have ran : selectComplementary firstSourceEnvironment firstSource "token?" "token" [tokenChunk] =
      .ok ⟨[tokenChunk], [stageOf true [tokenChunk] [tokenChunk]],
        [⟨"token?", "token", 5, [tokenChunk]⟩]⟩ := by
    rw [selectComplementary, selectFrom]
    rfl
  exact ⟨_, ran, rfl,
    ((selectComplementary_bounded _ _ _ _ [tokenChunk] (by decide)).2 _ ran).2.2.1⟩

end Bounds

end ModelAtlas.Rag
