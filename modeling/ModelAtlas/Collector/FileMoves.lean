import ModelAtlas.Collector.Outbox

/-!
# Where the files are

A file is in exactly one of the directories, and is moved after its batch was
accepted, or after it was found invalid or given up.
-/

namespace ModelAtlas.Collector

open Foundations

variable {file : OutboxFile} {name : String} {memory : CollectorState} {rest : List String}

def Located (sys : CollectorSystem) (name : String) (file : OutboxFile) :
    Prop :=
  (sys.outbox name = some file ∧ sys.sent name = none ∧ sys.failed name = none) ∨
  (sys.outbox name = none ∧ sys.sent name = some file ∧ sys.failed name = none) ∨
  (sys.outbox name = none ∧ sys.sent name = none ∧ sys.failed name = some file)

def IsAccepted (env : CollectorEnvironment) (sys : CollectorSystem) (file : OutboxFile) : Prop :=
  ∃ batch, env.parse file = some batch ∧ ∃ delivery ∈ sys.accepted, delivery.batch = batch

def IsGivenUp (env : CollectorEnvironment) (sys : CollectorSystem) (file : OutboxFile) : Prop :=
  env.parse file = none ∨ ∃ batch, env.parse file = some batch ∧
    ∃ entry ∈ sys.givenUp, entry.1.batch = batch

def Phase.names : Phase → List String
  | .idle => []
  | .polling _ rest => rest
  | .pendingSet _ name _ _ rest => name :: rest
  | .delivering _ name _ _ _ rest => name :: rest
  | .failureRecorded _ name rest => name :: rest
  | .failureSaved _ name rest => name :: rest
  | .successRecorded _ name _ rest => name :: rest
  | .successSaved _ name _ rest => name :: rest

def PhaseFile (env : CollectorEnvironment) (sys : CollectorSystem) : Phase → Prop
  | .idle | .polling _ _ => True
  | .pendingSet _ name batch _ _ | .delivering _ name batch _ _ _ =>
    ∃ file, sys.outbox name = some file ∧ env.parse file = some batch
  | .failureRecorded _ name _ | .failureSaved _ name _ =>
    ∀ file, sys.outbox name = some file → IsGivenUp env sys file
  | .successRecorded _ name _ _ | .successSaved _ name _ _ =>
    ∀ file, sys.outbox name = some file → IsAccepted env sys file

structure FileBooks (env : CollectorEnvironment)
    (sys : CollectorSystem) : Prop where
  located : ∀ entry ∈ sys.placed, Located sys entry.1 entry.2
  known : ∀ name file, sys.outbox name = some file ∨
    sys.sent name = some file ∨ sys.failed name = some file →
      (name, file) ∈ sys.placed
  sent : ∀ name file, sys.sent name = some file →
    IsAccepted env sys file
  failed : ∀ name file, sys.failed name = some file →
    IsGivenUp env sys file
  named : ∀ name ∈ sys.phase.names, ∃ file, (name, file) ∈ sys.placed
  current : PhaseFile env sys sys.phase

def PlacesFresh (sys : CollectorSystem) : CollectorStep → Prop
  | .place name _ => ∀ file, (name, file) ∉ sys.placed
  | _ => True

section Files

variable {env : CollectorEnvironment} {sys after : CollectorSystem}

theorem FileBooks.initial : FileBooks env .initial where
  located entry mem := absurd mem List.not_mem_nil
  known name file found := by
    rcases found with found | found | found <;> cases found
  sent name file found := by cases found
  failed name file found := by cases found
  named name mem := absurd mem List.not_mem_nil
  current := trivial

structure RecordGrows (before after : CollectorSystem) : Prop where
  accepted : ∀ delivery ∈ before.accepted, delivery ∈ after.accepted
  givenUp : ∀ entry ∈ before.givenUp, entry ∈ after.givenUp

theorem RecordGrows.of_same (accepted : after.accepted = sys.accepted)
    (givenUp : after.givenUp = sys.givenUp) : RecordGrows sys after := by
  constructor
  · rw [accepted]
    exact fun _ mem => mem
  · rw [givenUp]
    exact fun _ mem => mem

theorem RecordGrows.isAccepted (grows : RecordGrows sys after)
    (accepted : IsAccepted env sys file) :
    IsAccepted env after file := by
  obtain ⟨batch, parsed, delivery, mem, same⟩ := accepted
  exact ⟨batch, parsed, delivery, grows.accepted delivery mem, same⟩

theorem RecordGrows.isGivenUp (grows : RecordGrows sys after) (givenUp : IsGivenUp env sys file) :
    IsGivenUp env after file := by
  rcases givenUp with invalid | ⟨batch, parsed, entry, mem, same⟩
  · exact Or.inl invalid
  · exact Or.inr ⟨batch, parsed, entry, grows.givenUp entry mem, same⟩

/-- What a poll knows of its file, where the outbox keeps the files that the
poll still has to look at. -/
theorem PhaseFile.of_outbox {phase : Phase} (held : PhaseFile env sys phase)
    (grows : RecordGrows sys after)
    (outbox : ∀ name ∈ phase.names, after.outbox name = sys.outbox name) :
    PhaseFile env after phase := by
  cases phase with
  | idle =>
    trivial
  | polling memory rest =>
    trivial
  | pendingSet memory own batch pending rest =>
    have kept := outbox own List.mem_cons_self
    simp only [PhaseFile, kept]
    exact held
  | delivering memory own batch pending attempt rest =>
    have kept := outbox own List.mem_cons_self
    simp only [PhaseFile, kept]
    exact held
  | failureRecorded memory own rest =>
    have kept := outbox own List.mem_cons_self
    simp only [PhaseFile, kept]
    exact fun file found => grows.isGivenUp (held file found)
  | failureSaved memory own rest =>
    have kept := outbox own List.mem_cons_self
    simp only [PhaseFile, kept]
    exact fun file found => grows.isGivenUp (held file found)
  | successRecorded memory own batch rest =>
    have kept := outbox own List.mem_cons_self
    simp only [PhaseFile, kept]
    exact fun file found => grows.isAccepted (held file found)
  | successSaved memory own batch rest =>
    have kept := outbox own List.mem_cons_self
    simp only [PhaseFile, kept]
    exact fun file found => grows.isAccepted (held file found)

theorem FileBooks.of_same (books : FileBooks env sys)
    (outbox : after.outbox = sys.outbox) (sent : after.sent = sys.sent)
    (failed : after.failed = sys.failed)
    (placed : after.placed = sys.placed) (grows : RecordGrows sys after)
    (named : ∀ name ∈ after.phase.names, ∃ file, (name, file) ∈ sys.placed)
    (current : PhaseFile env after after.phase) :
    FileBooks env after where
  located entry mem := by
    rw [placed] at mem
    rw [Located, outbox, sent, failed]
    exact books.located entry mem
  known name file found := by
    rw [outbox, sent, failed] at found
    rw [placed]
    exact books.known name file found
  sent name file found := by
    rw [sent] at found
    exact grows.isAccepted (books.sent name file found)
  failed name file found := by
    rw [failed] at found
    exact grows.isGivenUp (books.failed name file found)
  named := by
    rw [placed]
    exact named
  current := current

theorem FileBooks.idle (books : FileBooks env sys) : FileBooks env { sys with phase := .idle } :=
  books.of_same rfl rfl rfl rfl (.of_same rfl rfl)
    (fun _ mem => absurd mem List.not_mem_nil) trivial

theorem FileBooks.place (books : FileBooks env sys) (fresh : ∀ other, (name, other) ∉ sys.placed) :
    FileBooks env { sys with
      outbox := Function.update sys.outbox name (some file)
      placed := sys.placed ++ [(name, file)] } where
  located entry mem := by
    rcases List.mem_append.mp mem with old | new
    · have other : entry.1 ≠ name := by
        intro same
        exact fresh entry.2 (same ▸ old)
      rw [Located]
      dsimp only
      rw [Function.update_of_ne other]
      exact books.located entry old
    · rw [List.mem_singleton.mp new]
      have unsent : sys.sent name = none := by
        by_contra present
        obtain ⟨stored, isSent⟩ := Option.ne_none_iff_exists'.mp present
        exact fresh stored (books.known name stored (Or.inr (Or.inl isSent)))
      have unfailed : sys.failed name = none := by
        by_contra present
        obtain ⟨stored, isFailed⟩ := Option.ne_none_iff_exists'.mp present
        exact fresh stored (books.known name stored (Or.inr (Or.inr isFailed)))
      exact Or.inl ⟨Function.update_self name _ _, unsent, unfailed⟩
  known other stored found := by
    dsimp only at found ⊢
    by_cases same : other = name
    · rw [same, Function.update_self] at found
      rw [same]
      rcases found with placed | isSent | isFailed
      · rw [Option.some.inj placed]
        exact List.mem_append_right _ (List.mem_singleton_self _)
      · exact absurd (books.known name stored (Or.inr (Or.inl isSent))) (fresh stored)
      · exact absurd (books.known name stored (Or.inr (Or.inr isFailed))) (fresh stored)
    · rw [Function.update_of_ne same] at found
      exact List.mem_append_left _ (books.known other stored found)
  sent := books.sent
  failed := books.failed
  named other mem := by
    obtain ⟨stored, placed⟩ := books.named other mem
    exact ⟨stored, List.mem_append_left _ placed⟩
  current := by
    refine books.current.of_outbox (.of_same rfl rfl) ?_
    -- The files of a poll were placed before.
    intro current mem
    obtain ⟨stored, placed⟩ := books.named current mem
    have other : current ≠ name := by
      intro same
      exact fresh stored (same ▸ placed)
    exact Function.update_of_ne other _ _

theorem FileBooks.elsewhere (books : FileBooks env sys) (found : sys.outbox name = some file) :
    sys.sent name = none ∧ sys.failed name = none := by
  have located := books.located (name, file) (books.known name file (Or.inl found))
  rcases located with ⟨_, unsent, unfailed⟩ | ⟨absent, _⟩ | ⟨absent, _⟩
  · exact ⟨unsent, unfailed⟩
  · rw [found] at absent
    cases absent
  · rw [found] at absent
    cases absent

theorem FileBooks.sameFile (books : FileBooks env sys) {entry : String × OutboxFile}
    (placed : entry ∈ sys.placed) (found : sys.outbox entry.1 = some file) : entry.2 = file := by
  rcases books.located entry placed with ⟨own, _⟩ | ⟨absent, _⟩ | ⟨absent, _⟩
  · exact Option.some.inj (own.symm.trans found)
  · rw [found] at absent
    cases absent
  · rw [found] at absent
    cases absent

theorem FileBooks.moved (books : FileBooks env sys)
    (named : ∀ other ∈ rest, ∃ file, (other, file) ∈ sys.placed)
    (found : sys.outbox name = some file) {sent failed : String → Option OutboxFile}
    (apart : ∀ other, other ≠ name → sent other = sys.sent other ∧ failed other = sys.failed other)
    (moved : sent name = some file ∧ failed name = none ∧ IsAccepted env sys file ∨
      sent name = none ∧ failed name = some file ∧ IsGivenUp env sys file) :
    FileBooks env { sys with
      outbox := Function.update sys.outbox name none
      sent := sent
      failed := failed
      phase := .polling memory rest } := by
  constructor
  · intro entry mem
    by_cases same : entry.1 = name
    · rw [same, books.sameFile mem (same ▸ found)]
      rcases moved with ⟨isSent, unfailed, _⟩ | ⟨unsent, isFailed, _⟩
      · exact Or.inr (Or.inl ⟨Function.update_self name _ _, isSent, unfailed⟩)
      · exact Or.inr (Or.inr ⟨Function.update_self name _ _, unsent, isFailed⟩)
    · rw [Located]
      dsimp only
      rw [Function.update_of_ne same, (apart _ same).1, (apart _ same).2]
      exact books.located entry mem
  · intro other stored where_
    dsimp only at where_ ⊢
    by_cases same : other = name
    · rw [same, Function.update_self] at where_
      have isFile : stored = file := by grind
      rw [same, isFile]
      exact books.known name file (Or.inl found)
    · rw [Function.update_of_ne same, (apart _ same).1, (apart _ same).2] at where_
      exact books.known other stored where_
  · intro other stored isSent
    dsimp only at isSent
    by_cases same : other = name
    · have own : file = stored ∧ IsAccepted env sys file := by grind
      exact own.1 ▸ own.2
    · exact books.sent other stored ((apart _ same).1 ▸ isSent)
  · intro other stored isFailed
    dsimp only at isFailed
    by_cases same : other = name
    · have own : file = stored ∧ IsGivenUp env sys file := by grind
      exact own.1 ▸ own.2
    · exact books.failed other stored ((apart _ same).2 ▸ isFailed)
  · exact named
  · trivial

theorem FileBooks.moveToFailed (books : FileBooks env sys)
    (named : ∀ other ∈ rest, ∃ file, (other, file) ∈ sys.placed)
    (givenUp : ∀ file, sys.outbox name = some file → IsGivenUp env sys file) :
    FileBooks env (sys.moveToFailed memory name rest) := by
  rw [CollectorSystem.moveToFailed]
  cases found : sys.outbox name with
  | none => exact books.idle
  | some file =>
    exact books.moved named found (fun _ other => ⟨rfl, Function.update_of_ne other _ _⟩)
      (Or.inr ⟨(books.elsewhere found).1, Function.update_self name _ _, givenUp file found⟩)

theorem FileBooks.moveToSent (books : FileBooks env sys)
    (named : ∀ other ∈ rest, ∃ file, (other, file) ∈ sys.placed)
    (accepted : ∀ file, sys.outbox name = some file → IsAccepted env sys file) :
    FileBooks env (sys.moveToSent memory name rest) := by
  rw [CollectorSystem.moveToSent]
  cases found : sys.outbox name with
  | none => exact books.idle
  | some file =>
    exact books.moved named found (fun _ other => ⟨Function.update_of_ne other _ _, rfl⟩)
      (Or.inl ⟨Function.update_self name _ _, (books.elsewhere found).2, accepted file found⟩)

theorem saveState_outside (outside : env.stateFile = none) (state : CollectorState) :
    sys.saveState env state =
      { sys with savedState := some state } := by
  rw [CollectorSystem.saveState, outside]

theorem placed_of_batchFiles (outside : env.stateFile = none) (mem : name ∈ sys.batchFiles env) :
    ∃ file, (name, file) ∈ sys.placed := by
  rw [CollectorSystem.batchFiles, outside, List.mem_insertionSort,
    List.mem_dedup, List.mem_filter, Option.toList_none, List.append_nil,
    List.mem_map] at mem
  obtain ⟨⟨entry, placed, rfl⟩, _⟩ := mem
  exact ⟨entry.2, placed⟩

theorem FileBooks.readFile (books : FileBooks env sys) {now : Time}
    (named : ∀ other ∈ name :: rest, ∃ file, (other, file) ∈ sys.placed) :
    FileBooks env (sys.readFile env memory name rest now) := by
  rw [CollectorSystem.readFile]
  split
  · next invalid =>
      refine books.of_same rfl rfl rfl rfl (.of_same rfl rfl) named ?_
      intro file found
      change sys.outbox name = some file at found
      rw [found, Option.bind_some] at invalid
      exact Or.inl invalid
  · next batch valid =>
      obtain ⟨file, found, parsed⟩ := Option.bind_eq_some_iff.mp valid
      split
      · exact books.of_same rfl rfl rfl rfl (.of_same rfl rfl) named ⟨file, found, parsed⟩
      · exact books.of_same rfl rfl rfl rfl (.of_same rfl rfl) named ⟨file, found, parsed⟩

theorem mem_ite_append {α : Type} {condition : Prop} [Decidable condition]
    {rows : List α} {row added : α} (mem : row ∈ rows) :
    row ∈ if condition then rows ++ [added] else rows := by
  by_cases holds : condition
  · rw [if_pos holds]
    exact List.mem_append_left _ mem
  · rw [if_neg holds]
    exact mem

theorem isAccepted_of_delivered {decision : ReceiptDecision}
    {endpoint : Endpoint} (delivered : attemptEnd decision endpoint = .delivered) :
    isAccepted decision endpoint = true := by
  cases endpoint with
  | processes answer =>
    cases answer <;> cases decision <;> simp_all [attemptEnd, isAccepted]
  | rejects =>
    cases delivered
  | unavailable =>
    cases delivered

theorem FileBooks.attemptDelivery (books : FileBooks env sys) {batch : TrafficBatch}
    {pending : PendingDelivery} {attempt : Nat} {endpoint : Endpoint}
    (named : ∀ other ∈ name :: rest, ∃ file, (other, file) ∈ sys.placed)
    (current : ∃ file, sys.outbox name = some file ∧ env.parse file = some batch) :
    FileBooks env (sys.attemptDelivery env memory name batch pending attempt rest endpoint) := by
  obtain ⟨file, found, parsed⟩ := current
  have sameFile : ∀ {other}, sys.outbox name = some other → env.parse other = some batch := by
    intro other isOther
    rw [← Option.some.inj (found.symm.trans isOther)]
    exact parsed
  have givenUp : ∀ {state : CollectorSystem} {entry : Delivery × GiveUp},
      entry.1.batch = batch → entry ∈ state.givenUp → ∀ other, sys.outbox name = some other →
          IsGivenUp env state other := by
    intro state entry same mem other isOther
    exact Or.inr ⟨batch, sameFile isOther, entry, mem, same⟩
  rw [CollectorSystem.attemptDelivery]
  dsimp only
  split
  · next delivered =>
      have accepted := isAccepted_of_delivered delivered
      refine books.of_same rfl rfl rfl rfl
        ⟨fun _ mem => mem_ite_append mem, fun _ mem => mem⟩ named ?_
      intro other isOther
      refine ⟨batch, sameFile isOther, ⟨batch, pending, sys.recorded batch.batchId⟩, ?_, rfl⟩
      dsimp only
      rw [if_pos accepted]
      exact List.mem_append_right _ (List.mem_singleton_self _)
  · refine books.of_same rfl rfl rfl rfl
      ⟨fun _ mem => mem_ite_append mem, fun _ mem => List.mem_append_left _ mem⟩ named ?_
    exact givenUp rfl (List.mem_append_right _ (List.mem_singleton_self _))
  · split
    · refine books.of_same rfl rfl rfl rfl
        ⟨fun _ mem => mem_ite_append mem, fun _ mem => List.mem_append_left _ mem⟩ named ?_
      exact givenUp rfl (List.mem_append_right _ (List.mem_singleton_self _))
    · exact books.of_same rfl rfl rfl rfl ⟨fun _ mem => mem_ite_append mem, fun _ mem => mem⟩ named
        ⟨file, found, parsed⟩

theorem FileBooks.advance (outside : env.stateFile = none) (books : FileBooks env sys) {now : Time}
    (taken : sys.advance env now = some after) :
    FileBooks env after := by
  have named := books.named
  have current := books.current
  rw [CollectorSystem.advance] at taken
  split at taken
  · cases taken
  · cases taken
  · cases taken
    exact books.idle
  · next phase =>
      rw [phase] at named
      cases taken
      exact books.readFile named
  · next phase =>
      rw [phase] at named current
      rw [saveState_outside outside] at taken
      cases taken
      exact books.of_same rfl rfl rfl rfl (.of_same rfl rfl) named current
  · next phase =>
      rw [phase] at named current
      rw [saveState_outside outside] at taken
      cases taken
      exact books.of_same rfl rfl rfl rfl (.of_same rfl rfl) named current
  · next phase =>
      rw [phase] at named current
      cases taken
      exact books.moveToFailed (fun other mem => named other (List.mem_cons_of_mem _ mem)) current
  · next phase =>
      rw [phase] at named current
      rw [saveState_outside outside] at taken
      cases taken
      exact books.of_same rfl rfl rfl rfl (.of_same rfl rfl) named current
  · next phase =>
      rw [phase] at named current
      cases taken
      exact books.moveToSent (fun other mem => named other (List.mem_cons_of_mem _ mem)) current

theorem FileBooks.next (outside : env.stateFile = none) (books : FileBooks env sys)
    {step : CollectorStep} (fresh : PlacesFresh sys step)
    (taken : stepsOf (CollectorSystem.next env) sys step after) :
    FileBooks env after := by
  cases step with
  | place name file =>
    cases taken
    exact books.place fresh
  | crash =>
    cases taken
    exact books.idle
  | poll =>
    rw [stepsOf, CollectorSystem.next] at taken
    split at taken
    · cases taken
      exact books.of_same rfl rfl rfl rfl (.of_same rfl rfl)
        (fun _ mem => placed_of_batchFiles outside mem) trivial
    · cases taken
      exact books
    · cases taken
  | advance now =>
    exact books.advance outside taken
  | attempt endpoint =>
    have named := books.named
    have current := books.current
    rw [stepsOf, CollectorSystem.next] at taken
    split at taken
    · next phase =>
        rw [phase] at named current
        cases taken
        exact books.attemptDelivery named current
    · cases taken

end Files

end ModelAtlas.Collector
