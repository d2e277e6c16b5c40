import Mathlib.Order.Basic

/-!
# Finite executions of labelled transition systems

An `Execution` performs a finite list of labels one after the other, so a
statement about every execution is about every order of steps. The rules below
are the only inductions over runs in the development.
-/

namespace ModelAtlas.Foundations

universe u v

variable {State : Type u} {Label : Type v}

/-- `Execution step start labels finish` performs `labels`, oldest first, and
ends in `finish`. -/
inductive Execution (step : State → Label → State → Prop) (start : State) :
    List Label → State → Prop
  | refl : Execution step start [] start
  | snoc {labels : List Label} {middle : State} {label : Label}
      {finish : State} :
      Execution step start labels middle →
      step middle label finish →
      Execution step start (labels ++ [label]) finish

def Guarded (guard : State → Label → Prop) (step : State → Label → State → Prop) :
    State → Label → State → Prop :=
  fun before label after => guard before label ∧ step before label after

def stepsOf (next : State → Label → Option State) : State → Label → State → Prop :=
  fun before label after => next before label = some after

def perform (next : State → Label → Option State) : State → List Label → Option State
  | state, [] => some state
  | state, label :: rest => (next state label).bind (perform next · rest)

def MeetsGuard (guard : State → Label → Prop)
    (next : State → Label → Option State) : State → List Label → Prop
  | _, [] => True
  | state, label :: rest =>
    guard state label ∧ ∀ middle, next state label = some middle → MeetsGuard guard next middle rest

def checksAlong (check : State → Label → Bool)
    (next : State → Label → Option State) : State → List Label → Bool
  | _, [] => true
  | state, label :: rest =>
    check state label && (next state label).all (checksAlong check next · rest)

theorem MeetsGuard.of_checks {guard : State → Label → Prop}
    {next : State → Label → Option State} (check : State → Label → Bool)
    (sound : ∀ state label, check state label = true → guard state label) :
    ∀ {labels : List Label} {state : State}, checksAlong check next state labels = true →
        MeetsGuard guard next state labels
  | [], _, _ => trivial
  | label :: rest, state, checked => by
    rw [checksAlong, Bool.and_eq_true] at checked
    refine ⟨sound state label checked.1, fun middle taken => ?_⟩
    have remaining := checked.2
    rw [taken] at remaining
    exact of_checks check sound remaining

def Happened (step : State → Label → State → Prop) (start : State)
    (kind : State → Label → Prop) (labels : List Label) : Prop :=
  ∃ done label rest before after, labels = done ++ label :: rest ∧
    Execution step start done before ∧ step before label after ∧ kind before label

namespace Happened

variable {step : State → Label → State → Prop} {start : State}
  {kind : State → Label → Prop} {labels : List Label}

theorem later (earlier : Happened step start kind labels) (label : Label) :
    Happened step start kind (labels ++ [label]) := by
  obtain ⟨done, own, rest, before, after, rfl, exec, taken, isKind⟩ :=
    earlier
  refine ⟨done, own, rest ++ [label], before, after, ?_, exec, taken, isKind⟩
  rw [List.append_assoc, List.cons_append]

theorem now {before after : State} {label : Label} (exec : Execution step start labels before)
    (taken : step before label after) (isKind : kind before label) :
    Happened step start kind (labels ++ [label]) :=
  ⟨labels, label, [], before, after, rfl, exec, taken, isKind⟩

theorem mono {weaker : State → Label → Prop} (happened : Happened step start kind labels)
    (implies : ∀ before label, kind before label → weaker before label) :
    Happened step start weaker labels := by
  obtain ⟨done, own, rest, before, after, split, exec, taken, isKind⟩ :=
    happened
  exact ⟨done, own, rest, before, after, split, exec, taken, implies before own isKind⟩

end Happened

namespace Execution

variable {step : State → Label → State → Prop} {start : State}

/-- A property of the labels performed so far and the state reached holds at
the end of every execution when each step preserves it. -/
theorem invariant_of_labels (property : List Label → State → Prop) (initial : property [] start)
    (preserved : ∀ labels before label after, property labels before → step before label after →
        property (labels ++ [label]) after)
    {labels : List Label} {finish : State}
    (exec : Execution step start labels finish) :
    property labels finish := by
  induction exec with
  | refl =>
    exact initial
  | snoc _ taken ih =>
    exact preserved _ _ _ _ ih taken

/-- A property that holds initially and is preserved by every step holds in
every state reached. -/
theorem invariant (property : State → Prop) (initial : property start)
    (preserved : ∀ before label after, property before → step before label after → property after)
    {labels : List Label} {finish : State} (exec : Execution step start labels finish) :
    property finish :=
  exec.invariant_of_labels (fun _ state => property state) initial
    (fun _ before label after held taken =>
      preserved before label after held taken)

/-- As `invariant`, where a step also knows the execution that led to it. -/
theorem invariant_of_past (property : List Label → State → Prop) (initial : property [] start)
    (preserved : ∀ labels before label after,
      Execution step start labels before → property labels before →
        step before label after → property (labels ++ [label]) after)
    {labels : List Label} {finish : State}
    (exec : Execution step start labels finish) :
    property labels finish := by
  induction exec with
  | refl =>
    exact initial
  | snoc earlier taken ih =>
    exact preserved _ _ _ _ earlier ih taken

theorem append {labels rest : List Label} {middle finish : State}
    (first : Execution step start labels middle) (second : Execution step middle rest finish) :
    Execution step start (labels ++ rest) finish := by
  induction second with
  | refl =>
    simpa using first
  | snoc _ taken ih =>
    rw [← List.append_assoc]
    exact ih.snoc taken

theorem mono {larger : State → Label → State → Prop} (included : ∀ before label after,
      step before label after → larger before label after)
    {labels : List Label} {finish : State}
    (exec : Execution step start labels finish) :
    Execution larger start labels finish := by
  induction exec with
  | refl =>
    exact Execution.refl
  | snoc _ taken ih =>
    exact ih.snoc (included _ _ _ taken)

theorem of_guarded {guard : State → Label → Prop} {labels : List Label} {finish : State}
    (exec : Execution (Guarded guard step) start labels finish) :
    Execution step start labels finish :=
  exec.mono (fun _ _ _ taken => taken.2)

theorem cons {label : Label} {middle finish : State} {labels : List Label}
    (taken : step start label middle) (exec : Execution step middle labels finish) :
    Execution step start (label :: labels) finish :=
  (Execution.refl.snoc taken).append exec

theorem of_perform {next : State → Label → Option State} :
    ∀ {labels : List Label} {start finish : State}, perform next start labels = some finish →
        Execution (stepsOf next) start labels finish
  | [], start, finish, performed => by
    simp only [perform, Option.some.injEq] at performed
    subst finish
    exact Execution.refl
  | label :: rest, start, finish, performed => by
    simp only [perform, Option.bind_eq_some_iff] at performed
    obtain ⟨middle, taken, remaining⟩ := performed
    exact Execution.cons taken (of_perform remaining)

theorem of_perform_guarded {guard : State → Label → Prop} {next : State → Label → Option State} :
    ∀ {labels : List Label} {start finish : State}, perform next start labels = some finish →
        MeetsGuard guard next start labels →
          Execution (Guarded guard (stepsOf next)) start labels finish
  | [], start, finish, performed, _ => by
    simp only [perform, Option.some.injEq] at performed
    subst finish
    exact Execution.refl
  | label :: rest, start, finish, performed, met => by
    simp only [perform, Option.bind_eq_some_iff] at performed
    obtain ⟨middle, taken, remaining⟩ := performed
    exact Execution.cons ⟨met.1, taken⟩ (of_perform_guarded remaining (met.2 middle taken))

end Execution

end ModelAtlas.Foundations
