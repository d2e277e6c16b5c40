import Mathlib.Data.List.Basic

/-!
# Bounded retries

A pass is made again as long as it asks for it and the budget lasts.  Passes read
and change a state.
-/

namespace ModelAtlas.Foundations

section Retries

variable {State Pass : Type} {perform : Nat → State → Pass × State}
  {again : Pass → Bool}

def retry (perform : Nat → State → Pass × State) (again : Pass → Bool) :
    Nat → Nat → State → List Pass × State
  | 0, _, state => ([], state)
  | left + 1, number, state =>
    let made := perform number state
    if again made.1 then
      let later := retry perform again left (number + 1) made.2
      (made.1 :: later.1, later.2)
    else ([made.1], made.2)

def IsPass (perform : Nat → State → Pass × State) (number : Nat) (pass : Pass) : Prop :=
  ∃ state, (perform number state).1 = pass

theorem retry_length_le (left number : Nat) (state : State) :
    (retry perform again left number state).1.length ≤ left := by
  induction left generalizing number state with
  | zero => simp [retry]
  | succ left ih =>
    have later := ih (number + 1) (perform number state).2
    rw [retry]
    dsimp only
    split
    · simp only [List.length_cons]
      omega
    · simp

theorem retry_ne_nil (left number : Nat) (state : State) :
    (retry perform again (left + 1) number state).1 ≠ [] := by
  rw [retry]
  dsimp only
  split
  · simp
  · simp

theorem retry_isPass (left number : Nat) (state : State) : ∀ index pass,
      (retry perform again left number state).1[index]? = some pass →
        IsPass perform (number + index) pass := by
  induction left generalizing number state with
  | zero => simp [retry]
  | succ left ih =>
    intro index pass found
    rw [retry] at found
    dsimp only at found
    split at found
    · cases index with
      | zero =>
        simp only [List.getElem?_cons_zero, Option.some.injEq] at found
        exact ⟨state, found⟩
      | succ index =>
        rw [List.getElem?_cons_succ] at found
        have later := ih (number + 1) _ index pass found
        have sameNumber : number + 1 + index = number + (index + 1) := by
          omega
        rw [sameNumber] at later
        exact later
    · cases index with
      | zero =>
        simp only [List.getElem?_cons_zero, Option.some.injEq] at found
        exact ⟨state, found⟩
      | succ index => simp at found

/-- After a pass comes another one exactly where it asks for it and the budget is
not used up. -/
theorem retry_continues (left number : Nat) (state : State) : ∀ index pass,
      (retry perform again left number state).1[index]? = some pass →
        (index + 1 < (retry perform again left number state).1.length ↔
          again pass = true ∧ index + 1 < left) := by
  induction left generalizing number state with
  | zero => simp [retry]
  | succ left ih =>
    intro index pass found
    rw [retry] at found ⊢
    dsimp only at found ⊢
    by_cases continues : again (perform number state).1 = true
    · rw [if_pos continues] at found ⊢
      cases index with
      | zero =>
        simp only [List.getElem?_cons_zero, Option.some.injEq] at found
        rw [← found, List.length_cons]
        have atMost := @retry_length_le _ _ perform again left (number + 1) (perform number state).2
        cases left with
        | zero => simp [retry]
        | succ left =>
          have nonempty := @retry_ne_nil _ _ perform again left
            (number + 1) (perform number state).2
          have positive := List.length_pos_iff.mpr nonempty
          simp only [continues, true_and]
          omega
      | succ index =>
        rw [List.getElem?_cons_succ] at found
        have later := ih (number + 1) _ index pass found
        rw [List.length_cons]
        constructor
        · intro longer
          obtain ⟨asks, inside⟩ := later.mp (by omega)
          exact ⟨asks, by omega⟩
        · rintro ⟨asks, inside⟩
          have longer := later.mpr ⟨asks, by omega⟩
          omega
    · rw [if_neg continues] at found ⊢
      cases index with
      | zero =>
        simp only [List.getElem?_cons_zero, Option.some.injEq] at found
        rw [← found]
        simp [continues]
      | succ index => simp at found

end Retries

end ModelAtlas.Foundations
