import Mathlib.Data.Nat.Digits.Defs
import Mathlib.Data.String.Basic

/-!
# Numerals of a fixed width

Decimal numerals with leading zeros, which compare as texts as their numbers do.
-/

namespace ModelAtlas.Foundations

def decimal : Nat → Nat → List Char
  | 0, _ => []
  | width + 1, number =>
    decimal width (number / 10) ++ [Char.ofNat (48 + number % 10)]

theorem decimal_length : ∀ width number, (decimal width number).length = width
  | 0, _ => rfl
  | width + 1, number => by
    rw [decimal, List.length_append, decimal_length width]
    rfl

theorem append_lt_append_iff {left right leftRest rightRest : List Char}
    (sameLength : left.length = right.length) :
    left ++ leftRest < right ++ rightRest ↔
      left < right ∨ (left = right ∧ leftRest < rightRest) := by
  induction left generalizing right with
  | nil =>
    have isNil := List.length_eq_zero_iff.mp sameLength.symm
    rw [isNil]
    simp
  | cons first others ih =>
    cases right with
    | nil => cases sameLength
    | cons second rest =>
      have shorter : others.length = rest.length := by
        simpa using sameLength
      rw [List.cons_append, List.cons_append, List.cons_lt_cons_iff,
        List.cons_lt_cons_iff, ih shorter, List.cons.injEq]
      constructor
      · rintro (lower | ⟨same, lower | ⟨sameRest, later⟩⟩)
        · exact Or.inl (Or.inl lower)
        · exact Or.inl (Or.inr ⟨same, lower⟩)
        · exact Or.inr ⟨⟨same, sameRest⟩, later⟩
      · rintro ((lower | ⟨same, lower⟩) | ⟨⟨same, sameRest⟩, later⟩)
        · exact Or.inl lower
        · exact Or.inr ⟨same, Or.inl lower⟩
        · exact Or.inr ⟨same, Or.inr ⟨sameRest, later⟩⟩

theorem digit_lt_iff {left right : Nat} (leftDigit : left < 10) (rightDigit : right < 10) :
    Char.ofNat (48 + left) < Char.ofNat (48 + right) ↔ left < right := by
  have digits : ∀ first second : Fin 10,
      Char.ofNat (48 + first.val) < Char.ofNat (48 + second.val) ↔
        first.val < second.val := by
    decide
  exact digits ⟨left, leftDigit⟩ ⟨right, rightDigit⟩

theorem digit_inj {left right : Nat} (leftDigit : left < 10) (rightDigit : right < 10) :
    Char.ofNat (48 + left) = Char.ofNat (48 + right) ↔ left = right := by
  have digits : ∀ first second : Fin 10,
      Char.ofNat (48 + first.val) = Char.ofNat (48 + second.val) ↔
        first.val = second.val := by
    decide
  exact digits ⟨left, leftDigit⟩ ⟨right, rightDigit⟩

theorem decimal_inj : ∀ {width left right : Nat}, left < 10 ^ width →
    right < 10 ^ width → (decimal width left = decimal width right ↔ left = right)
  | 0, left, right, leftFits, rightFits => by
    rw [pow_zero] at leftFits rightFits
    have same : left = right := by omega
    simp [same]
  | width + 1, left, right, leftFits, rightFits => by
    rw [pow_succ] at leftFits rightFits
    have leftHigh : left / 10 < 10 ^ width := by omega
    have rightHigh : right / 10 < 10 ^ width := by omega
    have highs := decimal_inj leftHigh rightHigh
    have lows := digit_inj (Nat.mod_lt left (by decide : 0 < 10))
      (Nat.mod_lt right (by decide : 0 < 10))
    constructor
    · intro same
      obtain ⟨sameHigh, sameLow⟩ := List.append_inj' same rfl
      have high := highs.mp sameHigh
      have low := lows.mp (List.cons.inj sameLow).1
      omega
    · rintro rfl
      rfl

theorem decimal_lt_iff : ∀ {width left right : Nat}, left < 10 ^ width →
    right < 10 ^ width → (decimal width left < decimal width right ↔ left < right)
  | 0, left, right, leftFits, rightFits => by
    rw [pow_zero] at leftFits rightFits
    have same : ¬ left < right := by omega
    simp [decimal, same]
  | width + 1, left, right, leftFits, rightFits => by
    rw [pow_succ] at leftFits rightFits
    have leftHigh : left / 10 < 10 ^ width := by omega
    have rightHigh : right / 10 < 10 ^ width := by omega
    have sameLength : (decimal width (left / 10)).length = (decimal width (right / 10)).length := by
      rw [decimal_length, decimal_length]
    rw [decimal, decimal, append_lt_append_iff sameLength,
      decimal_lt_iff leftHigh rightHigh, decimal_inj leftHigh rightHigh,
      List.cons_lt_cons_iff, digit_lt_iff (Nat.mod_lt left (by decide))
        (Nat.mod_lt right (by decide))]
    simp only [List.not_lt_nil, and_false, or_false]
    omega

theorem decimal_append_lt_iff {width left right : Nat} {leftRest rightRest : List Char}
    (leftFits : left < 10 ^ width) (rightFits : right < 10 ^ width) :
    decimal width left ++ leftRest < decimal width right ++ rightRest ↔
      left < right ∨ (left = right ∧ leftRest < rightRest) := by
  have sameLength : (decimal width left).length = (decimal width right).length := by
    rw [decimal_length, decimal_length]
  rw [append_lt_append_iff sameLength, decimal_lt_iff leftFits rightFits,
    decimal_inj leftFits rightFits]

end ModelAtlas.Foundations
