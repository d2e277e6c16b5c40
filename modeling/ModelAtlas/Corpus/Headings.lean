import Mathlib.Data.List.Infix

/-!
# Stacks of headings

A stack that a heading of level `n` cuts to its first `n - 1` entries, and the
ancestors of a heading. Lists of headings begin with the nearest one.
-/

namespace ModelAtlas.Corpus

structure Heading where
  level : Nat
  title : String
  positive : 0 < level

def ancestors (level : Nat) : List Heading → List Heading
  | [] => []
  | heading :: earlier =>
    if heading.level < level then ancestors heading.level earlier ++ [heading]
    else ancestors level earlier

def stacked : List Heading → List Heading
  | [] => []
  | heading :: earlier => (stacked earlier).take (heading.level - 1) ++ [heading]

def lineage : List Heading → List Heading
  | [] => []
  | heading :: earlier => ancestors heading.level earlier ++ [heading]

/-- Where a heading stands between one and its parent, the one has an ancestor at every level
above; and so on for the parent. -/
def NoGap (level : Nat) : List Heading → Prop
  | [] => True
  | heading :: earlier =>
    if heading.level < level then NoGap heading.level earlier
    else (ancestors level earlier).length = level - 1 ∧ NoGap level earlier

theorem length_stacked_le (heading : Heading) (earlier : List Heading) :
    (stacked (heading :: earlier)).length ≤ heading.level := by
  have positive := heading.positive
  rw [stacked, List.length_append, List.length_take, List.length_singleton]
  omega

theorem level_lt_of_mem_ancestors : ∀ (headings : List Heading) (level : Nat),
    ∀ heading ∈ ancestors level headings, heading.level < level
  | [], _, _, mem => by cases mem
  | other :: earlier, level, heading, mem => by
    rw [ancestors] at mem
    split at mem
    · next lower =>
      rcases List.mem_append.mp mem with mem | mem
      · exact Nat.lt_trans (level_lt_of_mem_ancestors earlier other.level heading mem) lower
      · rw [List.mem_singleton.mp mem]
        exact lower
    · exact level_lt_of_mem_ancestors earlier level heading mem

theorem ancestors_sublist : ∀ (headings : List Heading) (level : Nat),
    (ancestors level headings).Sublist ((stacked headings).take (level - 1))
  | [], level => by simp [ancestors, stacked]
  | heading :: earlier, level => by
    rw [ancestors]
    split
    · next lower =>
      have short := length_stacked_le heading earlier
      rw [List.take_of_length_le (by omega), stacked]
      exact (ancestors_sublist earlier heading.level).append_right [heading]
    · next higher =>
      have again : ((stacked earlier).take (heading.level - 1)).take (level - 1) =
          (stacked earlier).take (level - 1) := by
        rw [List.take_take, Nat.min_eq_left (by omega)]
      refine (ancestors_sublist earlier level).trans ?_
      rw [← again, stacked]
      exact (List.IsPrefix.take (List.prefix_append _ [heading]) (level - 1)).sublist

/-- The stack is right exactly where there is no gap, by induction on the
headings. -/
theorem take_stacked_eq_iff : ∀ (headings : List Heading) (level : Nat),
    (stacked headings).take (level - 1) = ancestors level headings ↔ NoGap level headings
  | [], level => by simp [ancestors, stacked, NoGap]
  | heading :: earlier, level => by
    rw [ancestors, NoGap]
    by_cases lower : heading.level < level
    · have short := length_stacked_le heading earlier
      rw [if_pos lower, if_pos lower, List.take_of_length_le (by omega), stacked,
        List.append_cancel_right_eq]
      exact take_stacked_eq_iff earlier heading.level
    · rw [if_neg lower, if_neg lower, stacked]
      have below := take_stacked_eq_iff earlier level
      by_cases deep : level - 1 ≤ (stacked earlier).length
      · have kept : ((stacked earlier).take (heading.level - 1) ++ [heading]).take (level - 1) =
            (stacked earlier).take (level - 1) := by
          rw [List.take_append_of_le_length, List.take_take, Nat.min_eq_left (by omega)]
          rw [List.length_take]
          omega
        rw [kept, ← below, iff_and_self]
        intro same
        rw [← same, List.length_take, Nat.min_eq_left deep]
      · -- the heading stays in the stack, and is no ancestor
        have kept : ((stacked earlier).take (heading.level - 1) ++ [heading]).take (level - 1) =
            stacked earlier ++ [heading] := by
          have whole : (stacked earlier).take (heading.level - 1) = stacked earlier :=
            List.take_of_length_le (by omega)
          rw [whole, List.take_of_length_le]
          rw [List.length_append, List.length_singleton]
          omega
        refine iff_of_false (fun same => lower ?_) ?_
        · rw [kept] at same
          refine level_lt_of_mem_ancestors earlier level heading ?_
          rw [← same]
          exact List.mem_append_right _ (List.mem_singleton_self heading)
        · rintro ⟨full, noGap⟩
          rw [← below.mpr noGap, List.length_take] at full
          omega

theorem titles_stacked_eq_iff (heading : Heading) (earlier : List Heading) :
    (stacked (heading :: earlier)).map Heading.title =
        (lineage (heading :: earlier)).map Heading.title ↔
      NoGap heading.level earlier := by
  rw [← take_stacked_eq_iff, stacked, lineage]
  constructor
  · intro same
    have sameLength := congrArg List.length same
    rw [List.length_map, List.length_map, List.length_append, List.length_append] at sameLength
    exact ((ancestors_sublist earlier heading.level).eq_of_length (by omega)).symm
  · intro same
    rw [same]

theorem ancestors_append_sibling (level : Nat) (sibling : Heading) (earlier : List Heading) :
    ∀ between : List Heading, (∀ heading ∈ between, level ≤ heading.level) → sibling.level = level →
      ancestors level (between ++ sibling :: earlier) = ancestors level earlier
  | [], _, sameLevel => by
    rw [List.nil_append, ancestors, if_neg (by omega)]
  | heading :: rest, notLower, sameLevel => by
    rw [List.cons_append, ancestors, if_neg (by
      have := notLower heading List.mem_cons_self
      omega)]
    exact ancestors_append_sibling level sibling earlier rest
      (fun other mem => notLower other (List.mem_cons_of_mem _ mem)) sameLevel

end ModelAtlas.Corpus
