import Mathlib.Data.List.Infix

/-!
# Histories

A history is a list that only grows at its end. `EachStep property history` says
that every item stood in `property` to the items before it.
-/

namespace ModelAtlas.Foundations

universe u v

variable {Item : Type u} {Image : Type v}

/-- Every item of the history has the property, given the items before it. -/
def EachStep (property : List Item → Item → Prop) (history : List Item) : Prop :=
  ∀ before item after, history = before ++ item :: after → property before item

namespace EachStep

variable {property : List Item → Item → Prop} {history : List Item}

theorem nil : EachStep property [] := by
  intro before item after split
  have lengths := congrArg List.length split
  simp at lengths

theorem concat {item : Item} (earlier : EachStep property history) (last : property history item) :
    EachStep property (history ++ [item]) := by
  intro before other after split
  rcases List.eq_nil_or_concat after with rfl | ⟨rest, final, rfl⟩
  · have same : history = before ∧ [item] = [other] :=
      List.append_inj' split rfl
    obtain ⟨rfl, itemEq⟩ := same
    injection itemEq with itemEq
    exact itemEq ▸ last
  · have regrouped : history ++ [item] = (before ++ other :: rest) ++ [final] := by
      simpa using split
    exact earlier before other rest (List.append_inj' regrouped rfl).1

theorem of_concat {item : Item} (all : EachStep property (history ++ [item])) :
    EachStep property history := by
  intro before other after split
  exact all before other (after ++ [item]) (by rw [split]; simp)

theorem mono {weaker : List Item → Item → Prop} (all : EachStep property history)
    (implies : ∀ before item, property before item → weaker before item) :
    EachStep weaker history :=
  fun before item after split =>
    implies before item (all before item after split)

theorem map {mapped : List Image → Image → Prop} {change : Item → Image}
    (all : EachStep property history)
    (respects : ∀ before item, property before item → mapped (before.map change) (change item)) :
    EachStep mapped (history.map change) := by
  intro before image after split
  obtain ⟨front, back, rfl, frontEq, backEq⟩ := List.map_eq_append_iff.mp split
  obtain ⟨item, rest, rfl, itemEq, _⟩ := List.map_eq_cons_iff.mp backEq
  subst frontEq itemEq
  exact respects front item (all front item rest rfl)

theorem of_mem {item : Item} (all : EachStep property history) (mem : item ∈ history) :
    ∃ before, before <+: history ∧ property before item := by
  obtain ⟨before, after, rfl⟩ := List.append_of_mem mem
  exact ⟨before, List.prefix_append before _, all before item after rfl⟩

theorem countP_le {kind : Item → Bool} {limit : Nat} (all : EachStep property history)
    (kept : ∀ before item, property before item → kind item = true → before.countP kind < limit) :
    history.countP kind ≤ limit := by
  induction history using List.reverseRecOn with
  | nil => simp
  | append_singleton earlier item ih =>
    have earlierLe := ih all.of_concat
    rw [List.countP_append, List.countP_singleton]
    by_cases isKind : kind item = true
    · have below := kept earlier item (all earlier item [] rfl) isKind
      simp only [isKind, if_true]
      omega
    · simp only [isKind]
      exact earlierLe

theorem map_eq_range {number : Item → Nat}
    (all : EachStep (fun before item => number item = before.length) history) :
    history.map number = List.range history.length := by
  induction history using List.reverseRecOn with
  | nil => rfl
  | append_singleton earlier item ih =>
    have numbered : number item = earlier.length := all earlier item [] rfl
    rw [List.map_append, ih all.of_concat, List.length_append,
      List.length_singleton, List.range_succ, List.map_singleton, numbered]

end EachStep

end ModelAtlas.Foundations
