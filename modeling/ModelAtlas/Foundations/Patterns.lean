import Mathlib.Algebra.Order.Ring.Rat
import Mathlib.Data.List.Basic

/-!
# Patterns of texts and best scores

The part of `re.search` that the services use, and the loop that keeps the
first best of a list.
-/

namespace ModelAtlas.Foundations

inductive Pattern where
  | text (part : String)
  | one (allows : Char → Bool)
  /-- `[...]*`, or `[...]{0,limit}`. -/
  | many (limit : Option Nat) (allows : Char → Bool)
  /-- `\b`. -/
  | boundary
  | seq (first second : Pattern)
  | either (left right : Pattern)

namespace Pattern

/-- `(?:one|another|...)` of texts. -/
def texts : List String → Pattern
  | [] => .one (fun _ => false)
  | [part] => .text part
  | part :: rest => .either (.text part) (texts rest)

/-- `(?:one|another|...)?` of texts. -/
def optional (parts : List String) : Pattern := .either (texts parts) (.text "")

def sequence : List Pattern → Pattern
  | [] => .text ""
  | [last] => last
  | first :: rest => .seq first (sequence rest)

/-- The positions after so many characters at most, as what was read, backwards,
and what is left. -/
def manyEnds (allows : Char → Bool) :
    Option Nat → List Char → List Char → List (List Char × List Char)
  | some 0, read, rest => [(read, rest)]
  | _, read, [] => [(read, [])]
  | limit, read, next :: rest =>
    (if allows next then manyEnds allows (limit.map Nat.pred) (next :: read) rest else []) ++
      [(read, next :: rest)]

def ends (isWord : Char → Bool) : Pattern → List Char → List Char → List (List Char × List Char)
  | text part, read, rest =>
    if part.toList.isPrefixOf rest then
      [(part.toList.reverse ++ read, rest.drop part.toList.length)]
    else []
  | one allows, read, rest =>
    match rest with
    | [] => []
    | next :: rest => if allows next then [(next :: read, rest)] else []
  | many limit allows, read, rest => manyEnds allows limit read rest
  | boundary, read, rest =>
    if read.head?.any isWord = rest.head?.any isWord then [] else [(read, rest)]
  | seq first second, read, rest =>
    (ends isWord first read rest).flatMap (fun position =>
      ends isWord second position.1 position.2)
  | either left right, read, rest => ends isWord left read rest ++ ends isWord right read rest

/-- `re.search(pattern, text) is not None`. -/
def search (isWord : Char → Bool) (pattern : Pattern) (text : String) : Bool :=
  (List.range (text.toList.length + 1)).any (fun start =>
    !(pattern.ends isWord (text.toList.take start).reverse (text.toList.drop start)).isEmpty)

end Pattern

section Best

variable {Item : Type} {score : Item → Rat}

def firstBest (score : Item → Rat) (items : List Item) (best : Item × Rat) : Item × Rat :=
  items.foldl (fun best item => if best.2 < score item then (item, score item) else best) best

def IsFirstBest (score : Item → Rat) (items : List Item) (item : Item) : Prop :=
  ∃ before after, items = before ++ item :: after ∧
    (∀ other ∈ before, score other < score item) ∧ ∀ other ∈ after, score other ≤ score item

theorem IsFirstBest.le {items : List Item} {item other : Item}
    (best : IsFirstBest score items item) (mem : other ∈ items) : score other ≤ score item := by
  obtain ⟨before, after, rfl, earlier, later⟩ := best
  rcases List.mem_append.mp mem with mem | mem
  · exact (earlier other mem).le
  · rcases List.mem_cons.mp mem with rfl | mem
    · exact le_rfl
    · exact later other mem

theorem IsFirstBest.mem {items : List Item} {item : Item} (best : IsFirstBest score items item) :
    item ∈ items := by
  obtain ⟨before, after, rfl, _, _⟩ := best
  simp

theorem firstBest_spec (score : Item → Rat) : ∀ (items : List Item) (best : Item × Rat),
    (firstBest score items best = best ∧ ∀ item ∈ items, score item ≤ best.2) ∨
      ∃ item, IsFirstBest score items item ∧ best.2 < score item ∧
        firstBest score items best = (item, score item)
  | [], best => Or.inl ⟨rfl, by simp⟩
  | first :: rest, best => by
    have unfolded : firstBest score (first :: rest) best =
        firstBest score rest (if best.2 < score first then (first, score first) else best) := rfl
    rw [unfolded]
    by_cases higher : best.2 < score first
    · rw [if_pos higher]
      rcases firstBest_spec score rest (first, score first) with
        ⟨isFirst, later⟩ | ⟨item, found, above, isItem⟩
      · exact Or.inr ⟨first, ⟨[], rest, rfl, by simp, later⟩, higher, isFirst⟩
      · obtain ⟨before, after, rfl, earlier, later⟩ := found
        refine Or.inr ⟨item, ⟨first :: before, after, rfl, ?_, later⟩, higher.trans above, isItem⟩
        rintro other (_ | ⟨_, mem⟩)
        · exact above
        · exact earlier other mem
    · rw [if_neg higher]
      rw [not_lt] at higher
      rcases firstBest_spec score rest best with ⟨isBest, later⟩ | ⟨item, found, above, isItem⟩
      · refine Or.inl ⟨isBest, ?_⟩
        rintro other (_ | ⟨_, mem⟩)
        · exact higher
        · exact later other mem
      · obtain ⟨before, after, rfl, earlier, later⟩ := found
        refine Or.inr ⟨item, ⟨first :: before, after, rfl, ?_, later⟩, above, isItem⟩
        rintro other (_ | ⟨_, mem⟩)
        · exact higher.trans_lt above
        · exact earlier other mem

theorem firstBest_of_isFirstBest {items : List Item} {item : Item} (best : Item × Rat)
    (found : IsFirstBest score items item) (above : best.2 < score item) :
    firstBest score items best = (item, score item) := by
  obtain ⟨before, after, rfl, earlier, later⟩ := found
  have skipped : ∀ (list : List Item) (start : Item × Rat),
      (∀ other ∈ list, score other < score item) → start.2 < score item →
      (firstBest score list start).2 < score item := by
    intro list start lower below
    rcases firstBest_spec score list start with ⟨same, _⟩ | ⟨other, isBest, _, same⟩
    · rw [same]
      exact below
    · rw [same]
      exact lower other isBest.mem
  have split : firstBest score (before ++ item :: after) best =
      firstBest score after (if (firstBest score before best).2 < score item then
        (item, score item) else firstBest score before best) := by
    rw [firstBest, List.foldl_append]
    rfl
  rw [split, if_pos (skipped before best earlier above)]
  rcases firstBest_spec score after (item, score item) with ⟨same, _⟩ | ⟨other, isBest, higher, _⟩
  · exact same
  · exact absurd higher (later other isBest.mem).not_gt

/-- `max(items, key=...)`, where the first of the best is kept. -/
def bestOf (score : Item → Rat) (items : List Item) : Option (Item × Rat) :=
  match items with
  | [] => none
  | first :: rest => some (firstBest score rest (first, score first))

theorem bestOf_spec {items : List Item} {best : Item × Rat}
    (found : bestOf score items = some best) :
    best.1 ∈ items ∧ best.2 = score best.1 ∧ ∀ other ∈ items, score other ≤ best.2 := by
  cases items with
  | nil => cases found
  | cons first rest =>
    rw [bestOf] at found
    obtain rfl := Option.some.inj found
    rcases firstBest_spec score rest (first, score first) with ⟨same, lower⟩ | ⟨item,
      isBest, higher, same⟩
    · rw [same]
      exact ⟨List.mem_cons_self, rfl, List.forall_mem_cons.mpr ⟨le_rfl, lower⟩⟩
    · rw [same]
      exact ⟨List.mem_cons_of_mem _ isBest.mem, rfl,
        List.forall_mem_cons.mpr ⟨higher.le, fun other mem => isBest.le mem⟩⟩

end Best

end ModelAtlas.Foundations
