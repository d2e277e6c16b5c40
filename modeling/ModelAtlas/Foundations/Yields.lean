import Mathlib.Logic.Basic

/-!
# Partial correctness of fallible computations

`Yields computation post` says that what the computation returns, if it does
not raise, meets `post`.  There is one rule for each way a `do` block of
`Except` is built, so a proof follows the block.
-/

namespace ModelAtlas.Foundations

universe u v

variable {Error : Type u} {Value Result : Type v}

/-- What the computation returns meets the postcondition. -/
def Yields (computation : Except Error Value) (post : Value → Prop) : Prop :=
  ∀ value, computation = .ok value → post value

namespace Yields

variable {computation : Except Error Value} {post : Value → Prop}

theorem self (computation : Except Error Value) :
    Yields computation (fun value => computation = .ok value) :=
  fun _ returned => returned

theorem ok {value : Value} (holds : post value) : Yields (.ok value : Except Error Value) post := by
  intro returned same
  have equal : value = returned := Except.ok.inj same
  rw [← equal]
  exact holds

theorem pure {value : Value} (holds : post value) :
    Yields (Pure.pure value : Except Error Value) post :=
  ok holds

theorem error (raised : Error) : Yields (.error raised : Except Error Value) post := by
  intro returned same
  cases same

theorem throw (raised : Error) : Yields (MonadExcept.throw raised : Except Error Value) post :=
  error raised

theorem bind {next : Value → Except Error Result} {middle : Value → Prop} {last : Result → Prop}
    (first : Yields computation middle) (rest : ∀ value, middle value → Yields (next value) last) :
    Yields (computation >>= next) last := by
  intro returned same
  cases ran : computation with
  | error raised =>
    rw [ran] at same
    cases same
  | ok value =>
    rw [ran] at same
    exact rest value (first value ran) returned same

theorem check {condition : Prop} [Decidable condition] {raised : Error}
    {next : PUnit → Except Error Result} {last : Result → Prop}
    (rest : ¬ condition → Yields (next ⟨⟩) last) :
    Yields (if condition then MonadExcept.throw raised >>= next else next ⟨⟩)
      last := by
  by_cases failed : condition
  · rw [if_pos failed]
    exact error raised
  · rw [if_neg failed]
    exact rest failed

theorem mono {weaker : Value → Prop} (held : Yields computation post)
    (weaken : ∀ value, post value → weaker value) :
    Yields computation weaker :=
  fun value returned => weaken value (held value returned)

theorem foldlM {State : Type v} {Item : Type u} {round : State → Item → Except Error State}
    {inv : State → Prop} (preserved : ∀ state item, inv state → Yields (round state item) inv) :
    ∀ (items : List Item) (state : State), inv state → Yields (items.foldlM round state) inv
  | [], _, holds => ok holds
  | item :: rest, state, holds => by
    rw [List.foldlM_cons]
    exact bind (preserved state item holds) (fun middle held => foldlM preserved rest middle held)

end Yields

end ModelAtlas.Foundations
