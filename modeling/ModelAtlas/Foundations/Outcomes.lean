import Mathlib.Data.List.Basic

/-!
# Computations that may raise

What the parts of a computation of `Except` have when the whole of it returns.
-/

namespace ModelAtlas.Foundations

theorem bind_eq_ok_iff {Error First Second : Type} {first : Except Error First}
    {next : First → Except Error Second} {res : Second} :
    (first >>= next) = .ok res ↔ ∃ value, first = .ok value ∧ next value = .ok res := by
  cases first with
  | error raised => simp [bind, Except.bind]
  | ok value => simp [bind, Except.bind]

theorem ok_of_map_ok {Left Right Raised : Type} {change : Left → Right}
    {outcome : Except Raised Left} {reached : Right} (done : outcome.map change = .ok reached) :
    ∃ res, outcome = .ok res ∧ change res = reached := by
  cases outcome with
  | error raised => cases done
  | ok res => exact ⟨res, rfl, Except.ok.inj done⟩

section Mapped

variable {Error Item Image : Type} {image : Item → Except Error Image}

theorem mapM_cons_eq_ok {item : Item} {rest : List Item} {images : List Image}
    (mapped : (item :: rest).mapM image = .ok images) :
    ∃ head tail, images = head :: tail ∧ image item = .ok head ∧ rest.mapM image = .ok tail := by
  rw [List.mapM_cons] at mapped
  obtain ⟨head, first, mapped⟩ := bind_eq_ok_iff.mp mapped
  obtain ⟨tail, others, mapped⟩ := bind_eq_ok_iff.mp mapped
  exact ⟨head, tail, (Except.ok.inj mapped).symm, first, others⟩

theorem exists_of_mapM_eq_ok : ∀ {items : List Item} {images : List Image},
    items.mapM image = .ok images → ∀ value ∈ images, ∃ item ∈ items, image item = .ok value
  | [], images, mapped, value, mem => by
    cases mapped
    cases mem
  | item :: rest, images, mapped, value, mem => by
    obtain ⟨head, tail, rfl, first, others⟩ := mapM_cons_eq_ok mapped
    rcases List.mem_cons.mp mem with rfl | later
    · exact ⟨item, List.mem_cons_self, first⟩
    · obtain ⟨found, foundMem, isFound⟩ := exists_of_mapM_eq_ok others value later
      exact ⟨found, List.mem_cons_of_mem _ foundMem, isFound⟩

theorem exists_image_of_mapM_eq_ok : ∀ {items : List Item} {images : List Image},
    items.mapM image = .ok images → ∀ item ∈ items, ∃ value ∈ images, image item = .ok value
  | [], _, _, item, mem => by cases mem
  | first :: rest, images, mapped, item, mem => by
    obtain ⟨head, tail, rfl, isHead, others⟩ := mapM_cons_eq_ok mapped
    rcases List.mem_cons.mp mem with rfl | later
    · exact ⟨head, List.mem_cons_self, isHead⟩
    · obtain ⟨found, foundMem, isFound⟩ := exists_image_of_mapM_eq_ok others item later
      exact ⟨found, List.mem_cons_of_mem _ foundMem, isFound⟩

theorem length_of_mapM_eq_ok : ∀ {items : List Item} {images : List Image},
    items.mapM image = .ok images → images.length = items.length
  | [], images, mapped => by
    cases mapped
    rfl
  | item :: rest, images, mapped => by
    obtain ⟨head, tail, rfl, _, others⟩ := mapM_cons_eq_ok mapped
    rw [List.length_cons, List.length_cons, length_of_mapM_eq_ok others]

end Mapped

theorem forM_eq_ok {Error Item : Type} {check : Item → Except Error Unit} :
    ∀ {items : List Item}, items.forM check = .ok () → ∀ item ∈ items, check item = .ok ()
  | [], _, item, mem => by cases mem
  | first :: rest, passed, item, mem => by
    obtain ⟨value, checked, peeled⟩ := bind_eq_ok_iff.mp passed
    rcases List.mem_cons.mp mem with rfl | later
    · exact checked
    · exact forM_eq_ok peeled item later

end ModelAtlas.Foundations
