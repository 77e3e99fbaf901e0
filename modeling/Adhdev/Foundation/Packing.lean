import Mathlib

/-! # Packing items in order

Items are put into a bin until the next one does not fit, which begins another.
-/

namespace Adhdev

open List Option Bool

namespace Packing

variable {α : Type*} (limit : Nat) (size : α → Nat)

def total (items : List α) : Nat := (items.map size).sum

/-- The bins, of which the first one has items already. -/
def pack (current : List α) : List α → List (List α)
  | [] => [current]
  | item :: items =>
    if limit < total size current + size item ∧ current ≠ [] then
      current :: pack [item] items
    else pack (current ++ [item]) items

variable {limit size}

theorem total_append (before after : List α) :
    total size (before ++ after) = total size before + total size after := by
  rw [total, map_append, sum_append]
  rfl

theorem total_singleton (item : α) : total size [item] = size item := by
  rw [total, map_singleton, sum_singleton]

theorem pack_ne_nil (current items : List α) : pack limit size current items ≠ [] := by
  induction items generalizing current with
  | nil => exact cons_ne_nil _ _
  | cons item items induction =>
    rw [pack]
    split
    · exact cons_ne_nil _ _
    · exact induction _

theorem flatten_pack (current items : List α) :
    (pack limit size current items).flatten = current ++ items := by
  induction items generalizing current with
  | nil => rw [pack, flatten_singleton, append_nil]
  | cons item items induction =>
    rw [pack]
    split
    · rw [flatten_cons, induction, singleton_append]
    · rw [induction, append_assoc, singleton_append]

theorem total_le_of_mem_pack {current items : List α} (small : ∀ item ∈ items, size item ≤ limit)
    (room : total size current ≤ limit) :
    ∀ bin ∈ pack limit size current items, total size bin ≤ limit := by
  induction items generalizing current with
  | nil =>
    intro bin member
    rw [mem_singleton.mp member]
    exact room
  | cons item items induction =>
    have itemSmall := small item (.head _)
    have itemsSmall : ∀ item ∈ items, size item ≤ limit := (forall_mem_cons.mp small).2
    rw [pack]
    split
    · intro bin member
      rcases mem_cons.mp member with rfl | later
      · exact room
      · exact induction itemsSmall (by rw [total_singleton]; exact itemSmall) bin later
    rename_i stays
    apply induction itemsSmall
    rw [total_append, total_singleton]
    by_cases empty : current = []
    · rw [empty]
      exact (Nat.zero_add _).le.trans itemSmall
    · exact not_lt.mp fun full => stays ⟨full, empty⟩

theorem pack_of_fits {current items : List α} (fits : total size (current ++ items) ≤ limit) :
    pack limit size current items = [current ++ items] := by
  induction items generalizing current with
  | nil => rw [append_nil]; rfl
  | cons item items induction =>
    have whole : current ++ item :: items = current ++ [item] ++ items := by
      rw [append_assoc, singleton_append]
    rw [whole] at fits ⊢
    have stays : ¬(limit < total size current + size item ∧ current ≠ []) := by
      rintro ⟨full, -⟩
      rw [total_append, total_append, total_singleton] at fits
      omega
    rw [pack, if_neg stays, induction fits]

theorem length_pack_eq_one {items : List α} (small : ∀ item ∈ items, size item ≤ limit) :
    (pack limit size [] items).length = 1 ↔ total size items ≤ limit := by
  constructor
  · intro single
    obtain ⟨bin, shape⟩ := length_eq_one_iff.mp single
    have all : (pack limit size [] items).flatten = [] ++ items := flatten_pack [] items
    rw [shape, flatten_singleton, nil_append] at all
    rw [← all]
    have room : total size ([] : List α) ≤ limit := Nat.zero_le _
    apply total_le_of_mem_pack small room
    rw [shape]
    exact .head _
  intro fits
  rw [pack_of_fits (by rw [nil_append]; exact fits)]
  rfl

theorem dropLast_pack_begins (current items more : List α) :
    (pack limit size current items).dropLast <+: pack limit size current (items ++ more) := by
  induction items generalizing current with
  | nil => exact nil_prefix
  | cons item items induction =>
    rw [cons_append, pack, pack]
    by_cases full : limit < total size current + size item ∧ current ≠ []
    · rw [if_pos full, if_pos full, dropLast_cons_of_ne_nil (pack_ne_nil _ _)]
      exact cons_prefix_cons.mpr ⟨rfl, induction _⟩
    · rw [if_neg full, if_neg full]
      exact induction _

end Packing

end Adhdev
