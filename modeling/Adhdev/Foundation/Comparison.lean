import Mathlib.Data.List.Lex
import Mathlib.Data.Prod.Lex
import Mathlib.Tactic.Order

/-! # Comparators that answer with a sign -/

namespace Adhdev

/-- The number tells how the first stands to the second. -/
def IsSign {α : Type} [LT α] (sign : Int) (first second : α) : Prop :=
  (sign = -1 ∧ first < second) ∨ (sign = 0 ∧ first = second) ∨ (sign = 1 ∧ second < first)

namespace IsSign

variable {α β : Type} [LinearOrder α] [LinearOrder β] {sign other : Int} {first second : α}

theorem flip (is : IsSign sign first second) : IsSign (-sign) second first := by
  rcases is with ⟨rfl, before⟩ | ⟨rfl, same⟩ | ⟨rfl, after⟩
  · exact .inr (.inr ⟨rfl, before⟩)
  · exact .inr (.inl ⟨rfl, same.symm⟩)
  · exact .inl ⟨rfl, after⟩

theorem nonpos_iff (is : IsSign sign first second) : sign ≤ 0 ↔ first ≤ second := by
  rcases is with ⟨rfl, before⟩ | ⟨rfl, same⟩ | ⟨rfl, after⟩
  · simp [before.le]
  · simp [same]
  · simp [after]

theorem eq_of_zero (is : IsSign 0 first second) : first = second :=
  le_antisymm (is.nonpos_iff.mp le_rfl) (is.flip.nonpos_iff.mp le_rfl)

theorem unique (one : IsSign sign first second) (two : IsSign other first second) :
    sign = other := by
  rcases one with ⟨rfl, before⟩ | ⟨rfl, same⟩ | ⟨rfl, after⟩ <;>
    rcases two with ⟨rfl, earlier⟩ | ⟨rfl, equal⟩ | ⟨rfl, later⟩ <;> first | rfl | order

theorem of_ne [Decidable (first < second)] (differ : first ≠ second) :
    IsSign (if first < second then -1 else 1) first second := by
  split_ifs with before
  · exact .inl ⟨rfl, before⟩
  · exact .inr (.inr ⟨rfl, lt_of_le_of_ne (not_lt.mp before) differ.symm⟩)

theorem map (f : α → β) (mono : StrictMono f) (is : IsSign sign first second) :
    IsSign sign (f first) (f second) := by
  rcases is with ⟨rfl, before⟩ | ⟨rfl, same⟩ | ⟨rfl, after⟩
  · exact .inl ⟨rfl, mono before⟩
  · exact .inr (.inl ⟨rfl, by rw [same]⟩)
  · exact .inr (.inr ⟨rfl, mono after⟩)

/-- A later field is compared where the earlier one is the same. -/
theorem lex [Decidable (first = second)] [Decidable (first < second)] {rest next : β}
    (later : first = second → IsSign sign rest next) :
    IsSign (if first = second then sign else if first < second then -1 else 1)
      (toLex (first, rest)) (toLex (second, next)) := by
  by_cases same : first = second
  · subst same
    rw [if_pos rfl]
    exact (later rfl).map (fun next => toLex (first, next))
      fun _ _ before => Prod.Lex.toLex_lt_toLex.mpr (.inr ⟨rfl, before⟩)
  rw [if_neg same]
  rcases of_ne same with ⟨sign, before⟩ | ⟨-, equal⟩ | ⟨sign, after⟩
  · exact .inl ⟨sign, Prod.Lex.toLex_lt_toLex.mpr (.inl before)⟩
  · exact absurd equal same
  · exact .inr (.inr ⟨sign, Prod.Lex.toLex_lt_toLex.mpr (.inl after)⟩)

theorem head {rest next : List α} (is : IsSign sign first second) (differ : sign ≠ 0) :
    IsSign sign (first :: rest) (second :: next) := by
  rcases is with ⟨rfl, before⟩ | ⟨same, -⟩ | ⟨rfl, after⟩
  · exact .inl ⟨rfl, .rel before⟩
  · exact absurd same differ
  · exact .inr (.inr ⟨rfl, .rel after⟩)

end IsSign

end Adhdev
