import Mathlib.Data.List.Basic

/-! # Mark and sweep behind a generation barrier

Rows carry a digest and the generation of their last reference. A collection raises the
generation, marks digests, and later drops rows that are older than it and not marked.
Nothing here depends on what the rows are.
-/

namespace Adhdev

structure Barrier (δ : Type u) where
  generation : Nat
  marked : List δ

namespace Barrier

section Survival

variable {ρ : Type v} {δ : Type u} (digest : ρ → δ) (generation : ρ → Nat)

def Stored (rows : List ρ) (wanted : δ) : Prop := ∃ row ∈ rows, digest row = wanted

/-- No sweep of this collection drops the digest. -/
def Survives (barrier : Barrier δ) (rows : List ρ) (wanted : δ) : Prop :=
  wanted ∈ barrier.marked ∨ ∀ row ∈ rows, digest row = wanted → barrier.generation ≤ generation row

def Swept (barrier : Barrier δ) [DecidableEq δ] (row : ρ) : Bool :=
  generation row < barrier.generation && !barrier.marked.contains (digest row)

def sweep [DecidableEq δ] (barrier : Barrier δ) (rows : List ρ) : List ρ :=
  rows.filter fun row => !barrier.Swept digest generation row

variable {digest generation} {rows later : List ρ} {wanted : δ} {barrier : Barrier δ}

theorem Survives.of_rows (survives : barrier.Survives digest generation rows wanted)
    (rest : ∀ row ∈ later, digest row = wanted → row ∈ rows ∨ barrier.generation ≤ generation row) :
    barrier.Survives digest generation later wanted := by
  rcases survives with marked | current
  · exact .inl marked
  · refine .inr fun row member same => ?_
    exact (rest row member same).elim (fun old => current row old same) id

variable [DecidableEq δ]

theorem sweep_subset : barrier.sweep digest generation rows ⊆ rows := List.filter_subset_self _

theorem Survives.stored (survives : barrier.Survives digest generation rows wanted)
    (stored : Stored digest rows wanted) :
    Stored digest (barrier.sweep digest generation rows) wanted := by
  obtain ⟨row, member, rfl⟩ := stored
  refine ⟨row, List.mem_filter.mpr ⟨member, ?_⟩, rfl⟩
  rcases survives with marked | current
  · simp [Swept, marked]
  · simp [Swept, current row member rfl]

theorem Survives.sweep {other : Barrier δ}
    (survives : barrier.Survives digest generation rows wanted) :
    barrier.Survives digest generation (other.sweep digest generation rows) wanted :=
  survives.of_rows fun _ member _ => .inl (sweep_subset member)

end Survival

end Barrier

end Adhdev
