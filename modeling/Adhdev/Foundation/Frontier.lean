import Mathlib.Data.List.Basic
import Mathlib.Logic.Relation

/-! # Searches that mark before they expand

A search keeps the keys it has found and, among them, those it has not expanded yet.
Expanding a key may leave out successors that are already found. When the frontier
is empty the keys found are those that can be reached from the start.
-/

namespace Adhdev

open List

/-- Both lists hold what came last first. -/
structure Search (Key : Type u) where
  frontier : List Key
  found : List Key

namespace Search

variable {Key : Type u} [DecidableEq Key]

def start (key : Key) : Search Key := ⟨[key], [key]⟩

def mark (search : Search Key) (key : Key) : Search Key :=
  if key ∈ search.found then search else ⟨key :: search.frontier, key :: search.found⟩

section Marks

variable {search : Search Key} {keys : List Key} {key : Key}

theorem mem_found_foldl :
    key ∈ (keys.foldl mark search).found ↔ key ∈ search.found ∨ key ∈ keys := by
  induction keys generalizing search with
  | nil => simp
  | cons first keys induction =>
    rw [foldl_cons, induction, mark, mem_cons]
    by_cases known : first ∈ search.found
    · rw [if_pos known]
      constructor
      · rintro (found | listed)
        · exact .inl found
        · exact .inr (.inr listed)
      rintro (found | equal | listed)
      · exact .inl found
      · exact .inl (equal ▸ known)
      · exact .inr listed
    · rw [if_neg known, mem_cons]
      tauto

theorem mem_frontier_foldl : key ∈ (keys.foldl mark search).frontier ↔
      key ∈ search.frontier ∨ key ∈ keys ∧ key ∉ search.found := by
  induction keys generalizing search with
  | nil => simp
  | cons first keys induction =>
    rw [foldl_cons, induction, mark, mem_cons]
    by_cases known : first ∈ search.found
    · rw [if_pos known]
      constructor
      · rintro (queued | ⟨listed, fresh⟩)
        · exact .inl queued
        · exact .inr ⟨.inr listed, fresh⟩
      rintro (queued | ⟨equal | listed, fresh⟩)
      · exact .inl queued
      · exact absurd (equal ▸ known) fresh
      · exact .inr ⟨listed, fresh⟩
    rw [if_neg known]
    simp only [mem_cons, not_or]
    constructor
    · rintro ((equal | queued) | ⟨listed, other, fresh⟩)
      · exact .inr ⟨.inl equal, equal ▸ known⟩
      · exact .inl queued
      · exact .inr ⟨.inr listed, fresh⟩
    rintro (queued | ⟨equal | listed, fresh⟩)
    · exact .inl (.inr queued)
    · exact .inl (.inl equal)
    by_cases equal : key = first
    · exact .inl (.inl equal)
    · exact .inr ⟨listed, equal, fresh⟩

theorem nodup_found_foldl (distinct : search.found.Nodup) :
    (keys.foldl mark search).found.Nodup := by
  induction keys generalizing search with
  | nil => exact distinct
  | cons first keys induction =>
    rw [foldl_cons, mark]
    by_cases known : first ∈ search.found
    · rw [if_pos known]
      exact induction distinct
    · rw [if_neg known]
      exact induction (nodup_cons.mpr ⟨known, distinct⟩)

/-- What the search still has to expand, counted among `nodes`. -/
def remaining (nodes : List Key) (search : Search Key) : Nat :=
  search.frontier.length + (nodes.filter fun node => decide (node ∉ search.found)).length

theorem remaining_pop (nodes : List Key) (current : Key) (frontier found : List Key) :
    remaining nodes ⟨current :: frontier, found⟩ = remaining nodes ⟨frontier, found⟩ + 1 := by
  simp only [remaining, length_cons]
  omega

theorem remaining_start_le (nodes : List Key) (key : Key) :
    (start key).remaining nodes ≤ nodes.length + 1 := by
  rw [remaining, Nat.add_comm]
  exact Nat.add_le_add_right (length_filter_le _ nodes) 1

theorem filter_drop {nodes found : List Key} (member : key ∈ nodes) (fresh : key ∉ found) :
    (nodes.filter fun node => decide (node ∉ key :: found)).length <
      (nodes.filter fun node => decide (node ∉ found)).length := by
  have dropped : nodes.filter (fun node => decide (node ∉ key :: found)) =
      (nodes.filter fun node => decide (node ∉ found)).filter fun node => decide (node ≠ key) := by
    rw [filter_filter]
    refine filter_congr fun node _ => ?_
    simp only [mem_cons, not_or, Bool.decide_and]
  rw [dropped]
  exact length_filter_lt_length_iff_exists.mpr
    ⟨key, mem_filter.mpr ⟨member, by simp [fresh]⟩, by simp⟩

theorem remaining_foldl {nodes : List Key} (inside : ∀ key ∈ keys, key ∈ nodes) :
    (keys.foldl mark search).remaining nodes ≤ search.remaining nodes := by
  induction keys generalizing search with
  | nil => exact Nat.le_refl _
  | cons first keys induction =>
    have rest : ∀ key ∈ keys, key ∈ nodes := (forall_mem_cons.mp inside).2
    refine Nat.le_trans (induction rest) ?_
    rw [mark]
    by_cases known : first ∈ search.found
    · exact (if_pos known).symm ▸ Nat.le_refl _
    rw [if_neg known]
    have fewer := filter_drop (inside first mem_cons_self) known
    simp only [remaining, length_cons]
    omega

end Marks

section Exploring

variable (next : Key → List Key)

def Steps (key other : Key) : Prop := other ∈ next key

structure Explored (origin : Key) (search : Search Key) : Prop where
  started : origin ∈ search.found
  distinct : search.found.Nodup
  queued : ∀ key ∈ search.frontier, key ∈ search.found
  reached : ∀ key ∈ search.found, Relation.ReflTransGen (Steps next) origin key
  expanded : ∀ key ∈ search.found, key ∈ search.frontier ∨ ∀ other ∈ next key, other ∈ search.found

variable {next} {origin current : Key} {frontier found keys : List Key}

omit [DecidableEq Key] in
theorem explored_start (origin : Key) : Explored next origin (start origin) where
  started := mem_singleton_self origin
  distinct := by simp [start]
  queued _ member := member
  reached key member := by
    rw [mem_singleton.mp member]
  expanded key member := .inl member

theorem Explored.expand (explored : Explored next origin ⟨current :: frontier, found⟩)
    (sound : ∀ key ∈ keys, key ∈ found ∨ key ∈ next current)
    (complete : ∀ key ∈ next current, key ∈ found ∨ key ∈ keys) :
    Explored next origin (keys.foldl mark ⟨frontier, found⟩) where
  started := mem_found_foldl.mpr (.inl explored.started)
  distinct := nodup_found_foldl explored.distinct
  queued key member := by
    rcases mem_frontier_foldl.mp member with queued | ⟨listed, _⟩
    · exact mem_found_foldl.mpr (.inl (explored.queued key (.tail _ queued)))
    · exact mem_found_foldl.mpr (.inr listed)
  reached key member := by
    have here : current ∈ found := explored.queued current mem_cons_self
    rcases mem_found_foldl.mp member with known | listed
    · exact explored.reached key known
    rcases sound key listed with known | follows
    · exact explored.reached key known
    · exact (explored.reached current here).tail follows
  expanded key member := by
    by_cases known : key ∈ found
    · rcases explored.expanded key known with queued | closed
      · rcases mem_cons.mp queued with equal | queued
        · subst equal
          exact .inr fun other follows => mem_found_foldl.mpr (complete other follows)
        · exact .inl (mem_frontier_foldl.mpr (.inl queued))
      · exact .inr fun other follows => mem_found_foldl.mpr (.inl (closed other follows))
    · have listed : key ∈ keys := (mem_found_foldl.mp member).resolve_left known
      exact .inl (mem_frontier_foldl.mpr (.inr ⟨listed, known⟩))

omit [DecidableEq Key] in
theorem Explored.mem_found_iff (explored : Explored next origin ⟨[], found⟩) {key : Key} :
    key ∈ found ↔ Relation.ReflTransGen (Steps next) origin key := by
  constructor
  · exact explored.reached key
  intro path
  induction path with
  | refl => exact explored.started
  | tail _ follows induction =>
    exact (explored.expanded _ induction).resolve_left not_mem_nil _ follows

end Exploring

end Search

end Adhdev
