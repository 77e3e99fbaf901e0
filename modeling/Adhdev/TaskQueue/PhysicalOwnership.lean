import Adhdev.TaskQueue.Claim

/-! # Physical ownership

What two attested checkouts have in common on disk, from `mesh-physical-ownership.ts`.
The paths of a scope are resolved ones.
-/

namespace Adhdev.TaskQueue

open MeshShared

def inside (root path : String) : Bool :=
  let directory := if root = "/" then root else root ++ "/"
  path == root || directory.toList.isPrefixOf path.toList

def resourcesOverlap (left right : OwnedResource) : Bool :=
  left.path == right.path || (truthy left.identity && left.identity == right.identity) ||
    (left.subtree && inside left.path right.path) || (right.subtree && inside right.path left.path)

inductive PhysicalOverlap
  | missingScope (side : String)
  | worktree (path : String)
  | resource (path : String)
  | integrationRepo
  | none
  deriving DecidableEq

namespace GitResources

def values (resources : GitResources) : List String :=
  [resources.index, resources.refs, resources.hooks, resources.config]

end GitResources

def eitherIntegrates (left right : PhysicalOwnershipScope) : Bool :=
  left.phase = .integration || right.phase = .integration

def sharesGitStore (left right : PhysicalOwnershipScope) : Bool :=
  left.commonGitDir == right.commonGitDir ||
    left.gitResources.values.any (right.gitResources.values.contains ·)

def sharesCheckout (left right : PhysicalOwnershipScope) : Bool :=
  left.worktree == right.worktree || left.worktreeIdentity == right.worktreeIdentity ||
    left.gitDir == right.gitDir

def overlapPath (left right : OwnedResource) : Option String :=
  if resourcesOverlap left right then
    some (if left.path = right.path ∨ (left.subtree ∧ inside left.path right.path) then right.path
      else left.path)
  else none

/-- The first thing that the scopes of two writers share. A writer without a scope may
touch anything. -/
def explainPhysicalOverlap :
    Option PhysicalOwnershipScope → Option PhysicalOwnershipScope → PhysicalOverlap
  | none, _ => .missingScope "a"
  | some _, none => .missingScope "b"
  | some left, some right =>
    if left.repoIdentity = right.repoIdentity ∧ eitherIntegrates left right then .integrationRepo
    else if left.machineId ≠ right.machineId then .none
    else if eitherIntegrates left right ∧ sharesGitStore left right then .integrationRepo
    else if sharesCheckout left right then .worktree left.worktree
    else
      match left.resources.findSome? fun own => right.resources.findSome? (overlapPath own) with
      | some path => .resource path
      | none => .none

def physicalConflict (left right : Option PhysicalOwnershipScope) : Bool :=
  explainPhysicalOverlap left right ≠ .none

section Symmetry

theorem comm_of_imp {α : Type} {relates : α → α → Bool}
    (flip : ∀ {one two}, relates one two = true → relates two one = true) (left right : α) :
    relates left right = relates right left :=
  Bool.eq_iff_iff.mpr ⟨flip, flip⟩

theorem resourcesOverlap_comm (left right : OwnedResource) :
    resourcesOverlap left right = resourcesOverlap right left := by
  refine comm_of_imp (fun {one two} => ?_) left right
  simp only [resourcesOverlap, Bool.or_eq_true, Bool.and_eq_true, beq_iff_eq]
  rintro (((same | ⟨known, same⟩) | within) | within)
  · exact .inl (.inl (.inl same.symm))
  · exact .inl (.inl (.inr ⟨same ▸ known, same.symm⟩))
  · exact .inr within
  · exact .inl (.inr within)

theorem eitherIntegrates_comm (left right : PhysicalOwnershipScope) :
    eitherIntegrates left right = eitherIntegrates right left := Bool.or_comm _ _

theorem sharesGitStore_comm (left right : PhysicalOwnershipScope) :
    sharesGitStore left right = sharesGitStore right left := by
  rw [Bool.eq_iff_iff]
  simp only [sharesGitStore, Bool.or_eq_true, beq_iff_eq, List.any_eq_true, List.contains_eq_mem,
    decide_eq_true_eq]
  exact or_congr eq_comm ⟨fun ⟨path, own, other⟩ => ⟨path, other, own⟩,
    fun ⟨path, own, other⟩ => ⟨path, other, own⟩⟩

theorem sharesCheckout_comm (left right : PhysicalOwnershipScope) :
    sharesCheckout left right = sharesCheckout right left := by
  rw [Bool.eq_iff_iff]
  simp only [sharesCheckout, Bool.or_eq_true, beq_iff_eq]
  exact or_congr (or_congr eq_comm eq_comm) eq_comm

theorem findSome?_overlapPath_eq_none {left right : List OwnedResource} :
    (left.findSome? fun own => right.findSome? (overlapPath own)) = none ↔
      ∀ own ∈ left, ∀ other ∈ right, resourcesOverlap own other = false := by
  simp only [List.findSome?_eq_none_iff, overlapPath]
  refine forall_congr' fun own => forall_congr' fun _ => forall_congr' fun other =>
    forall_congr' fun _ => ?_
  cases resourcesOverlap own other <;> simp

theorem explainPhysicalOverlap_eq_none {left right : PhysicalOwnershipScope} :
    explainPhysicalOverlap (some left) (some right) = .none ↔
      ¬ (left.repoIdentity = right.repoIdentity ∧ eitherIntegrates left right) ∧
        (left.machineId = right.machineId →
          ¬ (eitherIntegrates left right ∧ sharesGitStore left right) ∧
            sharesCheckout left right = false ∧ ∀ own ∈ left.resources, ∀ other ∈ right.resources,
              resourcesOverlap own other = false) := by
  rw [explainPhysicalOverlap]
  split
  next shared => simp [shared]
  next apart =>
    split
    next elsewhere => simp [apart, elsewhere]
    next here =>
      have here : left.machineId = right.machineId := not_not.mp here
      split
      next shared => simp [here, shared]
      next separate =>
        split
        next shared => simp [shared, here]
        next alone =>
          rw [← findSome?_overlapPath_eq_none]
          cases left.resources.findSome? fun own => right.resources.findSome? (overlapPath own) with
          | none =>
            simp only [true_iff]
            exact ⟨apart, fun _ => ⟨separate, by simpa using alone, trivial⟩⟩
          | some path => simp [here]

theorem physicalConflict_comm (left right : Option PhysicalOwnershipScope) :
    physicalConflict left right = physicalConflict right left := by
  cases left with
  | none => cases right <;> rfl
  | some left =>
    cases right with
    | none => rfl
    | some right =>
      have same : explainPhysicalOverlap (some left) (some right) = .none ↔
          explainPhysicalOverlap (some right) (some left) = .none := by
        rw [explainPhysicalOverlap_eq_none, explainPhysicalOverlap_eq_none,
          eitherIntegrates_comm, sharesGitStore_comm, sharesCheckout_comm]
        have flip {mine others : List OwnedResource}
            (apart : ∀ own ∈ mine, ∀ other ∈ others, resourcesOverlap own other = false) :
            ∀ own ∈ others, ∀ other ∈ mine, resourcesOverlap own other = false := by
          intro own member other listed
          rw [resourcesOverlap_comm]
          exact apart other listed own member
        rw [iff_of_eq (propext ⟨flip, flip⟩), eq_comm (a := left.repoIdentity),
          eq_comm (a := left.machineId)]
      simp only [physicalConflict, ne_eq, same]

end Symmetry

end Adhdev.TaskQueue
