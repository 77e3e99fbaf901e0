import Adhdev.TaskQueue.PhaseRule

/-! # What the dependency check finds

The check walks from some tasks through the graph. It reports nothing exactly
when the part it can reach has no cycle and no edge the phase rule forbids.
-/

namespace Adhdev.TaskQueue

open DepthFirst

section Reached

variable (graph : PhaseGraph)

/-- `dependent` names the id of the graph's row `source`. -/
def WaitsFor (dependent source : PhaseEntry) : Prop :=
  source ∈ graph ∧ source.id ∈ dependent.dependsOn

def Reached (entries : List PhaseEntry) (row : PhaseEntry) : Prop :=
  ∃ entry ∈ entries, Relation.ReflTransGen (WaitsFor graph) entry row

def Sound (entries : List PhaseEntry) : Prop :=
  ∀ row, Reached graph entries row →
    ¬ Relation.TransGen (WaitsFor graph) row row ∧
      ∀ source, WaitsFor graph row source → crossesPhase row source = false

/-- Among the reached rows one id names one row. -/
def Consistent (entries : List PhaseEntry) : Prop :=
  ∀ row other, Reached graph entries row → Reached graph entries other → row.id = other.id →
    row = other

variable {graph} {entries : List PhaseEntry} {row source : PhaseEntry}

theorem Reached.tail (reached : Reached graph entries row) (waits : WaitsFor graph row source) :
    Reached graph entries source := by
  obtain ⟨entry, member, path⟩ := reached
  exact ⟨entry, member, path.tail waits⟩

theorem Reached.mem (reached : Reached graph entries row) : row ∈ entries ++ graph.entries := by
  obtain ⟨entry, member, path⟩ := reached
  cases path with
  | refl => exact List.mem_append_left _ member
  | tail _ waits => exact List.mem_append_right _ (KeyedMap.mem_def.mp waits.1)

theorem edge_iff_waitsFor (expands : ∃ sources, sourcesOf graph row = .ok sources) :
    DepthFirst.Edge (sourcesOf graph) row source ↔ WaitsFor graph row source := edge_iff expands

theorem expands_of_fits (fits : ∀ source, WaitsFor graph row source →
    crossesPhase row source = false) : ∃ sources, sourcesOf graph row = .ok sources :=
  dependencySources_isOk fun source member listed => fits source ⟨member, listed⟩

theorem waitsFor_of_edge (edge : DepthFirst.Edge (sourcesOf graph) row source) :
    WaitsFor graph row source := by
  obtain ⟨sources, expanded, member⟩ := edge
  exact (mem_dependencySources expanded source).mp member

theorem edge_path_of_clean {entry : PhaseEntry} (clean : DepthFirst.Clean (sourcesOf graph) entry)
    (path : Relation.ReflTransGen (WaitsFor graph) entry row) :
    Relation.ReflTransGen (DepthFirst.Edge (sourcesOf graph)) entry row := by
  induction path with
  | refl => exact .refl
  | tail _ waits induction =>
    obtain ⟨sources, expanded, -⟩ := (clean.reachable induction).expanded
    exact induction.tail ((edge_iff_waitsFor ⟨sources, expanded⟩).mpr waits)

theorem sound_of_clean (clean : ∀ entry ∈ entries, DepthFirst.Clean (sourcesOf graph) entry) :
    Sound graph entries := by
  rintro row ⟨entry, member, path⟩
  have rowClean : DepthFirst.Clean (sourcesOf graph) row :=
    (clean entry member).reachable (edge_path_of_clean (clean entry member) path)
  obtain ⟨sources, expanded, -⟩ := rowClean.expanded
  constructor
  · intro cycle
    obtain ⟨other, waits, back⟩ := Relation.TransGen.head'_iff.mp cycle
    have edge := (edge_iff_waitsFor ⟨sources, expanded⟩).mpr waits
    exact rowClean.no_cycle (.head' edge (edge_path_of_clean (rowClean.child edge) back))
  · exact fun source waits => fits_of_dependencySources expanded waits.1 waits.2

theorem clean_of_sound (sound : Sound graph entries) :
    ∀ entry ∈ entries, DepthFirst.Clean (sourcesOf graph) entry := by
  classical
  let rows := (entries ++ graph.entries).filter fun row => decide (Reached graph entries row)
  have listed : ∀ row, row ∈ rows ↔ Reached graph entries row := fun row => by
    simp only [rows, List.mem_filter, decide_eq_true_eq]
    exact ⟨And.right, fun reached => ⟨reached.mem, reached⟩⟩
  intro entry member
  have entryListed : entry ∈ rows := (listed entry).mpr ⟨entry, member, .refl⟩
  refine clean_of_acyclic (fun row present => ?_) (fun row present cycle => ?_)
    entryListed
  · have reached := (listed row).mp present
    obtain ⟨sources, expanded⟩ := expands_of_fits (sound row reached).2
    refine ⟨sources, expanded, fun child within => ?_⟩
    exact (listed child).mpr (reached.tail ((mem_dependencySources expanded child).mp within))
  · exact (sound row ((listed row).mp present)).1
      (Relation.TransGen.mono (fun _ _ edge => waitsFor_of_edge edge) _ _ cycle)

end Reached

section Check

variable {graph : PhaseGraph} {entries : List PhaseEntry}

theorem Consistent.closed (consistent : Consistent graph entries) :
    DepthFirst.Closed PhaseEntry.id (sourcesOf graph) (Reached graph entries) where
  keyed := consistent
  closed _ _ reached expanded _ listed :=
    reached.tail ((mem_dependencySources expanded _).mp listed)

theorem dependencyWalk_ends (entries : List PhaseEntry) (graph : PhaseGraph) {turns : Nat}
    (enough : budget (sourcesOf graph) (entries ++ graph.entries) ≤ turns) :
    let walked := walkEach PhaseEntry.id (sourcesOf graph)
      (budget (sourcesOf graph) (entries ++ graph.entries)) entries []
    walkEach PhaseEntry.id (sourcesOf graph) turns entries [] = walked ∧
      walked ≠ .error .exhausted := by
  have inside : ∀ entry ∈ entries, entry ∈ entries ++ graph.entries :=
    fun entry member => List.mem_append_left _ member
  refine walkEach_ends (fun row _ sources expanded source member => ?_) inside enough
  exact List.mem_append_right _ (KeyedMap.mem_def.mp
    ((mem_dependencySources expanded source).mp member).1)

/-- The check ends on every list and graph; where one id names one reached row
it reports nothing exactly when what it reaches is sound. -/
theorem dependencyViolation_exact (entries : List PhaseEntry) (graph : PhaseGraph) :
    (∀ turns, DepthFirst.budget (sourcesOf graph) (entries ++ graph.entries) ≤ turns →
      let walked := DepthFirst.walkEach PhaseEntry.id (sourcesOf graph)
        (DepthFirst.budget (sourcesOf graph) (entries ++ graph.entries)) entries []
      DepthFirst.walkEach PhaseEntry.id (sourcesOf graph) turns entries [] = walked ∧
        walked ≠ .error .exhausted) ∧
      (Consistent graph entries →
        (dependencyViolation entries graph = none ↔ Sound graph entries)) := by
  refine ⟨fun turns enough => dependencyWalk_ends entries graph enough, fun consistent => ?_⟩
  rw [dependencyViolation_iff_clean consistent.closed (fun _ reached => reached.mem)
    fun entry member => ⟨entry, member, .refl⟩]
  exact ⟨sound_of_clean, clean_of_sound⟩

def cyclicTask : PhaseEntry := ⟨"plan", none, ["plan"]⟩

theorem dependencyViolation_exact_cyclic :
    DepthFirst.walkEach PhaseEntry.id (sourcesOf ⟨[cyclicTask], by simp⟩) 9 [cyclicTask] [] ≠
        .error .exhausted ∧
      (dependencyViolation [cyclicTask] ⟨[cyclicTask], by simp⟩ = none ↔
        Sound ⟨[cyclicTask], by simp⟩ [cyclicTask]) := by
  have exact := dependencyViolation_exact [cyclicTask] ⟨[cyclicTask], by simp⟩
  have only : ∀ row, Reached ⟨[cyclicTask], by simp⟩ [cyclicTask] row → row = cyclicTask :=
    fun row reached => by simpa using reached.mem
  have ended := exact.1 9 (by decide)
  refine ⟨fun exhausted => ended.2 (ended.1.symm.trans exhausted), exact.2 ?_⟩
  intro row other reached otherReached _
  exact (only row reached).trans (only other otherReached).symm

/-- Two tasks of one id in one list: the walk passes over the second. -/
theorem dependencyViolation_misses_repeated_id : ∃ entries : List PhaseEntry,
      dependencyViolation entries (KeyedMap.ofList PhaseEntry.id entries) = none ∧
        ¬ Sound (KeyedMap.ofList PhaseEntry.id entries) entries := by
  refine ⟨[⟨"plan", none, []⟩, cyclicTask], by decide, fun sound => ?_⟩
  have reached : Reached (KeyedMap.ofList PhaseEntry.id [⟨"plan", none, []⟩, cyclicTask])
      [⟨"plan", none, []⟩, cyclicTask] cyclicTask := ⟨cyclicTask, by simp, .refl⟩
  have waits : WaitsFor (KeyedMap.ofList PhaseEntry.id [⟨"plan", none, []⟩, cyclicTask])
      cyclicTask cyclicTask := ⟨KeyedMap.mem_def.mpr (by decide), by decide⟩
  exact (sound cyclicTask reached).1 (.single waits)

end Check

end Adhdev.TaskQueue
