import Adhdev.Foundation.DepthFirst
import Adhdev.Foundation.KeyedMap

/-! # Task phases and dependencies

A task that ends in the source phase is input for an integration task only. The
rule is checked on the graph of all rows, together with cycles.
-/

namespace Adhdev.TaskQueue

open KeyedMap

inductive TaskPhase where
  | source
  | integration
  deriving DecidableEq

structure PhaseEntry where
  id : String
  phase : Option TaskPhase
  dependsOn : List String
  deriving DecidableEq

abbrev PhaseGraph := KeyedMap PhaseEntry.id

def PhaseGraph.find (graph : PhaseGraph) (id : String) : Option PhaseEntry :=
  KeyedMap.lookup PhaseEntry.id graph.entries id

def crossesPhase (dependent source : PhaseEntry) : Bool :=
  source.phase = some .source && dependent.phase ≠ some .integration

/-- The rows that a dependent's ids name; ids of no row are passed over. -/
def dependencySources (graph : PhaseGraph) (dependent : PhaseEntry) :
    List String → Except String (List PhaseEntry)
  | [] => .ok []
  | id :: ids =>
    match graph.find id with
    | none => dependencySources graph dependent ids
    | some source =>
      if crossesPhase dependent source then
        .error s!"source_phase_requires_integration_dependents: {dependent.id} -> {id}"
      else
        match dependencySources graph dependent ids with
        | .error violation => .error violation
        | .ok sources => .ok (source :: sources)

def sourcesOf (graph : PhaseGraph) (dependent : PhaseEntry) : Except String (List PhaseEntry) :=
  dependencySources graph dependent dependent.dependsOn

def findingText : DepthFirst.Finding String String → String
  | .cycle id => s!"dependency_cycle_detected: {id}"
  | .fault violation => violation
  | .exhausted => "exhausted"

def dependencyViolation (entries : List PhaseEntry) (graph : PhaseGraph) : Option String :=
  match DepthFirst.walkEach PhaseEntry.id (sourcesOf graph)
      (DepthFirst.budget (sourcesOf graph) (entries ++ graph.entries)) entries [] with
  | .ok _ => none
  | .error finding => some (findingText finding)

def sourceDependencyViolation (entry : PhaseEntry) (graph : PhaseGraph) : Option String :=
  dependencyViolation [entry] graph

def assertSourceDependencyGraph (entries : List PhaseEntry) : Except String Unit :=
  match dependencyViolation entries (KeyedMap.ofList PhaseEntry.id entries) with
  | some violation => .error violation
  | none => .ok ()

/-- `dependent` waits for the row `source`. -/
def DependsOn (rows : List PhaseEntry) (dependent source : PhaseEntry) : Prop :=
  dependent ∈ rows ∧ source ∈ rows ∧ source.id ∈ dependent.dependsOn

def Acyclic (rows : List PhaseEntry) : Prop :=
  ∀ row, ¬ Relation.TransGen (DependsOn rows) row row

def PhaseRule (rows : List PhaseEntry) : Prop :=
  ∀ dependent source, DependsOn rows dependent source →
    dependent.phase ≠ some .integration → source.phase ≠ some .source

def Distinct (rows : List PhaseEntry) : Prop := (rows.map PhaseEntry.id).Nodup

theorem Distinct.eq {rows : List PhaseEntry} (distinct : Distinct rows) {row other : PhaseEntry}
    (member : row ∈ rows) (otherMember : other ∈ rows) (same : row.id = other.id) : row = other :=
  List.inj_on_of_nodup_map distinct member otherMember same

section Sources

variable {graph : PhaseGraph} {dependent source : PhaseEntry}

theorem PhaseGraph.find_of_mem (member : source ∈ graph) : graph.find source.id = some source :=
  lookup_of_mem (fun _ other same => eq_of_key other member same) member

theorem PhaseGraph.find_eq_some {id : String} (found : graph.find id = some source) :
    source ∈ graph ∧ source.id = id :=
  ⟨mem_of_lookup found, label_of_lookup found⟩

variable {ids : List String} {sources : List PhaseEntry}

theorem mem_dependencySources (expanded : dependencySources graph dependent ids = .ok sources)
    (source : PhaseEntry) : source ∈ sources ↔ source ∈ graph ∧ source.id ∈ ids := by
  induction ids generalizing sources with
  | nil => cases expanded; simp
  | cons id ids induction =>
    rw [dependencySources] at expanded
    cases found : graph.find id with
    | none =>
      rw [found] at expanded
      rw [induction expanded, List.mem_cons]
      constructor
      · exact fun present => ⟨present.1, .inr present.2⟩
      rintro ⟨member, equal | later⟩
      · rw [← equal, PhaseGraph.find_of_mem member] at found
        cases found
      · exact ⟨member, later⟩
    | some head =>
      simp only [found] at expanded
      split at expanded
      · cases expanded
      split at expanded
      · cases expanded
      next rest later =>
        cases expanded
        obtain ⟨member, named⟩ := PhaseGraph.find_eq_some found
        rw [List.mem_cons, induction later, List.mem_cons]
        constructor
        · rintro (rfl | ⟨present, listed⟩)
          · exact ⟨member, .inl named⟩
          · exact ⟨present, .inr listed⟩
        rintro ⟨present, equal | listed⟩
        · exact .inl (eq_of_key present member (equal.trans named.symm))
        · exact .inr ⟨present, listed⟩

theorem dependencySources_isOk
    (allowed : ∀ source ∈ graph, source.id ∈ ids → crossesPhase dependent source = false) :
    ∃ sources, dependencySources graph dependent ids = .ok sources := by
  induction ids with
  | nil => exact ⟨[], rfl⟩
  | cons id ids induction =>
    obtain ⟨sources, rest⟩ := induction fun source member listed =>
      allowed source member (.tail _ listed)
    rw [dependencySources]
    cases found : graph.find id with
    | none => exact ⟨sources, rest⟩
    | some source =>
      obtain ⟨member, named⟩ := PhaseGraph.find_eq_some found
      have fits := allowed source member (named ▸ List.mem_cons_self)
      exact ⟨source :: sources, by simp [fits, rest]⟩

theorem fits_of_dependencySources (expanded : dependencySources graph dependent ids = .ok sources)
    (member : source ∈ graph) (listed : source.id ∈ ids) :
    crossesPhase dependent source = false := by
  induction ids generalizing sources with
  | nil => cases listed
  | cons id ids induction =>
    rw [dependencySources] at expanded
    rcases List.mem_cons.mp listed with equal | later
    · rw [← equal, PhaseGraph.find_of_mem member] at expanded
      simp only at expanded
      split at expanded
      · cases expanded
      next fits => exact Bool.eq_false_iff.mpr fits
    cases found : graph.find id with
    | none =>
      rw [found] at expanded
      exact induction expanded later
    | some head =>
      simp only [found] at expanded
      split at expanded
      · cases expanded
      split at expanded
      · cases expanded
      next rest restOk => exact induction restOk later

theorem edge_iff (expands : ∃ sources, sourcesOf graph dependent = .ok sources) :
    DepthFirst.Edge (sourcesOf graph) dependent source ↔
      source ∈ graph ∧ source.id ∈ dependent.dependsOn := by
  obtain ⟨sources, expanded⟩ := expands
  rw [← mem_dependencySources expanded source]
  constructor
  · rintro ⟨others, same, member⟩
    rw [expanded, Except.ok.injEq] at same
    exact same ▸ member
  · exact fun member => ⟨sources, expanded, member⟩

end Sources

section Graph

variable {rows : List PhaseEntry} {graph : PhaseGraph}

theorem clean_of_rule (rule : PhaseRule rows) (acyclic : Acyclic rows)
    (subset : ∀ row ∈ graph, row ∈ rows) {row : PhaseEntry} (member : row ∈ rows) :
    DepthFirst.Clean (sourcesOf graph) row := by
  have expands : ∀ row ∈ rows, ∃ sources, sourcesOf graph row = .ok sources :=
    fun row member => dependencySources_isOk fun source present listed => by
      have kept := rule row source ⟨member, subset source present, listed⟩
      by_cases integration : row.phase = some .integration
      · simp [crossesPhase, integration]
      · simp [crossesPhase, kept integration]
  have edges : ∀ {row other : PhaseEntry}, row ∈ rows →
      DepthFirst.Edge (sourcesOf graph) row other → DependsOn rows row other :=
    fun member edge =>
      have named := (edge_iff (expands _ member)).mp edge
      ⟨member, subset _ named.1, named.2⟩
  have walked : ∀ {row other : PhaseEntry}, row ∈ rows →
      Relation.TransGen (DepthFirst.Edge (sourcesOf graph)) row other →
      other ∈ rows ∧ Relation.TransGen (DependsOn rows) row other := by
    intro row other member path
    induction path with
    | single edge => exact ⟨(edges member edge).2.1, .single (edges member edge)⟩
    | tail _ edge induction =>
      exact ⟨(edges induction.1 edge).2.1, induction.2.tail (edges induction.1 edge)⟩
  refine DepthFirst.clean_of_acyclic (fun row member => ?_)
    (fun row member cycle => acyclic row (walked member cycle).2) member
  obtain ⟨sources, expanded⟩ := expands row member
  exact ⟨sources, expanded, fun source listed =>
    subset source ((mem_dependencySources expanded source).mp listed).1⟩

theorem rule_of_clean (clean : ∀ row ∈ graph, DepthFirst.Clean (sourcesOf graph) row) :
    PhaseRule graph.entries ∧ Acyclic graph.entries := by
  have expands : ∀ row ∈ graph, ∃ sources, sourcesOf graph row = .ok sources :=
    fun row member =>
      have expanded := (clean row member).expanded
      ⟨expanded.choose, expanded.choose_spec.1⟩
  have edges : ∀ {row other : PhaseEntry}, DependsOn graph.entries row other →
      DepthFirst.Edge (sourcesOf graph) row other :=
    fun depends => (edge_iff (expands _ depends.1)).mpr depends.2
  constructor
  · intro dependent source depends outside phase
    obtain ⟨sources, expanded⟩ := expands dependent depends.1
    have fits := fits_of_dependencySources expanded depends.2.1 depends.2.2
    simp [crossesPhase, phase, outside] at fits
  intro row cycle
  have member : row ∈ graph := by
    obtain ⟨other, depends, -⟩ := Relation.TransGen.head'_iff.mp cycle
    exact depends.1
  exact (clean row member).no_cycle
    (Relation.TransGen.mono (fun _ _ depends => edges depends) _ _ cycle)

theorem dependencyViolation_iff_clean {entries : List PhaseEntry} {inside : PhaseEntry → Prop}
    (closed : DepthFirst.Closed PhaseEntry.id (sourcesOf graph) inside)
    (listed : ∀ row, inside row → row ∈ entries ++ graph.entries)
    (start : ∀ entry ∈ entries, inside entry) : dependencyViolation entries graph = none ↔
      ∀ entry ∈ entries, DepthFirst.Clean (sourcesOf graph) entry := by
  constructor
  · intro passed
    rw [dependencyViolation] at passed
    split at passed
    next result walked =>
      exact DepthFirst.walkEach_sound closed walked start fun _ _ member =>
        (List.not_mem_nil member).elim
    · cases passed
  intro clean
  have walked : ∃ result, DepthFirst.walkEach PhaseEntry.id (sourcesOf graph)
      (DepthFirst.budget (sourcesOf graph) (entries ++ graph.entries)) entries [] = .ok result :=
    DepthFirst.walkEach_complete closed listed start clean
  obtain ⟨result, walked⟩ := walked
  simp only [dependencyViolation, walked]

theorem dependencyViolation_eq_none (distinct : Distinct rows) (subset : ∀ row ∈ graph, row ∈ rows)
    {entries : List PhaseEntry} (inside : ∀ entry ∈ entries, entry ∈ rows) :
    dependencyViolation entries graph = none ↔
      ∀ entry ∈ entries, DepthFirst.Clean (sourcesOf graph) entry := by
  have within : ∀ {row : PhaseEntry}, row ∈ entries ∨ row ∈ graph → row ∈ rows :=
    fun placed => placed.elim (inside _) (subset _)
  have closed : DepthFirst.Closed PhaseEntry.id (sourcesOf graph)
      fun row => row ∈ entries ∨ row ∈ graph := {
    keyed := fun _ _ member other same => distinct.eq (within member) (within other) same
    closed := fun _ _ _ expanded source listed =>
      .inr ((mem_dependencySources expanded source).mp listed).1 }
  exact dependencyViolation_iff_clean closed (fun _ placed => List.mem_append.mpr placed)
    fun _ member => .inl member

theorem sourceDependencyViolation_eq_none (distinct : Distinct rows) (rule : PhaseRule rows)
    (acyclic : Acyclic rows) (subset : ∀ row ∈ graph, row ∈ rows) {row : PhaseEntry}
    (member : row ∈ rows) : sourceDependencyViolation row graph = none := by
  rw [sourceDependencyViolation,
    dependencyViolation_eq_none distinct subset (by simpa using member)]
  intro entry listed
  cases List.mem_singleton.mp listed
  exact clean_of_rule rule acyclic subset member

end Graph

theorem assertSourceDependencyGraph_isOk {rows : List PhaseEntry} (distinct : Distinct rows) :
    assertSourceDependencyGraph rows = .ok () ↔ PhaseRule rows ∧ Acyclic rows := by
  have listed : (ofList PhaseEntry.id rows).entries = rows := entries_ofList distinct
  have same : ∀ row, row ∈ ofList PhaseEntry.id rows ↔ row ∈ rows := fun row => by
    rw [mem_def, listed]
  have passes : assertSourceDependencyGraph rows = .ok () ↔
      dependencyViolation rows (ofList PhaseEntry.id rows) = none := by
    rw [assertSourceDependencyGraph]
    split <;> simp_all
  rw [passes, dependencyViolation_eq_none distinct (fun row => (same row).mp)
    fun _ member => member]
  constructor
  · intro clean
    have kept := rule_of_clean fun row member => clean row ((same row).mp member)
    rwa [listed] at kept
  · rintro ⟨rule, acyclic⟩ row member
    exact clean_of_rule rule acyclic (fun row => (same row).mp) member

end Adhdev.TaskQueue
