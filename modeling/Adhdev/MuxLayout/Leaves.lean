import Adhdev.MuxLayout.Layout

/-! # The leaves of a layout

The leaves of the tree are the panes of the workspace, whatever is done to it.
-/

namespace Adhdev.MuxLayout

open MuxLayoutNode List Except

variable {Ratio Runtime : Type}

/-! ## Trees -/

namespace MuxLayoutNode

theorem collectPaneIds_ne_nil (node : MuxLayoutNode Ratio) : node.collectPaneIds ≠ [] := by
  induction node with
  | pane id => exact cons_ne_nil _ _
  | split axis ratio first second firstInduction _ =>
    exact append_ne_nil_of_left_ne_nil firstInduction _

theorem collectPaneIds_replaceNode (paneId : String) (next node : MuxLayoutNode Ratio) :
    (replaceNode paneId next node).collectPaneIds =
      node.collectPaneIds.flatMap fun id => if id = paneId then next.collectPaneIds else [id] := by
  induction node with
  | pane id =>
    rw [replaceNode, collectPaneIds, flatMap_singleton]
    split <;> rfl
  | split axis ratio first second firstInduction secondInduction =>
    rw [replaceNode, collectPaneIds, collectPaneIds, firstInduction, secondInduction,
      flatMap_append]

theorem collectPaneIds_removeNode (paneId : String) (node : MuxLayoutNode Ratio) :
    ((removeNode paneId node).map collectPaneIds).getD [] =
      node.collectPaneIds.filter (· ≠ paneId) := by
  induction node with
  | pane id =>
    rw [removeNode, collectPaneIds]
    by_cases same : id = paneId
    · rw [if_pos same, filter_cons_of_neg (by simpa using same)]
      rfl
    · rw [if_neg same, filter_cons_of_pos (by simpa using same)]
      rfl
  | split axis ratio first second firstInduction secondInduction =>
    rw [removeNode, collectPaneIds, filter_append, ← firstInduction, ← secondInduction]
    cases removeNode paneId first with
    | none =>
      cases removeNode paneId second with
      | none => rfl
      | some second => rfl
    | some first =>
      cases removeNode paneId second with
      | none => exact (append_nil _).symm
      | some second => rfl

theorem removeNode_replaceNode {nextId : String} (targetId : String) (axis : MuxAxis)
    (ratio : Ratio) {node : MuxLayoutNode Ratio} (fresh : nextId ∉ node.collectPaneIds)
    (distinct : targetId ≠ nextId) :
    removeNode nextId (replaceNode targetId (.split axis ratio (.pane targetId) (.pane nextId))
      node) =
      some node := by
  induction node with
  | pane id =>
    rw [collectPaneIds, mem_singleton] at fresh
    rw [replaceNode]
    by_cases same : id = targetId
    · rw [if_pos same, removeNode, removeNode, removeNode, if_neg distinct, if_pos rfl, same]
    · rw [if_neg same, removeNode, if_neg (Ne.symm fresh)]
  | split nodeAxis nodeRatio first second firstInduction secondInduction =>
    rw [collectPaneIds, mem_append, not_or] at fresh
    rw [replaceNode, removeNode, firstInduction fresh.1, secondInduction fresh.2]

theorem collectPaneIds_mapPaneIds (firstPaneId secondPaneId : String) (node : MuxLayoutNode Ratio) :
    (mapPaneIds firstPaneId secondPaneId node).collectPaneIds =
      node.collectPaneIds.map (MuxWorkspaceState.swapped firstPaneId secondPaneId) := by
  induction node with
  | pane id =>
    rw [mapPaneIds, collectPaneIds, map_singleton, MuxWorkspaceState.swapped]
    split_ifs <;> rfl
  | split axis ratio first second firstInduction secondInduction =>
    rw [mapPaneIds, collectPaneIds, collectPaneIds, firstInduction, secondInduction, map_append]

variable (ratios : RatioArithmetic Ratio)

theorem collectPaneIds_rebalanceNode (node : MuxLayoutNode Ratio) :
    (rebalanceNode ratios node).collectPaneIds = node.collectPaneIds := by
  induction node with
  | pane id => rfl
  | split axis ratio first second firstInduction secondInduction =>
    rw [rebalanceNode, collectPaneIds, collectPaneIds, firstInduction, secondInduction]

theorem collectPaneIds_adjustNodeForPane (paneId : String) (axis : MuxAxis) (delta : Ratio)
    (node : MuxLayoutNode Ratio) :
    (adjustNodeForPane ratios paneId axis delta node).1.collectPaneIds = node.collectPaneIds := by
  induction node with
  | pane id => rfl
  | split nodeAxis ratio first second firstInduction secondInduction =>
    rw [adjustNodeForPane]
    dsimp only
    split
    · split
      · rw [collectPaneIds, collectPaneIds, firstInduction]
      · rfl
    split
    · split
      · rw [collectPaneIds, collectPaneIds, secondInduction]
      · rfl
    · rfl

end MuxLayoutNode

/-! ## Presets -/

section Presets

variable (ratios : RatioArithmetic Ratio)

theorem buildStackLayout_leaves (axis : MuxAxis) (paneIds : List String) (some : paneIds ≠ []) :
    ∃ root, buildStackLayout ratios axis paneIds = .ok root ∧ root.collectPaneIds = paneIds := by
  induction paneIds with
  | nil => exact absurd rfl some
  | cons first rest induction =>
    cases rest with
    | nil => exact ⟨.pane first, rfl, rfl⟩
    | cons second rest =>
      obtain ⟨stack, built, leaves⟩ := induction (cons_ne_nil _ _)
      refine ⟨.split axis ratios.half (.pane first) stack, ?_, ?_⟩
      · rw [buildStackLayout, built]
        rfl
      · rw [collectPaneIds, leaves]
        rfl

theorem buildMainLayout_leaves (axis : MuxAxis) (paneIds : List String) (some : paneIds ≠ []) :
    ∃ root, buildMainLayout ratios axis paneIds = .ok root ∧ root.collectPaneIds = paneIds := by
  cases paneIds with
  | nil => exact absurd rfl some
  | cons primary rest =>
    cases rest with
    | nil => exact ⟨.pane primary, rfl, rfl⟩
    | cons second rest =>
      obtain ⟨stack, built, leaves⟩ :=
        buildStackLayout_leaves ratios axis.other (second :: rest) (cons_ne_nil _ _)
      refine ⟨.split axis (if rest.length = 0 then ratios.half else ratios.main) (.pane primary)
        stack, ?_, ?_⟩
      · rw [buildMainLayout, built]
        rfl
      · rw [collectPaneIds, leaves]
        rfl

theorem buildEvenLayout_leaves (paneIds : List String) (axis : MuxAxis) (some : paneIds ≠ []) :
    ∃ root, buildEvenLayout ratios paneIds axis = .ok root ∧ root.collectPaneIds = paneIds := by
  have nonempty : paneIds.length ≠ 0 := fun empty => some (eq_nil_of_length_eq_zero empty)
  rw [buildEvenLayout, if_neg nonempty]
  by_cases single : paneIds.length = 1
  · obtain ⟨paneId, rfl⟩ := length_eq_one_iff.mp single
    rw [dif_pos single]
    exact ⟨.pane paneId, rfl, rfl⟩
  rw [dif_neg single]
  have firstSome : paneIds.take ((paneIds.length + 1) / 2) ≠ [] := by
    intro empty
    have length := congrArg length empty
    rw [length_take, length_nil] at length
    omega
  have secondSome : paneIds.drop ((paneIds.length + 1) / 2) ≠ [] := by
    intro empty
    have length := congrArg length empty
    rw [length_drop, length_nil] at length
    omega
  obtain ⟨first, firstBuilt, firstLeaves⟩ := buildEvenLayout_leaves _ axis.other firstSome
  obtain ⟨second, secondBuilt, secondLeaves⟩ := buildEvenLayout_leaves _ axis.other secondSome
  refine ⟨.split axis ratios.half first second, ?_, ?_⟩
  · dsimp only
    rw [firstBuilt, secondBuilt]
    rfl
  · rw [collectPaneIds, firstLeaves, secondLeaves, take_append_drop]
termination_by paneIds.length
decreasing_by
  · rw [List.length_take]
    omega
  · rw [List.length_drop]
    omega

end Presets

theorem mem_objectKeys {keys : List String} {key : String} : key ∈ objectKeys keys ↔
    key ∈ keys := by
  rw [objectKeys, mem_append, mem_mergeSort, mem_filter, mem_filter]
  cases indexOf key with
  | none => simp
  | some index => simp

/-! ## The invariant -/

namespace MuxWorkspaceState

variable (ratios : RatioArithmetic Ratio) {workspace after : MuxWorkspaceState Ratio Runtime}

def leaves (workspace : MuxWorkspaceState Ratio Runtime) : List String :=
  workspace.root.collectPaneIds

/-- The leaves are the keys of the panes, once each, with the focused and the zoomed one. -/
structure Valid (workspace : MuxWorkspaceState Ratio Runtime) : Prop where
  nodup : workspace.leaves.Nodup
  keys : ∀ paneId, paneId ∈ workspace.leaves ↔ paneId ∈ workspace.paneIds
  focused : workspace.focusedPaneId ∈ workspace.leaves
  zoomed : ∀ paneId ∈ workspace.zoomedPaneId, paneId ∈ workspace.leaves

variable {paneId : String}

theorem mem_paneIds : paneId ∈ workspace.paneIds ↔ ∃ pane ∈ workspace.panes, pane.paneId = paneId :=
  mem_map

theorem Valid.root (valid : workspace.Valid) {root : MuxLayoutNode Ratio}
    (same : root.collectPaneIds.Perm workspace.leaves) : Valid { workspace with root } where
  nodup := same.nodup_iff.mpr valid.nodup
  keys := fun paneId => (same.mem_iff (a := paneId)).trans (valid.keys paneId)
  focused := same.mem_iff.mpr valid.focused
  zoomed := fun paneId zoomed => same.mem_iff.mpr (valid.zoomed paneId zoomed)

theorem valid_create (initialPane : RuntimePaneState Runtime) (workspaceId title : Option String)
    (generatedId : String) : (createMuxWorkspace initialPane workspaceId title generatedId :
      MuxWorkspaceState Ratio Runtime).Valid where
  nodup := nodup_singleton _
  keys := fun _ => Iff.rfl
  focused := .head _
  zoomed := nofun

/-- The name is a pane's own, or none. -/
def Own (workspace : MuxWorkspaceState Ratio Runtime) (paneId : String) : Prop :=
  paneId ∈ workspace.inherited → paneId ∈ workspace.paneIds

theorem Own.mem (own : workspace.Own paneId) (present : ¬(!workspace.hasPane paneId) = true) :
    paneId ∈ workspace.paneIds := by
  rw [Bool.not_eq_true', Bool.not_eq_false, hasPane, Bool.or_eq_true, decide_eq_true_eq,
    decide_eq_true_eq] at present
  exact present.elim id own

theorem mem_paneIds_set {pane : RuntimePaneState Runtime} :
    paneId ∈ (workspace.panes.set pane).entries.map (·.paneId) ↔
      paneId = pane.paneId ∨ paneId ∈ workspace.paneIds := by
  rw [mem_map, mem_paneIds]
  constructor
  · rintro ⟨one, member, rfl⟩
    rcases KeyedMap.mem_set.mp member with rfl | ⟨old, -⟩
    · exact .inl rfl
    · exact .inr ⟨one, old, rfl⟩
  rintro (rfl | ⟨one, member, rfl⟩)
  · exact ⟨pane, KeyedMap.mem_set.mpr (.inl rfl), rfl⟩
  by_cases same : one.paneId = pane.paneId
  · exact ⟨pane, KeyedMap.mem_set.mpr (.inl rfl), same.symm⟩
  · exact ⟨one, KeyedMap.mem_set.mpr (.inr ⟨member, same⟩), rfl⟩

theorem mem_paneIds_assignPane {pane : RuntimePaneState Runtime}
    (named : pane.paneId ≠ "__proto__") :
    paneId ∈ (workspace.assignPane pane).paneIds ↔
      paneId = pane.paneId ∨ paneId ∈ workspace.paneIds := by
  rw [assignPane, if_neg fun both => named both.1]
  exact mem_paneIds_set

theorem zoomedPaneId_assignPane (pane : RuntimePaneState Runtime) :
    (workspace.assignPane pane).zoomedPaneId = workspace.zoomedPaneId := by
  rw [assignPane]
  split <;> rfl

theorem perm_beside {target next : String} {leaves : List String} (nodup : leaves.Nodup)
    (member : target ∈ leaves) :
    (leaves.flatMap fun id => if id = target then [target, next] else [id]).Perm
    (next :: leaves) := by
  induction leaves with
  | nil => cases member
  | cons leaf leaves induction =>
    obtain ⟨fresh, restNodup⟩ := nodup_cons.mp nodup
    rw [flatMap_cons]
    by_cases same : leaf = target
    · have others : (leaves.flatMap fun id => if id = target then [target, next] else [id]) =
          leaves.flatMap fun id => [id] := by
        apply flatMap_congr
        intro id listed
        rw [if_neg]
        rintro rfl
        exact fresh (same ▸ listed)
      rw [if_pos same, others, flatMap_singleton', same]
      exact List.Perm.swap next target leaves
    rw [if_neg same]
    have rest := induction restNodup ((mem_cons.mp member).resolve_left (Ne.symm same))
    exact (rest.cons leaf).trans (List.Perm.swap next leaf leaves)

theorem Valid.split (valid : workspace.Valid) {targetPaneId : String} {axis : MuxAxis}
    {nextPane : RuntimePaneState Runtime} (fresh : nextPane.paneId ∉ workspace.paneIds)
    (own : workspace.Own targetPaneId) (named : nextPane.paneId ≠ "__proto__")
    (performed : workspace.splitMuxPane ratios targetPaneId axis nextPane = .ok after) :
    after.Valid := by
  rw [splitMuxPane] at performed
  split at performed
  · cases performed
  rename_i present
  obtain rfl := ok.inj performed
  have target : targetPaneId ∈ workspace.leaves := (valid.keys _).mpr (own.mem present)
  have leaves : (replaceNode targetPaneId
      (.split axis ratios.half (.pane targetPaneId) (.pane nextPane.paneId))
        workspace.root).collectPaneIds.Perm (nextPane.paneId :: workspace.leaves) := by
    rw [collectPaneIds_replaceNode]
    exact perm_beside valid.nodup target
  have absent : nextPane.paneId ∉ workspace.leaves := fun listed => fresh ((valid.keys _).mp listed)
  refine ⟨?_, ?_, ?_, ?_⟩
  · exact leaves.nodup_iff.mpr (nodup_cons.mpr ⟨absent, valid.nodup⟩)
  · intro paneId
    have listed : paneId ∈ nextPane.paneId :: workspace.leaves ↔
        paneId = nextPane.paneId ∨ paneId ∈ workspace.paneIds := by
      rw [mem_cons, valid.keys]
    exact (leaves.mem_iff.trans listed).trans (mem_paneIds_assignPane named).symm
  · exact leaves.mem_iff.mpr (.head _)
  intro paneId zoomed
  change paneId ∈ (workspace.assignPane nextPane).zoomedPaneId at zoomed
  rw [zoomedPaneId_assignPane] at zoomed
  exact leaves.mem_iff.mpr (.tail _ (valid.zoomed paneId zoomed))

theorem mem_paneIds_keepWhere {removed paneId : String} :
    paneId ∈ (workspace.panes.keepWhere (·.paneId ≠ removed)).entries.map (·.paneId) ↔
      paneId ∈ workspace.paneIds ∧ paneId ≠ removed := by
  rw [mem_paneIds, mem_map]
  constructor
  · rintro ⟨pane, member, rfl⟩
    obtain ⟨old, kept⟩ := KeyedMap.mem_keepWhere.mp member
    exact ⟨⟨pane, old, rfl⟩, of_decide_eq_true kept⟩
  · rintro ⟨⟨pane, member, rfl⟩, kept⟩
    exact ⟨pane, KeyedMap.mem_keepWhere.mpr ⟨member, decide_eq_true kept⟩, rfl⟩

theorem Valid.remove (valid : workspace.Valid)
    (performed : workspace.removeMuxPane paneId = some after) : after.Valid := by
  rw [removeMuxPane] at performed
  split at performed
  · rw [← Option.some.inj performed]
    exact valid
  obtain ⟨root, removed, rfl⟩ := Option.map_eq_some_iff.mp performed
  have leaves : root.collectPaneIds = workspace.leaves.filter (· ≠ paneId) := by
    have filtered := collectPaneIds_removeNode paneId workspace.root
    rw [removed] at filtered
    exact filtered
  have listed : ∀ id, id ∈ root.collectPaneIds ↔ id ∈ workspace.leaves ∧ id ≠ paneId := by
    intro id
    rw [leaves, mem_filter, decide_eq_true_eq]
  have keys : ∀ id, id ∈ root.collectPaneIds ↔
      id ∈ (workspace.panes.keepWhere (·.paneId ≠ paneId)).entries.map (·.paneId) := by
    intro id
    rw [listed, mem_paneIds_keepWhere, valid.keys]
  refine ⟨?_, keys, ?_, ?_⟩
  · change root.collectPaneIds.Nodup
    rw [leaves]
    exact valid.nodup.filter _
  · change (if workspace.focusedPaneId = paneId then _ else workspace.focusedPaneId) ∈
      root.collectPaneIds
    by_cases focused : workspace.focusedPaneId = paneId
    · -- The first key is a leaf, as there is a leaf.
      rw [if_pos focused, keys]
      obtain ⟨leaf, isLeaf⟩ := exists_mem_of_ne_nil _ (collectPaneIds_ne_nil root)
      have isKey := mem_objectKeys.mpr ((keys leaf).mp isLeaf)
      apply mem_objectKeys.mp
      cases ordered : objectKeys
          ((workspace.panes.keepWhere (·.paneId ≠ paneId)).entries.map (·.paneId)) with
      | nil =>
        rw [ordered] at isKey
        cases isKey
      | cons key keys => exact .head _
    · rw [if_neg focused]
      exact (listed _).mpr ⟨valid.focused, focused⟩
  intro id zoomed
  change id ∈ (if workspace.zoomedPaneId = some paneId then none else
    workspace.zoomedPaneId) at zoomed
  by_cases same : workspace.zoomedPaneId = some paneId
  · rw [if_pos same] at zoomed
    cases zoomed
  rw [if_neg same] at zoomed
  refine (listed id).mpr ⟨valid.zoomed id zoomed, ?_⟩
  rintro rfl
  exact same zoomed

theorem Valid.focus (valid : workspace.Valid) (zoomedPaneId : Option String)
    (present : paneId ∈ workspace.paneIds) (zoomed : ∀ id ∈ zoomedPaneId, id ∈ workspace.leaves) :
    Valid { workspace with focusedPaneId := paneId, zoomedPaneId } where
  nodup := valid.nodup
  keys := valid.keys
  focused := (valid.keys paneId).mpr present
  zoomed := zoomed

theorem Valid.update (valid : workspace.Valid) {pane : RuntimePaneState Runtime}
    (own : workspace.Own pane.paneId) : (workspace.updateMuxPane pane).Valid := by
  rw [updateMuxPane]
  split
  · exact valid
  rename_i present
  refine ⟨valid.nodup, ?_, valid.focused, valid.zoomed⟩
  intro paneId
  refine (valid.keys paneId).trans (Iff.trans ?_ mem_paneIds_set.symm)
  constructor
  · exact .inr
  rintro (rfl | listed)
  · exact own.mem present
  · exact listed

theorem swapped_swapped (first second paneId : String) :
    swapped first second (swapped first second paneId) = paneId := by
  simp only [swapped]
  split_ifs <;> simp_all

theorem swapped_mem {first second paneId : String} {paneIds : List String}
    (firstListed : first ∈ paneIds) (secondListed : second ∈ paneIds) (listed : paneId ∈ paneIds) :
    swapped first second paneId ∈ paneIds := by
  rw [swapped]
  split_ifs
  · exact secondListed
  · exact firstListed
  · exact listed

theorem Valid.swap (valid : workspace.Valid) {first second : String}
    (firstListed : first ∈ workspace.paneIds) (secondListed : second ∈ workspace.paneIds) : Valid
      { workspace with
        root := mapPaneIds first second workspace.root
        focusedPaneId := swapped first second workspace.focusedPaneId
        zoomedPaneId := workspace.zoomedPaneId.map (swapped first second) } := by
  have leaves : (mapPaneIds first second workspace.root).collectPaneIds =
      workspace.leaves.map (swapped first second) :=
    collectPaneIds_mapPaneIds first second workspace.root
  have injective : Function.Injective (swapped first second) :=
    Function.LeftInverse.injective (swapped_swapped first second)
  refine ⟨?_, ?_, ?_, ?_⟩
  · change (mapPaneIds first second workspace.root).collectPaneIds.Nodup
    rw [leaves]
    exact valid.nodup.map injective
  · intro paneId
    change paneId ∈ (mapPaneIds first second workspace.root).collectPaneIds ↔
      paneId ∈ workspace.paneIds
    rw [leaves, mem_map]
    constructor
    · rintro ⟨id, listed, rfl⟩
      exact swapped_mem firstListed secondListed ((valid.keys id).mp listed)
    intro listed
    exact ⟨swapped first second paneId,
      (valid.keys _).mpr (swapped_mem firstListed secondListed listed), swapped_swapped ..⟩
  · change _ ∈ (mapPaneIds first second workspace.root).collectPaneIds
    rw [leaves]
    exact mem_map_of_mem valid.focused
  intro paneId zoomed
  obtain ⟨id, isZoomed, rfl⟩ := Option.map_eq_some_iff.mp zoomed
  change _ ∈ (mapPaneIds first second workspace.root).collectPaneIds
  rw [leaves]
  exact mem_map_of_mem (valid.zoomed id isZoomed)

theorem Valid.preset (valid : workspace.Valid) {preset : MuxLayoutPreset}
    (performed : workspace.applyMuxLayoutPreset ratios preset = .ok after) : after.Valid := by
  have ordered : (workspace.focusedPaneId ::
      workspace.root.collectPaneIds.filter (· ≠ workspace.focusedPaneId)).Perm
        workspace.leaves := by
    have erased := perm_cons_erase valid.focused
    rw [valid.nodup.erase_eq_filter] at erased
    refine List.Perm.trans (List.Perm.cons _ ?_) erased.symm
    rw [leaves]
    exact List.Perm.of_eq (filter_congr fun _ _ => by simp [bne, Bool.beq_eq_decide_eq])
  have some := cons_ne_nil workspace.focusedPaneId
    (workspace.root.collectPaneIds.filter (· ≠ workspace.focusedPaneId))
  cases preset with
  | mainVertical =>
    obtain ⟨root, built, leaves⟩ := buildMainLayout_leaves ratios .vertical _ some
    rw [applyMuxLayoutPreset, built] at performed
    obtain rfl := ok.inj performed
    exact valid.root (leaves ▸ ordered)
  | mainHorizontal =>
    obtain ⟨root, built, leaves⟩ := buildMainLayout_leaves ratios .horizontal _ some
    rw [applyMuxLayoutPreset, built] at performed
    obtain rfl := ok.inj performed
    exact valid.root (leaves ▸ ordered)
  | even | tiled =>
    obtain ⟨root, built, leaves⟩ := buildEvenLayout_leaves ratios _ .vertical some
    rw [applyMuxLayoutPreset, built] at performed
    obtain rfl := ok.inj performed
    exact valid.root (leaves ▸ ordered)

theorem Valid.adjusted (valid : workspace.Valid) {adjusted : MuxLayoutNode Ratio × Bool}
    (same : adjusted.1.collectPaneIds = workspace.root.collectPaneIds) :
    Valid (if adjusted.2 then { workspace with root := adjusted.1 } else workspace) := by
  split
  · exact valid.root (List.Perm.of_eq same)
  · exact valid

theorem Valid.resize (valid : workspace.Valid) {direction : ResizeDirection} {amount : Ratio}
    (performed : workspace.resizeMuxPane ratios paneId direction amount = .ok after) :
    after.Valid := by
  rw [resizeMuxPane] at performed
  split at performed
  · cases performed
  obtain rfl := ok.inj performed
  exact valid.adjusted (collectPaneIds_adjustNodeForPane ratios paneId _ _ workspace.root)

/-! ## Runs -/

end MuxWorkspaceState

/-- A pane that is split off is a new one. -/
def Operation.Fresh (workspace : MuxWorkspaceState Ratio Runtime) : Operation Ratio Runtime → Prop
  | .split _ _ nextPane => nextPane.paneId ∉ workspace.paneIds
  | _ => True

/-- Where it takes a name for a pane, the name is not one that the object of the
panes only inherits, and no pane is called `__proto__`. -/
def Operation.Plain (workspace : MuxWorkspaceState Ratio Runtime) : Operation Ratio Runtime → Prop
  | .split targetPaneId _ nextPane =>
    workspace.Own targetPaneId ∧ nextPane.paneId ≠ "__proto__"
  | .focus paneId | .zoom paneId => workspace.Own paneId
  | .update state => workspace.Own state.paneId
  | .swap firstPaneId secondPaneId =>
    firstPaneId ≠ secondPaneId → workspace.Own firstPaneId ∧ workspace.Own secondPaneId
  | _ => True

namespace MuxWorkspaceState

variable (ratios : RatioArithmetic Ratio) {workspace after : MuxWorkspaceState Ratio Runtime}

theorem exists_of_map_some {result : Except String (MuxWorkspaceState Ratio Runtime)}
    (performed : result.map some = .ok (some after)) : result = .ok after := by
  cases result with
  | error message => cases performed
  | ok workspace => exact congrArg ok (Option.some.inj (ok.inj performed))

theorem perform_valid (valid : workspace.Valid) {operation : Operation Ratio Runtime}
    (fresh : operation.Fresh workspace) (plain : operation.Plain workspace)
    (performed : workspace.perform ratios operation = .ok (some after)) : after.Valid := by
  cases operation with
  | split targetPaneId axis nextPane =>
    exact valid.split ratios fresh plain.1 plain.2 (exists_of_map_some performed)
  | remove paneId => exact valid.remove (ok.inj performed)
  | focus paneId =>
    have focused := exists_of_map_some performed
    rw [focusMuxPane] at focused
    split at focused
    · cases focused
    rename_i present
    obtain rfl := ok.inj focused
    exact valid.focus workspace.zoomedPaneId (Own.mem plain present) valid.zoomed
  | update pane =>
    obtain rfl := Option.some.inj (ok.inj performed)
    exact valid.update plain
  | zoom paneId =>
    have zoomed := exists_of_map_some performed
    rw [toggleMuxPaneZoom] at zoomed
    split at zoomed
    · cases zoomed
    rename_i present
    obtain rfl := ok.inj zoomed
    apply valid.focus _ (Own.mem plain present)
    intro id isZoomed
    split at isZoomed
    · cases isZoomed
    · obtain rfl := Option.some.inj isZoomed
      exact (valid.keys paneId).mpr (Own.mem plain present)
  | resize paneId direction amount => exact valid.resize ratios (exists_of_map_some performed)
  | rebalance =>
    obtain rfl := Option.some.inj (ok.inj performed)
    apply valid.root
    rw [collectPaneIds_rebalanceNode]
    exact List.Perm.refl _
  | swap first second =>
    have swapped := exists_of_map_some performed
    rw [swapMuxPanePositions] at swapped
    split_ifs at swapped with same firstUnknown secondUnknown
    · obtain rfl := ok.inj swapped
      exact valid
    · obtain rfl := ok.inj swapped
      exact valid.swap ((plain same).1.mem firstUnknown) ((plain same).2.mem secondUnknown)
  | preset preset => exact valid.preset ratios (exists_of_map_some performed)

/-- What is reached by operations that are allowed where they are performed. -/
inductive Reachable
    (allowed : MuxWorkspaceState Ratio Runtime → Operation Ratio Runtime → Prop) :
    MuxWorkspaceState Ratio Runtime → Prop
  | create (initialPane : RuntimePaneState Runtime) (workspaceId title : Option String)
      (generatedId : String) :
      Reachable allowed (createMuxWorkspace initialPane workspaceId title generatedId)
  | perform {workspace after : MuxWorkspaceState Ratio Runtime}
      (operation : Operation Ratio Runtime) : Reachable allowed workspace →
      allowed workspace operation → workspace.perform ratios operation = .ok (some after) →
      Reachable allowed after

/-- Panes split off are new ones, and names are panes' own. -/
def Orderly (workspace : MuxWorkspaceState Ratio Runtime) (operation : Operation Ratio Runtime) :
    Prop :=
  operation.Fresh workspace ∧ operation.Plain workspace

theorem Reachable.valid (reachable : Reachable ratios Orderly workspace) : workspace.Valid := by
  induction reachable with
  | create initialPane workspaceId title generatedId => exact valid_create ..
  | perform operation _ orderly performed induction =>
    exact perform_valid ratios induction orderly.1 orderly.2 performed

theorem removeMuxPane_splitMuxPane {targetPaneId : String} {axis : MuxAxis}
    {nextPane : RuntimePaneState Runtime} (valid : workspace.Valid)
    (orderly : workspace.Orderly (.split targetPaneId axis nextPane))
    (performed : workspace.splitMuxPane ratios targetPaneId axis nextPane = .ok after) :
    ∃ restored, after.removeMuxPane nextPane.paneId = some restored ∧
      restored.root = workspace.root := by
  obtain ⟨fresh, own, named⟩ := orderly
  rw [splitMuxPane] at performed
  split at performed
  · cases performed
  rename_i present
  obtain rfl := ok.inj performed
  have distinct : targetPaneId ≠ nextPane.paneId := by
    rintro rfl
    exact fresh (own.mem present)
  have absent : nextPane.paneId ∉ workspace.root.collectPaneIds :=
    fun listed => fresh ((valid.keys _).mp listed)
  have listed : nextPane.paneId ∈ (workspace.assignPane nextPane).paneIds :=
    (mem_paneIds_assignPane named).mpr (.inl rfl)
  have known : hasPane
      { workspace.assignPane nextPane with
        root := replaceNode targetPaneId
          (.split axis ratios.half (.pane targetPaneId) (.pane nextPane.paneId)) workspace.root
        focusedPaneId := nextPane.paneId } nextPane.paneId = true := by
    rw [hasPane, Bool.or_eq_true]
    exact .inl (decide_eq_true listed)
  rw [removeMuxPane, known, if_neg (by decide), removeNode_replaceNode _ _ _ absent distinct]
  exact ⟨_, rfl, rfl⟩

/-- The leaves of a workspace that is reached orderly are its panes, and an orderly
split is undone by a removal. -/
theorem workspace_invariant (reachable : Reachable ratios Orderly workspace) : workspace.Valid ∧
      ∀ (targetPaneId : String) (axis : MuxAxis) (nextPane : RuntimePaneState Runtime)
        (after : MuxWorkspaceState Ratio Runtime),
        workspace.Orderly (.split targetPaneId axis nextPane) →
        workspace.splitMuxPane ratios targetPaneId axis nextPane = .ok after →
        ∃ restored, after.removeMuxPane nextPane.paneId = some restored ∧
          restored.root = workspace.root :=
  ⟨reachable.valid, fun _ _ _ _ => removeMuxPane_splitMuxPane ratios reachable.valid⟩

/-! ## Runs -/

def permille : RatioArithmetic Int where
  half := 500
  main := 620
  low := 150
  high := 850
  add := (· + ·)
  neg := (- ·)
  abs value := value.natAbs
  max := Max.max
  min := Min.min

def paneOf (paneId : String) : RuntimePaneState Unit := ⟨paneId, paneId, (), ["paneId"]⟩

/-- After two splits, a swap, a zoom, and a split that is undone. -/
def threePanes : MuxWorkspaceState Int Unit where
  workspaceId := "w"
  title := "one"
  root := .split .vertical 500 (.pane "two") (.split .vertical 500 (.pane "one") (.pane "three"))
  focusedPaneId := "one"
  zoomedPaneId := some "one"
  panes := ⟨[paneOf "one", paneOf "two", paneOf "three"], by decide⟩
  inherited := objectPrototype

theorem created_one (allowed : MuxWorkspaceState Int Unit → Operation Int Unit → Prop) :
    Reachable permille allowed (createMuxWorkspace (paneOf "one") (some "w") none "") :=
  .create (paneOf "one") (some "w") none ""

theorem reachable_threePanes : Reachable permille Orderly threePanes := by
  have own : ∀ {workspace : MuxWorkspaceState Int Unit} {paneId : String},
      paneId ∈ workspace.paneIds → workspace.Own paneId := fun member _ => member
  have two := Reachable.perform (.split "one" .vertical (paneOf "two")) (created_one Orderly)
    ⟨(by decide : "two" ∉ ["one"]), own (.head _), by decide⟩ rfl
  have swapped := Reachable.perform (.swap "one" "two") two
    ⟨trivial, fun _ => ⟨own (.head _), own (.tail _ (.head _))⟩⟩ rfl
  have three := Reachable.perform (.split "one" .vertical (paneOf "three")) swapped
    ⟨(by decide : "three" ∉ ["one", "two"]), own (.head _), by decide⟩ rfl
  have zoomed := Reachable.perform (.zoom "one") three ⟨trivial, own (.head _)⟩ rfl
  have four := Reachable.perform (.split "two" .horizontal (paneOf "four")) zoomed
    ⟨(by decide : "four" ∉ ["one", "two", "three"]), own (.tail _ (.head _)), by decide⟩ rfl
  have focused := Reachable.perform (.focus "one") four ⟨trivial, own (.head _)⟩ rfl
  exact Reachable.perform (.remove "four") focused ⟨trivial, trivial⟩ rfl

theorem workspace_invariant_threePanes :
    threePanes.leaves = ["two", "one", "three"] ∧ threePanes.Valid :=
  ⟨rfl, (workspace_invariant permille reachable_threePanes).1⟩

/-- `select-pane` of a name that every object has: no pane is focused. -/
theorem inherited_name_is_focused : ∃ workspace : MuxWorkspaceState Int Unit,
    Reachable permille (fun workspace operation => operation.Fresh workspace) workspace ∧
      ¬workspace.Valid := by
  refine ⟨_, .perform (.focus "constructor") (created_one _) trivial rfl, ?_⟩
  intro valid
  exact absurd valid.focused (by decide)

end MuxWorkspaceState

end Adhdev.MuxLayout
