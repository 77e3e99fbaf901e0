import Adhdev.Foundation.KeyedMap

/-! # The layout of a terminal workspace

`layout.ts`: the tree of panes, and what is done to it.
-/

namespace Adhdev.MuxLayout

inductive MuxAxis
  | horizontal | vertical
  deriving DecidableEq

inductive MuxLayoutPreset
  | even | mainVertical | mainHorizontal | tiled

inductive ResizeDirection
  | left | right | up | down
  deriving DecidableEq

structure RatioArithmetic (Ratio : Type) where
  half : Ratio
  main : Ratio
  low : Ratio
  high : Ratio
  add : Ratio → Ratio → Ratio
  neg : Ratio → Ratio
  abs : Ratio → Ratio
  max : Ratio → Ratio → Ratio
  min : Ratio → Ratio → Ratio

inductive MuxLayoutNode (Ratio : Type)
  | pane (paneId : String)
  | split (axis : MuxAxis) (ratio : Ratio) (first second : MuxLayoutNode Ratio)

structure RuntimePaneState (Runtime : Type) where
  paneId : String
  displayName : String
  runtime : Runtime
  /-- The names of its fields that hold a truthy value. -/
  truthyFields : List String

structure MuxWorkspaceState (Ratio Runtime : Type) where
  workspaceId : String
  title : String
  root : MuxLayoutNode Ratio
  focusedPaneId : String
  zoomedPaneId : Option String
  panes : KeyedMap (@RuntimePaneState.paneId Runtime)
  /-- The names that the object `panes` inherits. -/
  inherited : List String

variable {Ratio Runtime : Type}

/-! ## Trees -/

namespace MuxLayoutNode

def replaceNode (paneId : String) (next : MuxLayoutNode Ratio) : MuxLayoutNode Ratio →
    MuxLayoutNode Ratio
  | pane id => if id = paneId then next else pane id
  | split axis ratio first second =>
    split axis ratio (replaceNode paneId next first) (replaceNode paneId next second)

def removeNode (paneId : String) : MuxLayoutNode Ratio → Option (MuxLayoutNode Ratio)
  | pane id => if id = paneId then none else some (pane id)
  | split axis ratio first second =>
    match removeNode paneId first, removeNode paneId second with
    | none, none => none
    | none, some second => some second
    | some first, none => some first
    | some first, some second => some (split axis ratio first second)

def nodeContainsPane (paneId : String) : MuxLayoutNode Ratio → Bool
  | pane id => id = paneId
  | split _ _ first second => nodeContainsPane paneId first || nodeContainsPane paneId second

def mapPaneIds (firstPaneId secondPaneId : String) : MuxLayoutNode Ratio → MuxLayoutNode Ratio
  | pane id =>
    if id = firstPaneId then pane secondPaneId
    else if id = secondPaneId then pane firstPaneId
    else pane id
  | split axis ratio first second =>
    split axis ratio (mapPaneIds firstPaneId secondPaneId first)
      (mapPaneIds firstPaneId secondPaneId second)

def collectPaneIds : MuxLayoutNode Ratio → List String
  | pane id => [id]
  | split _ _ first second => collectPaneIds first ++ collectPaneIds second

variable (ratios : RatioArithmetic Ratio)

def clampRatio (value : Ratio) : Ratio := ratios.max ratios.low (ratios.min ratios.high value)

def adjustNodeForPane (paneId : String) (axis : MuxAxis) (delta : Ratio) :
    MuxLayoutNode Ratio → MuxLayoutNode Ratio × Bool
  | pane id => (pane id, false)
  | split nodeAxis ratio first second =>
    let firstContains := nodeContainsPane paneId first
    let secondContains := !firstContains && nodeContainsPane paneId second
    let onAxis := nodeAxis = axis && (firstContains || secondContains)
    let ratio :=
      if onAxis then clampRatio ratios (ratios.add ratio
        (if firstContains then delta else ratios.neg delta))
      else ratio
    if firstContains then
      let adjusted := adjustNodeForPane paneId axis delta first
      if adjusted.2 then (split nodeAxis ratio adjusted.1 second, true)
      else (split nodeAxis ratio first second, onAxis)
    else if secondContains then
      let adjusted := adjustNodeForPane paneId axis delta second
      if adjusted.2 then (split nodeAxis ratio first adjusted.1, true)
      else (split nodeAxis ratio first second, onAxis)
    else (split nodeAxis ratio first second, onAxis)

def rebalanceNode : MuxLayoutNode Ratio → MuxLayoutNode Ratio
  | pane id => pane id
  | split axis _ first second => split axis ratios.half (rebalanceNode first) (rebalanceNode second)

end MuxLayoutNode

open MuxLayoutNode

/-! ## Presets -/

section Presets

variable (ratios : RatioArithmetic Ratio)

def MuxAxis.other : MuxAxis → MuxAxis
  | vertical => horizontal
  | horizontal => vertical

def buildEvenLayout (paneIds : List String) (axis : MuxAxis) :
    Except String (MuxLayoutNode Ratio) :=
  if paneIds.length = 0 then .error "Cannot build layout without panes"
  else if single : paneIds.length = 1 then .ok (.pane (paneIds.get ⟨0, by omega⟩))
  else do
    let midpoint := (paneIds.length + 1) / 2
    let first ← buildEvenLayout (paneIds.take midpoint) axis.other
    let second ← buildEvenLayout (paneIds.drop midpoint) axis.other
    .ok (.split axis ratios.half first second)
termination_by paneIds.length
decreasing_by
  · rw [List.length_take]
    omega
  · rw [List.length_drop]
    omega

def buildStackLayout (axis : MuxAxis) : List String → Except String (MuxLayoutNode Ratio)
  | [] => .error "Cannot build stack layout without panes"
  | [paneId] => .ok (.pane paneId)
  | first :: second :: rest => do
      let stack ← buildStackLayout axis (second :: rest)
      .ok (.split axis ratios.half (.pane first) stack)

def buildMainLayout (rootAxis : MuxAxis) : List String → Except String (MuxLayoutNode Ratio)
  | [] => .error "Cannot build layout without panes"
  | [paneId] => .ok (.pane paneId)
  | primary :: second :: rest => do
      let stack ← buildStackLayout ratios rootAxis.other (second :: rest)
      .ok (.split rootAxis (if rest.length = 0 then ratios.half else ratios.main) (.pane primary)
        stack)

end Presets

/-! ## The keys of an object -/

/-- Keys that are array indices come first, in ascending order. -/
def indexOf (key : String) : Option Nat :=
  key.toNat?.filter fun index => toString index = key && index < 2 ^ 32 - 1

def objectKeys (keys : List String) : List String :=
  ((keys.filter fun key => (indexOf key).isSome).mergeSort fun one two =>
      decide ((indexOf one).getD 0 ≤ (indexOf two).getD 0)) ++
    keys.filter fun key => (indexOf key).isNone

/-! ## Workspaces -/

def createMuxWorkspace (initialPane : RuntimePaneState Runtime) (workspaceId title : Option String)
    (generatedId : String) : MuxWorkspaceState Ratio Runtime where
  workspaceId := (workspaceId.filter (· ≠ "")).getD generatedId
  title := (title.filter (· ≠ "")).getD initialPane.displayName
  root := .pane initialPane.paneId
  focusedPaneId := initialPane.paneId
  zoomedPaneId := none
  panes := KeyedMap.empty.set initialPane
  inherited := objectPrototype

namespace MuxWorkspaceState

variable (ratios : RatioArithmetic Ratio) (workspace : MuxWorkspaceState Ratio Runtime)

def paneIds : List String := workspace.panes.entries.map (·.paneId)

/-- `workspace.panes[paneId]` is truthy. -/
def hasPane (paneId : String) : Bool :=
  paneId ∈ workspace.paneIds || paneId ∈ workspace.inherited

def unknownPane (paneId : String) : String := s!"Unknown pane: {paneId}"

/-- `next.panes[pane.paneId] = pane` after the panes were cloned: under the name
`__proto__` this sets what they inherit. -/
def assignPane (pane : RuntimePaneState Runtime) : MuxWorkspaceState Ratio Runtime :=
  if pane.paneId = "__proto__" ∧ "__proto__" ∉ workspace.paneIds then
    { workspace with inherited := pane.truthyFields ++ objectPrototype }
  else { workspace with panes := workspace.panes.set pane, inherited := objectPrototype }

def splitMuxPane (targetPaneId : String) (axis : MuxAxis) (nextPane : RuntimePaneState Runtime) :
    Except String (MuxWorkspaceState Ratio Runtime) :=
  if !workspace.hasPane targetPaneId then .error (unknownPane targetPaneId)
  else
    .ok
      { workspace.assignPane nextPane with
        root := replaceNode targetPaneId
          (.split axis ratios.half (.pane targetPaneId) (.pane nextPane.paneId)) workspace.root
        focusedPaneId := nextPane.paneId }

def removeMuxPane (paneId : String) : Option (MuxWorkspaceState Ratio Runtime) :=
  if !workspace.hasPane paneId then some workspace
  else
    (removeNode paneId workspace.root).map fun root =>
      let panes := workspace.panes.keepWhere (·.paneId ≠ paneId)
      { workspace with
        root
        panes
        inherited := objectPrototype
        focusedPaneId :=
          if workspace.focusedPaneId = paneId then
            (objectKeys (panes.entries.map (·.paneId))).headD ""
          else workspace.focusedPaneId
        zoomedPaneId := if workspace.zoomedPaneId =
          some paneId then none else workspace.zoomedPaneId }

def focusMuxPane (paneId : String) : Except String (MuxWorkspaceState Ratio Runtime) :=
  if !workspace.hasPane paneId then .error (unknownPane paneId)
  else .ok { workspace with focusedPaneId := paneId }

def updateMuxPane (pane : RuntimePaneState Runtime) : MuxWorkspaceState Ratio Runtime :=
  if !workspace.hasPane pane.paneId then workspace
  else { workspace with panes := workspace.panes.set pane, inherited := objectPrototype }

def toggleMuxPaneZoom (paneId : String) : Except String (MuxWorkspaceState Ratio Runtime) :=
  if !workspace.hasPane paneId then .error (unknownPane paneId)
  else
    .ok
      { workspace with
        focusedPaneId := paneId
        zoomedPaneId := if workspace.zoomedPaneId = some paneId then none else some paneId }

def resizeMuxPane (paneId : String) (direction : ResizeDirection) (amount : Ratio) :
    Except String (MuxWorkspaceState Ratio Runtime) :=
  if !workspace.hasPane paneId then .error (unknownPane paneId)
  else
    let axis : MuxAxis := if direction = .left ∨ direction = .right then .vertical else .horizontal
    let delta :=
      if direction = .left ∨ direction =
        .up then ratios.neg (ratios.abs amount) else ratios.abs amount
    let adjusted := adjustNodeForPane ratios paneId axis delta workspace.root
    .ok (if adjusted.2 then { workspace with root := adjusted.1 } else workspace)

def rebalanceMuxLayout : MuxWorkspaceState Ratio Runtime :=
  { workspace with root := rebalanceNode ratios workspace.root }

/-- The other one of two panes, where it is one of them. -/
def swapped (firstPaneId secondPaneId paneId : String) : String :=
  if paneId = firstPaneId then secondPaneId
  else if paneId = secondPaneId then firstPaneId
  else paneId

def swapMuxPanePositions (firstPaneId secondPaneId : String) :
    Except String (MuxWorkspaceState Ratio Runtime) :=
  if firstPaneId = secondPaneId then .ok workspace
  else if !workspace.hasPane firstPaneId then .error (unknownPane firstPaneId)
  else if !workspace.hasPane secondPaneId then .error (unknownPane secondPaneId)
  else
    .ok
      { workspace with
        root := mapPaneIds firstPaneId secondPaneId workspace.root
        focusedPaneId := swapped firstPaneId secondPaneId workspace.focusedPaneId
        zoomedPaneId := workspace.zoomedPaneId.map (swapped firstPaneId secondPaneId) }

def applyMuxLayoutPreset (preset : MuxLayoutPreset) :
    Except String (MuxWorkspaceState Ratio Runtime) :=
  let orderedPaneIds := workspace.focusedPaneId ::
    (collectPaneIds workspace.root).filter (· ≠ workspace.focusedPaneId)
  let built :=
    match preset with
    | .mainVertical => buildMainLayout ratios .vertical orderedPaneIds
    | .mainHorizontal => buildMainLayout ratios .horizontal orderedPaneIds
    | .tiled | .even => buildEvenLayout ratios orderedPaneIds .vertical
  built.map fun root => { workspace with root }

end MuxWorkspaceState

/-! ## Operations -/

inductive Operation (Ratio Runtime : Type)
  | split (targetPaneId : String) (axis : MuxAxis) (nextPane : RuntimePaneState Runtime)
  | remove (paneId : String)
  | focus (paneId : String)
  | update (state : RuntimePaneState Runtime)
  | zoom (paneId : String)
  | resize (paneId : String) (direction : ResizeDirection) (amount : Ratio)
  | rebalance
  | swap (firstPaneId secondPaneId : String)
  | preset (preset : MuxLayoutPreset)

namespace MuxWorkspaceState

variable (ratios : RatioArithmetic Ratio)

/-- What an operation leaves: nothing when the last pane is removed. -/
def perform (workspace : MuxWorkspaceState Ratio Runtime) :
    Operation Ratio Runtime → Except String (Option (MuxWorkspaceState Ratio Runtime))
  | .split targetPaneId axis nextPane =>
    (workspace.splitMuxPane ratios targetPaneId axis nextPane).map some
  | .remove paneId => .ok (workspace.removeMuxPane paneId)
  | .focus paneId => (workspace.focusMuxPane paneId).map some
  | .update state => .ok (some (workspace.updateMuxPane state))
  | .zoom paneId => (workspace.toggleMuxPaneZoom paneId).map some
  | .resize paneId direction amount =>
    (workspace.resizeMuxPane ratios paneId direction amount).map some
  | .rebalance => .ok (some (workspace.rebalanceMuxLayout ratios))
  | .swap firstPaneId secondPaneId =>
    (workspace.swapMuxPanePositions firstPaneId secondPaneId).map some
  | .preset preset => (workspace.applyMuxLayoutPreset ratios preset).map some

end MuxWorkspaceState

end Adhdev.MuxLayout
