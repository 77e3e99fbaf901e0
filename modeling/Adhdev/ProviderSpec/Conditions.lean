import Adhdev.MeshShared.TurnEvidence

/-! Guard conditions of a provider's state machine: what the loader accepts and
how one evaluation on a screen decides them. -/

namespace Adhdev.ProviderSpec

structure Cursor where
  row : Nat
  col : Nat

structure ResolvedSection where
  id : String
  text : String

structure RegexCondition where
  sectionId : Option String
  pattern : String
  flags : Option String
  cursorRowMin : Option Nat
  cursorRowMax : Option Nat
  cursorColMin : Option Nat
  cursorColMax : Option Nat

structure ChangedCondition where
  cursorAbove : Nat
  changed : Bool

structure StableCondition where
  stableMs : Int
  sectionId : Option String
  cursorAbove : Option Nat
  ignoreLines : Option String

structure SignalLeaf where
  signal : String
  equals : Option Bool

inductive FsmCondition
  | all (children : List FsmCondition)
  | any (children : List FsmCondition)
  | not (child : FsmCondition)
  | regex (condition : RegexCondition)
  | changed (condition : ChangedCondition)
  | sectionAbsent (sectionId : String)
  | elapsed (elapsedMs : Int)
  | stable (condition : StableCondition)
  | signal (leaf : SignalLeaf)

theorem FsmCondition.induct {motive : FsmCondition → Prop}
    (all : ∀ children, (∀ child ∈ children, motive child) → motive (.all children))
    (any : ∀ children, (∀ child ∈ children, motive child) → motive (.any children))
    (not : ∀ child, motive child → motive (.not child))
    (regex : ∀ condition, motive (.regex condition))
    (changed : ∀ condition, motive (.changed condition))
    (sectionAbsent : ∀ sectionId, motive (.sectionAbsent sectionId))
    (elapsed : ∀ elapsedMs, motive (.elapsed elapsedMs))
    (stable : ∀ condition, motive (.stable condition))
    (signal : ∀ leaf, motive (.signal leaf)) (condition : FsmCondition) : motive condition :=
  @FsmCondition.rec motive (fun children => ∀ child ∈ children, motive child) all any not regex
    changed sectionAbsent elapsed stable signal (fun _ member => absurd member List.not_mem_nil)
    (fun _ _ head tail _ member => (List.mem_cons.mp member).elim (fun same => same ▸ head)
      (tail _))
    condition

/-- `new RegExp(pattern, flags)`: its `test`, or nothing where it throws. -/
abbrev RegExpEngine := (pattern flags : String) → Option (String → Bool)

/-! ## Loading -/

section Loading

variable (engine : RegExpEngine) (sectionIds : List String)

/-- `if (w.section && !sectionIds.has(w.section))`. -/
def unknownSection (sectionId : Option String) (path : String) : List String :=
  match sectionId with
  | none => []
  | some id =>
    if id = "" ∨ id ∈ sectionIds then [] else [path ++ ".section \"" ++ id ++ "\" unknown"]

mutual

/-- The errors of `validateCondition`, without the engine's own texts. The
checks of a field's type are what the type of a condition says here. -/
def validateCondition (path : String) : FsmCondition → List String
  | .all children => validateEach (path ++ ".all") 0 children
  | .any children => validateEach (path ++ ".any") 0 children
  | .not child => validateCondition (path ++ ".not") child
  | .regex condition =>
    unknownSection sectionIds condition.sectionId path ++
      if (engine condition.pattern (condition.flags.getD "i")).isSome then []
      else [path ++ ".matches invalid regex"]
  | .sectionAbsent id =>
    if id = "" then [path ++ ".section_absent must be a non-empty string"]
    else if id ∈ sectionIds then []
    else [path ++ ".section_absent \"" ++ id ++ "\" unknown"]
  | .changed _ => []
  | .signal leaf =>
    if MeshShared.trim leaf.signal = "" then [path ++ ".signal must be a non-empty string"] else []
  | .elapsed _ => []
  | .stable condition =>
    unknownSection sectionIds condition.sectionId path ++
      match condition.ignoreLines with
      | none => []
      | some pattern =>
        if (engine pattern "m").isSome then [] else [path ++ ".ignore_lines invalid regex"]

def validateEach (path : String) (index : Nat) : List FsmCondition → List String
  | [] => []
  | child :: children =>
    validateCondition s!"{path}[{index}]" child ++ validateEach path (index + 1) children

end

end Loading

/-! ## Signals -/

structure SignalSnapshot where
  available : Bool
  signals : List (String × Option Bool)

/-- The `shadowResult` of `evaluateSignalLeaf`: nothing where it is unknown. -/
def evaluateSignalLeaf (leaf : SignalLeaf) (snapshot : Option SignalSnapshot) : Option Bool :=
  match snapshot with
  | none => none
  | some snapshot =>
    if snapshot.available then
      ((snapshot.signals.lookup leaf.signal).join).map (· == leaf.equals.getD true)
    else none

/-! ## Evaluation -/

inductive RegionKey
  | number (value : Int)
  | text (value : String)

def RegionKey.print : RegionKey → String
  | .number value => toString value
  | .text value => value

def stableRegionKey (condition : StableCondition) : RegionKey :=
  let region : RegionKey :=
    if condition.sectionId.getD "" ≠ "" then .text ("section:" ++ condition.sectionId.getD "")
    else if 0 < condition.cursorAbove.getD 0 then .number (condition.cursorAbove.getD 0)
    else .number (-1)
  if condition.ignoreLines.getD "" = "" then region
  else .text (region.print ++ "#ignore:" ++ condition.ignoreLines.getD "")

structure FsmClock where
  now : Int
  stateEnteredAt : Int
  regionLastChangedAt : RegionKey → Option Int

structure Haystack where
  screen : String
  sections : List ResolvedSection
  cursor : Option Cursor

/-- The `absence` argument: where a question about absence, or about a modal,
is answered. -/
structure Absence where
  viewportScreen : Option String
  viewportSections : Option (List ResolvedSection)
  viewportCursor : Option Cursor
  modal : Haystack
  isModalTarget : Bool
  inNot : Bool

/-- The arguments of `evalCond` that stay the same below the guard. -/
structure Frame where
  engine : RegExpEngine
  hay : Haystack
  prevLines : Option (List String)
  clock : FsmClock
  signalSnapshot : Option SignalSnapshot

def sectionText (sections : List ResolvedSection) (sectionId : Option String)
    (fullScreen : String) : String :=
  match sectionId with
  | none => fullScreen
  | some id =>
    if id = "" then fullScreen
    else ((sections.find? (·.id == id)).map (·.text)).getD ""

def rowsOf (lines : List String) (first last : Nat) : String :=
  "\n".intercalate ((lines.take last).drop first)

def within (value : Nat) (low high : Option Nat) : Bool :=
  low.all (· ≤ value) && high.all (value ≤ ·)

/-- The `matches` branch of `evaluateCondition`. -/
def evaluateRegex (engine : RegExpEngine) (condition : RegexCondition) (hay : Haystack) : Bool :=
  match engine condition.pattern (condition.flags.getD "i") with
  | none => false
  | some test =>
    test (sectionText hay.sections condition.sectionId hay.screen) &&
      hay.cursor.all fun cursor =>
        within cursor.row condition.cursorRowMin condition.cursorRowMax &&
          within cursor.col condition.cursorColMin condition.cursorColMax

/-- The `changed` branch of `evaluateCondition`. -/
def evaluateChanged (condition : ChangedCondition) (hay : Haystack)
    (prevLines : Option (List String)) : Bool :=
  match hay.cursor, prevLines with
  | some cursor, some (line :: lines) =>
    let first := cursor.row - condition.cursorAbove
    let didChange := decide (rowsOf (hay.screen.splitOn "\n") first cursor.row ≠
      rowsOf (line :: lines) first cursor.row)
    if condition.changed then didChange else !didChange
  | _, _ => false

def isModalSection (sectionId : Option String) : Bool :=
  sectionId == some "modal" || sectionId == some "trust"

def Absence.viewport (absence : Absence) : Option Haystack :=
  match absence.viewportScreen, absence.viewportSections with
  | some screen, some sections => some ⟨screen, sections, absence.viewportCursor⟩
  | _, _ => none

/-- Where a `matches` leaf looks. -/
def regexHay (frame : Frame) (absence : Option Absence) (sectionId : Option String) : Haystack :=
  match absence with
  | none => frame.hay
  | some absence =>
    let modalSection := isModalSection sectionId
    if !absence.inNot && (modalSection || absence.isModalTarget) then absence.modal
    else if sectionId == some "footer" || sectionId == some "StatusLine" ||
        (absence.inNot && (sectionId.getD "" == "" || modalSection)) then
      absence.viewport.getD frame.hay
    else frame.hay

/-- Where a `section_absent` leaf looks. -/
def absentHay (frame : Frame) (absence : Option Absence) (sectionId : String) : Haystack :=
  if isModalSection (some sectionId) then (absence.bind Absence.viewport).getD frame.hay
  else frame.hay

/-- A `CondResult`, without its texts and its countdown. -/
inductive CondResult
  | leaf (result : Bool)
  | signal (name : String) (shadowResult : Option Bool) (result : Bool)
  | node (result : Bool) (children : List CondResult)

def CondResult.result : CondResult → Bool
  | .leaf result => result
  | .signal _ _ result => result
  | .node result _ => result

def Absence.negated (absence : Absence) : Absence := { absence with inNot := !absence.inNot }

mutual

def evalCond (frame : Frame) (absence : Option Absence) : FsmCondition → CondResult
  | .all children =>
    let children := evalEach frame absence children
    .node (children.all CondResult.result) children
  | .any children =>
    let children := evalEach frame absence children
    .node (children.any CondResult.result) children
  | .not child =>
    let child := evalCond frame (absence.map Absence.negated) child
    .node (!child.result) [child]
  -- The leaf passes whatever the snapshot says.
  | .signal leaf => .signal leaf.signal (evaluateSignalLeaf leaf frame.signalSnapshot) true
  | .elapsed elapsedMs => .leaf (elapsedMs ≤ frame.clock.now - frame.clock.stateEnteredAt)
  | .stable condition =>
    let lastChanged := (frame.clock.regionLastChangedAt (stableRegionKey condition)).getD
      frame.clock.stateEnteredAt
    .leaf (condition.stableMs ≤ frame.clock.now - lastChanged)
  | .sectionAbsent id =>
    .leaf (MeshShared.trim (sectionText (absentHay frame absence id).sections (some id) "") = "")
  | .regex condition =>
    .leaf (evaluateRegex frame.engine condition (regexHay frame absence condition.sectionId))
  | .changed condition => .leaf (evaluateChanged condition frame.hay frame.prevLines)

def evalEach (frame : Frame) (absence : Option Absence) : List FsmCondition → List CondResult
  | [] => []
  | child :: children => evalCond frame absence child :: evalEach frame absence children

end

def verdict (frame : Frame) (absence : Option Absence) (condition : FsmCondition) : Bool :=
  (evalCond frame absence condition).result

variable {absence : Option Absence} {frame : Frame}

theorem evalEach_eq_map (children : List FsmCondition) :
    evalEach frame absence children = children.map (evalCond frame absence) := by
  induction children with
  | nil => rfl
  | cons child children induction => rw [evalEach, induction, List.map_cons]

@[simp] theorem verdict_all (children : List FsmCondition) :
    verdict frame absence (.all children) = children.all (verdict frame absence) := by
  rw [verdict, evalCond, CondResult.result, evalEach_eq_map, List.all_map]
  rfl

@[simp] theorem verdict_any (children : List FsmCondition) :
    verdict frame absence (.any children) = children.any (verdict frame absence) := by
  rw [verdict, evalCond, CondResult.result, evalEach_eq_map, List.any_map]
  rfl

@[simp] theorem verdict_not (child : FsmCondition) : verdict frame absence (.not child) =
      !verdict frame (absence.map Absence.negated) child := by
  rw [verdict, evalCond, CondResult.result]
  rfl

@[simp] theorem verdict_signal (leaf : SignalLeaf) :
    verdict frame absence (.signal leaf) = true := by
  rw [verdict, evalCond, CondResult.result]

end Adhdev.ProviderSpec
