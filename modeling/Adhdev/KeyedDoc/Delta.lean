import Adhdev.Foundation.KeyedMap

/-! # Deltas of keyed documents

`keyed-doc-delta.ts`: digests of a document, their difference, and how a reader folds it.
-/

namespace Adhdev.KeyedDoc

/-! ## Values -/

inductive JsValue
  | undefined
  | null
  | bool (value : Bool)
  | number (text : String)
  | string (text : String)
  | array (items : List JsValue)
  | object (fields : List (String × JsValue))

abbrev Fields := List (String × JsValue)

inductive JsonToken
  | null
  | bool (value : Bool)
  | number (text : String)
  | string (text : String)
  | openArray
  | closeArray
  | openObject
  | closeObject
  | key (name : String)
  deriving DecidableEq

abbrev JsonText := List JsonToken

mutual
/-- `JSON.stringify`: nothing for what is undefined. -/
def sig : JsValue → Option JsonText
  | .undefined => none
  | .null => some [.null]
  | .bool value => some [.bool value]
  | .number text => some [.number text]
  | .string text => some [.string text]
  | .array items => some (.openArray :: sigItems items)
  | .object fields => some (.openObject :: sigFields fields)

def sigItems : List JsValue → JsonText
  | [] => [.closeArray]
  | item :: items => (sig item).getD [.null] ++ sigItems items

def sigFields : List (String × JsValue) → JsonText
  | [] => [.closeObject]
  | (name, value) :: fields =>
    ((sig value).map fun text => .key name :: text).getD [] ++ sigFields fields
end

namespace JsValue

def fields : JsValue → Option Fields
  | .object fields => some fields
  | _ => none

def text : JsValue → Option String
  | .string text => some text
  | _ => none

end JsValue

/-! ## Fields -/

def fieldOf (fields : Fields) (name : String) : Option JsValue :=
  (KeyedMap.lookup Prod.fst fields name).map Prod.snd

def setField (fields : Fields) (name : String) (value : JsValue) : Fields :=
  KeyedMap.insertEntry Prod.fst (name, value) fields

def deleteField (fields : Fields) (name : String) : Fields := fields.filter fun entry =>
    entry.1 ≠ name

def deleteAll (fields : Fields) (names : List String) : Fields := names.foldl deleteField fields

/-- `Object.assign`, and the spreading of the one and then the other. -/
def assign (fields changes : Fields) : Fields :=
  changes.foldl (fun held entry => setField held entry.1 entry.2) fields

def sigOf (fields : Fields) (name : String) : Option JsonText := (fieldOf fields name).bind sig

def hasField (fields : Fields) (name : String) : Bool := (fieldOf fields name).isSome

/-- `name in object`, of an object that inherits what every one does. -/
def inObject (fields : Fields) (name : String) : Bool :=
  hasField fields name || objectPrototype.contains name

/-- The entries of a new object after `object[name] = value` for each of these: under
`__proto__` this sets what the object inherits. -/
def assigned {α : Type} (entries : List (String × α)) : List (String × α) :=
  entries.filter fun entry => entry.1 ≠ "__proto__"

/-! ## Specifications -/

structure KeyedCollection where
  head : String
  tail : Option String
  idField : String

/-- The part of a row that decides whether it changed: without some fields, and with others
trimmed. -/
structure StableRow where
  drops : String → Bool
  trim : String → JsValue → JsValue

structure KeyedDocSpec where
  collections : List KeyedCollection
  splitObjects : List String
  ignore : List String
  volatileTopLevel : List String
  stableRow : KeyedCollection → StableRow

def StableRow.apply (stable : StableRow) (row : Fields) : Fields :=
  (row.filter fun entry => !stable.drops entry.1).map fun entry =>
    (entry.1, stable.trim entry.1 entry.2)

def joinPath (object field : String) : String := object ++ "." ++ field

def stripPrefix : List Char → List Char → Option (List Char)
  | [], rest => some rest
  | _ :: _, [] => none
  | one :: ones, other :: others => if one = other then stripPrefix ones others else none

section Engine

variable (spec : KeyedDocSpec)

def objectOf (path : String) : Option (String × String) :=
  spec.splitObjects.findSome? fun object =>
    (stripPrefix (object ++ ".").toList path.toList).map fun rest => (object, String.ofList rest)

/-! ## Digests -/

def readPath (doc : Fields) (collection : KeyedCollection) : Option JsValue :=
  match collection.tail with
  | none => fieldOf doc collection.head
  | some tail =>
    ((fieldOf doc collection.head).bind JsValue.fields).bind fun parent => fieldOf parent tail

def stripCollection (doc : Fields) (collection : KeyedCollection) : Fields :=
  match collection.tail with
  | none => deleteField doc collection.head
  | some tail =>
    match (fieldOf doc collection.head).bind JsValue.fields with
    | none => doc
    | some parent =>
      if hasField parent tail then
        setField doc collection.head (.object (deleteField parent tail))
      else doc

def stripCollections (doc : Fields) : Fields := spec.collections.foldl stripCollection doc

structure TopEntry where
  path : String
  sig : JsonText
  value : JsValue

def addTop (path : String) (value : JsValue) : List TopEntry :=
  if spec.ignore.any (· = path) then []
  else ((sig value).map fun text => { path, sig := text, value }).toList

def topEntries (entry : String × JsValue) : List TopEntry :=
  match (if spec.splitObjects.any (· = entry.1) then entry.2.fields else none) with
  | some fields => fields.flatMap fun field => addTop spec (joinPath entry.1 field.1) field.2
  | none => addTop spec entry.1 entry.2

structure RowDigest where
  id : String
  value : Fields
  stable : Fields

def RowDigest.sig (row : RowDigest) : List (String × JsonText) :=
  row.stable.filterMap fun entry => (KeyedDoc.sig entry.2).map fun text => (entry.1, text)

def rowDigest (collection : KeyedCollection) (row : JsValue) : Option RowDigest :=
  row.fields.bind fun fields => ((fieldOf fields collection.idField).bind JsValue.text).bind
    fun id =>
    if id = "" then none
    else some { id, value := fields, stable := (spec.stableRow collection).apply fields }

def digestRows (collection : KeyedCollection) : List RowDigest → List JsValue → List RowDigest
  | held, [] => held
  | held, row :: rows =>
    match rowDigest spec collection row with
    | none => digestRows collection held rows
    | some digest =>
      if held.any (·.id = digest.id) then digestRows collection held rows
      else digestRows collection (held ++ [digest]) rows

def digestCollection (doc : Fields) (collection : KeyedCollection) : Option (List RowDigest) :=
  match readPath doc collection with
  | some (.array items) => some (digestRows spec collection [] items)
  | _ => none

structure KeyedDocDigest where
  top : List TopEntry
  collections : KeyedCollection → Option (List RowDigest)

def digestKeyedDoc (doc : Fields) : KeyedDocDigest where
  top := (KeyedMap.ofList TopEntry.path ((stripCollections spec doc).flatMap
    (topEntries spec))).entries
  collections := digestCollection spec doc

def KeyedDocDigest.topSig (digest : KeyedDocDigest) (path : String) : Option JsonText :=
  (KeyedMap.lookup TopEntry.path digest.top path).map TopEntry.sig

/-! ## Differences -/

structure KeyedCollectionDelta where
  upsert : List Fields := []
  unsetFields : List (String × List String) := []
  removed : List String := []
  order : Option (List String) := none
  absent : Bool := false

structure ObjectChange where
  set : Fields
  unset : List String

structure KeyedDocDelta where
  set : Fields
  unset : List String
  objects : List (String × ObjectChange)
  collections : KeyedCollection → Option KeyedCollectionDelta

def rowOf (rows : List RowDigest) (id : String) : Option RowDigest :=
    KeyedMap.lookup RowDigest.id rows id

def changedFields (idField : String) (prevRow nextRow : RowDigest) : List String :=
  (nextRow.stable.map Prod.fst).filter fun name =>
    name ≠ idField && (sigOf nextRow.stable name).isSome &&
      sigOf prevRow.stable name ≠ sigOf nextRow.stable name

/-- What a change inherits: an object or null under `__proto__` is set by then. -/
def inheritedBy (prototype : Option JsValue) : List String :=
  match prototype with
  | some (.object fields) => fields.map Prod.fst ++ objectPrototype
  | some .null => []
  | _ => objectPrototype

def changeOf (idField : String) (prevRow nextRow : RowDigest) : Fields :=
  let changed := changedFields idField prevRow nextRow
  let change := (changed.filter (· ≠ "__proto__")).foldl
    (fun held name => setField held name ((fieldOf nextRow.value name).getD .undefined))
    [(idField, .string nextRow.id)]
  let inherited := inheritedBy
    (if "__proto__" ∈ changed then fieldOf nextRow.value "__proto__" else none)
  nextRow.value.foldl
    (fun held entry =>
      if inObject nextRow.stable entry.1 || hasField held entry.1 ||
        inherited.contains entry.1 then held
      else if sigOf prevRow.value entry.1 = sig entry.2 then held
      else setField held entry.1 entry.2)
    change

def goneFields (prevRow nextRow : RowDigest) : List String :=
  (prevRow.stable.map Prod.fst).filter fun name =>
    (sigOf prevRow.stable name).isSome && (sigOf nextRow.stable name).isNone &&
      !inObject nextRow.value name

def upsertOf (idField : String) (prevRows : List RowDigest) (nextRow : RowDigest) : Option Fields :=
  match rowOf prevRows nextRow.id with
  | none => some nextRow.value
  | some prevRow =>
    if prevRow.sig = nextRow.sig then none
    else if changedFields idField prevRow nextRow = [] then none
    else some (changeOf idField prevRow nextRow)

def unsetOf (prevRows : List RowDigest) (nextRow : RowDigest) : Option (String × List String) :=
  (rowOf prevRows nextRow.id).bind fun prevRow =>
    if prevRow.sig = nextRow.sig then none
    else if goneFields prevRow nextRow = [] then none
    else some (nextRow.id, goneFields prevRow nextRow)

def diffCollection (idField : String) (prev next : Option (List RowDigest)) :
    Option KeyedCollectionDelta :=
  match next with
  | none => if prev.isSome then some { absent := true } else none
  | some nextRows =>
    let prevRows := prev.getD []
    let upsert := nextRows.filterMap (upsertOf idField prevRows)
    let unsetFields := nextRows.filterMap (unsetOf prevRows)
    let removed := (prevRows.map RowDigest.id).filter fun id => (rowOf nextRows id).isNone
    let moved := prevRows.map RowDigest.id ≠ nextRows.map RowDigest.id
    if upsert.isEmpty && unsetFields.isEmpty && removed.isEmpty && !moved then none
    else
      some
        { upsert
          unsetFields := assigned unsetFields
          removed
          order := if moved then some (nextRows.map RowDigest.id) else none }

def isVolatile (path : String) : Bool := spec.volatileTopLevel.any (· = path)

def changedTop (prev next : KeyedDocDigest) : List TopEntry :=
  next.top.filter fun entry => prev.topSig entry.path ≠ some entry.sig

def lostTop (prev next : KeyedDocDigest) : List String :=
  (prev.top.map TopEntry.path).filter fun path => (next.topSig path).isNone

def objectChange (changed : List TopEntry) (lost : List String) (object : String) :
    ObjectChange where
  set := changed.filterMap fun entry =>
    (objectOf spec entry.path).bind fun inside =>
      if inside.1 = object then some (inside.2, entry.value) else none
  unset := lost.filterMap fun path =>
    (objectOf spec path).bind fun inside => if inside.1 = object then some inside.2 else none

def objectChanges (changed : List TopEntry) (lost : List String) : List (String × ObjectChange) :=
  (spec.splitObjects.map fun object => (object, objectChange spec changed lost object)).filter
    fun entry => !(entry.2.set.isEmpty && entry.2.unset.isEmpty)

def diffKeyedDoc (prev next : KeyedDocDigest) : Option KeyedDocDelta :=
  let changed := changedTop prev next
  let lost := lostTop prev next
  let collections := fun collection : KeyedCollection =>
    diffCollection collection.idField (prev.collections collection) (next.collections collection)
  let meaningful :=
    (changed.any fun entry => !isVolatile spec entry.path) ||
      (lost.any fun path => !isVolatile spec path) ||
      spec.collections.any fun collection => (collections collection).isSome
  if meaningful then
    some
      { set := assigned
          ((changed.filter fun entry => (objectOf spec entry.path).isNone).map fun entry =>
            (entry.path, entry.value))
        unset := lost.filter fun path => (objectOf spec path).isNone
        objects := (objectChanges spec changed lost).map fun (object, change) =>
          (object, { change with set := assigned change.set })
        collections }
  else none

/-! ## Folding -/

def heldRow (idField : String) (row : JsValue) : Option (String × Fields) :=
  row.fields.bind fun fields => ((fieldOf fields idField).bind JsValue.text).map fun id =>
    (id, fields)

def valueAt (rows : List (String × Fields)) (id : String) : Option Fields :=
  (KeyedMap.lookup Prod.fst rows id).map Prod.snd

def upsertRow (idField : String) (rows : List (String × Fields)) (row : Fields) :
    List (String × Fields) :=
  match (fieldOf row idField).bind JsValue.text with
  | none => rows
  | some id => KeyedMap.insertEntry Prod.fst (id, assign ((valueAt rows id).getD []) row) rows

def unsetRow (rows : List (String × Fields)) (unset : String × List String) :
    List (String × Fields) :=
  match valueAt rows unset.1 with
  | none => rows
  | some base => KeyedMap.insertEntry Prod.fst (unset.1, deleteAll base unset.2) rows

def foldRows (idField : String) (held : List (String × Fields)) (change : KeyedCollectionDelta) :
    List (String × Fields) :=
  let kept := held.filter fun entry => !change.removed.any (· = entry.1)
  change.unsetFields.foldl unsetRow (change.upsert.foldl (upsertRow idField) kept)

def placeRows (order : List String) (rows : List (String × Fields)) : List Fields :=
  let placed := order.reverse.dedup.reverse
  placed.filterMap (valueAt rows) ++
    (rows.filter fun entry => !placed.any (· = entry.1)).map Prod.snd

def byIdOf (rows : List (String × Fields)) : List (String × Fields) :=
  rows.foldl (fun kept row => KeyedMap.insertEntry Prod.fst row kept) []

def arrayItems : Option JsValue → List JsValue
  | some (.array items) => items
  | _ => []

def foldCollection (idField : String) (held : Option JsValue) (change : KeyedCollectionDelta) :
    List Fields :=
  let rows := (arrayItems held).filterMap (heldRow idField)
  placeRows (change.order.getD (rows.map Prod.fst)) (foldRows idField (byIdOf rows) change)

def foldObject (doc : Fields) (change : String × ObjectChange) : Fields :=
  let base := ((fieldOf doc change.1).bind JsValue.fields).getD []
  setField doc change.1 (.object (assign (deleteAll base change.2.unset) change.2.set))

def writePath (doc : Fields) (collection : KeyedCollection) (list : JsValue) : Fields :=
  match collection.tail with
  | none => setField doc collection.head list
  | some tail =>
    let parent := ((fieldOf doc collection.head).bind JsValue.fields).getD []
    setField doc collection.head (.object (setField parent tail list))

def foldPath (held : Fields) (delta : KeyedDocDelta) (doc : Fields) (collection : KeyedCollection) :
    Fields :=
  let heldList := readPath held collection
  match delta.collections collection with
  | some change =>
    if change.absent then stripCollection doc collection
    else
      writePath doc collection
        (.array ((foldCollection collection.idField heldList change).map .object))
  | none =>
    match heldList with
    | none => doc
    | some .undefined => doc
    | some list => writePath doc collection list

def foldKeyedDoc (held : Fields) (delta : KeyedDocDelta) : Fields :=
  let plain := assign (deleteAll (stripCollections spec held) delta.unset) delta.set
  spec.collections.foldl (foldPath held delta) (delta.objects.foldl foldObject plain)

end Engine

/-! ## The two documents -/

def stableSession : StableRow where
  drops name := name = "lastUpdated"
  trim _ value := value

def daemonMetadataDocSpec : KeyedDocSpec where
  collections := [{ head := "status", tail := some "sessions", idField := "id" }]
  splitObjects := ["status"]
  ignore := ["daemonId", "status.timestamp"]
  volatileTopLevel := []
  stableRow _ := stableSession

def without (value : JsValue) (names : List String) : JsValue :=
  match value with
  | .object fields => .object (deleteAll fields names)
  | other => other

def withoutEmptySubmodules (git : JsValue) : JsValue :=
  match git with
  | .object fields =>
    match fieldOf fields "submodules" with
    | some (.array []) => .object (deleteField fields "submodules")
    | _ => git
  | other => other

def ownObservation (observation : JsValue) : Bool :=
  match (observation.fields.bind fun fields => fieldOf fields "source").bind JsValue.text with
  | some source => source = "self" || source = "local"
  | none => false

def stableMeshNodeRow : StableRow where
  drops name := ["lastSeenAt", "updatedAt", "last_seen_at", "updated_at"].any (· = name)
  trim name value :=
    if name = "dataFreshness" then without value ["ageMs", "lastProbeAt", "staleness"]
    else if name = "connection" then without value ["lastStateChangeAt"]
    else if name = "git" then withoutEmptySubmodules (without value ["lastCheckedAt"])
    else if name = "nodeFacts" then without value ["reportedAt"]
    else if name = "gitObservation" && ownObservation value then without value ["observedAt"]
    else value

def wholeRow : StableRow where
  drops _ := false
  trim _ value := value

def meshStatusDocSpec : KeyedDocSpec where
  collections :=
    [{ head := "nodes", tail := none, idField := "nodeId" },
      { head := "queue", tail := some "tasks", idField := "id" },
      { head := "missions", tail := none, idField := "id" }]
  splitObjects := []
  ignore := []
  volatileTopLevel :=
    ["refreshedAt", "sourceOfTruth", "turnPresentationCounters", "meshProtocolV2Counters",
      "pendingRetentionCounters", "meshProtocolMetrics"]
  stableRow collection := if collection.head = "nodes" then stableMeshNodeRow else wholeRow

end Adhdev.KeyedDoc
