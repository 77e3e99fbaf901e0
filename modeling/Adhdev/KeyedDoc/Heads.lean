import Adhdev.KeyedDoc.Collections
import Adhdev.KeyedDoc.Plain

/-! # Folding collections into their heads -/

namespace Adhdev.KeyedDoc

open Option

variable {spec : KeyedDocSpec}

/-! ## What is at a head -/

def readHead (collection : KeyedCollection) (value : Option JsValue) : Option JsValue :=
  match collection.tail with
  | none => value
  | some tail => insideOf value tail

def writeHead (collection : KeyedCollection) (value : Option JsValue) (list : JsValue) :
    Option JsValue :=
  match collection.tail with
  | none => some list
  | some tail => some (.object (setField ((value.bind JsValue.fields).getD []) tail list))

def afterFold (held : Fields) (delta : KeyedDocDelta) (collection : KeyedCollection)
    (value : Option JsValue) : Option JsValue :=
  match delta.collections collection with
  | some change =>
    if change.absent then trimHead collection value
    else
      writeHead collection value (.array
        ((foldCollection collection.idField (readPath held collection) change).map .object))
  | none =>
    match readPath held collection with
    | none => value
    | some .undefined => value
    | some list => writeHead collection value list

theorem readPath_eq (doc : Fields) (collection : KeyedCollection) :
    readPath doc collection = readHead collection (fieldOf doc collection.head) := by
  rw [readPath, readHead]
  cases collection.tail with
  | none => rfl
  | some tail => rfl

theorem fieldOf_writePath (doc : Fields) (collection : KeyedCollection) (list : JsValue)
    (name : String) : fieldOf (writePath doc collection list) name =
      if collection.head = name then writeHead collection (fieldOf doc name) list
      else fieldOf doc name := by
  rw [writePath, writeHead]
  cases collection.tail with
  | none => exact fieldOf_setField _ _ _ _
  | some tail =>
    dsimp only
    rw [fieldOf_setField]
    by_cases here : collection.head = name
    · rw [if_pos here, if_pos here, here]
    · rw [if_neg here, if_neg here]

theorem fieldOf_foldPath (held : Fields) (delta : KeyedDocDelta) (doc : Fields)
    (collection : KeyedCollection) (name : String) :
    fieldOf (foldPath held delta doc collection) name =
      if collection.head = name then afterFold held delta collection (fieldOf doc name)
      else fieldOf doc name := by
  rw [foldPath, afterFold]
  cases delta.collections collection with
  | some change =>
    dsimp only
    by_cases absent : change.absent = true
    · rw [if_pos absent, if_pos absent]
      exact fieldOf_stripCollection doc collection name
    · rw [if_neg absent, if_neg absent]
      exact fieldOf_writePath doc collection _ name
  | none =>
    dsimp only
    have unchanged : fieldOf doc name =
        if collection.head = name then fieldOf doc name else fieldOf doc name := by
      rw [ite_self]
    cases readPath held collection with
    | none => exact unchanged
    | some list =>
      cases list with
      | undefined => exact unchanged
      | _ => exact fieldOf_writePath doc collection _ name

theorem fieldOf_foldKeyedDoc (sound : SpecSound spec) (held : Fields) (delta : KeyedDocDelta) :
    (∀ collection ∈ spec.collections,
      fieldOf (foldKeyedDoc spec held delta) collection.head =
        afterFold held delta collection (fieldOf (objectsOf spec held delta) collection.head)) ∧
    ∀ name, name ∉ spec.collections.map KeyedCollection.head →
      fieldOf (foldKeyedDoc spec held delta) name = fieldOf (objectsOf spec held delta) name :=
  @foldl_at _ _ _ _ _ fieldOf (foldPath held delta) KeyedCollection.head (afterFold held delta)
    spec.collections
    (fun state collection _ name => fieldOf_foldPath held delta state collection name)
    sound.heads (objectsOf spec held delta)

theorem readHead_writeHead (collection : KeyedCollection) (value : Option JsValue)
    (list : JsValue) : readHead collection (writeHead collection value list) = some list := by
  rw [readHead, writeHead]
  cases collection.tail with
  | none => rfl
  | some tail =>
    dsimp only
    rw [insideOf, bind_some, JsValue.fields, bind_some, fieldOf_setField, if_pos rfl]

theorem insideOf_trimHead {collection : KeyedCollection} {tail : String}
    (nested : collection.tail = some tail) (value : Option JsValue) (field : String) :
    insideOf (trimHead collection value) field =
      if tail = field then none else insideOf value field := by
  rw [trimHead, nested]
  dsimp only
  cases isFields : value.bind JsValue.fields with
  | none =>
    dsimp only
    rw [insideOf, isFields, bind_none, ite_self]
  | some fields =>
    dsimp only
    rw [insideOf, insideOf, isFields, bind_some, JsValue.fields, bind_some,
      bind_some, fieldOf_deleteField]

theorem readHead_trimHead (collection : KeyedCollection) (value : Option JsValue) :
    readHead collection (trimHead collection value) = none := by
  cases nested : collection.tail with
  | none => rw [readHead, nested, trimHead, nested]
  | some tail =>
    rw [readHead, nested]
    dsimp only
    rw [insideOf_trimHead nested, if_pos rfl]

theorem trimHead_none (collection : KeyedCollection) : trimHead collection none = none := by
  rw [trimHead]
  cases collection.tail with
  | none => rfl
  | some tail => rfl

/-! ## The collections of a fold -/

def ProperRows (spec : KeyedDocSpec) (doc : Fields) : Prop :=
  ∀ collection ∈ spec.collections,
    readPath doc collection = none ∨ readPath doc collection = some .undefined ∨
      ∃ items digests, readPath doc collection = some (.array items) ∧
        DigestsTo spec collection items digests

/-- No row lost a value to an undefined one, and the collection did not appear without rows. -/
structure CollectionFolds (spec : KeyedDocSpec) (prev next : Fields)
    (collection : KeyedCollection) : Prop where
  keep : ∀ prevRows ∈ digestCollection spec prev collection,
    ∀ nextRows ∈ digestCollection spec next collection, RowsKeepDefined prevRows nextRows
  appear : digestCollection spec prev collection = none →
    digestCollection spec next collection ≠ some []

/-- What a fold does at the head of a collection. -/
inductive Folded (spec : KeyedDocSpec) (prev next : Fields) (delta : KeyedDocDelta)
    (collection : KeyedCollection) : Prop
  | unwritten
      (unheld : digestCollection spec next collection = none ∨
        digestCollection spec prev collection = none ∧
          digestCollection spec next collection = some [])
      (after : (∀ value, afterFold prev delta collection value = trimHead collection value) ∨
        ∀ value, afterFold prev delta collection value = value)
  | written (items : List JsValue) (nextRows : List RowDigest)
      (held : digestCollection spec next collection = some nextRows)
      (after : ∀ value, afterFold prev delta collection value =
        writeHead collection value (.array items))
      (agree : RowsAgree (digestRows spec collection [] items) nextRows ↔
        CollectionFolds spec prev next collection)

section Fold

variable {prev next : Fields} {delta : KeyedDocDelta} {collection : KeyedCollection}

theorem digest_proper {doc : Fields} (rows : ProperRows spec doc)
    (member : collection ∈ spec.collections) :
    digestCollection spec doc collection = none ∧ arrayItems (readPath doc collection) = [] ∧
        (readPath doc collection = none ∨ readPath doc collection = some .undefined) ∨
      ∃ items digests, readPath doc collection = some (.array items) ∧
        DigestsTo spec collection items digests ∧
          digestCollection spec doc collection = some digests := by
  rcases rows collection member with none | undefined | ⟨items, digests, read, digestsTo⟩
  · refine .inl ⟨?_, ?_, .inl none⟩
    · rw [digestCollection, none]
    · rw [none]
      rfl
  · refine .inl ⟨?_, ?_, .inr undefined⟩
    · rw [digestCollection, undefined]
    · rw [undefined]
      rfl
  refine .inr ⟨items, digests, read, digestsTo, ?_⟩
  rw [digestCollection, read]
  dsimp only
  rw [digestsTo.digestRows_eq]

theorem digestsTo_nil : DigestsTo spec collection [] [] :=
  ⟨rfl, List.nodup_nil, fun _ member => (by cases member), fun _ member => (by cases member)⟩

theorem collectionFolds_appeared {nextHeld : List RowDigest} (nonempty : nextHeld ≠ [])
    (prevNone : digestCollection spec prev collection = none)
    (nextSome : digestCollection spec next collection = some nextHeld) :
    CollectionFolds spec prev next collection := by
  constructor
  · intro prevHeld found
    rw [prevNone] at found
    cases found
  intro _ empty
  rw [nextSome] at empty
  exact nonempty (some.inj empty)

variable {prevHeld nextHeld : List RowDigest}

theorem collectionFolds_iff (prevSome : digestCollection spec prev collection = some prevHeld)
    (nextSome : digestCollection spec next collection = some nextHeld) :
    CollectionFolds spec prev next collection ↔ RowsKeepDefined prevHeld nextHeld := by
  constructor
  · intro folds
    exact folds.keep prevHeld prevSome nextHeld nextSome
  intro keeps
  constructor
  · intro prevRows isPrev nextRows isNext
    rw [prevSome] at isPrev
    rw [nextSome] at isNext
    cases isPrev
    cases isNext
    exact keeps
  intro prevNone
  rw [prevSome] at prevNone
  cases prevNone

theorem unchanged_agrees {prevItems nextItems : List JsValue}
    (prevTo : DigestsTo spec collection prevItems prevHeld)
    (nextTo : DigestsTo spec collection nextItems nextHeld)
    (unchanged : diffCollection collection.idField (some prevHeld) (some nextHeld) = none) :
    RowsAgree prevHeld nextHeld ↔ RowsKeepDefined prevHeld nextHeld := by
  rcases diffCollection_some _ unchanged nextTo.ids_plain with
    ⟨-, ids, upsert, unset⟩ | ⟨difference, isChange, -⟩
  · exact ⟨rowsKeepDefined_of_agree prevTo,
      fun keeps => rowsAgree_of_unchanged prevTo nextTo keeps ids upsert unset⟩
  · cases isChange

theorem folded (isDelta : DeltaOf spec prev next delta) (prevRows : ProperRows spec prev)
    (nextRows : ProperRows spec next) (member : collection ∈ spec.collections) :
    Folded spec prev next delta collection := by
  have change := isDelta.collections collection
  rcases digest_proper nextRows member with
    ⟨nextNone, -, -⟩ | ⟨nextItems, nextHeld, -, nextTo, nextSome⟩
  · refine .unwritten (.inl nextNone) ?_
    rw [nextNone, diffCollection] at change
    rcases digest_proper prevRows member with ⟨prevNone, -, read⟩ | ⟨-, prevHeld, -, -, prevSome⟩
    · right
      intro value
      rw [prevNone, isSome_none, if_neg Bool.false_ne_true] at change
      rw [afterFold, change]
      rcases read with none | undefined
      · rw [none]
      · rw [undefined]
    left
    intro value
    rw [prevSome, isSome_some, if_pos rfl] at change
    rw [afterFold, change]
    exact if_pos rfl
  · rw [nextSome] at change
    rcases digest_proper prevRows member with
      ⟨prevNone, noItems, read⟩ | ⟨prevItems, prevHeld, read, prevTo, prevSome⟩
    · rw [prevNone] at change
      rcases diffCollection_some _ change.symm nextTo.ids_plain with
        ⟨isNone, ids, -, -⟩ | ⟨difference, isChange, present, upsert, unset, removed, order⟩
      · have noRows : nextHeld = [] := List.map_eq_nil_iff.mp ids.symm
        refine .unwritten (.inr ⟨prevNone, noRows ▸ nextSome⟩) (.inr fun value => ?_)
        rw [afterFold, isNone]
        rcases read with none | undefined
        · rw [none]
        · rw [undefined]
      · have isFolded := @foldCollection_eq spec collection [] nextHeld nextItems
          (readPath prev collection) difference (noItems ▸ digestsTo_nil) nextTo upsert unset
            removed
          order
        have keeps : RowsKeepDefined [] nextHeld := by
          intro nextRow _ prevRow found
          cases found
        have nonempty : nextHeld ≠ [] := by
          rintro rfl
          rw [isChange] at change
          cases change
        refine .written _ nextHeld nextSome (fun value => ?_)
          ((digestRows_results_agree digestsTo_nil nextTo).trans
            (iff_of_true keeps (collectionFolds_appeared nonempty prevNone nextSome)))
        rw [afterFold, isChange]
        dsimp only
        rw [present, if_neg Bool.false_ne_true, isFolded]
    · rw [prevSome] at change
      have condition := collectionFolds_iff prevSome nextSome
      rcases diffCollection_some _ change.symm nextTo.ids_plain with
        ⟨isNone, -, -, -⟩ | ⟨difference, isChange, present, upsert, unset, removed, order⟩
      · refine .written prevItems nextHeld nextSome (fun value => ?_) ?_
        · rw [afterFold, isNone, read]
        rw [isNone] at change
        rw [prevTo.digestRows_eq, condition]
        exact unchanged_agrees prevTo nextTo change.symm
      · have heldTo : DigestsTo spec collection (arrayItems (readPath prev collection))
          prevHeld := by
          rw [read]
          exact prevTo
        have isFolded := @foldCollection_eq spec collection prevHeld nextHeld nextItems
          (readPath prev collection) difference heldTo nextTo upsert unset removed order
        refine .written _ nextHeld nextSome (fun value => ?_)
          ((digestRows_results_agree prevTo nextTo).trans condition.symm)
        rw [afterFold, isChange]
        dsimp only
        rw [present, if_neg Bool.false_ne_true, isFolded]

end Fold

end Adhdev.KeyedDoc
