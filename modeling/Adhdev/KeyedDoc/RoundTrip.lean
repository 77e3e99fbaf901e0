import Adhdev.KeyedDoc.Heads

/-! # The fold of a difference agrees with the next document -/

namespace Adhdev.KeyedDoc

open Option List

variable {spec : KeyedDocSpec} {prev next : Fields} {delta : KeyedDocDelta}

/-! ## Values at paths -/

def isObjectAt (doc : Fields) (name : String) : Bool :=
  ((fieldOf doc name).bind JsValue.fields).isSome

def unlessFields (value : Option JsValue) : Option JsValue :=
  if (value.bind JsValue.fields).isSome then none else value

theorem insideOf_unlessFields (value : Option JsValue) (field : String) :
    insideOf (unlessFields value) field = none := by
  rw [unlessFields]
  split_ifs with isFields
  · rfl
  · rw [not_isSome_iff_eq_none] at isFields
    rw [insideOf, isFields, bind_none]

theorem unlessFields_idem (value : Option JsValue) :
    unlessFields (unlessFields value) = unlessFields value := by
  by_cases isFields : (value.bind JsValue.fields).isSome = true
  · have isNone : unlessFields value = none := if_pos isFields
    rw [isNone]
    rfl
  · have same : unlessFields value = value := if_neg isFields
    rw [same, same]

variable {value : Option JsValue}

theorem insideOf_of_unlessFields (outside : unlessFields value ≠ none) (field : String) :
    insideOf value field = none := by
  rw [unlessFields] at outside
  split_ifs at outside with isFields
  · exact absurd rfl outside
  · rw [not_isSome_iff_eq_none] at isFields
    rw [insideOf, isFields, bind_none]

theorem unlessFields_of_insideOf {field : String} (inside : insideOf value field ≠ none) :
    unlessFields value = none := by
  by_contra outside
  exact inside (insideOf_of_unlessFields outside field)

variable {collection : KeyedCollection}

variable {tail : String}

theorem unlessFields_trimHead (nested : collection.tail = some tail) (value : Option JsValue) :
    unlessFields (trimHead collection value) = unlessFields value := by
  rw [trimHead, nested]
  dsimp only
  cases isFields : value.bind JsValue.fields with
  | none => rfl
  | some fields =>
    dsimp only
    rw [unlessFields, unlessFields, isFields]
    rfl

variable {doc : Fields} {path : String}

theorem valueOf_ignored (ignored : spec.ignore.any (· = path) = true) :
    valueOf spec doc path = none := by
  rw [valueOf, if_pos ignored]

theorem valueOf_inside {path object field : String} (kept : spec.ignore.any (· = path) = false)
    (inside : objectOf spec path = some (object, field)) :
    valueOf spec doc path = insideOf (fieldOf (stripCollections spec doc) object) field := by
  rw [valueOf, kept, if_neg Bool.false_ne_true, inside]
  rfl

theorem valueOf_split (kept : spec.ignore.any (· = path) = false)
    (outside : objectOf spec path = none) (isObject : path ∈ spec.splitObjects) :
    valueOf spec doc path = unlessFields (fieldOf (stripCollections spec doc) path) := by
  have isSplit : spec.splitObjects.any (· = path) = true :=
    any_eq_true.mpr ⟨path, isObject, decide_eq_true rfl⟩
  rw [valueOf, kept, if_neg Bool.false_ne_true, outside]
  dsimp only
  rw [isSplit, Bool.true_and]
  rfl

theorem valueOf_unsplit (kept : spec.ignore.any (· = path) = false)
    (outside : objectOf spec path = none) (unsplit : path ∉ spec.splitObjects) :
    valueOf spec doc path = fieldOf (stripCollections spec doc) path := by
  have isSplit : spec.splitObjects.any (· = path) = false := by
    rw [List.any_eq_false]
    intro object isObject same
    exact unsplit (of_decide_eq_true same ▸ isObject)
  rw [valueOf, kept, if_neg Bool.false_ne_true, outside]
  dsimp only
  rw [isSplit, Bool.false_and, if_neg Bool.false_ne_true]

theorem valueOf_head (sound : SpecSound spec) (member : collection ∈ spec.collections) :
    valueOf spec doc collection.head = none ∨
      valueOf spec doc collection.head = trimHead collection (fieldOf doc collection.head) := by
  have outside := sound.headsOutside collection member
  have stripped := (fieldOf_stripCollections sound doc).1 collection member
  cases kept : spec.ignore.any (· = collection.head) with
  | true => exact .inl (valueOf_ignored kept)
  | false =>
    by_cases isObject : collection.head ∈ spec.splitObjects
    · rw [valueOf_split kept outside isObject, stripped, unlessFields]
      split_ifs
      · exact .inl rfl
      · exact .inr rfl
    · rw [valueOf_unsplit kept outside isObject, stripped]
      exact .inr rfl

theorem fieldAt_of_inside (sound : SpecSound spec) {object field : String}
    (isObject : object ∈ spec.splitObjects)
    (held : (fieldAt spec doc (joinPath object field)).isSome = true) :
    fieldAt spec doc object = none := by
  have inside : insideOf (fieldOf (stripCollections spec doc) object) field ≠ none := by
    intro isNone
    cases kept : spec.ignore.any (· = joinPath object field) with
    | true =>
      rw [fieldAt, valueOf_ignored kept] at held
      cases held
    | false =>
      rw [fieldAt, valueOf_inside kept (sound.inObject object isObject field), isNone] at held
      cases held
  rw [fieldAt, valueOf_split (sound.splitKept object isObject) (sound.splitOutside object isObject)
    isObject, unlessFields_of_insideOf inside, bind_none]

theorem sig_isFields {value : JsValue} {fields : Fields}
    (same : sig value = sig (.object fields)) : value.fields.isSome = true := by
  cases value with
  | object inside => rfl
  | _ => cases same

section Fold

variable (sound : SpecSound spec) (prevProper : ProperDoc spec prev)
  (nextProper : ProperDoc spec next) (isDelta : DeltaOf spec prev next delta)

include sound prevProper nextProper isDelta

/-! ## Heads -/

theorem plain_trimmed (member : collection ∈ spec.collections) :
    trimHead collection (fieldOf (plainOf spec prev delta) collection.head) =
      fieldOf (plainOf spec prev delta) collection.head := by
  rcases plain_settled sound prevProper nextProper isDelta
    (sound.headsOutside collection member) with
    ⟨-, -, value⟩ | ⟨-, -, value⟩ | ⟨-, value⟩
  · rw [value]
    rcases valueOf_head sound member with isNone | trimmed
    · rw [isNone, trimHead_none]
    · rw [trimmed, trimHead_idem]
  · rw [value, trimHead_none]
  · rw [value, (fieldOf_stripCollections sound prev).1 collection member, trimHead_idem]

theorem objects_unheld (member : collection ∈ spec.collections) :
    readHead collection (fieldOf (objectsOf spec prev delta) collection.head) = none := by
  by_cases isObject : collection.head ∈ spec.splitObjects
  · obtain ⟨tail, nested⟩ := isSome_iff_exists.mp (sound.nested collection member isObject)
    have trimmed := plain_trimmed sound prevProper nextProper isDelta member
    have read : ∀ value, readHead collection value = insideOf value tail := by
      intro value
      rw [readHead, nested]
    rw [read]
    rcases object_settled sound prevProper nextProper isDelta isObject tail with
      ⟨found, -, -⟩ | ⟨-, -, value⟩ | ⟨-, value⟩
    · rw [fieldAt] at found
      cases kept : spec.ignore.any (· = joinPath collection.head tail) with
      | true =>
        rw [valueOf_ignored kept] at found
        cases found
      | false =>
        rw [valueOf_inside kept (sound.inObject _ isObject tail),
          (fieldOf_stripCollections sound next).1 collection member, insideOf_trimHead nested,
          if_pos rfl] at found
        cases found
    · exact value
    · rw [value, ← trimmed, insideOf_trimHead nested, if_pos rfl]
  · rw [fieldOf_objectsOf_unsplit sound isDelta isObject,
      ← plain_trimmed sound prevProper nextProper isDelta member, readHead_trimHead]

variable (prevRows : ProperRows spec prev) (nextRows : ProperRows spec next)

include prevRows nextRows

theorem fold_collection (member : collection ∈ spec.collections) :
    Option.Rel RowsAgree (digestCollection spec (foldKeyedDoc spec prev delta) collection)
      (digestCollection spec next collection) ↔ CollectionFolds spec prev next collection := by
  have read : readPath (foldKeyedDoc spec prev delta) collection =
      readHead collection (afterFold prev delta collection
        (fieldOf (objectsOf spec prev delta) collection.head)) := by
    rw [readPath_eq, (fieldOf_foldKeyedDoc sound prev delta).1 collection member]
  rcases folded isDelta prevRows nextRows member with
    ⟨unheld, after⟩ | ⟨items, rows, held, after, agree⟩
  · have unread : digestCollection spec (foldKeyedDoc spec prev delta) collection = none := by
      have isNone : readPath (foldKeyedDoc spec prev delta) collection = none := by
        rcases after with trimmed | same
        · rw [read, trimmed, readHead_trimHead]
        · rw [read, same]
          exact objects_unheld sound prevProper nextProper isDelta member
      rw [digestCollection, isNone]
    rw [unread]
    rcases unheld with gone | ⟨prevNone, empty⟩
    · rw [gone]
      refine iff_of_true .none ⟨?_, ?_⟩
      · intro _ _ nextHeld found
        rw [gone] at found
        cases found
      intro _
      rw [gone]
      exact (some_ne_none _).symm
    rw [empty]
    refine iff_of_false ?_ fun folds => folds.appear prevNone empty
    intro agree
    cases agree
  · rw [after, readHead_writeHead] at read
    rw [held, digestCollection, read, ← agree]
    constructor
    · intro related
      cases related with
      | some agree => exact agree
    · exact .some

/-! ## Fields -/

omit prevProper nextProper isDelta prevRows nextRows in
theorem next_isFields {rows : List RowDigest} (nested : collection.tail = some tail)
    (member : collection ∈ spec.collections)
    (held : digestCollection spec next collection = some rows) :
    ∃ fields, fieldOf (stripCollections spec next) collection.head = some (.object fields) := by
  rw [(fieldOf_stripCollections sound next).1 collection member, trimHead, nested]
  dsimp only
  cases isFields : (fieldOf next collection.head).bind JsValue.fields with
  | some fields => exact ⟨_, rfl⟩
  | none =>
    have unread : readPath next collection = none := by
      rw [readPath_eq, readHead, nested]
      dsimp only
      rw [insideOf, isFields, bind_none]
    rw [digestCollection, unread] at held
    cases held

theorem fold_unsplit {name : String} (kept : spec.ignore.any (· = name) = false)
    (outside : objectOf spec name = none) (unsplit : name ∉ spec.splitObjects) :
    fieldOf (stripCollections spec (foldKeyedDoc spec prev delta)) name =
      fieldOf (plainOf spec prev delta) name := by
  by_cases isHead : name ∈ spec.collections.map KeyedCollection.head
  · obtain ⟨collection, member, rfl⟩ := mem_map.mp isHead
    have trimmed := plain_trimmed sound prevProper nextProper isDelta member
    rw [(fieldOf_stripCollections sound _).1 collection member,
      (fieldOf_foldKeyedDoc sound prev delta).1 collection member,
      fieldOf_objectsOf_unsplit sound isDelta unsplit]
    rcases folded isDelta prevRows nextRows member with
      ⟨-, after⟩ | ⟨items, rows, held, after, -⟩
    · rcases after with trim | same
      · rw [trim, trimHead_idem, trimmed]
      · rw [same, trimmed]
    · rw [after]
      cases nested : collection.tail with
      | none => rw [← trimmed, trimHead, trimHead, nested]
      | some tail =>
        have written : ∀ fields : Fields,
            (fieldOf (plainOf spec prev delta) collection.head).bind JsValue.fields = some fields →
              trimHead collection (writeHead collection
                (fieldOf (plainOf spec prev delta) collection.head) (.array items)) =
                  fieldOf (plainOf spec prev delta) collection.head := by
          intro fields isFields
          have whole := trimmed
          rw [trimHead, nested, isFields] at whole
          rw [← whole, writeHead, trimHead, nested]
          dsimp only [bind_some, JsValue.fields, getD_some]
          rw [deleteField_setField, deleteField, deleteField, List.filter_filter]
          simp only [Bool.and_self]
        obtain ⟨nextFields, isNext⟩ := next_isFields sound nested member held
        have nextAt : fieldAt spec next collection.head = sig (.object nextFields) := by
          rw [fieldAt, valueOf_unsplit kept outside unsplit, isNext, bind_some]
        rcases plain_settled sound prevProper nextProper isDelta outside with
          ⟨-, -, value⟩ | ⟨-, gone, -⟩ | ⟨same, value⟩
        · refine written nextFields ?_
          rw [value, valueOf_unsplit kept outside unsplit, isNext]
          rfl
        · rw [nextAt] at gone
          cases gone
        · rw [nextAt, fieldAt, valueOf_unsplit kept outside unsplit] at same
          obtain ⟨shown, isShown, isSig⟩ := bind_eq_some_iff.mp same
          obtain ⟨fields, isFields⟩ := isSome_iff_exists.mp (sig_isFields isSig)
          refine written fields ?_
          rw [value, isShown, bind_some, isFields]
  · rw [(fieldOf_stripCollections sound _).2 name isHead,
      (fieldOf_foldKeyedDoc sound prev delta).2 name isHead,
      fieldOf_objectsOf_unsplit sound isDelta unsplit]

variable {object : String}

theorem fold_inside (isObject : object ∈ spec.splitObjects) (field : String) :
    insideOf (fieldOf (stripCollections spec (foldKeyedDoc spec prev delta)) object) field =
      insideOf (fieldOf (objectsOf spec prev delta) object) field := by
  by_cases isHead : object ∈ spec.collections.map KeyedCollection.head
  · obtain ⟨collection, member, rfl⟩ := mem_map.mp isHead
    obtain ⟨tail, nested⟩ := isSome_iff_exists.mp (sound.nested collection member isObject)
    have unheld := objects_unheld sound prevProper nextProper isDelta member
    rw [readHead, nested] at unheld
    rw [(fieldOf_stripCollections sound _).1 collection member,
      (fieldOf_foldKeyedDoc sound prev delta).1 collection member, insideOf_trimHead nested]
    by_cases here : tail = field
    · rw [if_pos here, ← here]
      exact unheld.symm
    rw [if_neg here]
    rcases folded isDelta prevRows nextRows member with
      ⟨-, trim | same⟩ | ⟨items, rows, -, after, -⟩
    · rw [trim, insideOf_trimHead nested, if_neg here]
    · rw [same]
    · rw [after, writeHead, nested]
      dsimp only
      rw [insideOf, bind_some, JsValue.fields, bind_some, fieldOf_setField,
        if_neg here, fieldOf_getD_fields]
  · rw [(fieldOf_stripCollections sound _).2 object isHead,
      (fieldOf_foldKeyedDoc sound prev delta).2 object isHead]

def ObjectsStay (spec : KeyedDocSpec) (prev next : Fields) : Prop :=
  ∀ object ∈ spec.splitObjects, ∀ field,
    (fieldAt spec prev (joinPath object field)).isSome = true → fieldAt spec next object = none

omit prevRows nextRows in
theorem objects_at (stay : ObjectsStay spec prev next) (isObject : object ∈ spec.splitObjects) :
    (unlessFields (fieldOf (objectsOf spec prev delta) object)).bind sig =
      fieldAt spec next object := by
  have outside := sound.splitOutside object isObject
  have kept := sound.splitKept object isObject
  rcases fieldOf_objectsOf_split sound isDelta isObject with ⟨nonempty, value⟩ | ⟨-, -, value⟩
  · have nextNone : fieldAt spec next object = none := by
      cases isSet : (objectDiff spec prev next object).set with
      | cons entry entries =>
        have listed : entry ∈ (objectDiff spec prev next object).set := by
          rw [isSet]
          exact mem_cons_self
        obtain ⟨-, held, -⟩ := mem_objectSet sound prevProper nextProper listed
        exact fieldAt_of_inside sound isObject held
      | nil =>
        cases isUnset : (objectDiff spec prev next object).unset with
        | nil =>
          rw [isSet, isUnset] at nonempty
          cases nonempty
        | cons field fields =>
          have listed : field ∈ (objectDiff spec prev next object).unset := by
            rw [isUnset]
            exact mem_cons_self
          exact stay object isObject field (mem_objectUnset sound prevProper nextProper listed).1
    rw [value, nextNone]
    rfl
  rw [value]
  rcases plain_settled sound prevProper nextProper isDelta outside with
    ⟨-, -, settled⟩ | ⟨-, gone, settled⟩ | ⟨same, settled⟩
  · rw [settled, fieldAt, valueOf_split kept outside isObject, unlessFields_idem]
  · rw [settled, gone]
    rfl
  · rw [settled, ← same, fieldAt, valueOf_split kept outside isObject]

theorem fold_object (stay : ObjectsStay spec prev next) (isObject : object ∈ spec.splitObjects) :
    fieldAt spec (foldKeyedDoc spec prev delta) object = fieldAt spec next object := by
  have outside := sound.splitOutside object isObject
  have kept := sound.splitKept object isObject
  have settled := objects_at sound prevProper nextProper isDelta stay isObject
  rw [fieldAt, valueOf_split kept outside isObject]
  by_cases isHead : object ∈ spec.collections.map KeyedCollection.head
  · obtain ⟨collection, member, rfl⟩ := mem_map.mp isHead
    obtain ⟨tail, nested⟩ := isSome_iff_exists.mp (sound.nested collection member isObject)
    rw [(fieldOf_stripCollections sound _).1 collection member,
      (fieldOf_foldKeyedDoc sound prev delta).1 collection member, unlessFields_trimHead nested]
    rcases folded isDelta prevRows nextRows member with
      ⟨-, trim | same⟩ | ⟨items, rows, held, after, -⟩
    · rw [trim, unlessFields_trimHead nested, settled]
    · rw [same, settled]
    · obtain ⟨nextFields, isNext⟩ := next_isFields sound nested member held
      rw [after, writeHead, nested, fieldAt, valueOf_split kept outside isObject, isNext]
      rfl
  · rw [(fieldOf_stripCollections sound _).2 object isHead,
      (fieldOf_foldKeyedDoc sound prev delta).2 object isHead, settled]

theorem fold_field {object field path : String} (kept : spec.ignore.any (· = path) = false)
    (inside : objectOf spec path = some (object, field)) :
    fieldAt spec (foldKeyedDoc spec prev delta) path = fieldAt spec next path := by
  obtain ⟨isObject, isPath⟩ := objectOf_some inside
  have outside := sound.splitOutside object isObject
  have atPath : ∀ doc, valueOf spec doc path =
      insideOf (fieldOf (stripCollections spec doc) object) field :=
    fun doc => valueOf_inside kept inside
  rw [fieldAt, atPath, fold_inside sound prevProper nextProper isDelta prevRows nextRows isObject]
  have settled := object_settled sound prevProper nextProper isDelta isObject field
  rw [← isPath] at settled
  rcases settled with ⟨-, -, value⟩ | ⟨-, gone, value⟩ | ⟨same, value⟩
  · rw [value]
    rfl
  · rw [value, gone]
    rfl
  rw [value]
  have atObject : ∀ doc, valueOf spec doc object =
      unlessFields (fieldOf (stripCollections spec doc) object) :=
    fun doc => valueOf_split (sound.splitKept object isObject) outside isObject
  rcases plain_settled sound prevProper nextProper isDelta outside with
    ⟨found, -, plain⟩ | ⟨held, -, plain⟩ | ⟨-, plain⟩
  · rw [plain, atObject, insideOf_unlessFields, fieldAt, atPath]
    rw [fieldAt, atObject] at found
    have nonrecord : unlessFields (fieldOf (stripCollections spec next) object) ≠ none := by
      intro isNone
      rw [isNone] at found
      cases found
    rw [insideOf_of_unlessFields nonrecord]
  · rw [plain, ← same, fieldAt, atPath]
    rw [fieldAt, atObject] at held
    have nonrecord : unlessFields (fieldOf (stripCollections spec prev) object) ≠ none := by
      intro isNone
      rw [isNone] at held
      cases held
    rw [insideOf_of_unlessFields nonrecord]
    rfl
  · rw [plain, ← same, fieldAt, atPath]

theorem fold_fieldAt (stay : ObjectsStay spec prev next) (path : String) :
    fieldAt spec (foldKeyedDoc spec prev delta) path = fieldAt spec next path := by
  cases kept : spec.ignore.any (· = path) with
  | true => rw [fieldAt, fieldAt, valueOf_ignored kept, valueOf_ignored kept]
  | false =>
    cases inside : objectOf spec path with
    | some found =>
      exact fold_field sound prevProper nextProper isDelta prevRows nextRows kept inside
    | none =>
      by_cases isObject : path ∈ spec.splitObjects
      · exact fold_object sound prevProper nextProper isDelta prevRows nextRows stay isObject
      rw [fieldAt, valueOf_unsplit kept inside isObject,
        fold_unsplit sound prevProper nextProper isDelta prevRows nextRows kept inside
          isObject]
      rcases plain_settled sound prevProper nextProper isDelta inside with
        ⟨-, -, value⟩ | ⟨-, gone, value⟩ | ⟨same, value⟩
      · rw [value]
        rfl
      · rw [value, gone]
        rfl
      · rw [value, ← same, fieldAt, valueOf_unsplit kept inside isObject]

omit sound prevProper nextProper isDelta prevRows nextRows in
theorem afterFold_isFields (nested : collection.tail = some tail)
    (isFields : (value.bind JsValue.fields).isSome = true) :
    ((afterFold prev delta collection value).bind JsValue.fields).isSome = true := by
  obtain ⟨fields, isFields⟩ := isSome_iff_exists.mp isFields
  have writes : ∀ list, ((writeHead collection value list).bind JsValue.fields).isSome = true := by
    intro list
    rw [writeHead, nested]
    rfl
  rw [afterFold]
  cases delta.collections collection with
  | some change =>
    dsimp only
    split_ifs
    · rw [trimHead, nested]
      dsimp only
      rw [isFields]
      rfl
    · exact writes _
  | none =>
    dsimp only
    cases readPath prev collection with
    | none =>
      dsimp only
      rw [isFields]
      rfl
    | some list =>
      cases list with
      | undefined =>
        dsimp only
        rw [isFields]
        rfl
      | _ => exact writes _

omit prevRows nextRows in
theorem stay_of_fold {object field : String} (isObject : object ∈ spec.splitObjects)
    (agree : fieldAt spec (foldKeyedDoc spec prev delta) object = fieldAt spec next object)
    (held : (fieldAt spec prev (joinPath object field)).isSome = true) :
    fieldAt spec next object = none := by
  have outside := sound.splitOutside object isObject
  have kept := sound.splitKept object isObject
  by_contra replaced
  have nonrecord : unlessFields (fieldOf (stripCollections spec next) object) ≠ none := by
    intro isNone
    rw [fieldAt, valueOf_split kept outside isObject, isNone] at replaced
    exact replaced rfl
  have gone : fieldAt spec next (joinPath object field) = none := by
    cases fieldKept : spec.ignore.any (· = joinPath object field) with
    | true => rw [fieldAt, valueOf_ignored fieldKept, bind_none]
    | false =>
      rw [fieldAt, valueOf_inside fieldKept (sound.inObject object isObject field),
        insideOf_of_unlessFields nonrecord, bind_none]
  have differs : fieldAt spec prev (joinPath object field) ≠
      fieldAt spec next (joinPath object field) := by
    rw [gone]
    exact isSome_iff_ne_none.mp held
  have isFields : ((fieldOf (objectsOf spec prev delta) object).bind JsValue.fields).isSome =
      true := by
    rcases fieldOf_objectsOf_split sound isDelta isObject with ⟨-, value⟩ | ⟨noSet, noUnset, -⟩
    · rw [value]
      rfl
    rcases object_differs sound prevProper nextProper isObject differs with
      ⟨entry, listed, -⟩ | listed
    · rw [noSet] at listed
      cases listed
    · rw [noUnset] at listed
      cases listed
  have isNone : unlessFields
      (fieldOf (stripCollections spec (foldKeyedDoc spec prev delta)) object) = none := by
    by_cases isHead : object ∈ spec.collections.map KeyedCollection.head
    · obtain ⟨collection, member, rfl⟩ := mem_map.mp isHead
      obtain ⟨tail, nested⟩ := isSome_iff_exists.mp (sound.nested collection member isObject)
      rw [(fieldOf_stripCollections sound _).1 collection member, unlessFields_trimHead nested,
        (fieldOf_foldKeyedDoc sound prev delta).1 collection member]
      exact if_pos (afterFold_isFields nested isFields)
    rw [(fieldOf_stripCollections sound _).2 object isHead,
      (fieldOf_foldKeyedDoc sound prev delta).2 object isHead]
    exact if_pos isFields
  rw [fieldAt, valueOf_split kept outside isObject, isNone] at agree
  exact replaced agree.symm

/-! ## The presence of split objects -/

omit prevProper nextProper isDelta prevRows nextRows in
theorem isObject_strip (isObject : object ∈ spec.splitObjects) :
    ((fieldOf (stripCollections spec doc) object).bind JsValue.fields).isSome =
      isObjectAt doc object := by
  rw [isObjectAt]
  by_cases isHead : object ∈ spec.collections.map KeyedCollection.head
  · obtain ⟨collection, member, rfl⟩ := mem_map.mp isHead
    obtain ⟨tail, nested⟩ := isSome_iff_exists.mp (sound.nested collection member isObject)
    rw [(fieldOf_stripCollections sound doc).1 collection member, trimHead, nested]
    dsimp only
    cases isFields : (fieldOf doc collection.head).bind JsValue.fields with
    | none => rw [isFields]
    | some fields => rfl
  · rw [(fieldOf_stripCollections sound doc).2 object isHead]

omit prevProper nextProper isDelta prevRows nextRows in
theorem fieldAt_object (isObject : object ∈ spec.splitObjects)
    (present : isObjectAt doc object = true) : fieldAt spec doc object = none := by
  rw [fieldAt, valueOf_split (sound.splitKept object isObject)
    (sound.splitOutside object isObject) isObject, unlessFields, isObject_strip sound isObject,
    if_pos present, bind_none]

omit prevProper nextProper isDelta prevRows nextRows in
theorem isObjectAt_of_field {field : String} (isObject : object ∈ spec.splitObjects)
    (held : (fieldAt spec doc (joinPath object field)).isSome = true) :
    isObjectAt doc object = true := by
  obtain ⟨text, isText⟩ := isSome_iff_exists.mp held
  obtain ⟨value, isValue, -⟩ := bind_eq_some_iff.mp isText
  rw [valueOf, sound.inObject object isObject field] at isValue
  dsimp only at isValue
  split_ifs at isValue
  obtain ⟨fields, isFields, -⟩ := bind_eq_some_iff.mp isValue
  rw [← isObject_strip sound isObject, isFields]
  rfl

omit prevProper nextProper isDelta prevRows nextRows in
theorem isObjectAt_of_collection (isObject : collection.head ∈ spec.splitObjects)
    (member : collection ∈ spec.collections)
    (held : (digestCollection spec doc collection).isSome = true) :
    isObjectAt doc collection.head = true := by
  obtain ⟨tail, nested⟩ := isSome_iff_exists.mp (sound.nested collection member isObject)
  obtain ⟨rows, isRows⟩ := isSome_iff_exists.mp held
  obtain ⟨fields, isFields⟩ := next_isFields sound nested member isRows
  rw [← isObject_strip sound isObject, isFields]
  rfl

omit prevRows nextRows in
/-- An object that both documents have, or that only goes, is there after the fold. -/
theorem fold_keeps_object (isObject : object ∈ spec.splitObjects)
    (held : isObjectAt prev object = true) (nextNone : fieldAt spec next object = none) :
    isObjectAt (foldKeyedDoc spec prev delta) object = true := by
  have outside := sound.splitOutside object isObject
  have plain : ((fieldOf (plainOf spec prev delta) object).bind JsValue.fields).isSome = true := by
    rcases plain_settled sound prevProper nextProper isDelta outside with
      ⟨found, -, -⟩ | ⟨found, -, -⟩ | ⟨-, value⟩
    · rw [nextNone] at found
      cases found
    · rw [fieldAt_object sound isObject held] at found
      cases found
    · rw [value, isObject_strip sound isObject, held]
  have inObjects :
      ((fieldOf (objectsOf spec prev delta) object).bind JsValue.fields).isSome = true := by
    rcases fieldOf_objectsOf_split sound isDelta isObject with ⟨-, value⟩ | ⟨-, -, value⟩
    · rw [value]
      rfl
    · rw [value, plain]
  rw [isObjectAt]
  by_cases isHead : object ∈ spec.collections.map KeyedCollection.head
  · obtain ⟨collection, member, rfl⟩ := mem_map.mp isHead
    obtain ⟨tail, nested⟩ := isSome_iff_exists.mp (sound.nested collection member isObject)
    rw [(fieldOf_foldKeyedDoc sound prev delta).1 collection member]
    exact afterFold_isFields nested inObjects
  · rw [(fieldOf_foldKeyedDoc sound prev delta).2 object isHead, inObjects]

/-- An object with nothing in it to send is not there after the fold unless it was before. -/
theorem fold_makes_no_object (isObject : object ∈ spec.splitObjects)
    (absent : isObjectAt prev object = false)
    (noFields : ∀ field, fieldAt spec next (joinPath object field) = none)
    (noRows : ∀ collection ∈ spec.collections, collection.head = object →
      digestCollection spec next collection = none) :
    isObjectAt (foldKeyedDoc spec prev delta) object = false := by
  have outside := sound.splitOutside object isObject
  have kept := sound.splitKept object isObject
  have prevNone : ∀ field, fieldAt spec prev (joinPath object field) = none := by
    intro field
    by_contra held
    have present := isObjectAt_of_field sound isObject (isSome_iff_ne_none.mpr held)
    rw [absent] at present
    cases present
  have inPlain : (fieldOf (plainOf spec prev delta) object).bind JsValue.fields = none := by
    rcases plain_settled sound prevProper nextProper isDelta outside with
      ⟨-, -, value⟩ | ⟨-, -, value⟩ | ⟨-, value⟩
    · rw [value, valueOf_split kept outside isObject, unlessFields]
      split_ifs with isFields
      · rfl
      · exact not_isSome_iff_eq_none.mp isFields
    · rw [value]
      rfl
    · rw [value, ← not_isSome_iff_eq_none, isObject_strip sound isObject, absent]
      exact Bool.false_ne_true
  have inObjects : (fieldOf (objectsOf spec prev delta) object).bind JsValue.fields = none := by
    rcases fieldOf_objectsOf_split sound isDelta isObject with ⟨nonempty, -⟩ | ⟨-, -, value⟩
    · have noSet : (objectDiff spec prev next object).set = [] := by
        refine eq_nil_iff_forall_not_mem.mpr fun entry listed => ?_
        have found := (mem_objectSet sound prevProper nextProper listed).2.1
        rw [noFields] at found
        cases found
      have noUnset : (objectDiff spec prev next object).unset = [] := by
        refine eq_nil_iff_forall_not_mem.mpr fun field listed => ?_
        have found := (mem_objectUnset sound prevProper nextProper listed).1
        rw [prevNone] at found
        cases found
      rw [noSet, noUnset] at nonempty
      cases nonempty
    · rw [value, inPlain]
  rw [isObjectAt]
  by_cases isHead : object ∈ spec.collections.map KeyedCollection.head
  · obtain ⟨collection, member, rfl⟩ := mem_map.mp isHead
    obtain ⟨tail, nested⟩ := isSome_iff_exists.mp (sound.nested collection member isObject)
    have nextNone := noRows collection member rfl
    rw [(fieldOf_foldKeyedDoc sound prev delta).1 collection member]
    rcases folded isDelta prevRows nextRows member with
      ⟨-, trim | same⟩ | ⟨items, rows, held, -, -⟩
    · rw [trim, trimHead, nested]
      dsimp only
      rw [inObjects]
      dsimp only
      rw [inObjects]
      rfl
    · rw [same, inObjects]
      rfl
    · rw [nextNone] at held
      cases held
  · rw [(fieldOf_foldKeyedDoc sound prev delta).2 object isHead, inObjects]
    rfl

end Fold

/-! ## Round trip -/

theorem isSome_of_rel {α β : Type} {related : α → β → Prop} {one : Option α} {other : Option β}
    (agree : Option.Rel related one other) : one.isSome = other.isSome := by
  cases agree with
  | some => rfl
  | none => rfl

/-- Where one document has an object and the other none, the change is one that is sent. -/
structure ObjectShown (spec : KeyedDocSpec) (prev next : Fields) (object : String) : Prop where
  goes : isObjectAt prev object = true → isObjectAt next object = false →
    (fieldAt spec next object).isSome = true
  comes : isObjectAt prev object = false → isObjectAt next object = true →
    (∃ field, (fieldAt spec next (joinPath object field)).isSome = true) ∨
      ∃ collection ∈ spec.collections, collection.head = object ∧
        (digestCollection spec next collection).isSome = true

structure DocsAgree (spec : KeyedDocSpec) (one two : Fields) : Prop where
  fields : ∀ path, isVolatile spec path = false → fieldAt spec one path = fieldAt spec two path
  objects : ∀ object ∈ spec.splitObjects, isObjectAt one object = isObjectAt two object
  rows : ∀ collection ∈ spec.collections,
    Option.Rel RowsAgree (digestCollection spec one collection)
      (digestCollection spec two collection)

def RoundTrips (spec : KeyedDocSpec) (prev next : Fields) : Prop :=
  (∀ delta, diffKeyedDoc spec (digestKeyedDoc spec prev) (digestKeyedDoc spec next) = some delta →
      DocsAgree spec (foldKeyedDoc spec prev delta) next) ∧
    (diffKeyedDoc spec (digestKeyedDoc spec prev) (digestKeyedDoc spec next) = none →
      DocsAgree spec prev next)

section Whole

variable (sound : SpecSound spec) (prevProper : ProperDoc spec prev)
  (nextProper : ProperDoc spec next) (prevRows : ProperRows spec prev)
  (nextRows : ProperRows spec next)

include sound prevProper nextProper in
theorem fields_of_no_diff
    (diff : diffKeyedDoc spec (digestKeyedDoc spec prev) (digestKeyedDoc spec next) = none)
    (shown : isVolatile spec path = false) : fieldAt spec prev path = fieldAt spec next path := by
  rw [diffKeyedDoc] at diff
  dsimp only at diff
  split at diff
  · cases diff
  rename_i quiet
  rw [Bool.or_eq_true, Bool.or_eq_true, not_or, not_or] at quiet
  by_contra differs
  cases found : fieldAt spec next path with
  | some text =>
    obtain ⟨entry, member, rfl⟩ := changed_of_differs sound prevProper nextProper found differs
    refine quiet.1.1 (any_eq_true.mpr ⟨entry, member, ?_⟩)
    rw [shown]
    rfl
  | none =>
    rw [found] at differs
    refine quiet.1.2 (any_eq_true.mpr ⟨path,
      (mem_lostTop sound prevProper nextProper).mpr
        ⟨isSome_iff_ne_none.mpr differs, found⟩, ?_⟩)
    rw [shown]
    rfl

theorem collection_of_no_diff
    (diff : diffKeyedDoc spec (digestKeyedDoc spec prev) (digestKeyedDoc spec next) = none)
    (member : collection ∈ spec.collections) :
    diffCollection collection.idField (digestCollection spec prev collection)
      (digestCollection spec next collection) = none := by
  rw [diffKeyedDoc] at diff
  dsimp only at diff
  split at diff
  · cases diff
  rename_i quiet
  rw [Bool.or_eq_true, not_or] at quiet
  by_contra changed
  exact quiet.2 (any_eq_true.mpr ⟨collection, member, isSome_iff_ne_none.mpr changed⟩)

include prevRows nextRows in
theorem rows_of_no_diff (member : collection ∈ spec.collections)
    (change : diffCollection collection.idField (digestCollection spec prev collection)
      (digestCollection spec next collection) = none) :
    Option.Rel RowsAgree (digestCollection spec prev collection)
      (digestCollection spec next collection) ↔ CollectionFolds spec prev next collection := by
  rcases digest_proper prevRows member with
    ⟨prevNone, -, -⟩ | ⟨prevItems, prevHeld, -, prevTo, prevSome⟩
  · rcases digest_proper nextRows member with ⟨nextNone, -, -⟩ | ⟨_, nextHeld, -, nextTo, nextSome⟩
    · rw [prevNone, nextNone]
      refine iff_of_true .none ⟨?_, ?_⟩
      · intro _ _ nextHeld found
        rw [nextNone] at found
        cases found
      intro _
      rw [nextNone]
      exact (some_ne_none _).symm
    rw [prevNone, nextSome] at change
    rcases diffCollection_some _ change nextTo.ids_plain with
      ⟨-, ids, -, -⟩ | ⟨difference, isChange, -⟩
    · have noRows : nextHeld = [] := map_eq_nil_iff.mp ids.symm
      rw [noRows] at nextSome
      refine iff_of_false ?_ fun folds => folds.appear prevNone nextSome
      rw [prevNone, nextSome]
      intro agree
      cases agree
    · cases isChange
  · rcases digest_proper nextRows member with
      ⟨nextNone, -, -⟩ | ⟨nextItems, nextHeld, -, nextTo, nextSome⟩
    · rw [prevSome, nextNone] at change
      cases change
    · rw [prevSome, nextSome] at change
      rw [collectionFolds_iff prevSome nextSome, ← unchanged_agrees prevTo nextTo change, prevSome,
        nextSome]
      constructor
      · intro related
        cases related with
        | some agree => exact agree
      · exact .some

theorem shown_of_agree (agree : DocsAgree spec prev next) {object : String}
    (isObject : object ∈ spec.splitObjects) : ObjectShown spec prev next object := by
  have same := agree.objects object isObject
  constructor
  · intro held gone
    rw [held, gone] at same
    cases same
  intro absent held
  rw [absent, held] at same
  cases same

include sound prevProper nextProper prevRows nextRows in
theorem shown_of_fold (isDelta : DeltaOf spec prev next delta)
    (agree : DocsAgree spec (foldKeyedDoc spec prev delta) next) {object : String}
    (isObject : object ∈ spec.splitObjects) : ObjectShown spec prev next object := by
  have same := agree.objects object isObject
  constructor
  · intro held gone
    by_contra unsent
    rw [fold_keeps_object sound prevProper nextProper isDelta isObject held
      (not_isSome_iff_eq_none.mp unsent), gone] at same
    cases same
  intro absent held
  by_contra unsent
  rw [not_or] at unsent
  rw [fold_makes_no_object sound prevProper nextProper isDelta prevRows nextRows isObject absent
    (fun field => not_isSome_iff_eq_none.mp fun found => unsent.1 ⟨field, found⟩)
    (fun collection member here => not_isSome_iff_eq_none.mp fun found =>
      unsent.2 ⟨collection, member, here, found⟩), held] at same
  cases same

include sound prevProper nextProper prevRows nextRows in
theorem fold_objects (isDelta : DeltaOf spec prev next delta)
    (stay : ObjectsStay spec prev next) (folds : ∀ collection ∈ spec.collections,
      CollectionFolds spec prev next collection) {object : String}
    (isObject : object ∈ spec.splitObjects) (shown : ObjectShown spec prev next object) :
    isObjectAt (foldKeyedDoc spec prev delta) object = isObjectAt next object := by
  have fields := fold_fieldAt sound prevProper nextProper isDelta prevRows nextRows stay
  cases isNext : isObjectAt next object with
  | true =>
    cases isPrev : isObjectAt prev object with
    | true =>
      exact fold_keeps_object sound prevProper nextProper isDelta isObject isPrev
        (fieldAt_object sound isObject isNext)
    | false =>
      rcases shown.comes isPrev isNext with ⟨field, found⟩ | ⟨collection, member, rfl, found⟩
      · refine @isObjectAt_of_field _ _ sound _ field isObject ?_
        rw [fields, found]
      refine isObjectAt_of_collection sound isObject member ?_
      have agree := (fold_collection sound prevProper nextProper isDelta prevRows nextRows
        member).mpr (folds collection member)
      rw [isSome_of_rel agree, found]
  | false =>
    cases isPrev : isObjectAt prev object with
    | true =>
      have found := shown.goes isPrev isNext
      rw [← fields] at found
      by_contra present
      rw [fieldAt_object sound isObject (Bool.eq_true_of_not_eq_false present)] at found
      cases found
    | false =>
      refine fold_makes_no_object sound prevProper nextProper isDelta prevRows nextRows isObject
        isPrev (fun field => ?_) fun collection member here => ?_
      · by_contra held
        have present := isObjectAt_of_field sound isObject (isSome_iff_ne_none.mpr held)
        rw [isNext] at present
        cases present
      · by_contra held
        have present := isObjectAt_of_collection sound (here ▸ isObject) member
          (isSome_iff_ne_none.mpr held)
        rw [here, isNext] at present
        cases present

include sound in
theorem objects_of_no_diff
    (fields : ∀ path, isVolatile spec path = false → fieldAt spec prev path =
      fieldAt spec next path)
    (rows : ∀ collection ∈ spec.collections, Option.Rel RowsAgree
      (digestCollection spec prev collection) (digestCollection spec next collection))
    {object : String} (isObject : object ∈ spec.splitObjects)
    (shown : ObjectShown spec prev next object) :
    isObjectAt prev object = isObjectAt next object := by
  cases isPrev : isObjectAt prev object with
  | true =>
    by_contra gone
    have found := shown.goes isPrev (Bool.eq_false_of_not_eq_true (Ne.symm gone))
    rw [← fields object (sound.splitShown object isObject),
      fieldAt_object sound isObject isPrev] at found
    cases found
  | false =>
    by_contra comes
    have isNext := Bool.eq_true_of_not_eq_false (Ne.symm comes)
    have present : isObjectAt prev object = true := by
      rcases shown.comes isPrev isNext with ⟨field, found⟩ | ⟨collection, member, rfl, found⟩
      · refine @isObjectAt_of_field _ _ sound _ field isObject ?_
        rw [fields _ (sound.insideShown object isObject field), found]
      · refine isObjectAt_of_collection sound isObject member ?_
        rw [isSome_of_rel (rows collection member), found]
    rw [isPrev] at present
    cases present

include sound prevProper nextProper prevRows nextRows in
theorem roundTrips_iff : RoundTrips spec prev next ↔
    (∀ collection ∈ spec.collections, CollectionFolds spec prev next collection) ∧
      ObjectsStay spec prev next ∧
        ∀ object ∈ spec.splitObjects, ObjectShown spec prev next object := by
  constructor
  · intro trips
    cases diff : diffKeyedDoc spec (digestKeyedDoc spec prev) (digestKeyedDoc spec next) with
    | none =>
      have agree := trips.2 diff
      refine ⟨?_, ?_, fun object => shown_of_agree agree⟩
      · intro collection member
        exact (rows_of_no_diff prevRows nextRows member (collection_of_no_diff diff member)).mp
          (agree.rows collection member)
      intro object isObject field held
      rw [← agree.fields object (sound.splitShown object isObject)]
      exact fieldAt_of_inside sound isObject held
    | some delta =>
      have isDelta := deltaOf_diff sound prevProper nextProper diff
      have agree := trips.1 delta diff
      refine ⟨?_, ?_, fun object => shown_of_fold sound prevProper nextProper prevRows nextRows
        isDelta agree⟩
      · intro collection member
        exact (fold_collection sound prevProper nextProper isDelta prevRows nextRows member).mp
          (agree.rows collection member)
      · intro object isObject field held
        exact stay_of_fold sound prevProper nextProper isDelta isObject
          (agree.fields object (sound.splitShown object isObject)) held
  · rintro ⟨folds, stay, shown⟩
    constructor
    · intro delta diff
      have isDelta := deltaOf_diff sound prevProper nextProper diff
      constructor
      · intro path _
        exact fold_fieldAt sound prevProper nextProper isDelta prevRows nextRows stay path
      · intro object isObject
        exact fold_objects sound prevProper nextProper prevRows nextRows isDelta stay folds isObject
          (shown object isObject)
      intro collection member
      exact (fold_collection sound prevProper nextProper isDelta prevRows nextRows member).mpr
        (folds collection member)
    intro diff
    have fields : ∀ path, isVolatile spec path = false →
        fieldAt spec prev path = fieldAt spec next path :=
      fun path => fields_of_no_diff sound prevProper nextProper diff
    have rows : ∀ collection ∈ spec.collections, Option.Rel RowsAgree
        (digestCollection spec prev collection) (digestCollection spec next collection) :=
      fun collection member =>
        (rows_of_no_diff prevRows nextRows member (collection_of_no_diff diff member)).mpr
          (folds collection member)
    exact ⟨fields, fun object isObject => objects_of_no_diff sound fields rows isObject
      (shown object isObject), rows⟩

end Whole

end Adhdev.KeyedDoc
