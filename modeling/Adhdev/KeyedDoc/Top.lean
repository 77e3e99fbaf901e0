import Adhdev.KeyedDoc.Rows

/-! # The fields of a document outside its collections -/

namespace Adhdev.KeyedDoc

open List KeyedMap

/-! ## Paths -/

theorem stripPrefix_append (one other : List Char) : stripPrefix one (one ++ other) =
    some other := by
  induction one with
  | nil => rfl
  | cons character one induction =>
    rw [cons_append, stripPrefix, if_pos rfl]
    exact induction

theorem stripPrefix_some {one whole rest : List Char} (found : stripPrefix one whole = some rest) :
    whole = one ++ rest := by
  induction one generalizing whole with
  | nil =>
    cases found
    rfl
  | cons character one induction =>
    cases whole with
    | nil => cases found
    | cons other whole =>
      rw [stripPrefix] at found
      split_ifs at found with same
      rw [induction found, same, cons_append]

variable {spec : KeyedDocSpec}

theorem objectOf_some {path object field : String}
    (inside : objectOf spec path = some (object, field)) :
    object ∈ spec.splitObjects ∧ path = joinPath object field := by
  obtain ⟨candidate, member, found⟩ := exists_of_findSome?_eq_some inside
  obtain ⟨rest, stripped, same⟩ := Option.map_eq_some_iff.mp found
  obtain ⟨rfl, rfl⟩ := Prod.mk.inj same
  refine ⟨member, String.toList_injective ?_⟩
  rw [stripPrefix_some stripped, joinPath, String.toList_append, String.toList_append,
    String.toList_append]
  exact congrArg _ String.toList_ofList.symm

/-- What is asked of a specification: paths are told apart, and collections are at fields of their
own. -/
structure SpecSound (spec : KeyedDocSpec) : Prop where
  inObject : ∀ object ∈ spec.splitObjects, ∀ field,
    objectOf spec (joinPath object field) = some (object, field)
  objects : spec.splitObjects.Nodup
  heads : (spec.collections.map KeyedCollection.head).Nodup
  splitOutside : ∀ object ∈ spec.splitObjects, objectOf spec object = none
  splitKept : ∀ object ∈ spec.splitObjects, spec.ignore.any (· = object) = false
  splitShown : ∀ object ∈ spec.splitObjects, isVolatile spec object = false
  insideShown : ∀ object ∈ spec.splitObjects, ∀ field,
    isVolatile spec (joinPath object field) = false
  headsOutside : ∀ collection ∈ spec.collections, objectOf spec collection.head = none
  nested : ∀ collection ∈ spec.collections, collection.head ∈ spec.splitObjects →
    collection.tail.isSome = true

/-! ## Documents without their collections -/

variable {fields : Fields}

theorem deleteField_absent {name : String} (absent : hasField fields name = false) :
    deleteField fields name = fields := by
  rw [deleteField, filter_eq_self]
  intro entry member
  rw [decide_eq_true_eq]
  rintro rfl
  have found : (lookup Prod.fst fields entry.1).isSome = true := lookup_isSome_of_mem member
  rw [hasField, fieldOf, Option.isSome_map] at absent
  rw [absent] at found
  cases found

theorem deleteField_setField (fields : Fields) (name : String) (value : JsValue) :
    deleteField (setField fields name value) name = deleteField fields name := by
  induction fields with
  | nil => simp [deleteField, setField, insertEntry]
  | cons entry fields induction =>
    rw [deleteField, setField] at induction ⊢
    rw [insertEntry]
    by_cases here : entry.1 = name
    · simp [deleteField, here]
    · rw [if_neg here, deleteField, filter_cons, filter_cons, induction]
      rfl

def trimHead (collection : KeyedCollection) (value : Option JsValue) : Option JsValue :=
  match collection.tail with
  | none => none
  | some tail =>
    match value.bind JsValue.fields with
    | none => value
    | some parent => some (.object (deleteField parent tail))

variable {value : JsValue}

theorem fields_some (found : value.fields = some fields) : value = .object fields := by
  cases value with
  | object inside =>
    cases found
    rfl
  | _ => cases found

theorem bind_fields_some {value : Option JsValue}
    (found : value.bind JsValue.fields = some fields) : value = some (.object fields) := by
  obtain ⟨inside, rfl, isFields⟩ := Option.bind_eq_some_iff.mp found
  rw [fields_some isFields]

theorem fieldOf_stripCollection (doc : Fields) (collection : KeyedCollection) (name : String) :
    fieldOf (stripCollection doc collection) name =
      if collection.head = name then trimHead collection (fieldOf doc name)
      else fieldOf doc name := by
  rw [stripCollection, trimHead]
  cases collection.tail with
  | none => exact fieldOf_deleteField _ _ _
  | some tail =>
    dsimp only
    cases parent : (fieldOf doc collection.head).bind JsValue.fields with
    | none =>
      dsimp only
      by_cases here : collection.head = name
      · rw [if_pos here, ← here, parent]
      · rw [if_neg here]
    | some fields =>
      dsimp only
      by_cases held : hasField fields tail = true
      · rw [if_pos held, fieldOf_setField]
        by_cases here : collection.head = name
        · rw [if_pos here, if_pos here, ← here, parent]
        · rw [if_neg here, if_neg here]
      rw [if_neg held]
      by_cases here : collection.head = name
      · rw [if_pos here, ← here, parent]
        dsimp only
        rw [deleteField_absent (Bool.eq_false_of_not_eq_true held), bind_fields_some parent]
      · rw [if_neg here]

theorem trimHead_idem (collection : KeyedCollection) (value : Option JsValue) :
    trimHead collection (trimHead collection value) = trimHead collection value := by
  rw [trimHead, trimHead]
  cases collection.tail with
  | none => rfl
  | some tail =>
    dsimp only
    cases parent : value.bind JsValue.fields with
    | none =>
      dsimp only
      rw [parent]
    | some fields =>
      have twice : deleteField (deleteField fields tail) tail = deleteField fields tail := by
        rw [deleteField, deleteField, filter_filter]
        simp only [Bool.and_self]
      dsimp only [Option.bind_some, JsValue.fields]
      rw [twice]

theorem fieldOf_stripCollections (sound : SpecSound spec) (doc : Fields) :
    (∀ collection ∈ spec.collections, fieldOf (stripCollections spec doc) collection.head =
      trimHead collection (fieldOf doc collection.head)) ∧
    ∀ name, name ∉ spec.collections.map KeyedCollection.head →
      fieldOf (stripCollections spec doc) name = fieldOf doc name :=
  @foldl_at _ _ _ _ _ fieldOf stripCollection KeyedCollection.head trimHead spec.collections
    (fun state collection _ name => fieldOf_stripCollection state collection name) sound.heads doc

/-! ## The field at a path -/

def valueOf (spec : KeyedDocSpec) (doc : Fields) (path : String) : Option JsValue :=
  if spec.ignore.any (· = path) then none
  else
    match objectOf spec path with
    | some inside =>
      ((fieldOf (stripCollections spec doc) inside.1).bind JsValue.fields).bind fun fields =>
        fieldOf fields inside.2
    | none =>
      if spec.splitObjects.any (· = path) &&
          ((fieldOf (stripCollections spec doc) path).bind JsValue.fields).isSome then none
      else fieldOf (stripCollections spec doc) path

def fieldAt (spec : KeyedDocSpec) (doc : Fields) (path : String) : Option JsonText :=
  (valueOf spec doc path).bind sig

/-- A document whose objects have each name once and none `__proto__`, and whose names do not
look like paths into a split object. -/
structure ProperDoc (spec : KeyedDocSpec) (doc : Fields) : Prop where
  unique : UniqueNames (stripCollections spec doc)
  names : ∀ entry ∈ stripCollections spec doc, objectOf spec entry.1 = none
  plain : ∀ entry ∈ stripCollections spec doc, entry.1 ≠ "__proto__"
  splitPlain : ∀ object ∈ spec.splitObjects, ∀ fields,
    fieldOf (stripCollections spec doc) object = some (.object fields) →
      ∀ entry ∈ fields, entry.1 ≠ "__proto__"
  splitUnique : ∀ object ∈ spec.splitObjects, ∀ fields,
    fieldOf (stripCollections spec doc) object = some (.object fields) → UniqueNames fields

variable {entry : TopEntry}

variable {path : String}

theorem mem_addTop :
    entry ∈ addTop spec path value ↔ spec.ignore.any (· = path) = false ∧
      sig value = some entry.sig ∧ entry.path = path ∧ entry.value = value := by
  rw [addTop]
  cases ignored : spec.ignore.any (· = path) with
  | true =>
    rw [if_pos rfl]
    constructor
    · intro member
      cases member
    · rintro ⟨same, -⟩
      cases same
  | false =>
    rw [if_neg Bool.false_ne_true, and_iff_right rfl]
    cases text : sig value with
    | none =>
      constructor
      · intro member
        cases member
      · rintro ⟨same, -⟩
        cases same
    | some shown =>
      constructor
      · intro member
        rw [mem_singleton.mp member]
        exact ⟨rfl, rfl, rfl⟩
      rintro ⟨same, rfl, rfl⟩
      cases same
      exact mem_cons_self

theorem mem_of_fieldOf {name : String} (found : fieldOf fields name = some value) :
    (name, value) ∈ fields := by
  obtain ⟨entry, isEntry, rfl⟩ := Option.map_eq_some_iff.mp found
  have label : entry.1 = name := label_of_lookup isEntry
  rw [← label]
  exact mem_of_lookup isEntry

section Proper

variable {doc : Fields}

theorem mem_topEntries (sound : SpecSound spec) (proper : ProperDoc spec doc) :
    entry ∈ (stripCollections spec doc).flatMap (topEntries spec) ↔
      valueOf spec doc entry.path = some entry.value ∧ sig entry.value = some entry.sig := by
  rw [mem_flatMap]
  constructor
  · rintro ⟨⟨name, value⟩, member, listed⟩
    have here : fieldOf (stripCollections spec doc) name = some value :=
      fieldOf_of_mem proper.unique member
    have outside : objectOf spec name = none := proper.names _ member
    rw [topEntries] at listed
    dsimp only at listed
    cases isSplit : spec.splitObjects.any (· = name) with
    | false =>
      rw [isSplit, if_neg Bool.false_ne_true] at listed
      obtain ⟨kept, isSig, isPath, isValue⟩ := mem_addTop.mp listed
      refine ⟨?_, isValue ▸ isSig⟩
      rw [isPath, valueOf, kept, if_neg Bool.false_ne_true, outside]
      dsimp only
      rw [isSplit, Bool.false_and, if_neg Bool.false_ne_true, here, isValue]
    | true =>
      rw [isSplit, if_pos rfl] at listed
      cases isFields : value.fields with
      | none =>
        rw [isFields] at listed
        obtain ⟨kept, isSig, isPath, isValue⟩ := mem_addTop.mp listed
        refine ⟨?_, isValue ▸ isSig⟩
        rw [isPath, valueOf, kept, if_neg Bool.false_ne_true, outside]
        dsimp only
        rw [isSplit, Bool.true_and, here, Option.bind_some, isFields, Option.isSome_none,
          if_neg Bool.false_ne_true, isValue]
      | some fields =>
        rw [isFields] at listed
        obtain ⟨⟨field, inner⟩, isField, listed⟩ := mem_flatMap.mp listed
        obtain ⟨kept, isSig, isPath, isValue⟩ := mem_addTop.mp listed
        obtain ⟨object, isObject, same⟩ := any_eq_true.mp isSplit
        obtain rfl := of_decide_eq_true same
        have innerUnique : UniqueNames fields :=
          proper.splitUnique object isObject fields (here.trans (fields_some isFields ▸ rfl))
        refine ⟨?_, isValue ▸ isSig⟩
        rw [isPath, valueOf, kept, if_neg Bool.false_ne_true, sound.inObject object isObject]
        dsimp only
        rw [here, Option.bind_some, isFields, Option.bind_some,
          fieldOf_of_mem innerUnique isField, isValue]
  · rintro ⟨isValue, isSig⟩
    rw [valueOf] at isValue
    have kept : spec.ignore.any (· = entry.path) = false := by
      refine Bool.eq_false_of_not_eq_true fun ignored => ?_
      rw [if_pos ignored] at isValue
      cases isValue
    rw [kept, if_neg Bool.false_ne_true] at isValue
    cases inside : objectOf spec entry.path with
    | some found =>
      rw [inside] at isValue
      dsimp only at isValue
      obtain ⟨fields, isFields, isField⟩ := Option.bind_eq_some_iff.mp isValue
      have here := bind_fields_some isFields
      obtain ⟨isObject, isPath⟩ := objectOf_some inside
      refine ⟨(found.1, .object fields), mem_of_fieldOf here, ?_⟩
      rw [topEntries, if_pos (any_eq_true.mpr ⟨found.1, isObject, decide_eq_true rfl⟩)]
      exact mem_flatMap.mpr ⟨(found.2, entry.value), mem_of_fieldOf isField,
        mem_addTop.mpr ⟨isPath ▸ kept, isSig, isPath, rfl⟩⟩
    | none =>
      rw [inside] at isValue
      dsimp only at isValue
      split_ifs at isValue with held
      refine ⟨(entry.path, entry.value), mem_of_fieldOf isValue, ?_⟩
      have unsplit : (if spec.splitObjects.any (· = entry.path) then entry.value.fields else none) =
          none := by
        rw [isValue, Option.bind_some, Bool.and_eq_true, not_and] at held
        split_ifs with isSplit
        · exact Option.not_isSome_iff_eq_none.mp (held isSplit)
        · rfl
      rw [topEntries, unsplit]
      exact mem_addTop.mpr ⟨kept, isSig, rfl, rfl⟩

theorem mem_foldl_set_of_same {values : List TopEntry} {map : KeyedMap TopEntry.path}
    (same : ∀ value ∈ values, value.path = entry.path → entry = value)
    (member : entry ∈ values ∨ entry ∈ map) : entry ∈ values.foldl set map := by
  induction values generalizing map with
  | nil => exact member.resolve_left not_mem_nil
  | cons value values induction =>
    refine induction (forall_mem_cons.mp same).2 ?_
    rw [KeyedMap.mem_set]
    by_cases here : value.path = entry.path
    · exact .inr (.inl (same value mem_cons_self here))
    rcases member with listed | held
    · rcases mem_cons.mp listed with rfl | later
      · exact absurd rfl here
      · exact .inl later
    · exact .inr (.inr ⟨held, Ne.symm here⟩)

theorem mem_top (sound : SpecSound spec) (proper : ProperDoc spec doc) :
    entry ∈ (digestKeyedDoc spec doc).top ↔
      valueOf spec doc entry.path = some entry.value ∧ sig entry.value = some entry.sig := by
  rw [← mem_topEntries sound proper]
  refine ⟨mem_of_mem_ofList, fun listed => mem_foldl_set_of_same ?_ (.inl listed)⟩
  intro other inside samePath
  obtain ⟨isValue, isSig⟩ := (mem_topEntries sound proper).mp listed
  obtain ⟨otherValue, otherSig⟩ := (mem_topEntries sound proper).mp inside
  rw [samePath, isValue] at otherValue
  have value : entry.value = other.value := Option.some.inj otherValue
  rw [value, otherSig] at isSig
  obtain ⟨path, text, shown⟩ := entry
  obtain ⟨otherPath, otherText, otherShown⟩ := other
  cases samePath
  cases value
  cases isSig
  rfl

theorem topSig_eq (sound : SpecSound spec) (proper : ProperDoc spec doc) (path : String) :
    (digestKeyedDoc spec doc).topSig path = fieldAt spec doc path := by
  rw [KeyedDocDigest.topSig, fieldAt]
  cases found : lookup TopEntry.path (digestKeyedDoc spec doc).top path with
  | some entry =>
    obtain ⟨isValue, isSig⟩ := (mem_top sound proper).mp (mem_of_lookup found)
    rw [label_of_lookup found] at isValue
    rw [isValue, Option.bind_some, isSig]
    rfl
  | none =>
    cases isValue : valueOf spec doc path with
    | none => rfl
    | some value =>
      rw [Option.bind_some]
      cases isSig : sig value with
      | none => rfl
      | some text =>
        exact absurd rfl (lookup_eq_none.mp found { path, sig := text, value }
          ((mem_top sound proper).mpr ⟨isValue, isSig⟩))

end Proper

section Difference

variable {prev next : Fields}

theorem mem_changedTop (sound : SpecSound spec) (prevProper : ProperDoc spec prev)
    (nextProper : ProperDoc spec next) :
    entry ∈ changedTop (digestKeyedDoc spec prev) (digestKeyedDoc spec next) ↔
      valueOf spec next entry.path = some entry.value ∧ sig entry.value = some entry.sig ∧
        fieldAt spec prev entry.path ≠ fieldAt spec next entry.path := by
  rw [changedTop, mem_filter, mem_top sound nextProper, decide_eq_true_eq,
    topSig_eq sound prevProper, and_assoc]
  refine and_congr_right fun isValue => and_congr_right fun isSig => ?_
  have text : fieldAt spec next entry.path = some entry.sig := by
    rw [fieldAt, isValue, Option.bind_some, isSig]
  rw [text]

theorem changed_of_differs {text : JsonText} (sound : SpecSound spec)
    (prevProper : ProperDoc spec prev) (nextProper : ProperDoc spec next)
    (found : fieldAt spec next path = some text)
    (differs : fieldAt spec prev path ≠ fieldAt spec next path) :
    ∃ entry ∈ changedTop (digestKeyedDoc spec prev) (digestKeyedDoc spec next),
      entry.path = path := by
  obtain ⟨value, isValue, isSig⟩ := Option.bind_eq_some_iff.mp found
  exact ⟨{ path, sig := text, value },
    (mem_changedTop sound prevProper nextProper).mpr ⟨isValue, isSig, differs⟩, rfl⟩

theorem mem_lostTop (sound : SpecSound spec) (prevProper : ProperDoc spec prev)
    (nextProper : ProperDoc spec next) :
    path ∈ lostTop (digestKeyedDoc spec prev) (digestKeyedDoc spec next) ↔
      (fieldAt spec prev path).isSome = true ∧ fieldAt spec next path = none := by
  rw [lostTop, mem_filter, topSig_eq sound nextProper, Option.isNone_iff_eq_none]
  refine and_congr_left fun _ => ?_
  constructor
  · intro listed
    obtain ⟨entry, member, rfl⟩ := mem_map.mp listed
    obtain ⟨isValue, isSig⟩ := (mem_top sound prevProper).mp member
    rw [fieldAt, isValue, Option.bind_some, isSig]
    rfl
  intro found
  obtain ⟨text, isText⟩ := Option.isSome_iff_exists.mp found
  obtain ⟨value, isValue, isSig⟩ := Option.bind_eq_some_iff.mp isText
  exact mem_map.mpr ⟨{ path, sig := text, value },
    (mem_top sound prevProper).mpr ⟨isValue, isSig⟩, rfl⟩

end Difference

end Adhdev.KeyedDoc
