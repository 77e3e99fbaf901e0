import Adhdev.KeyedDoc.Top

/-! # Folding what is outside the collections -/

namespace Adhdev.KeyedDoc

open List Option Bool

def insideOf (value : Option JsValue) (field : String) : Option JsValue :=
  (value.bind JsValue.fields).bind fun fields => fieldOf fields field

theorem fieldOf_getD_fields (value : Option JsValue) (field : String) :
    fieldOf ((value.bind JsValue.fields).getD []) field = insideOf value field := by
  rw [insideOf]
  cases value.bind JsValue.fields with
  | none => rfl
  | some fields => rfl

/-- What a fold makes of the document before its objects and collections. -/
def plainOf (spec : KeyedDocSpec) (held : Fields) (delta : KeyedDocDelta) : Fields :=
  assign (deleteAll (stripCollections spec held) delta.unset) delta.set

/-- What a fold makes of the document before its collections. -/
def objectsOf (spec : KeyedDocSpec) (held : Fields) (delta : KeyedDocDelta) : Fields :=
  delta.objects.foldl foldObject (plainOf spec held delta)

inductive Settled (spec : KeyedDocSpec) (prev next : Fields) (path : String)
    (before after : Option JsValue) : Prop
  | changed (found : (fieldAt spec next path).isSome = true)
      (differs : fieldAt spec prev path ≠ fieldAt spec next path)
      (value : after = valueOf spec next path)
  | lost (held : (fieldAt spec prev path).isSome = true) (gone : fieldAt spec next path = none)
      (value : after = none)
  | kept (same : fieldAt spec prev path = fieldAt spec next path) (value : after = before)

def afterObject (change : String × ObjectChange) (value : Option JsValue) : Option JsValue :=
  some (.object
    (assign (deleteAll ((value.bind JsValue.fields).getD []) change.2.unset) change.2.set))

def objectDiff (spec : KeyedDocSpec) (prev next : Fields) (object : String) : ObjectChange :=
  objectChange spec (changedTop (digestKeyedDoc spec prev) (digestKeyedDoc spec next))
    (lostTop (digestKeyedDoc spec prev) (digestKeyedDoc spec next)) object

section Fold

variable {spec : KeyedDocSpec} {prev next : Fields} {delta : KeyedDocDelta}

/-- The parts of a difference. -/
structure DeltaOf (spec : KeyedDocSpec) (prev next : Fields) (delta : KeyedDocDelta) : Prop where
  set : delta.set = ((changedTop (digestKeyedDoc spec prev) (digestKeyedDoc spec next)).filter
    fun entry => (objectOf spec entry.path).isNone).map fun entry => (entry.path, entry.value)
  unset : delta.unset = (lostTop (digestKeyedDoc spec prev) (digestKeyedDoc spec next)).filter
    fun path => (objectOf spec path).isNone
  objects : delta.objects = objectChanges spec
    (changedTop (digestKeyedDoc spec prev) (digestKeyedDoc spec next))
    (lostTop (digestKeyedDoc spec prev) (digestKeyedDoc spec next))
  collections : ∀ collection, delta.collections collection =
    diffCollection collection.idField (digestCollection spec prev collection)
      (digestCollection spec next collection)

variable (sound : SpecSound spec) (prevProper : ProperDoc spec prev)
  (nextProper : ProperDoc spec next) (isDelta : DeltaOf spec prev next delta)

include sound prevProper nextProper isDelta

/-! ## Top level fields -/

theorem plain_settled {name : String} (outside : objectOf spec name = none) :
    Settled spec prev next name (fieldOf (stripCollections spec prev) name)
      (fieldOf (plainOf spec prev delta) name) := by
  have agree : ∀ entry ∈ delta.set, valueOf spec next entry.1 = some entry.2 := by
    intro entry listed
    rw [isDelta.set] at listed
    obtain ⟨top, member, rfl⟩ := mem_map.mp listed
    exact ((mem_changedTop sound prevProper nextProper).mp (mem_filter.mp member).1).1
  rcases fieldOf_assign agree (deleteAll (stripCollections spec prev) delta.unset) name with
    ⟨value, entry, listed, rfl⟩ | ⟨unset, value⟩
  · rw [isDelta.set] at listed
    obtain ⟨top, member, rfl⟩ := mem_map.mp listed
    obtain ⟨isValue, isSig, differs⟩ :=
      (mem_changedTop sound prevProper nextProper).mp (mem_filter.mp member).1
    refine .changed ?_ differs value
    rw [fieldAt, isValue, bind_some, isSig]
    rfl
  · rw [fieldOf_deleteAll] at value
    by_cases gone : name ∈ delta.unset
    · rw [if_pos gone] at value
      rw [isDelta.unset] at gone
      obtain ⟨held, absent⟩ := (mem_lostTop sound prevProper nextProper).mp (mem_filter.mp gone).1
      exact .lost held absent value
    rw [if_neg gone] at value
    refine .kept ?_ value
    by_contra differs
    cases found : fieldAt spec next name with
    | some text =>
      obtain ⟨entry, member, rfl⟩ := changed_of_differs sound prevProper nextProper found differs
      refine unset (entry.path, entry.value) ?_ rfl
      rw [isDelta.set]
      refine mem_map_of_mem (mem_filter.mpr ⟨member, ?_⟩)
      rw [outside]
      rfl
    | none =>
      rw [found] at differs
      refine gone ?_
      rw [isDelta.unset]
      refine mem_filter.mpr ⟨(mem_lostTop sound prevProper nextProper).mpr
        ⟨isSome_iff_ne_none.mpr differs, found⟩, ?_⟩
      rw [outside]
      rfl

/-! ## Split objects -/

omit sound prevProper nextProper isDelta in
theorem fieldOf_foldObject (doc : Fields) (change : String × ObjectChange) (name : String) :
    fieldOf (foldObject doc change) name =
      if change.1 = name then afterObject change (fieldOf doc name) else fieldOf doc name := by
  rw [foldObject, fieldOf_setField, afterObject]
  by_cases here : change.1 = name
  · rw [if_pos here, if_pos here, here]
  · rw [if_neg here, if_neg here]

omit prevProper nextProper in
theorem objects_apart : (delta.objects.map Prod.fst).Nodup := by
  rw [isDelta.objects, objectChanges]
  have whole : (spec.splitObjects.map fun object =>
      (object, objectDiff spec prev next object)).map Prod.fst = spec.splitObjects := by
    rw [List.map_map]
    exact map_id _
  refine (whole ▸ sound.objects).sublist ?_
  exact filter_sublist.map _

omit prevProper nextProper in
theorem fieldOf_objectsOf_unsplit {name : String} (unsplit : name ∉ spec.splitObjects) :
    fieldOf (objectsOf spec prev delta) name = fieldOf (plainOf spec prev delta) name := by
  refine (@foldl_at _ _ _ _ _ fieldOf foldObject Prod.fst afterObject delta.objects
    (fun state change _ name => fieldOf_foldObject state change name)
    (objects_apart sound isDelta) (plainOf spec prev delta)).2 name ?_
  intro listed
  rw [isDelta.objects, objectChanges] at listed
  obtain ⟨change, member, rfl⟩ := mem_map.mp listed
  obtain ⟨object, isObject, rfl⟩ := mem_map.mp (mem_filter.mp member).1
  exact unsplit isObject

variable {object : String}

omit prevProper nextProper in
theorem fieldOf_objectsOf_split (isObject : object ∈ spec.splitObjects) :
    ((objectDiff spec prev next object).set.isEmpty &&
          (objectDiff spec prev next object).unset.isEmpty) = false ∧
        fieldOf (objectsOf spec prev delta) object =
          afterObject (object, objectDiff spec prev next object)
            (fieldOf (plainOf spec prev delta) object) ∨
      (objectDiff spec prev next object).set = [] ∧ (objectDiff spec prev next object).unset = [] ∧
        fieldOf (objectsOf spec prev delta) object = fieldOf (plainOf spec prev delta) object := by
  obtain ⟨inside, outside⟩ := @foldl_at _ _ _ _ _ fieldOf foldObject Prod.fst afterObject
    delta.objects
    (fun state change _ name => fieldOf_foldObject state change name)
    (objects_apart sound isDelta) (plainOf spec prev delta)
  generalize isChange : objectDiff spec prev next object = change
  have mapped : (object, change) ∈ spec.splitObjects.map fun object =>
      (object, objectDiff spec prev next object) :=
    mem_map.mpr ⟨object, isObject, by rw [isChange]⟩
  cases empty : change.set.isEmpty && change.unset.isEmpty with
  | false =>
    have listed : (object, change) ∈ delta.objects := by
      rw [isDelta.objects, objectChanges]
      refine mem_filter.mpr ⟨mapped, ?_⟩
      rw [empty]
      rfl
    exact .inl ⟨rfl, inside (object, change) listed⟩
  | true =>
    rw [Bool.and_eq_true, List.isEmpty_iff, List.isEmpty_iff] at empty
    refine .inr ⟨empty.1, empty.2, outside object fun listed => ?_⟩
    rw [isDelta.objects, objectChanges] at listed
    obtain ⟨other, member, same⟩ := mem_map.mp listed
    obtain ⟨isMapped, nonempty⟩ := mem_filter.mp member
    obtain ⟨candidate, -, rfl⟩ := mem_map.mp isMapped
    have emptied : objectDiff spec prev next candidate = change := by
      rw [← isChange, ← same]
    rw [objectDiff] at emptied
    dsimp only at nonempty
    rw [emptied, empty.1, empty.2] at nonempty
    cases nonempty

omit isDelta in
theorem mem_objectSet {entry : String × JsValue}
    (listed : entry ∈ (objectDiff spec prev next object).set) :
    valueOf spec next (joinPath object entry.1) = some entry.2 ∧
      (fieldAt spec next (joinPath object entry.1)).isSome = true ∧
      fieldAt spec prev (joinPath object entry.1) ≠ fieldAt spec next
        (joinPath object entry.1) := by
  obtain ⟨top, member, picked⟩ := mem_filterMap.mp listed
  obtain ⟨⟨inObject, field⟩, inside, picked⟩ := bind_eq_some_iff.mp picked
  dsimp only at picked
  split_ifs at picked with same
  cases picked
  obtain ⟨-, isPath⟩ := objectOf_some inside
  obtain ⟨isValue, isSig, differs⟩ := (mem_changedTop sound prevProper nextProper).mp member
  rw [isPath, same] at isValue differs
  refine ⟨isValue, ?_, differs⟩
  rw [fieldAt, isValue, bind_some, isSig]
  rfl

omit isDelta in
theorem mem_objectUnset {object field : String}
    (listed : field ∈ (objectDiff spec prev next object).unset) :
    (fieldAt spec prev (joinPath object field)).isSome = true ∧
      fieldAt spec next (joinPath object field) = none := by
  obtain ⟨path, member, picked⟩ := mem_filterMap.mp listed
  obtain ⟨⟨inObject, other⟩, inside, picked⟩ := bind_eq_some_iff.mp picked
  dsimp only at picked
  split_ifs at picked with same
  cases picked
  obtain ⟨-, isPath⟩ := objectOf_some inside
  rw [isPath, same] at member
  exact (mem_lostTop sound prevProper nextProper).mp member

omit isDelta in
theorem object_differs {object field : String} (isObject : object ∈ spec.splitObjects)
    (differs : fieldAt spec prev (joinPath object field) ≠ fieldAt spec next
      (joinPath object field)) :
    (∃ entry ∈ (objectDiff spec prev next object).set, entry.1 = field) ∨
      field ∈ (objectDiff spec prev next object).unset := by
  have inside := sound.inObject object isObject field
  cases found : fieldAt spec next (joinPath object field) with
  | some text =>
    obtain ⟨entry, member, isPath⟩ := changed_of_differs sound prevProper nextProper found differs
    refine .inl ⟨(field, entry.value), mem_filterMap.mpr ⟨entry, member, ?_⟩, rfl⟩
    rw [isPath, inside, bind_some, if_pos rfl]
  | none =>
    rw [found] at differs
    refine .inr (mem_filterMap.mpr ⟨joinPath object field,
      (mem_lostTop sound prevProper nextProper).mpr
        ⟨isSome_iff_ne_none.mpr differs, found⟩, ?_⟩)
    rw [inside, bind_some, if_pos rfl]

omit sound prevProper isDelta in
theorem ne_proto_of_valueOf {path : String} {value : JsValue}
    (isValue : valueOf spec next path = some value) :
    (objectOf spec path = none → path ≠ "__proto__") ∧
      ∀ object field, objectOf spec path = some (object, field) → field ≠ "__proto__" := by
  constructor
  · intro outside
    rw [valueOf, outside] at isValue
    dsimp only at isValue
    split_ifs at isValue
    exact nextProper.plain _ (mem_of_fieldOf isValue)
  intro object field inside
  rw [valueOf, inside] at isValue
  dsimp only at isValue
  split_ifs at isValue
  obtain ⟨fields, isFields, isField⟩ := bind_eq_some_iff.mp isValue
  exact nextProper.splitPlain object (objectOf_some inside).1 fields (bind_fields_some isFields) _
    (mem_of_fieldOf isField)

omit isDelta in
theorem deltaOf_diff
    (diff : diffKeyedDoc spec (digestKeyedDoc spec prev) (digestKeyedDoc spec next) = some delta) :
    DeltaOf spec prev next delta := by
  have set : assigned (((changedTop (digestKeyedDoc spec prev) (digestKeyedDoc spec next)).filter
      fun entry => (objectOf spec entry.path).isNone).map fun entry => (entry.path, entry.value)) =
        ((changedTop (digestKeyedDoc spec prev) (digestKeyedDoc spec next)).filter
          fun entry => (objectOf spec entry.path).isNone).map fun entry =>
            (entry.path, entry.value) := by
    refine assigned_eq fun entry listed => ?_
    obtain ⟨top, member, rfl⟩ := mem_map.mp listed
    obtain ⟨changed, outside⟩ := mem_filter.mp member
    exact (ne_proto_of_valueOf nextProper
      ((mem_changedTop sound prevProper nextProper).mp changed).1).1
        (isNone_iff_eq_none.mp outside)
  have objects : (objectChanges spec
      (changedTop (digestKeyedDoc spec prev) (digestKeyedDoc spec next))
      (lostTop (digestKeyedDoc spec prev) (digestKeyedDoc spec next))).map (fun entry =>
        (entry.1, { entry.2 with set := assigned entry.2.set })) = objectChanges spec
          (changedTop (digestKeyedDoc spec prev) (digestKeyedDoc spec next))
          (lostTop (digestKeyedDoc spec prev) (digestKeyedDoc spec next)) := by
    refine (map_congr_left fun entry listed => ?_).trans (map_id _)
    rw [objectChanges] at listed
    obtain ⟨object, isObject, rfl⟩ := mem_map.mp (mem_filter.mp listed).1
    have plain : ∀ entry ∈ (objectDiff spec prev next object).set, entry.1 ≠ "__proto__" :=
      fun entry listed => (ne_proto_of_valueOf nextProper
        (mem_objectSet sound prevProper nextProper listed).1).2 _ _
          (sound.inObject object isObject entry.1)
    have same := assigned_eq plain
    rw [objectDiff] at same
    dsimp only
    rw [same]
    rfl
  rw [diffKeyedDoc] at diff
  dsimp only at diff
  split at diff
  · cases diff
    exact ⟨set, rfl, objects, fun _ => rfl⟩
  · cases diff

theorem object_settled (isObject : object ∈ spec.splitObjects) (field : String) :
    Settled spec prev next (joinPath object field)
      (insideOf (fieldOf (plainOf spec prev delta) object) field)
      (insideOf (fieldOf (objectsOf spec prev delta) object) field) := by
  rcases fieldOf_objectsOf_split sound isDelta isObject with ⟨-, value⟩ | ⟨noSet, noUnset, value⟩
  · have agree : ∀ entry ∈ (objectDiff spec prev next object).set,
        (fun field => valueOf spec next (joinPath object field)) entry.1 = some entry.2 :=
      fun entry listed => (mem_objectSet sound prevProper nextProper listed).1
    have read : insideOf (fieldOf (objectsOf spec prev delta) object) field =
        fieldOf (assign (deleteAll
          (((fieldOf (plainOf spec prev delta) object).bind JsValue.fields).getD [])
            (objectDiff spec prev next object).unset) (objectDiff spec prev next object).set)
          field := by
      rw [value]
      rfl
    rw [read]
    rcases @fieldOf_assign (fun field => valueOf spec next (joinPath object field))
      (objectDiff spec prev next object).set agree
      (deleteAll (((fieldOf (plainOf spec prev delta) object).bind JsValue.fields).getD [])
        (objectDiff spec prev next object).unset)
      field with ⟨settled, entry, listed, rfl⟩ | ⟨unset, settled⟩
    · obtain ⟨-, found, differs⟩ := mem_objectSet sound prevProper nextProper listed
      exact .changed found differs settled
    · rw [fieldOf_deleteAll] at settled
      by_cases gone : field ∈ (objectDiff spec prev next object).unset
      · rw [if_pos gone] at settled
        obtain ⟨held, absent⟩ := mem_objectUnset sound prevProper nextProper gone
        exact .lost held absent settled
      rw [if_neg gone, fieldOf_getD_fields] at settled
      refine .kept ?_ settled
      by_contra differs
      rcases object_differs sound prevProper nextProper isObject differs with
        ⟨entry, listed, same⟩ | listed
      · exact unset entry listed same
      · exact gone listed
  · rw [value]
    refine .kept ?_ rfl
    by_contra differs
    rcases object_differs sound prevProper nextProper isObject differs with
      ⟨entry, listed, -⟩ | listed
    · rw [noSet] at listed
      cases listed
    · rw [noUnset] at listed
      cases listed

end Fold

end Adhdev.KeyedDoc
