import Adhdev.KeyedDoc.Rows

/-! # Collections, diffed and folded -/

namespace Adhdev.KeyedDoc

open List Option Bool KeyedMap Prod

def RowsAgree (one two : List RowDigest) : Prop :=
  List.Forall₂ (fun left right => left.id = right.id ∧
    ∀ name, sigOf left.stable name = sigOf right.stable name) one two

section Collection

variable {spec : KeyedDocSpec} {collection : KeyedCollection}

structure DigestsTo (spec : KeyedDocSpec) (collection : KeyedCollection) (items : List JsValue)
    (digests : List RowDigest) : Prop where
  read : items.map (rowDigest spec collection) = digests.map some
  distinct : (digests.map RowDigest.id).Nodup
  unique : ∀ digest ∈ digests, UniqueNames digest.value
  plain : ∀ digest ∈ digests, digest.id ≠ "__proto__" ∧
    ∀ entry ∈ digest.value, entry.1 ≠ "__proto__"

variable {digest : RowDigest}

theorem rowDigest_some {item : JsValue} (read : rowDigest spec collection item = some digest) :
    item = .object digest.value ∧ digest.id ≠ "" ∧
      fieldOf digest.value collection.idField = some (.string digest.id) ∧
        digest.stable = (spec.stableRow collection).apply digest.value := by
  obtain ⟨fields, isFields, read⟩ := bind_eq_some_iff.mp read
  obtain ⟨id, isId, read⟩ := bind_eq_some_iff.mp read
  obtain ⟨value, isValue, isText⟩ := bind_eq_some_iff.mp isId
  have item : item = .object fields := by
    cases item with
    | object found =>
      cases isFields
      rfl
    | _ => cases isFields
  have value : value = .string id := by
    cases value with
    | string found =>
      cases isText
      rfl
    | _ => cases isText
  subst value
  split_ifs at read with named
  cases read
  exact ⟨item, named, isValue, rfl⟩

theorem rowDigest_object {fields : Fields} {id : String} (named : id ≠ "")
    (isId : fieldOf fields collection.idField = some (.string id)) :
    rowDigest spec collection (.object fields) =
      some { id, value := fields, stable := (spec.stableRow collection).apply fields } := by
  rw [rowDigest, JsValue.fields, bind_some, isId, bind_some, JsValue.text, bind_some, if_neg named]

theorem digestRows_append {items : List JsValue} {held digests : List RowDigest}
    (read : items.map (rowDigest spec collection) = digests.map some)
    (distinct : ((held ++ digests).map RowDigest.id).Nodup) :
    digestRows spec collection held items = held ++ digests := by
  induction items generalizing held digests with
  | nil =>
    rw [map_nil, eq_comm, map_eq_nil_iff] at read
    rw [read, digestRows, append_nil]
  | cons item items induction =>
    cases digests with
    | nil => cases read
    | cons digest digests =>
      obtain ⟨first, rest⟩ := cons.inj read
      have fresh : (held.any fun other => decide (other.id = digest.id)) = false := by
        rw [List.any_eq_false]
        intro other member same
        rw [map_append] at distinct
        exact (nodup_append.mp distinct).2.2 _ (mem_map_of_mem member) _
          (mem_map_of_mem mem_cons_self) (of_decide_eq_true same)
      rw [digestRows, first]
      dsimp only
      rw [fresh, if_neg Bool.false_ne_true, induction rest, List.append_assoc]
      · rfl
      · rw [append_assoc]
        exact distinct

namespace DigestsTo

variable {items : List JsValue} {digests : List RowDigest}

section

variable (digestsTo : DigestsTo spec collection items digests)
include digestsTo

theorem digestRows_eq : digestRows spec collection [] items = digests :=
  digestRows_append digestsTo.read digestsTo.distinct

theorem mem_items (member : digest ∈ digests) : ∃ item ∈ items, rowDigest spec collection item =
    some digest := by
  have listed : some digest ∈ items.map (rowDigest spec collection) := by
    rw [digestsTo.read]
    exact mem_map_of_mem member
  exact mem_map.mp listed

theorem digestOf (member : digest ∈ digests) : DigestOf collection.idField
    (spec.stableRow collection) digest := by
  obtain ⟨item, -, read⟩ := digestsTo.mem_items member
  obtain ⟨-, -, named, isStable⟩ := rowDigest_some read
  exact ⟨digestsTo.unique digest member, (digestsTo.plain digest member).2, named, isStable⟩

theorem named (member : digest ∈ digests) : digest.id ≠ "" := by
  obtain ⟨item, -, read⟩ := digestsTo.mem_items member
  exact (rowDigest_some read).2.1

theorem ids_plain (digest : RowDigest) (member : digest ∈ digests) : digest.id ≠ "__proto__" :=
  (digestsTo.plain digest member).1

theorem heldRows : items.filterMap (heldRow collection.idField) = digests.map fun digest =>
    (digest.id, digest.value) := by
  have read := digestsTo.read
  clear digestsTo
  induction items generalizing digests with
  | nil =>
    rw [map_nil, eq_comm, map_eq_nil_iff] at read
    rw [read]
    rfl
  | cons item items induction =>
    cases digests with
    | nil => cases read
    | cons digest digests =>
      obtain ⟨first, rest⟩ := cons.inj read
      obtain ⟨rfl, -, isId, -⟩ := rowDigest_some first
      have held : heldRow collection.idField (.object digest.value) =
          some (digest.id, digest.value) := by
        rw [heldRow, JsValue.fields, bind_some, isId, bind_some, JsValue.text, map_some]
      rw [filterMap_cons_some held, induction rest, map_cons]

theorem rowOf_eq (member : digest ∈ digests) : rowOf digests digest.id = some digest :=
  lookup_of_mem
    (fun _ inside same => inj_on_of_nodup_map digestsTo.distinct inside member same) member

end

end DigestsTo

/-! ## Folding a change -/

theorem valueAt_insert (rows : List (String × Fields)) (row : String × Fields) (id : String) :
    valueAt (insertEntry fst row rows) id =
      if row.1 = id then some row.2 else valueAt rows id := by
  have found := @lookup_insertEntry _ _ fst _ _ fst _ row rows (fun _ _ => Iff.rfl) id
  rw [valueAt, found, apply_ite (Option.map snd)]
  rfl

theorem valueAt_byIdOf {digests : List RowDigest} (distinct : (digests.map RowDigest.id).Nodup)
    (id : String) :
    valueAt (byIdOf (digests.map fun digest => (digest.id, digest.value))) id =
      (rowOf digests id).map RowDigest.value := by
  have names : ((digests.map fun digest => (digest.id, digest.value)).map fst) =
      digests.map RowDigest.id := by
    rw [List.map_map]
    rfl
  obtain ⟨inside, outside⟩ := @foldl_at _ _ _ _ _ valueAt
    (fun kept row => insertEntry fst row kept) fst (fun row _ => some row.2)
    (digests.map fun digest => (digest.id, digest.value))
    (fun rows row _ other => valueAt_insert rows row other) (by rwa [names]) []
  cases found : rowOf digests id with
  | none =>
    refine outside id ?_
    rw [names]
    intro member
    obtain ⟨digest, listed, same⟩ := mem_map.mp member
    exact lookup_eq_none.mp found digest listed same
  | some digest =>
    have same : digest.id = id := label_of_lookup found
    have value := inside (digest.id, digest.value)
      (mem_map_of_mem (f := fun digest => (digest.id, digest.value))
        (mem_of_lookup found))
    rw [← same]
    exact value

def afterUpsert (idField : String) (prevRows : List RowDigest) (nextRow : RowDigest)
    (base : Option Fields) : Option Fields :=
  match upsertOf idField prevRows nextRow with
  | none => base
  | some row => some (assign (base.getD []) row)

def afterUnset (prevRows : List RowDigest) (nextRow : RowDigest) (base : Option Fields) :
    Option Fields :=
  match unsetOf prevRows nextRow with
  | none => base
  | some unset => base.map fun fields => deleteAll fields unset.2

variable {nextRow : RowDigest}

variable {idField : String}

theorem id_of_upsertOf {stable : StableRow} {prevRows : List RowDigest}
    (digestOf : DigestOf idField stable nextRow) {row : Fields}
    (upsert : upsertOf idField prevRows nextRow = some row) :
    fieldOf row idField = some (.string nextRow.id) := by
  rw [upsertOf] at upsert
  cases found : rowOf prevRows nextRow.id with
  | none =>
    rw [found] at upsert
    cases upsert
    exact digestOf.named
  | some prevRow =>
    rw [found] at upsert
    dsimp only at upsert
    split_ifs at upsert
    cases upsert
    exact fieldOf_changeOf_id

theorem id_of_unsetOf {prevRows : List RowDigest} {unset : String × List String}
    (isUnset : unsetOf prevRows nextRow = some unset) : unset.1 = nextRow.id := by
  obtain ⟨prevRow, -, isUnset⟩ := bind_eq_some_iff.mp isUnset
  split_ifs at isUnset
  cases isUnset
  rfl

variable {prevRows nextRows : List RowDigest} {prevItems nextItems : List JsValue}

theorem valueAt_upserts (nextTo : DigestsTo spec collection nextItems nextRows)
    (rows : List (String × Fields)) :
    (∀ nextRow ∈ nextRows,
      valueAt ((nextRows.filterMap (upsertOf collection.idField prevRows)).foldl
          (upsertRow collection.idField) rows) nextRow.id =
        afterUpsert collection.idField prevRows nextRow (valueAt rows nextRow.id)) ∧
      ∀ id, id ∉ nextRows.map RowDigest.id →
        valueAt ((nextRows.filterMap (upsertOf collection.idField prevRows)).foldl
          (upsertRow collection.idField) rows) id = valueAt rows id := by
  rw [foldl_filterMap]
  refine @foldl_at _ _ _ _ _ valueAt _ _ _ nextRows (fun state nextRow member id => ?_)
    nextTo.distinct rows
  rw [afterUpsert]
  cases upsert : upsertOf collection.idField prevRows nextRow with
  | none =>
    dsimp only
    rw [ite_self]
  | some row =>
    have isId := id_of_upsertOf (nextTo.digestOf member) upsert
    dsimp only
    rw [upsertRow, isId]
    refine (valueAt_insert _ _ _).trans ?_
    by_cases here : nextRow.id = id
    · rw [if_pos here, if_pos here, here]
    · rw [if_neg here, if_neg here]

theorem valueAt_unsets (nextTo : DigestsTo spec collection nextItems nextRows)
    (rows : List (String × Fields)) :
    (∀ nextRow ∈ nextRows,
      valueAt ((nextRows.filterMap (unsetOf prevRows)).foldl unsetRow rows) nextRow.id =
        afterUnset prevRows nextRow (valueAt rows nextRow.id)) ∧
      ∀ id, id ∉ nextRows.map RowDigest.id →
        valueAt ((nextRows.filterMap (unsetOf prevRows)).foldl unsetRow rows) id =
          valueAt rows id := by
  rw [foldl_filterMap]
  refine @foldl_at _ _ _ _ _ valueAt _ _ _ nextRows (fun state nextRow member id => ?_)
    nextTo.distinct rows
  rw [afterUnset]
  cases isUnset : unsetOf prevRows nextRow with
  | none =>
    dsimp only
    rw [ite_self]
  | some unset =>
    have isId := id_of_unsetOf isUnset
    dsimp only
    rw [unsetRow, isId]
    cases base : valueAt state nextRow.id with
    | none =>
      by_cases here : nextRow.id = id
      · rw [if_pos here, ← here, base]
        rfl
      · rw [if_neg here]
    | some fields =>
      refine (valueAt_insert _ _ _).trans ?_
      by_cases here : nextRow.id = id
      · rw [if_pos here, if_pos here, ← here, base]
        rfl
      · rw [if_neg here, if_neg here]

def resultRow (idField : String) (prevRows : List RowDigest) (nextRow : RowDigest) : Fields :=
  match rowOf prevRows nextRow.id with
  | none => assign [] nextRow.value
  | some prevRow => foldedRow idField prevRow nextRow

theorem after_eq (nextRow : RowDigest) :
    afterUnset prevRows nextRow (afterUpsert idField prevRows nextRow
      ((rowOf prevRows nextRow.id).map RowDigest.value)) =
        some (resultRow idField prevRows nextRow) := by
  rw [afterUnset, afterUpsert, unsetOf, upsertOf, resultRow]
  cases rowOf prevRows nextRow.id with
  | none => rfl
  | some prevRow =>
    dsimp only [map_some, bind_some]
    rw [foldedRow]
    by_cases same : prevRow.sig = nextRow.sig
    · simp only [if_pos same]
    simp only [if_neg same]
    by_cases unchanged : changedFields idField prevRow nextRow = []
    · simp only [if_pos unchanged]
      by_cases ungone : goneFields prevRow nextRow = []
      · rw [if_pos ungone, ungone]
        rfl
      · rw [if_neg ungone]
        rfl
    simp only [if_neg unchanged]
    by_cases ungone : goneFields prevRow nextRow = []
    · rw [if_pos ungone, ungone]
      rfl
    · rw [if_neg ungone]
      rfl

variable {rows : List (String × Fields)}

theorem valueAt_mem {entry : String × Fields} (member : entry ∈ rows) :
    (valueAt rows entry.1).isSome = true := by
  have found : (lookup fst rows entry.1).isSome = true := lookup_isSome_of_mem member
  rw [valueAt, isSome_map]
  exact found

theorem placeRows_eq {ids : List String} (distinct : ids.Nodup)
    (outside : ∀ id, id ∉ ids → valueAt rows id = none) :
    placeRows ids rows = ids.filterMap (valueAt rows) := by
  have placed : ids.reverse.dedup.reverse = ids := by
    rw [List.Nodup.dedup (nodup_reverse.mpr distinct), reverse_reverse]
  have rest : (rows.filter fun entry => !ids.any (· = entry.1)) = [] := by
    rw [filter_eq_nil_iff]
    intro entry member unplaced
    have absent : entry.1 ∉ ids := by
      intro listed
      rw [Bool.not_eq_true', List.any_eq_false] at unplaced
      exact unplaced entry.1 listed (decide_eq_true rfl)
    have present := valueAt_mem member
    rw [outside entry.1 absent] at present
    cases present
  rw [placeRows, placed, rest, map_nil, append_nil]

theorem foldCollection_eq {held : Option JsValue} {change : KeyedCollectionDelta}
    (prevTo : DigestsTo spec collection (arrayItems held) prevRows)
    (nextTo : DigestsTo spec collection nextItems nextRows)
    (upsert : change.upsert = nextRows.filterMap (upsertOf collection.idField prevRows))
    (unset : change.unsetFields = nextRows.filterMap (unsetOf prevRows))
    (removed : change.removed =
      (prevRows.map RowDigest.id).filter fun id => (rowOf nextRows id).isNone)
    (order : change.order.getD (prevRows.map RowDigest.id) = nextRows.map RowDigest.id) :
    foldCollection collection.idField held change =
      nextRows.map (resultRow collection.idField prevRows) := by
  have names : ((prevRows.map fun digest => (digest.id, digest.value)).map fst) =
      prevRows.map RowDigest.id := by
    rw [List.map_map]
    rfl
  rw [foldCollection, prevTo.heldRows, names, order]
  generalize isById : byIdOf (prevRows.map fun digest => (digest.id, digest.value)) = byId
  have byIdAt : ∀ id, valueAt byId id = (rowOf prevRows id).map RowDigest.value := by
    intro id
    rw [← isById]
    exact valueAt_byIdOf prevTo.distinct id
  generalize isKept : byId.filter (fun entry => !change.removed.any (· = entry.1)) = kept
  have keptAt : ∀ id, valueAt kept id =
      if change.removed.any (· = id) then none else (rowOf prevRows id).map RowDigest.value := by
    intro id
    have filtered := @lookup_filter _ _ _ fst byId (fun key => !change.removed.any (· = key)) id
    rw [← isKept, ← byIdAt, valueAt]
    refine (congrArg (Option.map snd) filtered).trans ?_
    cases change.removed.any (· = id) with
    | true => rfl
    | false => rfl
  have folded : foldRows collection.idField byId change =
      (nextRows.filterMap (unsetOf prevRows)).foldl unsetRow
        ((nextRows.filterMap (upsertOf collection.idField prevRows)).foldl
          (upsertRow collection.idField) kept) := by
    rw [foldRows, upsert, unset, isKept]
  obtain ⟨upserted, upsertedElse⟩ := @valueAt_upserts spec collection prevRows nextRows nextItems
    nextTo kept
  obtain ⟨unsetAt, unsetElse⟩ := @valueAt_unsets spec collection prevRows nextRows nextItems nextTo
    ((nextRows.filterMap (upsertOf collection.idField prevRows)).foldl
      (upsertRow collection.idField) kept)
  have outside : ∀ id, id ∉ nextRows.map RowDigest.id →
      valueAt (foldRows collection.idField byId change) id = none := by
    intro id absent
    rw [folded, unsetElse id absent, upsertedElse id absent, keptAt]
    split_ifs with dropped
    · rfl
    cases found : rowOf prevRows id with
    | none => rfl
    | some prevRow =>
      refine absurd (any_eq_true.mpr ⟨id, ?_, decide_eq_true rfl⟩) dropped
      rw [removed, mem_filter]
      refine ⟨label_of_lookup found ▸ mem_map_of_mem (mem_of_lookup found), ?_⟩
      rw [isNone_iff_eq_none]
      exact lookup_eq_none.mpr fun nextRow member same =>
        absent (same ▸ mem_map_of_mem member)
  rw [placeRows_eq nextTo.distinct outside, filterMap_map]
  have each : ∀ nextRow ∈ nextRows,
      (valueAt (foldRows collection.idField byId change) ∘ RowDigest.id) nextRow =
        some (resultRow collection.idField prevRows nextRow) := by
    intro nextRow member
    have stays : ¬change.removed.any (· = nextRow.id) = true := by
      intro dropped
      obtain ⟨id, listed, same⟩ := any_eq_true.mp dropped
      rw [removed, mem_filter, of_decide_eq_true same, nextTo.rowOf_eq member] at listed
      cases listed.2
    rw [Function.comp, folded, unsetAt nextRow member, upserted nextRow member, keptAt,
      if_neg stays, after_eq]
  rw [filterMap_congr each, filterMap_eq_map']

/-! ## Agreement of a folded collection -/

def RowsKeepDefined (prevRows nextRows : List RowDigest) : Prop :=
  ∀ nextRow ∈ nextRows, ∀ prevRow ∈ rowOf prevRows nextRow.id, KeepsDefined prevRow nextRow

theorem fieldOf_assign_nil {fields : Fields} (unique : UniqueNames fields) (name : String) :
    fieldOf (assign [] fields) name = fieldOf fields name := by
  rw [fieldOf_assign_unique unique]
  cases fieldOf fields name with
  | none => rfl
  | some value => rfl

theorem resultRow_named (prevTo : DigestsTo spec collection prevItems prevRows)
    (nextTo : DigestsTo spec collection nextItems nextRows) (member : nextRow ∈ nextRows) :
    fieldOf (resultRow collection.idField prevRows nextRow) collection.idField =
      some (.string nextRow.id) := by
  have nextDigest := nextTo.digestOf member
  rw [resultRow]
  cases found : rowOf prevRows nextRow.id with
  | none => exact (fieldOf_assign_nil nextDigest.unique _).trans nextDigest.named
  | some prevRow =>
    exact fieldOf_foldedRow_id (prevTo.digestOf (mem_of_lookup found)) nextDigest
      (label_of_lookup found)

theorem resultRow_agrees (prevTo : DigestsTo spec collection prevItems prevRows)
    (nextTo : DigestsTo spec collection nextItems nextRows)
    (keeps : RowsKeepDefined prevRows nextRows) (member : nextRow ∈ nextRows) (name : String) :
    sigOf ((spec.stableRow collection).apply
      (resultRow collection.idField prevRows nextRow)) name = sigOf nextRow.stable name := by
  have nextDigest := nextTo.digestOf member
  rw [resultRow]
  cases found : rowOf prevRows nextRow.id with
  | none =>
    rw [nextDigest.isStable]
    exact sigOf_stable_congr (fieldOf_assign_nil nextDigest.unique name)
  | some prevRow =>
    exact sigOf_foldedRow (prevTo.digestOf (mem_of_lookup found)) nextDigest
      (label_of_lookup found) (keeps nextRow member prevRow found) name

def resultDigest (spec : KeyedDocSpec) (collection : KeyedCollection) (prevRows : List RowDigest)
    (nextRow : RowDigest) : RowDigest where
  id := nextRow.id
  value := resultRow collection.idField prevRows nextRow
  stable := (spec.stableRow collection).apply (resultRow collection.idField prevRows nextRow)

section

variable (prevTo : DigestsTo spec collection prevItems prevRows)
include prevTo

theorem digestRows_results (nextTo : DigestsTo spec collection nextItems nextRows) : digestRows
    spec collection [] ((nextRows.map (resultRow collection.idField prevRows)).map .object) =
    nextRows.map (resultDigest spec collection prevRows) := by
  have read : ((nextRows.map (resultRow collection.idField prevRows)).map JsValue.object).map
      (rowDigest spec collection) =
        (nextRows.map (resultDigest spec collection prevRows)).map some := by
    rw [List.map_map, List.map_map, List.map_map]
    refine map_congr_left fun nextRow member => ?_
    exact rowDigest_object (nextTo.named member) (resultRow_named prevTo nextTo member)
  have ids : ((nextRows.map (resultDigest spec collection prevRows)).map RowDigest.id) =
      nextRows.map RowDigest.id := by
    rw [List.map_map]
    rfl
  exact digestRows_append read (by rw [nil_append, ids]; exact nextTo.distinct)

theorem digestRows_results_agree (nextTo : DigestsTo spec collection nextItems nextRows) :
    RowsAgree (digestRows spec collection [] ((nextRows.map (resultRow collection.idField
      prevRows)).map .object)) nextRows ↔ RowsKeepDefined prevRows nextRows := by
  rw [digestRows_results prevTo nextTo, RowsAgree, forall₂_map_left_iff, forall₂_same]
  constructor
  · intro agree nextRow member prevRow found
    have same := (agree nextRow member).2
    have result : resultRow collection.idField prevRows nextRow =
        foldedRow collection.idField prevRow nextRow := by
      rw [resultRow, mem_def.mp found]
    rw [resultDigest] at same
    dsimp only at same
    rw [result] at same
    exact keepsDefined_of_foldedRow (prevTo.digestOf (mem_of_lookup found))
      (nextTo.digestOf member) (label_of_lookup found) same
  · intro keeps nextRow member
    exact ⟨rfl, resultRow_agrees prevTo nextTo keeps member⟩

theorem rowsKeepDefined_of_agree (agree : RowsAgree prevRows nextRows) : RowsKeepDefined prevRows
    nextRows := by
  intro nextRow member prevRow found name _ prevSome
  obtain ⟨position, bound, isNext⟩ := mem_iff_getElem.mp member
  have length := agree.length_eq
  have same := List.Forall₂.get agree (length ▸ bound : position < prevRows.length) bound
  rw [get_eq_getElem, get_eq_getElem, isNext] at same
  have here : prevRows[position] = prevRow := by
    have isHere := prevTo.rowOf_eq (getElem_mem (length ▸ bound : position < prevRows.length))
    rw [same.1, mem_def.mp found] at isHere
    exact (some.inj isHere).symm
  rw [← same.2, here]
  exact prevSome

theorem rowsAgree_of_unchanged (nextTo : DigestsTo spec collection nextItems nextRows)
    (keeps : RowsKeepDefined prevRows nextRows) (ids : prevRows.map RowDigest.id = nextRows.map
      RowDigest.id) (upsert : nextRows.filterMap (upsertOf collection.idField prevRows) =
      []) (unset : nextRows.filterMap (unsetOf prevRows) = []) : RowsAgree prevRows nextRows := by
  have each : ∀ prevRow ∈ prevRows, ∀ nextRow ∈ nextRows, prevRow.id = nextRow.id →
      ∀ name, sigOf prevRow.stable name = sigOf nextRow.stable name := by
    intro prevRow prevMember nextRow nextMember sameId name
    have found : rowOf prevRows nextRow.id = some prevRow := sameId ▸ prevTo.rowOf_eq prevMember
    have noUpsert := filterMap_eq_nil_iff.mp upsert nextRow nextMember
    have noUnset := filterMap_eq_nil_iff.mp unset nextRow nextMember
    have same : foldedRow collection.idField prevRow nextRow = prevRow.value := by
      rw [upsertOf, found] at noUpsert
      rw [unsetOf, found, bind_some] at noUnset
      rw [foldedRow]
      by_cases sameSig : prevRow.sig = nextRow.sig
      · rw [if_pos sameSig]
      dsimp only at noUpsert
      rw [if_neg sameSig] at noUpsert noUnset
      split_ifs at noUpsert with unchanged
      split_ifs at noUnset with ungone
      rw [if_neg sameSig, if_pos unchanged, ungone]
      rfl
    have folded := sigOf_foldedRow (prevTo.digestOf prevMember) (nextTo.digestOf nextMember) sameId
      (keeps nextRow nextMember prevRow found) name
    rw [same, ← (prevTo.digestOf prevMember).isStable] at folded
    exact folded
  have length : prevRows.length = nextRows.length := by
    rw [← length_map RowDigest.id, ids, length_map]
  refine forall₂_of_length_eq_of_get length fun position prevBound nextBound => ?_
  have sameId : (prevRows.get ⟨position, prevBound⟩).id =
      (nextRows.get ⟨position, nextBound⟩).id := by
    have mapped : (prevRows.map RowDigest.id)[position]? =
        (nextRows.map RowDigest.id)[position]? := by
      rw [ids]
    rw [getElem?_map, getElem?_map, getElem?_eq_getElem prevBound,
      getElem?_eq_getElem nextBound] at mapped
    exact some.inj mapped
  exact ⟨sameId, each _ (get_mem _ _) _ (get_mem _ _) sameId⟩

end

theorem diffCollection_some {prev : Option (List RowDigest)} (change : Option KeyedCollectionDelta)
    (diff : diffCollection idField prev (some nextRows) = change)
    (plain : ∀ nextRow ∈ nextRows, nextRow.id ≠ "__proto__") :
    (change = none ∧ (prev.getD []).map RowDigest.id = nextRows.map RowDigest.id ∧
        nextRows.filterMap (upsertOf idField (prev.getD [])) = [] ∧
        nextRows.filterMap (unsetOf (prev.getD [])) = []) ∨
      ∃ delta, change = some delta ∧ delta.absent = false ∧
        delta.upsert = nextRows.filterMap (upsertOf idField (prev.getD [])) ∧
        delta.unsetFields = nextRows.filterMap (unsetOf (prev.getD [])) ∧ delta.removed =
          ((prev.getD []).map RowDigest.id).filter (fun id => (rowOf nextRows id).isNone) ∧
        delta.order.getD ((prev.getD []).map RowDigest.id) = nextRows.map RowDigest.id := by
  have unsets : assigned (nextRows.filterMap (unsetOf (prev.getD []))) =
      nextRows.filterMap (unsetOf (prev.getD [])) := by
    refine assigned_eq fun unset listed => ?_
    obtain ⟨nextRow, member, isUnset⟩ := mem_filterMap.mp listed
    exact id_of_unsetOf isUnset ▸ plain nextRow member
  rw [diffCollection] at diff
  split at diff
  · rename_i nothing
    left
    simp only [Bool.and_eq_true, List.isEmpty_iff, ne_eq, decide_not, Bool.not_not,
      decide_eq_true_eq] at nothing
    exact ⟨diff.symm, nothing.2, nothing.1.1.1, nothing.1.1.2⟩
  right
  refine ⟨_, diff.symm, rfl, rfl, unsets, rfl, ?_⟩
  by_cases moved : (prev.getD []).map RowDigest.id = nextRows.map RowDigest.id <;> simp [moved]

end Collection

end Adhdev.KeyedDoc
