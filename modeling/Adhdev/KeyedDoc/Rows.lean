import Adhdev.KeyedDoc.Delta

/-! # Rows of a collection, diffed and folded -/

namespace Adhdev.KeyedDoc

open List KeyedMap

/-! ## Steps that each change one reading -/

theorem foldl_at {α β κ υ : Type} [DecidableEq κ] {read : β → κ → υ} {step : β → α → β}
    {key : α → κ} {after : α → υ → υ} (items : List α)
    (each : ∀ state, ∀ item ∈ items, ∀ other, read (step state item) other =
      if key item = other then after item (read state other) else read state other)
    (distinct : (items.map key).Nodup) (state : β) :
    (∀ item ∈ items, read (items.foldl step state) (key item) =
      after item (read state (key item))) ∧
      ∀ other, other ∉ items.map key → read (items.foldl step state) other = read state other := by
  induction items generalizing state with
  | nil => exact ⟨fun _ member => (by cases member), fun _ _ => rfl⟩
  | cons item items induction =>
    rw [map_cons, nodup_cons] at distinct
    obtain ⟨inside, outside⟩ := induction
      (fun state other member => each state other (.tail _ member)) distinct.2
      (step state item)
    constructor
    · intro other member
      rcases mem_cons.mp member with rfl | later
      · rw [foldl_cons, outside _ distinct.1, each state other mem_cons_self, if_pos rfl]
      have apart : key item ≠ key other := fun same =>
        distinct.1 (same ▸ mem_map_of_mem later)
      rw [foldl_cons, inside other later, each state item mem_cons_self, if_neg apart]
    intro other absent
    rw [map_cons, mem_cons, not_or] at absent
    rw [foldl_cons, outside other absent.2, each state item mem_cons_self,
      if_neg (Ne.symm absent.1)]

/-! ## Fields -/

theorem assigned_eq {α : Type} {entries : List (String × α)}
    (plain : ∀ entry ∈ entries, entry.1 ≠ "__proto__") : assigned entries = entries :=
  filter_eq_self.mpr fun entry member => decide_eq_true (plain entry member)

theorem fieldOf_setField (fields : Fields) (name : String) (value : JsValue) (other : String) :
    fieldOf (setField fields name value) other =
      if name = other then some value else fieldOf fields other := by
  have found := @lookup_insertEntry _ _ Prod.fst _ _ Prod.fst _ (name, value) fields
    (fun _ _ => Iff.rfl) other
  rw [fieldOf, setField, found, apply_ite (Option.map Prod.snd)]
  rfl

theorem fieldOf_deleteField (fields : Fields) (name other : String) :
    fieldOf (deleteField fields name) other = if name =
      other then none else fieldOf fields other := by
  have found := @lookup_filter _ _ _ Prod.fst fields (fun key => decide (key ≠ name)) other
  rw [fieldOf, deleteField]
  refine (congrArg (Option.map Prod.snd) found).trans ?_
  by_cases same : name = other
  · simp [same]
  · rw [if_neg same, if_pos (decide_eq_true (Ne.symm same))]
    rfl

theorem fieldOf_deleteAll (fields : Fields) (names : List String) (other : String) :
    fieldOf (deleteAll fields names) other =
      if other ∈ names then none else fieldOf fields other := by
  induction names generalizing fields with
  | nil => rw [deleteAll, foldl_nil, if_neg not_mem_nil]
  | cons name names induction =>
    have rest := induction (deleteField fields name)
    rw [deleteAll] at rest ⊢
    rw [foldl_cons, rest, fieldOf_deleteField]
    by_cases later : other ∈ names
    · rw [if_pos later, if_pos (.tail _ later)]
    rw [if_neg later]
    by_cases same : name = other
    · rw [if_pos same, if_pos (same ▸ mem_cons_self)]
    · rw [if_neg same, if_neg fun member => (mem_cons.mp member).elim (Ne.symm same) later]

theorem fieldOf_assign {target : String → Option JsValue} {changes : Fields}
    (agree : ∀ entry ∈ changes, target entry.1 = some entry.2) (fields : Fields) (name : String) :
    fieldOf (assign fields changes) name = target name ∧ (∃ entry ∈ changes, entry.1 = name) ∨
      (∀ entry ∈ changes, entry.1 ≠ name) ∧
        fieldOf (assign fields changes) name = fieldOf fields name := by
  induction changes generalizing fields with
  | nil => exact .inr ⟨fun _ member => (by cases member), rfl⟩
  | cons entry changes induction =>
    rcases induction (forall_mem_cons.mp agree).2
      (setField fields entry.1 entry.2) with ⟨settled, other, member, same⟩ | ⟨absent, same⟩
    · exact .inl ⟨settled, other, .tail _ member, same⟩
    · rw [fieldOf_setField] at same
      by_cases here : entry.1 = name
      · refine .inl ⟨same.trans ?_, entry, mem_cons_self, here⟩
        rw [if_pos here, ← agree entry mem_cons_self, here]
      rw [if_neg here] at same
      refine .inr ⟨fun other member => ?_, same⟩
      rcases mem_cons.mp member with rfl | later
      · exact here
      · exact absent other later

theorem fieldOf_cons_self (name : String) (value : JsValue) (fields : Fields) :
    fieldOf ((name, value) :: fields) name = some value := by
  simp [fieldOf, KeyedMap.lookup]

theorem fieldOf_cons_ne {name other : String} (apart : name ≠ other) (value : JsValue)
    (fields : Fields) : fieldOf ((name, value) :: fields) other = fieldOf fields other := by
  rw [fieldOf, fieldOf, KeyedMap.lookup, KeyedMap.lookup, find?_cons_of_neg]
  simpa using apart

theorem fieldOf_stable (stable : StableRow) (row : Fields) (name : String) :
    fieldOf (stable.apply row) name =
      if stable.drops name then none else (fieldOf row name).map (stable.trim name) := by
  induction row with
  | nil => split_ifs <;> rfl
  | cons entry row induction =>
    rw [StableRow.apply] at induction ⊢
    rw [filter_cons]
    by_cases here : entry.1 = name
    · by_cases dropped : stable.drops entry.1 = true
      · rw [if_neg (by rw [dropped]; decide), induction, ← here, if_pos dropped, if_pos dropped]
      rw [if_pos (by simpa using dropped), map_cons, ← here, if_neg dropped,
        fieldOf_cons_self, fieldOf_cons_self]
      rfl
    rw [fieldOf_cons_ne here entry.2 row]
    by_cases dropped : stable.drops entry.1 = true
    · rw [if_neg (by rw [dropped]; decide), induction]
    · rw [if_pos (by simpa using dropped), map_cons, fieldOf_cons_ne here, induction]

variable {name : String}

theorem hasField_stable {stable : StableRow} {row : Fields} (kept : stable.drops name = false) :
    hasField (stable.apply row) name = hasField row name := by
  rw [hasField, hasField, fieldOf_stable, kept, if_neg Bool.false_ne_true, Option.isSome_map]

theorem sigOf_stable_congr {stable : StableRow} {one two : Fields}
    (same : fieldOf one name = fieldOf two name) :
    sigOf (stable.apply one) name = sigOf (stable.apply two) name := by
  rw [sigOf, sigOf, fieldOf_stable, fieldOf_stable, same]

/-! ## One row -/

structure DigestOf (idField : String) (stable : StableRow) (row : RowDigest) : Prop where
  unique : (row.value.map Prod.fst).Nodup
  plain : ∀ entry ∈ row.value, entry.1 ≠ "__proto__"
  named : fieldOf row.value idField = some (.string row.id)
  isStable : row.stable = stable.apply row.value

def KeepsDefined (prevRow nextRow : RowDigest) : Prop :=
  ∀ name, inObject nextRow.value name = true → (sigOf prevRow.stable name).isSome = true →
    (sigOf nextRow.stable name).isSome = true

variable {fields : Fields}

theorem lookup_sig (unique : (fields.map Prod.fst).Nodup) (name : String) :
    (lookup Prod.fst (fields.filterMap fun entry =>
      (sig entry.2).map fun text => (entry.1, text)) name).map Prod.snd = sigOf fields name := by
  induction fields with
  | nil => rfl
  | cons entry fields induction =>
    rw [map_cons, nodup_cons] at unique
    have rest := induction unique.2
    rw [sigOf] at rest ⊢
    by_cases here : entry.1 = name
    · rw [← here, fieldOf_cons_self]
      cases text : sig entry.2 with
      | none =>
        rw [filterMap_cons_none (by rw [text]; rfl), here, rest]
        have absent : fieldOf fields name = none := by
          rw [fieldOf, lookup_eq_none.mpr, Option.map_none]
          intro other member same
          exact unique.1 (here ▸ same ▸ mem_map_of_mem member)
        rw [absent, Option.bind_some, text]
        rfl
      | some shown =>
        rw [filterMap_cons_some (by rw [text]; rfl), Option.bind_some, text]
        simp [KeyedMap.lookup]
    rw [fieldOf_cons_ne here entry.2 fields, ← rest]
    cases text : sig entry.2 with
    | none => rw [filterMap_cons_none (by rw [text]; rfl)]
    | some shown =>
      rw [filterMap_cons_some (by rw [text]; rfl), KeyedMap.lookup,
        find?_cons_of_neg (by simpa using here), KeyedMap.lookup]

theorem stable_unique {stable : StableRow} {row : Fields} (unique : (row.map Prod.fst).Nodup) :
    ((stable.apply row).map Prod.fst).Nodup := by
  rw [StableRow.apply, map_map]
  exact unique.sublist (filter_sublist.map _)

variable {idField : String} {stable : StableRow} {prevRow nextRow : RowDigest}

theorem sigOf_of_sig (prevDigest : DigestOf idField stable prevRow)
    (nextDigest : DigestOf idField stable nextRow) (same : prevRow.sig = nextRow.sig)
    (name : String) : sigOf prevRow.stable name = sigOf nextRow.stable name := by
  have prevUnique : (prevRow.stable.map Prod.fst).Nodup := by
    rw [prevDigest.isStable]
    exact stable_unique prevDigest.unique
  have nextUnique : (nextRow.stable.map Prod.fst).Nodup := by
    rw [nextDigest.isStable]
    exact stable_unique nextDigest.unique
  rw [← lookup_sig prevUnique, ← lookup_sig nextUnique]
  exact congrArg (fun texts => (lookup Prod.fst texts name).map Prod.snd) same

theorem mem_changedFields : name ∈ changedFields idField prevRow nextRow ↔
      name ≠ idField ∧ (sigOf nextRow.stable name).isSome = true ∧
        sigOf prevRow.stable name ≠ sigOf nextRow.stable name := by
  rw [changedFields, mem_filter, Bool.and_eq_true, Bool.and_eq_true, decide_eq_true_eq,
    decide_eq_true_eq, and_assoc]
  refine and_iff_right_of_imp fun both => ?_
  obtain ⟨text, isText⟩ := Option.isSome_iff_exists.mp both.2.1
  obtain ⟨value, isValue, -⟩ := Option.bind_eq_some_iff.mp isText
  obtain ⟨entry, found, -⟩ := Option.map_eq_some_iff.mp isValue
  exact label_of_lookup found ▸ mem_map_of_mem (mem_of_lookup found)

theorem mem_goneFields :
    name ∈ goneFields prevRow nextRow ↔ (sigOf prevRow.stable name).isSome = true ∧
      sigOf nextRow.stable name = none ∧ inObject nextRow.value name = false := by
  rw [goneFields, mem_filter, Bool.and_eq_true, Bool.and_eq_true, Bool.not_eq_true',
    Option.isNone_iff_eq_none, and_assoc]
  refine and_iff_right_of_imp fun both => ?_
  obtain ⟨text, isText⟩ := Option.isSome_iff_exists.mp both.1
  obtain ⟨value, isValue, -⟩ := Option.bind_eq_some_iff.mp isText
  obtain ⟨entry, found, -⟩ := Option.map_eq_some_iff.mp isValue
  exact label_of_lookup found ▸ mem_map_of_mem (mem_of_lookup found)

/-! ## A changed row -/

theorem fieldOf_changed {names : List String} {start : Fields} (name : String) :
    fieldOf (names.foldl (fun held other =>
        setField held other ((fieldOf nextRow.value other).getD .undefined)) start) name =
      if name ∈ names then some ((fieldOf nextRow.value name).getD .undefined)
      else fieldOf start name := by
  induction names generalizing start with
  | nil => rw [foldl_nil, if_neg not_mem_nil]
  | cons other names induction =>
    rw [foldl_cons, induction, fieldOf_setField]
    by_cases later : name ∈ names
    · rw [if_pos later, if_pos (.tail _ later)]
    rw [if_neg later]
    by_cases here : other = name
    · rw [if_pos here, if_pos (here ▸ mem_cons_self), here]
    · rw [if_neg here, if_neg fun member => (mem_cons.mp member).elim (Ne.symm here) later]

theorem fieldOf_carried {entries : Fields} {held : Fields} {inherited : List String}
    (compared : (∃ entry ∈ entries, entry.1 = name) → hasField nextRow.stable name = true ∨
      hasField held name = true) :
    fieldOf (entries.foldl (fun held entry =>
        if inObject nextRow.stable entry.1 || hasField held entry.1 ||
          inherited.contains entry.1 then held
        else if sigOf prevRow.value entry.1 = sig entry.2 then held
        else setField held entry.1 entry.2) held) name = fieldOf held name := by
  induction entries generalizing held with
  | nil => rfl
  | cons entry entries induction =>
    rw [foldl_cons]
    by_cases here : entry.1 = name
    · have skipped : (inObject nextRow.stable entry.1 || hasField held entry.1 ||
          inherited.contains entry.1) = true := by
        rw [here]
        rcases compared ⟨entry, mem_cons_self, here⟩ with stable | changed
        · rw [inObject, stable, Bool.true_or, Bool.true_or, Bool.true_or]
        · rw [changed, Bool.or_true, Bool.true_or]
      rw [if_pos skipped]
      exact induction fun later => compared (later.imp fun _ both =>
        ⟨.tail _ both.1, both.2⟩)
    have later : ∀ next : Fields, fieldOf next name = fieldOf held name →
        (∃ other ∈ entries, other.1 = name) →
          hasField nextRow.stable name = true ∨ hasField next name = true := by
      intro next same found
      have shape : hasField next name = hasField held name := congrArg Option.isSome same
      rw [shape]
      exact compared (found.imp fun _ both => ⟨.tail _ both.1, both.2⟩)
    split_ifs
    · exact induction (later held rfl)
    · exact induction (later held rfl)
    have kept : fieldOf (setField held entry.1 entry.2) name = fieldOf held name := by
      rw [fieldOf_setField, if_neg here]
    exact (induction (later _ kept)).trans kept

def foldedRow (idField : String) (prevRow nextRow : RowDigest) : Fields :=
  if prevRow.sig = nextRow.sig then prevRow.value
  else
    deleteAll
      (if changedFields idField prevRow nextRow = [] then prevRow.value
        else assign prevRow.value (changeOf idField prevRow nextRow))
      (goneFields prevRow nextRow)

theorem fieldOf_changeOf_id :
    fieldOf (changeOf idField prevRow nextRow) idField = some (.string nextRow.id) := by
  have start : fieldOf [(idField, JsValue.string nextRow.id)] idField = some (.string nextRow.id) :=
    fieldOf_cons_self _ _ _
  have unlisted : idField ∉ (changedFields idField prevRow nextRow).filter (· ≠ "__proto__") :=
    fun member => (mem_changedFields.mp (mem_filter.mp member).1).1 rfl
  have changed := @fieldOf_changed nextRow
    ((changedFields idField prevRow nextRow).filter (· ≠ "__proto__"))
    [(idField, .string nextRow.id)] idField
  rw [if_neg unlisted, start] at changed
  rw [changeOf]
  refine (fieldOf_carried fun _ => .inr ?_).trans changed
  rw [hasField, changed]
  rfl

def UniqueNames (fields : Fields) : Prop := (fields.map Prod.fst).Nodup

theorem unique_setField (unique : UniqueNames fields) (name : String) (value : JsValue) :
    UniqueNames (setField fields name value) :=
  nodup_insertEntry unique

theorem unique_foldl {α : Type} {step : Fields → α → Fields}
    (each : ∀ held item, UniqueNames held → UniqueNames (step held item)) (items : List α)
    {start : Fields} (unique : UniqueNames start) : UniqueNames (items.foldl step start) := by
  induction items generalizing start with
  | nil => exact unique
  | cons item items induction => exact induction (each start item unique)

theorem unique_changeOf : UniqueNames (changeOf idField prevRow nextRow) := by
  rw [changeOf]
  generalize inheritedBy _ = inherited
  refine unique_foldl (fun held entry unique => ?_) _
    (unique_foldl (fun held name unique => unique_setField unique _ _) _ (nodup_singleton _))
  split_ifs
  · exact unique
  · exact unique
  · exact unique_setField unique _ _

theorem fieldOf_of_mem (unique : UniqueNames fields) {entry : String × JsValue}
    (member : entry ∈ fields) : fieldOf fields entry.1 = some entry.2 := by
  rw [fieldOf, lookup_of_mem
    (fun other inside same => inj_on_of_nodup_map unique inside member same) member]
  rfl

theorem fieldOf_assign_unique {changes : Fields} (unique : UniqueNames changes) (fields : Fields)
    (name : String) :
    fieldOf (assign fields changes) name = (fieldOf changes name).or (fieldOf fields name) := by
  rcases fieldOf_assign (fun entry member => fieldOf_of_mem unique member) fields name with
    ⟨settled, entry, member, rfl⟩ | ⟨absent, same⟩
  · rw [settled, fieldOf_of_mem unique member]
    rfl
  · have none : fieldOf changes name = none := by
      rw [fieldOf, lookup_eq_none.mpr absent]
      rfl
    rw [same, none]
    rfl

theorem hasField_of_sig (kept : stable.drops name = false)
    (nextDigest : DigestOf idField stable nextRow)
    (present : (sigOf nextRow.stable name).isSome = true) : hasField nextRow.value name = true := by
  rw [← hasField_stable kept, ← nextDigest.isStable, hasField]
  obtain ⟨text, isText⟩ := Option.isSome_iff_exists.mp present
  obtain ⟨value, isValue, -⟩ := Option.bind_eq_some_iff.mp isText
  rw [isValue]
  rfl

theorem ne_proto_of_hasField (plain : ∀ entry ∈ fields, entry.1 ≠ "__proto__")
    (held : hasField fields name = true) : name ≠ "__proto__" := by
  obtain ⟨value, isValue⟩ := Option.isSome_iff_exists.mp held
  obtain ⟨entry, found, -⟩ := Option.map_eq_some_iff.mp isValue
  exact label_of_lookup found ▸ plain entry (mem_of_lookup found)

theorem fieldOf_changeOf_changed (changed : name ∈ changedFields idField prevRow nextRow)
    (kept : stable.drops name = false) (nextDigest : DigestOf idField stable nextRow) :
    fieldOf (changeOf idField prevRow nextRow) name = fieldOf nextRow.value name := by
  obtain ⟨-, present, -⟩ := mem_changedFields.mp changed
  have held := hasField_of_sig kept nextDigest present
  have assigns : name ∈ (changedFields idField prevRow nextRow).filter (· ≠ "__proto__") :=
    mem_filter.mpr ⟨changed, decide_eq_true (ne_proto_of_hasField nextDigest.plain held)⟩
  have set := @fieldOf_changed nextRow
    ((changedFields idField prevRow nextRow).filter (· ≠ "__proto__"))
    [(idField, .string nextRow.id)] name
  rw [if_pos assigns] at set
  rw [changeOf]
  refine (fieldOf_carried fun _ => .inr ?_).trans ?_
  · rw [hasField, set]
    rfl
  rw [set]
  obtain ⟨value, isValue⟩ := Option.isSome_iff_exists.mp held
  rw [isValue]
  rfl

theorem fieldOf_changeOf_other (other : name ≠ idField)
    (unchanged : name ∉ changedFields idField prevRow nextRow) (kept : stable.drops name = false)
    (nextDigest : DigestOf idField stable nextRow) :
    fieldOf (changeOf idField prevRow nextRow) name = none := by
  have start := @fieldOf_changed nextRow
    ((changedFields idField prevRow nextRow).filter (· ≠ "__proto__"))
    [(idField, .string nextRow.id)] name
  rw [if_neg fun member => unchanged (mem_filter.mp member).1,
    fieldOf_cons_ne (Ne.symm other)] at start
  rw [changeOf]
  refine (fieldOf_carried fun found => .inl ?_).trans start
  obtain ⟨entry, member, rfl⟩ := found
  rw [nextDigest.isStable, hasField_stable kept, hasField, fieldOf_of_mem nextDigest.unique member]
  rfl

variable (prevDigest : DigestOf idField stable prevRow)
    (nextDigest : DigestOf idField stable nextRow)
  (sameId : prevRow.id = nextRow.id)

include prevDigest nextDigest sameId in
theorem fieldOf_foldedRow_id :
    fieldOf (foldedRow idField prevRow nextRow) idField = some (.string nextRow.id) := by
  have before : fieldOf prevRow.value idField = some (.string nextRow.id) :=
    sameId ▸ prevDigest.named
  rw [foldedRow]
  split_ifs with same unchanged
  · exact before
  · rw [fieldOf_deleteAll, if_neg, before]
    intro gone
    have absent := (mem_goneFields.mp gone).2.2
    rw [inObject, hasField, nextDigest.named] at absent
    cases absent
  rw [fieldOf_deleteAll, if_neg, fieldOf_assign_unique unique_changeOf, fieldOf_changeOf_id]
  · rfl
  intro gone
  have absent := (mem_goneFields.mp gone).2.2
  rw [inObject, hasField, nextDigest.named] at absent
  cases absent

include nextDigest in
theorem fieldOf_foldedRow_other (kept : stable.drops name = false) (named : name ≠ idField)
    (ungone : name ∉ goneFields prevRow nextRow)
    (unchanged : name ∉ changedFields idField prevRow nextRow) :
    fieldOf (foldedRow idField prevRow nextRow) name = fieldOf prevRow.value name := by
  rw [foldedRow]
  split_ifs
  · rfl
  · rw [fieldOf_deleteAll, if_neg ungone]
  rw [fieldOf_deleteAll, if_neg ungone, fieldOf_assign_unique unique_changeOf,
    fieldOf_changeOf_other named unchanged kept nextDigest]
  rfl

include prevDigest nextDigest sameId in
theorem sigOf_foldedRow (keeps : KeepsDefined prevRow nextRow) (name : String) :
    sigOf (stable.apply (foldedRow idField prevRow nextRow)) name = sigOf nextRow.stable name := by
  by_cases dropped : stable.drops name = true
  · rw [nextDigest.isStable, sigOf, sigOf, fieldOf_stable, fieldOf_stable, if_pos dropped,
      if_pos dropped]
  have kept := Bool.eq_false_of_not_eq_true dropped
  by_cases named : name = idField
  · subst named
    rw [nextDigest.isStable]
    refine sigOf_stable_congr ?_
    rw [fieldOf_foldedRow_id prevDigest nextDigest sameId, nextDigest.named]
  by_cases same : prevRow.sig = nextRow.sig
  · rw [foldedRow, if_pos same, ← prevDigest.isStable, sigOf_of_sig prevDigest nextDigest same]
  by_cases gone : name ∈ goneFields prevRow nextRow
  · have deleted : fieldOf (foldedRow idField prevRow nextRow) name = none := by
      rw [foldedRow, if_neg same, fieldOf_deleteAll, if_pos gone]
    rw [(mem_goneFields.mp gone).2.1, sigOf, fieldOf_stable, deleted, if_neg dropped]
    rfl
  by_cases changed : name ∈ changedFields idField prevRow nextRow
  · have some : changedFields idField prevRow nextRow ≠ [] := ne_nil_of_mem changed
    rw [foldedRow, if_neg same, if_neg some, nextDigest.isStable]
    refine sigOf_stable_congr ?_
    rw [fieldOf_deleteAll, if_neg gone, fieldOf_assign_unique unique_changeOf,
      fieldOf_changeOf_changed changed kept nextDigest]
    obtain ⟨value, isValue⟩ := Option.isSome_iff_exists.mp
      (hasField_of_sig kept nextDigest (mem_changedFields.mp changed).2.1)
    rw [isValue]
    rfl
  rw [sigOf_stable_congr (fieldOf_foldedRow_other nextDigest kept named gone changed),
    ← prevDigest.isStable]
  cases next : sigOf nextRow.stable name with
  | some text =>
    by_contra differs
    refine changed (mem_changedFields.mpr ⟨named, by rw [next]; rfl, ?_⟩)
    rw [next]
    exact differs
  | none =>
    cases prev : sigOf prevRow.stable name with
    | none => rfl
    | some text =>
      have prevSome : (sigOf prevRow.stable name).isSome = true := by rw [prev]; rfl
      by_cases held : inObject nextRow.value name = true
      · have defined := keeps name held prevSome
        rw [next] at defined
        cases defined
      · exact absurd (mem_goneFields.mpr ⟨prevSome, next, Bool.eq_false_of_not_eq_true held⟩) gone

include prevDigest nextDigest sameId in
theorem keepsDefined_of_foldedRow
    (agree : ∀ name, sigOf (stable.apply (foldedRow idField prevRow nextRow)) name =
      sigOf nextRow.stable name) : KeepsDefined prevRow nextRow := by
  intro name held prevSome
  by_contra undefined
  rw [Option.not_isSome_iff_eq_none] at undefined
  have kept : stable.drops name = false := by
    refine Bool.eq_false_of_not_eq_true fun dropped => ?_
    rw [prevDigest.isStable, sigOf, fieldOf_stable, if_pos dropped] at prevSome
    cases prevSome
  have same : fieldOf (foldedRow idField prevRow nextRow) name = fieldOf prevRow.value name := by
    by_cases named : name = idField
    · subst named
      rw [fieldOf_foldedRow_id prevDigest nextDigest sameId, ← sameId, prevDigest.named]
    refine fieldOf_foldedRow_other nextDigest kept named ?_ ?_
    · intro gone
      rw [(mem_goneFields.mp gone).2.2] at held
      cases held
    intro changed
    have present := (mem_changedFields.mp changed).2.1
    rw [undefined] at present
    cases present
  rw [prevDigest.isStable, ← sigOf_stable_congr same, agree, undefined] at prevSome
  cases prevSome

end Adhdev.KeyedDoc
