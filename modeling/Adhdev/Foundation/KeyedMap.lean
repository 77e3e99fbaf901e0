import Mathlib

/-! # Insertion-ordered maps

A map whose values carry their own key, iterated in insertion order: setting a
present key replaces the value in place, setting an absent key appends it.
-/

namespace Adhdev

open List

/-- A list of values with pairwise distinct keys. -/
structure KeyedMap {α : Type u} {κ : Type v} (key : α → κ) where
  entries : List α
  nodup : (entries.map key).Nodup

namespace KeyedMap

variable {α : Type u} {κ : Type v} {key : α → κ}

instance : Membership α (KeyedMap key) := ⟨fun map value => value ∈ map.entries⟩

variable {map : KeyedMap key} {value : α}

theorem mem_def : value ∈ map ↔ value ∈ map.entries :=
  Iff.rfl

theorem eq_of_key {left right : α} (leftMember : left ∈ map) (rightMember : right ∈ map)
    (same : key left = key right) : left = right :=
  inj_on_of_nodup_map map.nodup leftMember rightMember same

def empty : KeyedMap key := ⟨[], List.nodup_nil⟩

section Set

variable [DecidableEq κ]

def insertEntry (key : α → κ) (value : α) : List α → List α
  | [] => [value]
  | head :: tail =>
    if key head = key value then value :: tail
    else head :: insertEntry key value tail

variable {entries : List α} {other : α}

theorem map_key_insertEntry_of_mem (present : key value ∈ entries.map key) :
    (insertEntry key value entries).map key = entries.map key := by
  induction entries with
  | nil => cases present
  | cons head tail induction =>
    by_cases same : key head = key value
    · simp [insertEntry, same]
    have later : key value ∈ tail.map key := by
      rcases mem_cons.mp present with equal | later
      · exact absurd equal.symm same
      · exact later
    simp [insertEntry, same, induction later]

theorem insertEntry_of_not_mem (absent : key value ∉ entries.map key) :
    insertEntry key value entries = entries ++ [value] := by
  induction entries with
  | nil => rfl
  | cons head tail induction =>
    rw [map_cons, mem_cons, not_or] at absent
    simp [insertEntry, Ne.symm absent.1, induction absent.2]

theorem nodup_insertEntry (nodup : (entries.map key).Nodup) :
    ((insertEntry key value entries).map key).Nodup := by
  by_cases present : key value ∈ entries.map key
  · rw [map_key_insertEntry_of_mem present]
    exact nodup
  rw [insertEntry_of_not_mem present, map_append]
  exact nodup_append.mpr
    ⟨nodup, nodup_singleton _, by
      intro left leftMem right rightMem equal
      rw [map_singleton, mem_singleton] at rightMem
      subst right
      subst left
      exact present leftMem⟩

theorem mem_insertEntry {value : α} (nodup : (entries.map key).Nodup) :
    other ∈ insertEntry key value entries ↔
      other = value ∨ other ∈ entries ∧ key other ≠ key value := by
  induction entries with
  | nil => simp [insertEntry]
  | cons head tail induction =>
    rw [map_cons, nodup_cons] at nodup
    by_cases same : key head = key value
    · have tailDiffers : other ∈ tail → key other ≠ key value := by
        intro member equal
        exact nodup.1 (same.trans equal.symm ▸ mem_map_of_mem member)
      simp only [insertEntry, same, if_true, mem_cons]
      constructor
      · rintro (equal | member)
        · exact .inl equal
        · exact .inr ⟨.inr member, tailDiffers member⟩
      rintro (equal | ⟨rfl | member, differs⟩)
      · exact .inl equal
      · exact absurd same differs
      · exact .inr member
    simp only [insertEntry, same, if_false, mem_cons, induction nodup.2]
    constructor
    · rintro (rfl | equal | ⟨member, differs⟩)
      · exact .inr ⟨.inl rfl, same⟩
      · exact .inl equal
      · exact .inr ⟨.inr member, differs⟩
    rintro (equal | ⟨rfl | member, differs⟩)
    · exact .inr (.inl equal)
    · exact .inl rfl
    · exact .inr (.inr ⟨member, differs⟩)

def set (map : KeyedMap key) (value : α) : KeyedMap key :=
  ⟨insertEntry key value map.entries, nodup_insertEntry map.nodup⟩

@[simp] theorem mem_set {value : α} :
    other ∈ map.set value ↔ other = value ∨ other ∈ map ∧ key other ≠ key value :=
  mem_insertEntry map.nodup

variable {values : List α}

theorem mem_foldl_set (distinct : (values.map key).Nodup) : other ∈ values.foldl set map ↔
      other ∈ values ∨ other ∈ map ∧ key other ∉ values.map key := by
  induction values generalizing map with
  | nil => simp
  | cons value values induction =>
    rw [map_cons, nodup_cons] at distinct
    rw [foldl_cons, induction distinct.2, mem_set, map_cons, mem_cons, mem_cons, not_or]
    constructor
    · rintro (later | ⟨rfl | ⟨member, differs⟩, absent⟩)
      · exact .inl (.inr later)
      · exact .inl (.inl rfl)
      · exact .inr ⟨member, differs, absent⟩
    rintro ((rfl | later) | ⟨member, differs, absent⟩)
    · exact .inr ⟨.inl rfl, distinct.1⟩
    · exact .inl later
    · exact .inr ⟨.inr ⟨member, differs⟩, absent⟩

theorem mem_or_of_mem_foldl_set (member : other ∈ values.foldl set map) :
    other ∈ values ∨ other ∈ map := by
  induction values generalizing map with
  | nil => exact .inr member
  | cons value values induction =>
    rcases induction member with later | present
    · exact .inl (.tail _ later)
    rcases mem_set.mp present with equal | ⟨inside, -⟩
    · exact .inl (equal ▸ mem_cons_self)
    · exact .inr inside

def ofList (key : α → κ) (values : List α) : KeyedMap key :=
  values.foldl set empty

theorem mem_of_mem_ofList (member : other ∈ ofList key values) : other ∈ values :=
  (mem_or_of_mem_foldl_set member).resolve_right fun absent => not_mem_nil absent

theorem entries_foldl_set (map : KeyedMap key) (nodup : ((map.entries ++ values).map key).Nodup) :
    (values.foldl set map).entries = map.entries ++ values := by
  induction values generalizing map with
  | nil => simp
  | cons value values induction =>
    have absent : key value ∉ map.entries.map key := by
      intro present
      rw [map_append, map_cons] at nodup
      exact (nodup_append.mp nodup).2.2 _ present _ mem_cons_self rfl
    have appended : (map.set value).entries = map.entries ++ [value] :=
      insertEntry_of_not_mem absent
    rw [foldl_cons, induction (map.set value) (by simpa [appended] using nodup), appended]
    simp

theorem entries_ofList (nodup : (values.map key).Nodup) : (ofList key values).entries = values := by
  have built := entries_foldl_set (empty : KeyedMap key)
    (show ((empty.entries ++ values).map key).Nodup by simpa [empty] using nodup)
  simpa [ofList, empty] using built

end Set

/-- Delete every entry that does not satisfy `keep`. -/
def keepWhere (map : KeyedMap key) (keep : α → Bool) : KeyedMap key :=
  ⟨map.entries.filter keep, map.nodup.sublist (List.filter_sublist.map key)⟩

@[simp] theorem mem_keepWhere {keep : α → Bool} :
    value ∈ map.keepWhere keep ↔ value ∈ map ∧ keep value = true := by
  simp [mem_def, keepWhere]

/-! ## Lookup by a label

When the key of every entry is determined by a label of the entry, and the other
way round, the map is a partial function of the label. -/

section Lookup

variable {τ : Type w} [DecidableEq τ] (label : α → τ)

def lookup (entries : List α) (wanted : τ) : Option α :=
  entries.find? fun entry => label entry == wanted

variable {label}

variable {entries : List α}
variable {wanted : τ}

theorem label_of_lookup (found : lookup label entries wanted = some value) :
    label value = wanted := by
  simpa using find?_some found

theorem mem_of_lookup (found : lookup label entries wanted = some value) : value ∈ entries :=
  mem_of_find?_eq_some found

theorem lookup_eq_none :
    lookup label entries wanted = none ↔ ∀ entry ∈ entries, label entry ≠ wanted := by
  simp [lookup]

theorem lookup_isSome_of_mem (member : value ∈ entries) :
    (lookup label entries (label value)).isSome = true := by
  simp only [lookup, find?_isSome, beq_iff_eq]
  exact ⟨value, member, rfl⟩

theorem lookup_of_mem (unique : ∀ entry ∈ entries, label entry = label value → entry = value)
    (member : value ∈ entries) : lookup label entries (label value) = some value := by
  cases found : lookup label entries (label value) with
  | none => exact absurd rfl (lookup_eq_none.mp found value member)
  | some entry => rw [unique entry (mem_of_lookup found) (label_of_lookup found)]

theorem lookup_insertEntry [DecidableEq κ] {value : α} {entries : List α}
    (agree : ∀ entry ∈ entries, key entry = key value ↔ label entry = label value) (wanted : τ) :
    lookup label (insertEntry key value entries) wanted =
      if label value = wanted then some value else lookup label entries wanted := by
  induction entries with
  | nil => by_cases asked : label value = wanted <;> simp [insertEntry, lookup, asked]
  | cons head tail induction =>
    have headAgrees := agree head mem_cons_self
    have rest := induction (forall_mem_cons.mp agree).2
    by_cases same : key head = key value
    · have sameLabel := headAgrees.mp same
      by_cases asked : label value = wanted
      · simp [insertEntry, same, lookup, asked]
      · simp [insertEntry, same, lookup, asked, sameLabel]
    have otherLabel : label head ≠ label value := fun equal => same (headAgrees.mpr equal)
    by_cases found : label head = wanted
    · have notAsked : label value ≠ wanted := fun equal => otherLabel (found.trans equal.symm)
      simp [insertEntry, same, lookup, found, notAsked]
    · simpa [insertEntry, same, lookup, found] using rest

theorem lookup_filter (entries : List α) (keep : τ → Bool) (wanted : τ) :
    lookup label (entries.filter fun entry => keep (label entry)) wanted =
      if keep wanted then lookup label entries wanted else none := by
  induction entries with
  | nil => simp [lookup]
  | cons head tail induction =>
    by_cases kept : keep (label head) = true
    · by_cases found : label head = wanted
      · subst wanted
        simp [lookup, kept]
      · simpa [lookup, kept, found] using induction
    by_cases found : label head = wanted
    · subst wanted
      simpa [lookup, kept] using induction
    · simpa [lookup, kept, found] using induction

end Lookup

end KeyedMap

/-- What every plain object inherits. -/
def objectPrototype : List String :=
  ["constructor", "__defineGetter__", "__defineSetter__", "hasOwnProperty", "__lookupGetter__",
    "__lookupSetter__", "isPrototypeOf", "propertyIsEnumerable", "toString", "valueOf",
    "__proto__", "toLocaleString"]

end Adhdev
