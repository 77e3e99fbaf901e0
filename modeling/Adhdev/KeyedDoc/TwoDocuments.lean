import Adhdev.KeyedDoc.RoundTrip

/-! # Daemon metadata and mesh status -/

namespace Adhdev.KeyedDoc

open List Option Bool

theorem findSome_single {α β : Type} (read : α → Option β) (item : α) :
    [item].findSome? read = read item := by
  rw [findSome?_cons]
  cases read item with
  | none => rfl
  | some value => rfl

theorem objectOf_daemonMetadata (path : String) : objectOf daemonMetadataDocSpec path =
      (stripPrefix ("status" ++ ".").toList path.toList).map fun rest =>
        ("status", String.ofList rest) :=
  findSome_single _ "status"

theorem daemonMetadata_sound : SpecSound daemonMetadataDocSpec where
  inObject := by
    intro object isObject field
    have whole : (joinPath "status" field).toList = ("status" ++ ".").toList ++ field.toList :=
      String.toList_append
    rw [mem_singleton.mp isObject, objectOf_daemonMetadata, whole, stripPrefix_append,
      map_some, String.ofList_toList]
  objects := nodup_singleton _
  splitOutside := by
    intro object isObject
    rw [mem_singleton.mp isObject]
    decide
  splitKept := by
    intro object isObject
    rw [mem_singleton.mp isObject]
    decide
  splitShown := by
    intro object isObject
    rfl
  insideShown := by
    intro object _ field
    rfl
  headsOutside := by
    intro collection member
    rw [mem_singleton.mp member]
    decide
  heads := nodup_singleton _
  nested := by
    intro collection member _
    rw [mem_singleton.mp member]
    rfl

theorem meshStatus_sound : SpecSound meshStatusDocSpec where
  inObject := by
    intro object isObject
    cases isObject
  objects := nodup_nil
  splitOutside := by
    intro object isObject
    cases isObject
  splitKept := by
    intro object isObject
    cases isObject
  splitShown := by
    intro object isObject
    cases isObject
  insideShown := by
    intro object isObject
    cases isObject
  headsOutside := by
    intro collection _
    rfl
  heads := by decide
  nested := by
    intro collection _ isObject
    cases isObject

/-! ## Round trip -/

/-- The fold of a difference is the next document unless a row's field became undefined or was
dropped under a name that every object inherits, a collection or an object appeared with nothing
in it, an object went and nothing took its place, or what did was none and it had fields. -/
theorem delta_round_trip {spec : KeyedDocSpec}
    (isSpec : spec = daemonMetadataDocSpec ∨ spec = meshStatusDocSpec) {prev next : Fields}
    (prevProper : ProperDoc spec prev) (nextProper : ProperDoc spec next)
    (prevRows : ProperRows spec prev) (nextRows : ProperRows spec next) :
    RoundTrips spec prev next ↔
      (∀ collection ∈ spec.collections, CollectionFolds spec prev next collection) ∧
        ObjectsStay spec prev next ∧
          ∀ object ∈ spec.splitObjects, ObjectShown spec prev next object := by
  rcases isSpec with rfl | rfl
  · exact roundTrips_iff daemonMetadata_sound prevProper nextProper prevRows nextRows
  · exact roundTrips_iff meshStatus_sound prevProper nextProper prevRows nextRows

def sessionDoc (title : JsValue) : Fields :=
  [("status", .object [("sessions", .array [.object [("id", .string "a"), ("title", title)]])])]

def sessionDigest (title : JsValue) : RowDigest where
  id := "a"
  value := [("id", .string "a"), ("title", title)]
  stable := [("id", .string "a"), ("title", title)]

theorem stripCollections_sessionDoc (title : JsValue) :
    stripCollections daemonMetadataDocSpec (sessionDoc title) = [("status", .object [])] := rfl

theorem sessionDoc_proper (title : JsValue) :
    ProperDoc daemonMetadataDocSpec (sessionDoc title) where
  unique := nodup_singleton _
  names := by
    intro entry member
    rw [stripCollections_sessionDoc] at member
    rw [mem_singleton.mp member]
    decide
  plain := by
    intro entry member
    rw [stripCollections_sessionDoc] at member
    rw [mem_singleton.mp member]
    decide
  splitPlain := by
    intro object isObject fields found
    rw [mem_singleton.mp isObject, stripCollections_sessionDoc] at found
    cases found
    exact fun _ member => (by cases member)
  splitUnique := by
    intro object isObject fields found
    rw [mem_singleton.mp isObject, stripCollections_sessionDoc] at found
    cases found
    exact nodup_nil

theorem sessionDoc_digest (title : JsValue) :
    DigestsTo daemonMetadataDocSpec ⟨"status", some "sessions", "id"⟩
      [.object [("id", .string "a"), ("title", title)]] [sessionDigest title] where
  read := rfl
  distinct := nodup_singleton _
  unique := by
    intro digest member
    rw [mem_singleton.mp member]
    exact (by decide : ["id", "title"].Nodup)
  plain := by
    intro digest member
    rw [mem_singleton.mp member]
    refine ⟨(by decide : "a" ≠ "__proto__"), fun entry listed => ?_⟩
    rcases mem_pair.mp listed with rfl | rfl
    · exact (by decide : "id" ≠ "__proto__")
    · exact (by decide : "title" ≠ "__proto__")

theorem sessionDoc_rows (title : JsValue) :
    ProperRows daemonMetadataDocSpec (sessionDoc title) := by
  intro collection member
  rw [mem_singleton.mp member]
  exact .inr (.inr ⟨_, _, rfl, sessionDoc_digest title⟩)

theorem sessionDoc_rows_digest (title : JsValue) :
    digestCollection daemonMetadataDocSpec (sessionDoc title) ⟨"status", some "sessions", "id"⟩ =
      some [sessionDigest title] := rfl

/-- A title that changes reaches the reader. -/
theorem title_round_trip :
    RoundTrips daemonMetadataDocSpec (sessionDoc (.string "x")) (sessionDoc (.string "y")) := by
  refine (delta_round_trip (.inl rfl) (sessionDoc_proper _) (sessionDoc_proper _)
    (sessionDoc_rows _) (sessionDoc_rows _)).mpr ⟨?_, ?_, ?_⟩
  · intro collection member
    rw [List.mem_singleton.mp member]
    refine (collectionFolds_iff (sessionDoc_rows_digest _) (sessionDoc_rows_digest _)).mpr ?_
    intro nextRow nextMember prevRow prevFound name _ prevSome
    rw [List.mem_singleton.mp nextMember] at prevFound ⊢
    cases prevFound
    by_cases isId : "id" = name
    · rw [← isId]
      rfl
    by_cases isTitle : "title" = name
    · rw [← isTitle]
      rfl
    · rw [sigOf, sessionDigest, fieldOf_cons_ne isId, fieldOf_cons_ne isTitle] at prevSome
      cases prevSome
  · intro object isObject field _
    rw [List.mem_singleton.mp isObject]
    rfl
  · intro object isObject
    rw [List.mem_singleton.mp isObject]
    exact ⟨fun _ gone => (by cases gone), fun absent => (by cases absent)⟩

/-- A title that becomes undefined is sent neither as a change nor as a field lost. -/
theorem undefined_title_stays :
    ¬RoundTrips daemonMetadataDocSpec (sessionDoc (.string "x")) (sessionDoc .undefined) := by
  intro trips
  have agree := (trips.2 rfl).rows ⟨"status", some "sessions", "id"⟩ List.mem_cons_self
  rw [sessionDoc_rows_digest, sessionDoc_rows_digest] at agree
  cases agree with
  | some rows =>
    rw [RowsAgree, List.forall₂_cons] at rows
    have same := rows.1.2 "title"
    cases same

end Adhdev.KeyedDoc
