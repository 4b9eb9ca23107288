import RecordSql.Proofs.Json.RoundTrip
import RecordSql.Proofs.Registry.Call
import RecordSql.Transformer

/-! The transformers of collections: what they store is revived as it was. -/

namespace RecordSql

namespace Transformer

/-- A transformer of collections that reads texts within some limits. -/
def collectionWithin (limits : Json.Limits) (name : String) (blank : Value) : Transformer where
  name := name
  store := storeCollection
  load objects v := match v with
    | .null | .text "" | .bytes [] => .ok blank
    | v => do
      v.checkEquality objects
      v.checkKind objects
      Json.load limits v

/-- Null and the collections without items. -/
def Blank (v : Value) : Prop :=
  v = .null ∨ ∃ serial, v = .list [] serial ∨ v = .tuple [] serial ∨ v = .set [] serial ∨
    v = .fixedSet [] serial ∨ v = .dict [] serial

theorem isEmpty_iff {v : Value} : isEmpty v = true ↔ Blank v := by
  cases v <;> simp [isEmpty, Blank]

variable {objects : Objects} {v : Value}

/-- What is represented is no object. -/
theorem checkKind_of_representable (h : Json.Representable (arrayOf v)) :
    v.checkKind objects = .ok () := by
  cases v with
  | object i c => nomatch h
  | _ => rfl

theorem storeCollection_of_blank (h : Json.Representable (arrayOf v)) (hv : Blank v) :
    storeCollection objects v = .ok .null := by
  rw [storeCollection, checkKind_of_representable h, isEmpty_iff.mpr hv]
  rfl

/-- A value that is not blank is stored as its text. -/
theorem exists_stored (objects : Objects) (h : Json.Representable (arrayOf v)) (hv : ¬Blank v) :
    ∃ p, Json.Encoded (refusal objects) (arrayOf v) p ∧
      storeCollection objects v = .ok (.text (String.ofList p)) := by
  obtain ⟨p, hp⟩ := Json.exists_encoded (refusal objects) h
  refine ⟨p, hp, ?_⟩
  rw [storeCollection, checkKind_of_representable h, Bool.eq_false_iff.mpr (mt isEmpty_iff.mp hv),
    hp.encode]
  rfl

theorem load_text {limits : Json.Limits} {name s : String} {blank : Value} (hs : s ≠ "") :
    (collectionWithin limits name blank).load objects (.text s) = Json.load limits (.text s) := by
  simp only [collectionWithin]
  split
  · rename_i heq
    cases heq
  · rename_i heq
    cases heq
    exact absurd rfl hs
  · rename_i heq
    cases heq
  · rfl

/-- What the transformers of collections store, they give back: null for null and for what has no
items, which is revived as the blank collection, and otherwise a text, which is revived as the same
value, within limits that the value keeps. Tuples and sets are revived as lists. -/
theorem collections_return :
    (json = collectionWithin .usual "json" (.dict []) ∧
      numberArray = collectionWithin .usual "number_array" (.list []) ∧
      stringArray = collectionWithin .usual "string_array" (.list [])) ∧
    ∀ limits name blank objects v, Json.Representable (arrayOf v) →
      let t := collectionWithin limits name blank
      (t.store objects v = .ok .null ↔ Blank v) ∧
      t.load objects .null = .ok blank ∧
      (¬Blank v → ∃ s, s ≠ "" ∧ t.store objects v = .ok (.text s) ∧
        ((arrayOf v).longest ≤ limits.digits → (arrayOf v).depth ≤ limits.depth →
          t.load objects (.text s) = .ok (arrayOf v).fresh)) := by
  refine ⟨⟨rfl, rfl, rfl⟩, fun limits name blank objects v h => ⟨⟨fun hstore => ?_, ?_⟩, rfl, ?_⟩⟩
  · by_contra hv
    obtain ⟨p, -, hp⟩ := exists_stored objects h hv
    cases hstore.symm.trans hp
  · exact storeCollection_of_blank h
  · intro hv
    obtain ⟨p, hp, hstore⟩ := exists_stored objects h hv
    have hs : String.ofList p ≠ "" := by
      obtain ⟨c, r, rfl, -⟩ := hp.opens
      exact fun h => List.cons_ne_nil c r (by simpa using congrArg String.toList h)
    refine ⟨_, hs, hstore, fun hdigits hdepth => ?_⟩
    rw [load_text hs]
    exact hp.load hdigits hdepth

/-! ### Traits of a pet -/

/-- Traits with a character beyond the basic plane, a list that is empty inside, and zero. -/
def traits : Value :=
  .dict (Value.entries [("name", .text "Rex 🐶\n"),
    ("scores", .list [.int (-12), .int 0, .float ⟨0x3FE0000000000000⟩, .list [], .null])])

theorem representable_traits : Json.Representable traits := by
  have hscalar {n : Nat} (h : n < 0xD800 ∨ n = 0x1F436) : Json.IsScalar n := by
    rcases h with h | rfl
    · exact ⟨by omega, Bool.eq_false_iff.mpr (mt Text.isSurrogate_iff.mp (by omega))⟩
    · exact ⟨by decide, rfl⟩
  have htext {s : String} (l : List Nat) (hl : ∀ n ∈ l, n < 0xD800 ∨ n = 0x1F436)
      (hs : s = Text.ofCodes l) : Json.IsText s := ⟨l, fun n hn => hscalar (hl n hn), hs⟩
  have hscores : Json.Representable
      (.list [.int (-12), .int 0, .float ⟨0x3FE0000000000000⟩, .list [], .null]) := by
    refine .list ?_ 0
    simp only [List.forall_mem_cons]
    exact ⟨.int _, .int _, .float (by decide) (by decide +kernel), .list (l := []) nofun 0, .null,
      nofun⟩
  refine .dict (by decide) ?_ ?_ 0
  · simp only [List.forall_mem_cons]
    exact ⟨htext [110, 97, 109, 101] (by decide) (by decide),
      htext [115, 99, 111, 114, 101, 115] (by decide) (by decide), nofun⟩
  · simp only [List.forall_mem_cons]
    exact ⟨.text (htext [82, 101, 120, 32, 0x1F436, 10] (by decide) (by decide)), hscores, nofun⟩

theorem collections_return_traits :
    ∃ s, json.store noObjects traits = .ok (.text s) ∧
      json.load noObjects (.text s) = .ok traits := by
  obtain ⟨⟨hjson, -, -⟩, hreturn⟩ := collections_return
  obtain ⟨-, -, hstored⟩ := hreturn .usual "json" (.dict []) noObjects traits representable_traits
  have hne : ¬Blank traits := mt isEmpty_iff.mpr (by decide)
  obtain ⟨s, -, hstore, hload⟩ := hstored hne
  exact ⟨s, hjson ▸ hstore, hjson ▸ hload (by decide) (by decide)⟩

end Transformer

end RecordSql
