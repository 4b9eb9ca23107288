import RecordSql.Proofs.Mapping.Presence
import RecordSql.Proofs.World.Ordinary
import RecordSql.World.Declaration

/-! Rows as objects: what is extracted from a row, what becomes of several rows, and what the
objects of an ordinary class have of them. -/

namespace RecordSql

open RecordSql.Action

/-! ### One row after the other -/

namespace Action

variable {σ α β : Type} {f : α → Action σ β}

end Action

namespace World

variable {w : World} {c r : Nat} {lead : Value} {config : Config} {t : Table} {l : String}

/-- A row is only read. -/
theorem extractRow_dict (ht : (w.registry r).table w.view (.cls (w.ref c)) = .ok t)
    (hl : (w.mapper c lead config).Leads t l) (es : List (Value × Value)) (n : Nat) :
    extractRow (w.mapper c lead config) r (.dict es n) w =
      ⟨Mapper.loadAll w.view (Mapper.cells t l es), w, []⟩ := by
  rw [extractRow, get_bind_run, drawing, within, Mapper.extract_dict ht (hl.leadFor w.view)]

/-- The object of a row is made of what the mapper of its class extracts. -/
theorem mapRow_dict (ht : (w.registry r).table w.view (.cls (w.ref c)) = .ok t)
    (hl : (w.mapper c lead config).Leads t l) (es : List (Value × Value)) (n : Nat) :
    mapRow c r lead config (.dict es n) w =
      match Mapper.loadAll w.view (Mapper.cells t l es) with
      | .ok values => assemble c values w
      | .error e => ⟨.error e, w, []⟩ := by
  have hextract := extractRow_dict ht hl es n
  rw [mapRow, get_bind_run]
  cases hvalues : Mapper.loadAll w.view (Mapper.cells t l es) with
  | error e => rw [bind_run_error (hvalues ▸ hextract)]
  | ok values =>
    rw [bind_run_ok (hvalues ▸ hextract)]
    rfl

/-- The properties of an ordinary class whose columns are markers are set as its markers are. -/
theorem marked_of_extracts {objects : Objects} {es : List (Value × Value)}
    {values : List (String × Value)}
    (hmarkers : ∀ column ∈ t.columns, ∃ m, w.member? c column.propertyKey = some (.column m))
    (h : List.Forall₂ (Mapper.Extracts objects l es) (Mapper.present t l es) values) :
    ∀ e ∈ values, ∃ m, w.member? c e.1 = some (.column m) := by
  intro e he
  obtain ⟨column, hcolumn, hkey⟩ := Mapper.column_of_extracts h he
  rw [← hkey]
  exact hmarkers column hcolumn

/-- A class of owners, with something under the name of their pets. -/
def ownerClass (pets : Member) : RecordClass where
  name := "Owner"
  qualname := "Owner"
  label := "app.Owner"
  shape := .loose
  slots? := none
  members := [("__module__", .constant (.text "app")),
    ("id", .column ⟨.text "id", none, .bool false, .bool false⟩),
    ("name", .column ⟨.text "name", none, .bool false, .bool false⟩), ("pets", pets),
    ("__doc__", .constant .null), ("__dict__", .ownVariables),
    ("__weakref__", .weakLinks "Owner")]
  bases := [root]
  ancestors := [3, root]
  layout := root
  room := helpersClass.room
  schema? := none

/-- The relation of owners to their pets. -/
def petsMarker : RelationMarker :=
  ⟨.oneToMany, .text "id", .text "pets", .text "owner_id",
    .target (.direct (.cls (.plain "Pet")))⟩

/-- A world with a table of owners, to which the relation belongs be it a marker of the class or
not. -/
def ownersWorld (pets : Member) : World :=
  let w : World := { initial with classes := initial.classes ++ [ownerClass pets] }
  let register := Registry.registerRelation w.view (.cls (w.ref 3)) (petsMarker.given "pets")
  ((do
    if !pets.isMarker then withRegistry 0 register
    declareTable 3 (.text "owners") 0 : Action World Unit) w).state

def ownersTable : Table :=
  ⟨.cls ((ownerClass .slot).ref 3 "type"), "owners",
    [⟨"id", "id", none, .bool false, .bool false⟩,
      ⟨"name", "name", none, .bool false, .bool false⟩],
    [⟨.oneToMany, "pets", "id", "pets", "owner_id", .direct (.cls (.plain "Pet"))⟩]⟩

/-- A row of an owner whose name was not selected, and of another table. -/
def ownerRow : List (Value × Value) := [(.text "pets_id", .int 1), (.text "owners_id", .int 7)]

/-- The registrations of the table. -/
def ownerCalls : List Call :=
  let owner (request : Request) : Call :=
    .register ⟨noObjects, .cls ((ownerClass .slot).ref 3 "type"), request⟩
  [owner (.column ⟨.text "id", .text "id", none, .bool false, .bool false⟩),
    owner (.column ⟨.text "name", .text "name", none, .bool false, .bool false⟩),
    owner (.relation (petsMarker.given "pets")), owner (.table (.text "owners"))]

theorem ordinary_ownersWorld : (ownersWorld (.relation petsMarker)).Ordinary 3 where
  rooted := rfl
  unvalidated := rfl
  unfielded := rfl
  spacious := rfl
  told := rfl
  inherits := by
    simp only [usualRules, List.forall_mem_cons]
    exact ⟨rfl, rfl, rfl, rfl, fun _ h => absurd h List.not_mem_nil⟩

end World

end RecordSql
