import RecordSql.Builder
import RecordSql.Mapper

/-! Builders and mappers see of a registry only the tables of entities: not their order, and not
what is pending. -/

namespace RecordSql

variable {r r' : Registry} {objects : Objects}

theorem Join.expand_congr (h : r.table objects = r'.table objects) (operators : Operators)
    (scope : Scope) (config : Config) (t : Table) (tableAlias : String) :
    Join.expand ⟨r, operators, objects, scope⟩ config t tableAlias =
      Join.expand ⟨r', operators, objects, scope⟩ config t tableAlias := by
  funext request
  have he : Join.expansion ⟨r, operators, objects, scope⟩ config =
      Join.expansion ⟨r', operators, objects, scope⟩ config := by
    unfold Join.expansion
    rw [h]
  rw [Join.expand, Join.expandWith, he]
  rfl

/-- A statement is the same over registries with the same tables. -/
theorem Builder.build_congr (h : ∀ entity, r.table objects entity = r'.table objects entity)
    (operators : Operators) (scope : Scope) (b : Builder) :
    b.build ⟨r, operators, objects, scope⟩ = b.build ⟨r', operators, objects, scope⟩ := by
  have ht : r.table objects = r'.table objects := funext h
  cases b with
  | select s =>
    unfold Builder.build Select.build
    simp only [ht, Join.expand_congr ht]
    rfl
  | insert i =>
    unfold Builder.build Insert.build
    simp only [ht]
  | update u =>
    unfold Builder.build Update.build
    simp only [ht]
    rfl
  | delete d =>
    unfold Builder.build Delete.build
    simp only [ht]
    rfl

/-- A row is read in the same way over registries with the same tables. -/
theorem Mapper.extract_congr (h : ∀ entity, r.table objects entity = r'.table objects entity)
    (m : Mapper) (row : Value) : m.extract r objects row = m.extract r' objects row := by
  rw [extract, extract, h]

end RecordSql
