import RecordSql.Proofs.World.Kept
import RecordSql.Proofs.World.OwnRegistry
import RecordSql.Proofs.World.PartialUpdates

/-! Entities, their plain forms and their copies as sources. The helpers of an entity look at its
variables and at the columns of its table, an INSERT reads every column of its rows, an UPDATE the
columns that its source supplies. What they find is the same in all three. -/

namespace RecordSql

open RecordSql.Action

/-! ### Sources that are written alike -/

/-- Among the rows of an INSERT a source may take the place of one that has the same cells. -/
theorem Insert.build_congr {ctx : Context} {entity source source' : Value}
    (h : ∀ t, ctx.registry.table ctx.objects entity = .ok t → ∀ c ∈ t.columns,
      Source.cell ctx.objects source c = Source.cell ctx.objects source' c)
    (before after : List Value) :
    (Insert.mk entity (some (before ++ source :: after))).build ctx =
      (Insert.mk entity (some (before ++ source' :: after))).build ctx := by
  let rows (row : Value) := before ++ row :: after
  have hbuild (row : Value) : (Insert.mk entity (some (rows row))).build ctx = do
      let t ← ctx.registry.table ctx.objects entity
      let columns ← Insert.columns ctx.objects t
      if columns.isEmpty then Action.fail (.allExcluded t.name)
      else
        let params ← ((rows row).mapM (Source.bound ctx.objects columns) :
          Except Error (List (List Value)))
        Action.report (.insertBuilt t.name (rows row).length params.flatten.length)
        return ⟨Insert.text t columns (rows row).length, params.flatten⟩ := by
    cases before <;> rfl
  have hlength : (rows source).length = (rows source').length := by simp [rows]
  show (Insert.mk entity (some (rows source))).build ctx =
    (Insert.mk entity (some (rows source'))).build ctx
  rw [hbuild, hbuild, hlength]
  apply liftM_bind_congr
  intro t ht
  apply liftM_fault_bind_congr
  intro columns hcolumns
  have hbound : Source.bound ctx.objects columns source =
      Source.bound ctx.objects columns source' :=
    mapM_congr fun c hc => h t ht c (mem_of_mem_filterM hcolumns hc)
  have hrows : (rows source).mapM (Source.bound ctx.objects columns) =
      (rows source').mapM (Source.bound ctx.objects columns) := by
    simp only [rows, List.mapM_append, List.mapM_cons, hbound]
  rw [hrows]

/-- The variables of an object that are column properties of a table, in the order of the columns.
-/
def Instance.plain (o : Instance) (t : Table) : List (String × Value) :=
  t.propertyKeys.filterMap fun key => (o.own? key).map (key, ·)

section Plain

variable {o : Instance} {t : Table}

theorem own?_of_mem_plain {e : String × Value} (he : e ∈ o.plain t) :
    e.1 ∈ t.propertyKeys ∧ o.own? e.1 = some e.2 := by
  obtain ⟨key, hkey, he⟩ := List.mem_filterMap.mp he
  obtain ⟨v, hv, rfl⟩ := Option.map_eq_some_iff.mp he
  exact ⟨hkey, hv⟩

end Plain

namespace World

/-! ### Classes of entities -/

/-- The helpers that tell the plain form of an entity and copy it. -/
def copyHelpers : List String := ["to_plain", "clone"]

/-- A class of entities that tell nothing of what was set on them, with the helpers that all
entities have. -/
structure Helping (w : World) (c : Nat) : Prop extends w.Untold c where
  derived : w.cls helpers = helpersClass
  helped : ∀ name ∈ copyHelpers, (w.owner? c name).map (·.1) = some helpers

/-- An object of a class to which any attributes were assigned, but none in the place of the helpers
or of what tells the attributes that were set. What is assigned is kept; `Keeping.settings` tells so
of all that is set on an object. -/
structure Assigned (w : World) (c i : Nat) (o : Instance) : Prop where
  object : w.object? i = some o
  cls : o.cls = c
  free : ∀ name ∈ "model_fields_set" :: copyHelpers, o.own? name = none
  kept : o.IsKept

section Helping

variable {w : World} {c i : Nat} {o : Instance} {t : Table}

theorem Helping.routine (h : w.Helping c) {name : String} (hname : name ∈ copyHelpers) :
    ∃ r, w.member? c name = some (.routine r "BaseEntity") := by
  have hhelpers : ∀ name ∈ copyHelpers, ∃ r, Assoc.get? helpersClass.members name =
      some (.routine r "BaseEntity") := by
    simp only [copyHelpers, List.forall_mem_cons]
    exact ⟨⟨_, rfl⟩, ⟨_, rfl⟩, fun _ h => absurd h List.not_mem_nil⟩
  obtain ⟨r, hr⟩ := hhelpers name hname
  have howner := owner?_eq_some (h.helped name hname) (h.derived ▸ hr)
  exact ⟨r, by rw [member?_eq_owner?, howner]; rfl⟩

theorem Helping.having (h : w.Helping c) (values : List (String × Value)) (nextSerial : Nat) :
    (w.having c values nextSerial).Helping c :=
  ⟨⟨h.toOrdinary.having values nextSerial, h.kind, h.untold, h.strict⟩, h.derived, h.helped⟩

end Helping

/-! ### Beside the copy -/

section Copy

variable {w : World} {c i : Nat} {o : Instance} {t : Table}

theorem Assigned.having (h : w.Assigned c i o) (values : List (String × Value))
    (nextSerial : Nat) : (w.having c values nextSerial).Assigned c i o where
  object := by
    have hlt := (List.getElem?_eq_some_iff.mp h.object).1
    exact (List.getElem?_append_left hlt).trans h.object
  cls := h.cls
  free := h.free
  kept := h.kept

theorem Assigned.copy (h : w.Assigned c i o) (t : Table) (nextSerial : Nat) :
    (w.having c (o.plain t) nextSerial).Assigned c w.objects.length
      ⟨c, Value.entries (o.plain t), []⟩ where
  object := w.object?_having c _ _
  cls := rfl
  free := by
    intro name hname
    apply Value.lookup?_entries_eq_none
    intro hmem
    obtain ⟨e, he, rfl⟩ := List.mem_map.mp hmem
    have hown := (own?_of_mem_plain he).2
    rw [h.free _ hname] at hown
    cases hown
  kept := by
    intro e he
    obtain ⟨e', he', rfl⟩ := List.mem_map.mp he
    exact h.kept.own? (own?_of_mem_plain he').2

end Copy

/-! ### Entities as sources -/

section Sources

variable {w : World} {c i : Nat} {o : Instance} {t : Table}

end Sources

end World

end RecordSql
