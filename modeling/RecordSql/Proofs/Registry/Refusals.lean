import RecordSql.Proofs.Registry.History
import RecordSql.World.Display

/-! What a registration that fails leaves behind: nothing, unless it had made a table final. -/

namespace RecordSql

theorem Registration.Strands.isTable {x : Registration} {r : Registry} {k : Key} {t : Table}
    {f : Fault} (h : x.Strands r k t f) : x.isTable := by
  have hc := h.checked
  obtain ⟨objects, entity, request⟩ := x
  cases request with
  | column g =>
    obtain ⟨_, _, ⟨⟩⟩ := map_eq_ok.mp hc
  | relation g =>
    obtain ⟨_, _, ⟨⟩⟩ := map_eq_ok.mp hc
  | table name => rfl

namespace Registry

/-! ### Runs without the calls that fail -/

/-- Calls of which none ends with a table that is final for an entity without a name. -/
def Unstranded (r : Registry) (calls : List Call) : Prop :=
  ∀ before x later, calls = before ++ .register x :: later → ¬x.Stranded (r.after before)

theorem Unstranded.tail {r : Registry} {c : Call} {calls : List Call}
    (h : r.Unstranded (c :: calls)) : Unstranded (c.run r).state calls := by
  rintro before x later rfl
  exact h (c :: before) x later rfl

/-- The calls that return normally in a run. -/
def returning (r : Registry) : List Call → List Call
  | [] => []
  | c :: calls =>
    let o := c.run r
    if o.result.isOk then c :: returning o.state calls else returning o.state calls

theorem run_of_error {r : Registry} {c : Call} {calls : List Call} {e : Error}
    (hu : r.Unstranded (c :: calls)) (h : (c.run r).result = .error e) :
    c.run r = ⟨.error e, r, []⟩ := by
  cases c with
  | register x => exact Registration.run_of_error h (hu [] x calls rfl)
  | clear => cases h

/-- A run is that of the calls that return normally in it: it leads to the same registry, by the
same events. -/
theorem run_returning {r : Registry} {calls : List Call} (hu : r.Unstranded calls) :
    r.after (r.returning calls) = r.after calls ∧
      r.history (r.returning calls) = (r.history calls).filter (·.result.isOk) := by
  induction calls generalizing r with
  | nil => exact ⟨rfl, rfl⟩
  | cons c calls ih =>
    obtain ⟨hafter, hhistory⟩ := ih hu.tail
    unfold returning
    cases hr : (c.run r).result with
    | ok _ => simp [history, hr, Except.isOk, Except.toBool, hafter, hhistory]
    | error e =>
      have hrun := run_of_error hu hr
      rw [hrun] at hafter hhistory
      simp [history, hrun, Except.isOk, Except.toBool, hafter, hhistory]

/-- A registration that fails leaves the registry as it is, so that a run goes on as if it had not
been made. The exception is a table that was final when the name of its entity was missing. -/
theorem failures_leave (r : Registry) (before later : List Call) (x : Registration) {e : Error}
    (h : (x.run (r.after before)).result = .error e) :
    let s := r.after before
    (x.run s).log = [] ∧ ((x.run s).state = s ↔ ¬x.Stranded s) ∧
    (¬x.Stranded s →
      r.after (before ++ .register x :: later) = r.after (before ++ later) ∧
      r.history (before ++ .register x :: later) =
        r.history before ++ ⟨.register x, .error e, []⟩ :: s.history later ∧
      r.history (before ++ later) = r.history before ++ s.history later) ∧
    ∀ k t f, x.Strands s k t f → e = .fault f ∧ x.isTable ∧ (∀ c, x.entity ≠ .cls c) ∧
      (x.run s).state = s.add x.objects k x.entity (.table t) := by
  intro s
  refine ⟨Registration.log_of_error h, ⟨?_, fun hs => ?_⟩, fun hs => ⟨?_, ?_, ?_⟩, ?_⟩
  · rintro he ⟨k, t, f, hs⟩
    exact hs.state_ne he
  · rw [Registration.run_of_error h hs]
  · rw [after_append, after_append, after_cons, Call.run, Registration.run_of_error h hs]
  · rw [history_append, history, Call.run, Registration.run_of_error h hs]
  · exact history_append r before later
  · intro k t f hs
    have hrun := hs.run
    rw [hrun] at h
    refine ⟨(Except.error.inj h).symm, hs.isTable, fun c hc => ?_, by rw [hrun]⟩
    exact Registration.not_stranded_of_class hc ⟨k, t, f, hs⟩

/-- A blank name among the registrations for a class is as if it had not been given. -/
theorem failures_leave_pets :
    let pet (request : Request) : Registration := ⟨noObjects, .cls (.plain "Pet"), request⟩
    let column := pet (.column ⟨.text "id", .text "id", none, .bool false, .bool false⟩)
    let blank := pet (.table (.text "  "))
    let table := pet (.table (.text "pets"))
    (blank.run (Registry.after ∅ [.register column])).result = .error (.empty .tableName) ∧
      Registry.after ∅ [.register column, .register blank, .register table] =
        Registry.after ∅ [.register column, .register table] := by
  intro pet column blank table
  have h : (blank.run (Registry.after ∅ [.register column])).result =
      .error (.empty .tableName) := rfl
  obtain ⟨-, -, hrun, -⟩ := failures_leave ∅ [.register column] [.register table] blank h
  exact ⟨h, (hrun (Registration.not_stranded_of_class rfl)).1⟩

end Registry

/-! ### An object that cannot be shown -/

namespace World

/-- A class whose objects have a number for some of the functions that they are asked by. -/
def oddClass (rules : List String) : RecordClass where
  name := "Odd"
  qualname := "Odd"
  label := "app.Odd"
  shape := .loose
  slots? := none
  members := ("__module__", .constant (.text "app")) ::
    rules.map (·, .constant (.int 5)) ++ [("__doc__", .constant .null)]
  bases := [World.root]
  ancestors := [3, World.root]
  layout := World.root
  room := World.helpersClass.room
  schema? := none

/-- A world with an object of such a class. -/
def oddWorld (rules : List String) : World :=
  { World.initial with
    classes := World.initial.classes ++ [oddClass rules]
    objects := [⟨3, [], []⟩] }

/-- The object. -/
def oddObject (rules : List String) : Value := .object 0 ((oddWorld rules).ref 3)

end World

/-- The table of an object is final though the call that names it fails. -/
theorem Registry.failure_finalizes :
    let objects := (World.oddWorld ["__repr__"]).view
    let odd := World.oddObject ["__repr__"]
    let column : Registration := ⟨objects, odd,
      .column ⟨.text "id", .text "id", none, .bool false, .bool false⟩⟩
    let table : Registration := ⟨objects, odd, .table (.text "pets")⟩
    let s := Registry.after ∅ [.register column]
    (table.run s).result = .error (.fault (.notCallable "int")) ∧
      s.hasTable objects odd = .ok false ∧ (table.run s).state.hasTable objects odd = .ok true :=
  ⟨rfl, rfl, rfl⟩

end RecordSql
