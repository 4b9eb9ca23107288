import RecordSql.Record.Class

/-! Objects: what is held for one instance of a record class. -/

namespace RecordSql

/-- An object: its class; its variables in the order they were first set; and its slots that are
set. -/
structure Instance where
  cls : Nat
  vars : List (Value × Value) := []
  slots : Assoc String Value := []

namespace Instance

/-- A variable of the object. -/
def own? (o : Instance) (attr : String) : Option Value := Value.lookup? o.vars attr

/-- The object with a variable set. -/
def withVariable (o : Instance) (attr : String) (v : Value) : Instance :=
  { o with vars := Value.put o.vars attr v }

def withSlot (o : Instance) (slot : String) (v : Value) : Instance :=
  { o with slots := Assoc.put o.slots slot v }

/-- All values that the object holds. -/
def values (o : Instance) : List Value :=
  o.vars.flatMap (fun e => [e.1, e.2]) ++ Assoc.values o.slots

/-- The object with every value exchanged. -/
def map (f : Value → Value) (o : Instance) : Instance :=
  { o with
    vars := o.vars.map fun e => (f e.1, f e.2)
    slots := o.slots.map fun e => (e.1, f e.2) }

end Instance

/-! ### Slots of validated objects -/

/-- The slot for what a validated object holds beyond its fields. -/
def extraSlot : String := "__pydantic_extra__"

def givenSlot : String := "__pydantic_fields_set__"

def hiddenSlot : String := "__pydantic_private__"

/-- The name under which a validated object tells of its hidden fields. -/
def toldHidden : String := "__private_attributes__"

/-- The name under which a validated object tells of its fields. -/
def toldFields : String := "__pydantic_fields__"

end RecordSql
