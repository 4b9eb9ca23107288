import RecordSql.World.Display

/-! Completion of classes: what they get only when it is needed. A validated class may put its
validation off until an object is validated for the first time, and tells before that it is not
settled. -/

namespace RecordSql.World

def typedMember (type : String) : Member := .constant (.member type type)

/-- What a class tells of its validation: that it is settled, and what validates. -/
def completeMembers (isComplete : Bool) : List (String × Member) :=
  let (validates, writes) :=
    if isComplete then ("SchemaValidator", "SchemaSerializer") else ("MockValSer", "MockValSer")
  [("__pydantic_complete__", .constant (.bool isComplete)),
    ("__pydantic_validator__", typedMember validates),
    ("__pydantic_serializer__", typedMember writes)] ++
  if isComplete then [("__signature__", .signature)] else []

/-- Settles the validation of a class, unless something keeps its objects from being validated. -/
def complete (c : Nat) (schema : Schema) : Action World Unit := do
  if let some f := schema.fault? then Action.faulty f
  if schema.isPutOff then
    Action.modify fun w =>
      let cls := w.cls c
      let members := (completeMembers true).foldl (fun m e => Assoc.put m e.1 e.2) cls.members
      let schema? := some { schema with isPutOff := false }
      { w with classes := w.classes.set c { cls with members, schema? } }

/-- An attribute of a class as it is asked for. A class that gives no types of its own has an empty
collection of them from then on. -/
def askClass (c : Nat) (attr : String) : Action World Value := do
  let types := "__annotations__"
  if attr = types && !Assoc.contains ((← Action.get).cls c).members types then
    let held ← kept (.dict [])
    Action.modify fun w =>
      let cls := w.cls c
      let members := Assoc.put cls.members types (.constant held)
      { w with classes := w.classes.set c { cls with members } }
  let w ← Action.get
  w.readClass w.view c attr

end RecordSql.World
