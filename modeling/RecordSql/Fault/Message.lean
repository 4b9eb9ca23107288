import RecordSql.Text.Clipped
import RecordSql.Text.Decoding
import RecordSql.Value.Display

/-! The texts of faults. Most show the name of a type only up to a number of bytes. -/

namespace RecordSql

namespace DocumentProblem

def message : DocumentProblem → String
  | value => "Expecting value"
  | extra => "Extra data"
  | propertyName => "Expecting property name enclosed in double quotes"
  | colon => "Expecting ':' delimiter"
  | comma => "Expecting ',' delimiter"
  | unterminated => "Unterminated string starting at"
  | control => "Invalid control character at"
  | escape => "Invalid \\escape"
  | codeEscape => "Invalid \\uXXXX escape"
  | byteOrderMark => "Unexpected UTF-8 BOM (decode using utf-8-sig)"

end DocumentProblem

namespace Rejection

/-- The word for why a field is refused. -/
def label : Rejection → String
  | missing => "missing"
  | extraForbidden => "extra_forbidden"
  | notMember => "enum"
  | boolText => "bool_parsing"
  | boolType => "bool_type"
  | textType => "string_type"
  | textCoding => "string_unicode"
  | value => "value_error"
  | frozenInstance => "frozen_instance"
  | noSuchAttribute => "no_such_attribute"
  | nullNeeded => "none_required"
  | intType => "int_type"
  | intText => "int_parsing"
  | intSize => "int_parsing_size"
  | intFraction => "int_from_float"
  | finiteNumber => "finite_number"
  | floatType => "float_type"
  | floatText => "float_parsing"
  | complexType => "complex_type"
  | textTooShort => "string_too_short"
  | textTooLong => "string_too_long"
  | bytesType => "bytes_type"
  | listType => "list_type"
  | tupleType => "tuple_type"
  | setType => "set_type"
  | fixedSetType => "frozen_set_type"
  | dictType => "dict_type"
  | classType => "is_type"
  | otherClass => "is_instance_of"
  | otherAncestor => "is_subclass_of"
  | tooLong => "too_long"
  | itemNotKey => "set_item_not_hashable"
  | iteration => "iteration_error"
  | bytesCoding => "bytes_invalid_encoding"
  | recordType => "model_type"
  | recordSource => "model_attributes_type"
  | recursion => "recursion_loop"
  | keyType => "invalid_key"
  | attributeFault => "get_attribute_error"

end Rejection

namespace Fault

/-- Names in a sentence: `'a'`, `'a' and 'b'`, `'a', 'b', and 'c'`. -/
def enumerated : List String → String
  | [] => ""
  | [a] => Text.quoted a
  | [a, b] => Text.quoted a ++ " and " ++ Text.quoted b
  | names =>
    let shown := names.map Text.quoted
    commaSeparated shown.dropLast ++ ", and " ++ shown.getLastD ""

/-- The name of a type between apostrophes, up to some bytes. -/
def named (room : Nat) (type : String) : String := "'" ++ Text.clipped room type ++ "'"

/-- What asking a sequence for an item by a value of some type says. -/
def indexing (type index : String) : String :=
  match type with
  | "str" => "string indices must be integers, not " ++ named 200 index
  | "bytes" => "byte indices must be integers or slices, not " ++ Text.clipped 200 index
  | type => type ++ " indices must be integers or slices, not " ++ Text.clipped 200 index

/-- What asking for an item by name says of each type of value. -/
def subscript (type : String) : String :=
  if ["str", "list", "tuple", "bytes"].contains type then indexing type "str"
  else named 200 type ++ " object is not subscriptable"

/-- What asking a sequence for an item that it does not have says. -/
def outside : String → String
  | "str" => "string index out of range"
  | "bytes" => "index out of range"
  | type => type ++ " index out of range"

def lacking (room : Nat) (type attr : String) : String :=
  named room type ++ " object has no attribute '" ++ attr ++ "'"

def counted (n : Nat) (noun : String) : String :=
  toString n ++ " " ++ noun ++ (if n = 1 then "" else "s")

/-- Where the code of a constructor breaks a rule. -/
def place (line : Nat) : String := " (<string>, line " ++ toString line ++ ")"

/-- Too many arguments, of which some may be left out. -/
def surplus (function : String) (least most given : Nat) : String :=
  let taken :=
    if least = most then counted most "positional argument"
    else "from " ++ toString least ++ " to " ++ counted most "positional argument"
  function ++ " takes " ++ taken ++ " but " ++ toString given ++
    (if given = 1 then " was" else " were") ++ " given"

/-- The name that a field may have in place of one that is kept for hidden fields. -/
def openName (name : String) : String :=
  match name.toList.dropWhile (· = '_') with
  | [] => "my_field"
  | cs => String.ofList cs

/-- The advice on a schema that cannot be made, with the page that explains it. -/
def schemaAdvice (advice page : String) : String :=
  advice ++ "\n\nFor further information visit " ++
    "/".intercalate ["https:", "", "errors.pydantic.dev", "2.11", "u", page]

/-- A letter for which a text has no form. It is shown if it is visible ASCII. -/
def unknownLetter (codes : List Nat) : String :=
  let n := codes.headD 0
  let shown := if 31 ≤ n && n < 127 then (Char.ofNat n).toString else "?"
  "unsupported format character '" ++ shown ++ "' (0x" ++ String.ofList (Nat.toDigits 16 n) ++ ")"

/-- What putting a value of another type behind a sequence says. -/
def joining (type given : String) : String :=
  if type = "bytes" then "can't concat " ++ Text.clipped 100 given ++ " to bytes"
  else "can only concatenate " ++ type ++ " (not \"" ++ Text.clipped 200 given ++ "\") to " ++ type

def notAdded (type : String) : String :=
  if ["list", "str", "bytes"].contains type then joining type "tuple"
  else "unsupported operand type(s) for +: " ++ named 100 type ++ " and 'tuple'"

def message (w : ObjectText) : Fault → Except Fault String
  | unhashable type => .ok ("unhashable type: " ++ named 200 type)
  | notIterable type => .ok (named 200 type ++ " object is not iterable")
  | notUnpackable type =>
    .ok ("cannot unpack non-iterable " ++ Text.clipped 200 type ++ " object")
  | tooFewItems needed given => .ok ("not enough values to unpack (expected " ++ toString needed ++
      ", got " ++ toString given ++ ")")
  | tooManyItems needed =>
    .ok ("too many values to unpack (expected " ++ toString needed ++ ")")
  | notContainer type => .ok ("argument of type " ++ named 200 type ++ " is not iterable")
  | noContainer type => .ok (named 200 type ++ " object is not a container")
  | notCallable type => .ok (named 200 type ++ " object is not callable")
  | bytesNeeded => .ok "a bytes-like object is required, not 'str'"
  | notCount type =>
    .ok ("can't multiply sequence by non-int of type " ++ named 200 type)
  | indexOverflow type => .ok ("cannot fit " ++ named 200 type ++ " into an index-sized integer")
  | badSubscript type => .ok (subscript type)
  | noItemAssignment type => .ok (named 200 type ++ " object does not support item assignment")
  | noItemDeletion type => .ok (named 200 type ++ " object does not support item deletion")
  | notOrdered sign left right => .ok ("'" ++ sign ++ "' not supported between instances of " ++
      named 100 left ++ " and " ++ named 100 right)
  | notOperands sign left right => .ok ("unsupported operand type(s) for " ++ sign ++ ": " ++
      named 100 left ++ " and " ++ named 100 right)
  | notOperand sign type => .ok ("bad operand type for unary " ++ sign ++ ": " ++ named 200 type)
  | notJoined type given => .ok (joining type given)
  | placeless => .ok "not all arguments converted during string formatting"
  | tooFewForPlaces => .ok "not enough arguments for format string"
  | openPlace => .ok "incomplete format"
  | unknownPlace letter index => .ok (unknownLetter (Text.codes letter) ++ " at index " ++
      toString index)
  | numberForPlace letter type =>
    .ok ("%" ++ letter ++ " format: a real number is required, not " ++
      Text.clipped 200 type)
  | zeroDivision problem => .ok problem
  | negativeShift => .ok "negative shift count"
  | zeroStep => .ok "slice step cannot be zero"
  | badBound => .ok "slice indices must be integers or None or have an __index__ method"
  | indexRange type => .ok (outside type)
  | notIndex type index => .ok (indexing type index)
  | textNeeded type =>
    .ok ("'in <string>' requires string as left operand, not " ++ Text.clipped 100 type)
  | notSpread type =>
    .ok ("Value after * must be an iterable, not " ++ Text.clipped 200 type)
  | noAttribute type attr => .ok (lacking 50 type attr)
  | noPlace type attr => .ok (lacking 100 type attr)
  | emptySlot type attr => .ok (lacking 200 type attr)
  | undeclared cls attr =>
    .ok (Text.quoted cls ++ " object has no attribute " ++ Text.quoted attr)
  | noClassAttribute cls attr =>
    .ok ("type object " ++ named 50 cls ++ " has no attribute '" ++ attr ++ "'")
  | absent attr => .ok attr
  | classOnly type attr => .ok (named 50 type ++ " object attribute '" ++ attr ++ "' is read-only")
  | classAlone cls attr =>
    .ok (Text.quoted attr ++ " attribute of " ++ Text.quoted cls ++ " is class-only")
  | readOnly attr cls =>
    .ok ("property " ++ Text.quoted attr ++ " of " ++ Text.quoted cls ++ " object has no setter")
  | undeletable attr cls =>
    .ok ("property " ++ Text.quoted attr ++ " of " ++ Text.quoted cls ++ " object has no deleter")
  | notWritable attr cls =>
    .ok ("attribute '" ++ attr ++ "' of " ++ named 100 cls ++ " objects is not writable")
  | frozenSet attr => .ok ("cannot assign to field " ++ Text.quoted attr)
  | frozenDelete attr => .ok ("cannot delete field " ++ Text.quoted attr)
  | unknownField cls field => .ok ("\"" ++ cls ++ "\" object has no field \"" ++ field ++ "\"")
  | noVariables => .ok "vars() argument must have __dict__ attribute"
  | notVariables type => .ok ("__dict__ must be set to a dictionary, not a " ++ named 200 type)
  | notClass type => .ok ("__class__ must be set to a class, not '" ++ type ++ "' object")
  | classFixed => .ok ("__class__ assignment only supported for mutable types or ModuleType " ++
      "subclasses")
  | notConverted type target =>
    .ok (named 200 type ++ " object cannot be converted to '" ++ target ++ "'")
  | classKept => .ok "can't delete __class__ attribute"
  | classNeeded => .ok "issubclass() arg 1 must be a class"
  | notMember value family => (value.shownWith w []).map (· ++ " is not a valid " ++ family)
  | badToken token => (token.shownWith w []).map ("Operator token must start with '$': " ++ ·)
  | tokenNotText => .ok "startswith first arg must be bytes or a tuple of bytes, not str"
  | unboundName name => .ok ("name '" ++ name ++ "' is not defined")
  | missingArguments function names =>
    .ok (function ++ " missing " ++ counted names.length "required positional argument" ++ ": " ++
      enumerated names)
  | unexpectedArgument function name =>
    .ok (function ++ " got an unexpected keyword argument '" ++ name ++ "'")
  | repeatedArgument function name =>
    .ok (function ++ " got multiple values for argument '" ++ name ++ "'")
  | surplusArguments function least most given => .ok (surplus function least most given)
  | wrongCount needed given =>
    .ok (" expected " ++ counted needed "argument" ++ ", got " ++ toString given)
  | ruleArguments needed given =>
    .ok ("expected " ++ counted needed "argument" ++ ", got " ++ toString given)
  | noneTaken function given =>
    .ok (function ++ "() takes no arguments (" ++ toString given ++ " given)")
  | noForm cls => .ok ("unsupported format string passed to " ++ cls ++ ".__format__")
  | formNotText given => .ok ("__format__() argument must be str, not " ++ given)
  | classMissing => .ok "object.__new__(): not enough arguments"
  | makingClass type => .ok ("object.__new__(X): X is not a type object (" ++ type ++ ")")
  | partCount cls needed given => .ok ("Too " ++ (if needed < given then "many" else "few") ++
      " arguments for <class '" ++ cls ++ "'>; actual " ++ toString given ++ ", expected " ++
      toString needed)
  | integerLimit => .ok "too many digits in integer"
  | integerRoom => .ok "Python int too large to convert to C int"
  | placeRange => .ok "list assignment index out of range"
  | noRoom => .ok ""
  | repetitionTooLong what => .ok ("repeated " ++ what ++ " too long")
  | indexRoom => .ok "cannot fit 'int' into an index-sized integer"
  | slotsUncopyable => .ok ("a class that defines __slots__ without defining __getstate__ " ++
      "cannot be pickled")
  | soleArgument => .ok "object.__new__() takes exactly one argument (the type to instantiate)"
  | leftOpen cls names => .ok ("Can't instantiate abstract class " ++ cls ++
      " with abstract method" ++ (if names.length = 1 then " " else "s ") ++ commaSeparated names)
  | noArguments cls => .ok (Text.clipped 200 cls ++ "() takes no arguments")
  | notKeywords function type =>
    .ok (function ++ " argument after ** must be a mapping, not " ++ Text.clipped 200 type)
  | keywordNotText => .ok "keywords must be strings"
  | attributeNotText type => .ok ("attribute name must be string, not " ++ named 200 type)
  | badFieldName name => .ok ("Field names must be valid identifiers: " ++ Text.quoted name)
  | reservedFieldName name => .ok ("Field names must not be keywords: " ++ Text.quoted name)
  | repeatedField name => .ok ("Field name duplicated: " ++ Text.quoted name)
  | unknownTerm name =>
    .ok ("__create_fn__() got an unexpected keyword argument '" ++ name ++ "'")
  | repeatedParameter name line =>
    .ok ("duplicate argument " ++ Text.quoted name ++ " in function definition" ++ place line)
  | constantParameter name line => .ok ("cannot assign to " ++ name ++ place line)
  | memberKept attr cls =>
    .ok ("cannot delete '" ++ attr ++ "' attribute of immutable type '" ++ cls ++ "'")
  | mutableDefault type field => .ok ("mutable default " ++ type.shown ++ " for field " ++ field ++
      " is not allowed: use default_factory")
  | defaultOrder field =>
    .ok ("non-default argument " ++ Text.quoted field ++ " follows default argument")
  | hiddenField name => .ok ("Fields must not use names with leading underscores; e.g., use " ++
      Text.quoted (openName name) ++ " instead of " ++ Text.quoted name ++ ".")
  | keptFieldName name member beginning => .ok ("Field \"" ++ name ++
      "\" conflicts with member " ++ member ++ " of protected namespace \"" ++ beginning ++ "\".")
  | overriddenField name => .ok (schemaAdvice ("Field " ++ Text.quoted name ++
      " defined on a base class was overridden by a non-annotated attribute. " ++
      "All field definitions, including overrides, require a type annotation.")
      "model-field-overridden")
  | untypedField name shown => .ok (schemaAdvice ("A non-annotated attribute was detected: `" ++
      name ++ " = " ++ shown ++ "`. All model fields require a type annotation; if `" ++ name ++
      "` is not meant to be a field, you may be able to resolve this error by annotating it as " ++
      "a `ClassVar` or updating `model_config['ignored_types']`.")
      "model-field-missing-annotation")
  | rootNeeded name => .ok ("Unexpected field with name " ++ Text.quoted name ++
      "; only 'root' is allowed as a field of a `RootModel`")
  | settingsField => .ok (schemaAdvice ("`model_config` cannot be used as a model field name. " ++
      "Use `model_config` for model configuration.") "model-config-invalid-field-name")
  | repeatedKeyword name => .ok ("pydantic.main.create_model() got multiple values for keyword " ++
      "argument '" ++ name ++ "'")
  | notPair index => .ok ("cannot convert dictionary update sequence element #" ++
      toString index ++ " to a sequence")
  | wrongPair index length => .ok ("dictionary update sequence element #" ++ toString index ++
      " has length " ++ toString length ++ "; 2 is required")
  | makerConflict => .ok ("metaclass conflict: the metaclass of a derived class must be a " ++
      "(non-strict) subclass of the metaclasses of all its bases")
  | notAddable type => .ok (notAdded type)
  | notClasses => .ok "isinstance() arg 2 must be a type, a tuple of types, or a union"
  | classOfParts shown origin =>
    .ok ("Subscripting `type[]` with an already parametrized type is not supported. " ++
      "Instead of using type[" ++ shown ++ "], use type[" ++ origin ++ "].")
  | classExpected shown => .ok ("Expected a class, got " ++ shown)
  | badBeginning type =>
    .ok ("startswith first arg must be str or a tuple of str, not " ++ Text.clipped 100 type)
  | startIsType => .ok (schemaAdvice ("Error when building FieldInfo from annotated attribute. " ++
      "Make sure you don't have any field name clashing with a type annotation.")
      "unevaluable-type-annotation")
  | nullInExpression => .ok "source code string cannot contain null bytes"
  | badExpression shown => .ok ("Forward reference must be an expression -- got " ++ shown)
  | expressionTuple shown =>
    .ok ("Forward references must evaluate to types. Got " ++ shown ++ ".")
  | classSubscript name => .ok ("type " ++ named 100 name ++ " is not subscriptable")
  | notGeneric shown => .ok (shown ++ " is not a generic class")
  | withoutParts shown =>
    .ok (shown ++ " cannot be parametrized because it does not inherit from typing.Generic")
  | typePairNeeded origin =>
    .ok ("Expected two type arguments for <class '" ++ origin ++ "'>, got 1")
  | openTuple => .ok "Variable tuples can only have one type"
  | noType shown => .ok (schemaAdvice ("Unable to generate pydantic-core schema for " ++ shown ++
      ". Set `arbitrary_types_allowed=True` in the model_config to ignore this error or " ++
      "implement `__get_pydantic_core_schema__` on your type to fully support it.\n\n" ++
      "If you got this error by calling handler(<some type>) within " ++
      "`__get_pydantic_core_schema__` then you likely need to call " ++
      "`handler.generate_schema(<some type>)` since we do not call " ++
      "`__get_pydantic_core_schema__` on `<some type>` otherwise to avoid infinite recursion.")
      "schema-for-unknown-type")
  | undefinedType cls name => .ok (schemaAdvice ("`" ++ cls ++ "` is not fully defined; you " ++
      "should define `" ++ name ++ "`, then call `" ++ cls ++ ".model_rebuild()`.")
      "class-not-fully-defined")
  | soleArgumentNeeded function given =>
    .ok (function ++ "() takes exactly one argument (" ++ toString given ++ " given)")
  | argumentCount function bound needed given => .ok (function ++ " expected " ++ bound ++
      counted needed "argument" ++ ", got " ++ toString given)
  | noKeywords function => .ok (function ++ "() takes no keyword arguments")
  | badNumeral base shown =>
    .ok ("invalid literal for int() with base " ++ toString base ++ ": " ++ shown)
  | badDecimal shown => .ok ("could not convert string to float: " ++ shown)
  | notNumber function taken type =>
    .ok (function ++ "() argument must be a string" ++ taken ++ " or a real number, not " ++
      named 200 type)
  | notWhole isNumber =>
    .ok ("cannot convert float " ++ (if isNumber then "infinity" else "NaN") ++ " to integer")
  | integerNeeded type => .ok (named 200 type ++ " object cannot be interpreted as an integer")
  | lengthless type => .ok ("object of type " ++ named 200 type ++ " has no len()")
  | emptySequence function => .ok (function ++ "() arg is an empty sequence")
  | notCharacter given => .ok ("ord() expected " ++ given)
  | noCharacter => .ok "chr() arg not in range(0x110000)"
  | codingNeeded => .ok "string argument without an encoding"
  | negativeCount => .ok "negative count"
  | noByte => .ok "bytes must be in range(0, 256)"
  | badComplex => .ok "complex() arg is a malformed string"
  | notComplex type =>
    .ok ("complex() first argument must be a string or a number, not " ++ named 200 type)
  | baseOfNumber => .ok "int() can't convert non-string with explicit base"
  | noBase => .ok "int() base must be >= 2 and <= 36, or 0"
  | tooManyArguments function most given => .ok (function ++ "() takes at most " ++
      counted most "argument" ++ " (" ++ toString given ++ " given)")
  | typeArguments => .ok "type() takes 1 or 3 arguments"
  | partsTested => .ok "isinstance() argument 2 cannot be a parameterized generic"
  | classesNeeded => .ok "issubclass() arg 2 must be a class, a tuple of classes, or a union"
  | sizeless type => .ok ("bad operand type for abs(): " ++ named 200 type)
  | summandsNeeded => .ok "sum() takes at least 1 positional argument (0 given)"
  | emptySeparator => .ok "empty separator"
  | itemNotText index type => .ok ("sequence item " ++ toString index ++
      ": expected str instance, " ++ Text.clipped 80 type ++ " found")
  | notMapping type => .ok (named 200 type ++ " object is not a mapping")
  | namelessFields => .ok (schemaAdvice ("At least one of `validate_by_alias` or " ++
      "`validate_by_name` must be set to True.") "validate-by-alias-and-name-false")
  | formerDescription cls => .ok (schemaAdvice ("The `__modify_schema__` method is not " ++
      "supported in Pydantic v2. Use `__get_pydantic_json_schema__` instead in class `" ++ cls ++
      "`.") "custom-json-schema")
  | badSettings problem => .ok problem
  | badCaching _ => .ok ("Invalid string cache mode, should be `'all'`, '`keys`', `'none'` or " ++
      "a `bool`")
  | missingKey key => key.shownWith w []
  | uncopyable cls => .ok ("un(deep)copyable object of type " ++ cls.shown)
  | badSlotList cls type => .ok (Text.clipped 200 cls ++
      ".__slotnames__ should be a list or None, not " ++ Text.clipped 200 type)
  | slotsUntold => .ok ("a class that defines __slots__ without defining __getstate__ " ++
      "cannot be pickled")
  | unpicklable type => .ok ("cannot pickle " ++ named 200 type ++ " object")
  | classVariable name cls => .ok (Text.quoted name ++ " is a ClassVar of `" ++ cls ++
      "` and cannot be set on an instance. If you want to set a value on the class, use `" ++
      cls ++ "." ++ name ++ " = value`.")
  | settingsTwice =>
    .ok (schemaAdvice "\"Config\" and \"model_config\" cannot be used together" "config-both")
  | rootField => .ok ("To define root models, use `pydantic.RootModel` rather than a field " ++
      "called '__root__'")
  | notFunction v => (v.shownWith w []).map (· ++ " is not a callable object")
  | badSignature found =>
    (found.shownWith w []).map ("unexpected object " ++ · ++ " in __signature__ attribute")
  | signatureNotFound kind v =>
    (v.shownWith w []).map ("no signature found for " ++ kind ++ ·)
  | noSignature v =>
    (v.shownWith w []).map ("callable " ++ · ++ " is not supported by signature")
  | wrappedInItself v => (v.shownWith w []).map ("wrapper loop when unwrapping " ++ ·)
  | replacedRule attr cls => .ok ("Cannot overwrite attribute " ++ attr ++ " in class " ++ cls)
  | badSlotName => .ok "__slots__ must be identifiers"
  | badSlotItem type => .ok ("__slots__ items must be strings, not " ++ named 200 type)
  | repeatedVariables => .ok "__dict__ slot disallowed: we already got one"
  | repeatedLinks => .ok ("__weakref__ slot disallowed: either we already got one, " ++
      "or __itemsize__ != 0")
  | slotConflict name =>
    .ok (Text.quoted name ++ " in __slots__ conflicts with class variable")
  | layoutConflict => .ok "multiple bases have instance lay-out conflict"
  | nullInName => .ok "type name must not contain null characters"
  | badQualname type => .ok ("type __qualname__ must be a str, not " ++ type)
  | badCell type => .ok ("__classcell__ must be a nonlocal cell, not " ++
      Text.clipped 200 type.shown)
  | namingFailed type name cls => .ok ("Error calling __set_name__ on " ++ named 100 type ++
      " instance " ++ Text.quoted name ++ " in " ++ named 100 cls)
  | duplicateBase name => .ok ("duplicate base class " ++ name)
  | inconsistentBases names =>
    Text.fitted 999 ("Cannot create a consistent method resolution\norder (MRO) for bases " ++
      commaSeparated names)
  | badTarget target =>
    (target.shownWith w []).map ("Relation target must be a class or a callable, got " ++ ·)
  | unserializable type => .ok ("Object of type " ++ type ++ " is not JSON serializable")
  | badKey type =>
    .ok ("keys must be str, int, float, bool or None, not " ++ Text.clipped 100 type)
  | notDocument type => .ok ("the JSON object must be str, bytes or bytearray, not " ++ type)
  | document problem line column offset =>
    .ok (problem.message ++ ": line " ++ toString line ++ " column " ++ toString column ++
      " (char " ++ toString offset ++ ")")
  | tooManyDigits limit digits =>
    .ok ("Exceeds the limit (" ++ toString limit ++ " digits) for integer string conversion: " ++
      "value has " ++ toString digits ++
      " digits; use sys.set_int_max_str_digits() to increase the limit")
  | tooDeep activity => .ok ("maximum recursion depth exceeded" ++ activity)
  | undecodable coding byte first last reason =>
    let place :=
      if last = first + 1 then
        "byte 0x" ++ String.ofList (Text.hexDigits 2 byte.toNat) ++ " in position " ++
          toString first
      else "bytes in position " ++ toString first ++ "-" ++ toString (last - 1)
    .ok ("'" ++ coding ++ "' codec can't decode " ++ place ++ ": " ++ reason)
  | unencodable code first last =>
    let place :=
      if last = first + 1 then
        "character '" ++ String.ofList (Text.escapeCode code) ++ "' in position " ++ toString first
      else "characters in position " ++ toString first ++ "-" ++ toString (last - 1)
    .ok ("'utf-8' codec can't encode " ++ place ++ ": surrogates not allowed")
  | rejected _ => .ok ""
  | raised _ message => .ok message

end Fault

end RecordSql
