import RecordSql.Value

/-! Faults: failures that come from the values, classes and functions a caller supplies, and not
from the rules of tables and statements. -/

namespace RecordSql

inductive FaultKind where
  | value
  | type
  | attr
  | frozen
  | name
  | document
  | decoding
  | encoding
  | depth
  | overflow
  | runtime
  | rejected
  | schema
  | form
  | construction
  | generation
  | key
  | index
  | division
  | copying
  | memory
  deriving DecidableEq

/-- Why the text of a structured value cannot be read. -/
inductive DocumentProblem where
  | value
  | extra
  | propertyName
  | colon
  | comma
  | unterminated
  | control
  | escape
  | codeEscape
  | byteOrderMark
  deriving DecidableEq

/-- Why a field of a validated record is refused. -/
inductive Rejection where
  | missing
  | extraForbidden
  | notMember
  | boolText
  | boolType
  | textType
  | textCoding
  | value
  | frozenInstance
  | noSuchAttribute
  | nullNeeded
  | intType
  | intText
  | intSize
  | intFraction
  | finiteNumber
  | floatType
  | floatText
  | complexType
  | textTooShort
  | textTooLong
  | bytesType
  | listType
  | tupleType
  | setType
  | fixedSetType
  | dictType
  | classType
  | otherClass
  | otherAncestor
  | tooLong
  | itemNotKey
  | iteration
  | bytesCoding
  | recordType
  | recordSource
  | recursion
  | keyType
  | attributeFault
  deriving DecidableEq

/-- What a fault is due to. Functions are given as messages name them. -/
inductive Fault where
  /-- A value that cannot be a key. -/
  | unhashable (type : String)
  | notIterable (type : String)
  | notUnpackable (type : String)
  | tooFewItems (needed given : Nat)
  | tooManyItems (needed : Nat)
  | notContainer (type : String)
  /-- A class that says itself that its objects hold nothing. -/
  | noContainer (type : String)
  | notCallable (type : String)
  | bytesNeeded
  /-- A value that is no count. -/
  | notCount (type : String)
  /-- A count that is too large. -/
  | indexOverflow (type : String)
  | badSubscript (type : String)
  | noItemAssignment (type : String)
  | noItemDeletion (type : String)
  /-- Two values of which neither comes before the other, by the sign between them. -/
  | notOrdered (sign left right : String)
  /-- Two values that a sign does not join. -/
  | notOperands (sign left right : String)
  /-- A value that a sign does not stand before. -/
  | notOperand (sign type : String)
  /-- A value that is put behind a sequence of another type. -/
  | notJoined (type given : String)
  /-- A value for which a text has no place. -/
  | placeless
  | tooFewForPlaces
  /-- A place of a text that ends before it says what is put there. -/
  | openPlace
  | unknownPlace (letter : String) (index : Nat)
  | numberForPlace (letter type : String)
  | zeroDivision (problem : String)
  | negativeShift
  | zeroStep
  /-- A value in the place of a bound of a part of a sequence. -/
  | badBound
  /-- An index of a sequence that is too large. -/
  | indexRange (type : String)
  /-- A value in the place of an index of a sequence. -/
  | notIndex (type index : String)
  /-- A value in the place of a part of a text. -/
  | textNeeded (type : String)
  /-- A value that is to be spread among others. -/
  | notSpread (type : String)
  /-- An attribute that is read and missing. -/
  | noAttribute (type attr : String)
  /-- An attribute that is set or deleted and that the object has no place for. -/
  | noPlace (type attr : String)
  /-- A slot that is read before it is set. -/
  | emptySlot (type attr : String)
  /-- An attribute that a validated object lacks. -/
  | undeclared (cls attr : String)
  | noClassAttribute (cls attr : String)
  /-- A slot that is deleted before it is set, or an attribute that a validated class lacks. -/
  | absent (attr : String)
  /-- An attribute that only the class holds. -/
  | classOnly (type attr : String)
  /-- An attribute that a class tells and its objects do not. -/
  | classAlone (cls attr : String)
  | readOnly (attr cls : String)
  | undeletable (attr cls : String)
  | notWritable (attr cls : String)
  | frozenSet (attr : String)
  | frozenDelete (attr : String)
  | unknownField (cls field : String)
  | noVariables
  | notVariables (type : String)
  | notClass (type : String)
  /-- A class that an object is given in the place of its own. -/
  | classFixed
  | classKept
  /-- A value that is not of the kind that the code of another language needs. -/
  | notConverted (type target : String)
  /-- A class that is asked for and hidden. -/
  | classNeeded
  | notMember (value : Value) (family : String)
  | badToken (token : Value)
  | tokenNotText
  | unboundName (name : String)
  | missingArguments (function : String) (names : List String)
  | unexpectedArgument (function name : String)
  | repeatedArgument (function name : String)
  /-- More arguments than the `most` that a function takes, of which it needs `least`. -/
  | surplusArguments (function : String) (least most given : Nat)
  /-- Arguments for a function without a name of its own, which needs another number of them. -/
  | wrongCount (needed given : Nat)
  /-- Arguments for the rule of an operator, which needs another number of them. -/
  | ruleArguments (needed given : Nat)
  /-- Arguments for a function that takes none. -/
  | noneTaken (function : String) (given : Nat)
  /-- A form for an object that is shown in one way only. -/
  | noForm (cls : String)
  /-- A value in the place of the text of a form. -/
  | formNotText (given : String)
  /-- The function that makes objects, called without a class, or with another value. -/
  | classMissing
  | makingClass (type : String)
  /-- Too many or too few types for the parts of a class. -/
  | partCount (cls : String) (needed given : Nat)
  /-- An integer that another language has no room for, and one that is too long for any. -/
  | integerRoom
  | integerLimit
  /-- An index at which a list cannot be changed, and one that no sequence can have. -/
  | placeRange
  | indexRoom
  /-- More values than there is room for, and more than can be counted. -/
  | noRoom
  | repetitionTooLong (what : String)
  /-- The older way of copying, of an object that tells of slots. -/
  | slotsUncopyable
  /-- Arguments for the function that makes objects, which takes the class alone. -/
  | soleArgument
  /-- Functions that a class of objects leaves open. -/
  | leftOpen (cls : String) (names : List String)
  /-- Arguments for a class that takes none. -/
  | noArguments (cls : String)
  | notKeywords (function type : String)
  | keywordNotText
  | attributeNotText (type : String)
  | badFieldName (name : String)
  | reservedFieldName (name : String)
  | repeatedField (name : String)
  /-- A term of a constructor that is another one in the normal form of identifiers. -/
  | unknownTerm (name : String)
  /-- A parameter of a constructor that is the name of another one, by the line that has it. -/
  | repeatedParameter (name : String) (line : Nat)
  /-- A parameter of a constructor that is the name of a constant. -/
  | constantParameter (name : String) (line : Nat)
  /-- An attribute that a class does not give up. -/
  | memberKept (attr cls : String)
  | mutableDefault (type : ClassRef) (field : String)
  | defaultOrder (field : String)
  /-- A field under a name that is kept for hidden ones. -/
  | hiddenField (name : String)
  /-- A field under a name that begins as those kept for functions, of which this is one. -/
  | keptFieldName (name member beginning : String)
  /-- A field of an ancestor that a body gives a value without a type. -/
  | overriddenField (name : String)
  | untypedField (name shown : String)
  | rootField
  /-- A field of a class whose objects have a single one. -/
  | rootNeeded (name : String)
  | settingsTwice
  /-- The settings of a class as one of its fields. -/
  | settingsField
  /-- An argument of the function that makes classes that is given twice. -/
  | repeatedKeyword (name : String)
  /-- An element of a dictionary's change that is no pair. -/
  | notPair (index : Nat)
  | wrongPair (index length : Nat)
  /-- Classes of which none makes classes for all. -/
  | makerConflict
  /-- Types that are not given as a tuple of classes. -/
  | notAddable (type : String)
  | notClasses
  /-- A class with types for its parts, in the place of a class. -/
  | classOfParts (shown origin : String)
  /-- A value in the place of a class. -/
  | classExpected (shown : String)
  /-- A beginning of names that is no text. -/
  | badBeginning (type : String)
  /-- A field with the value of its type as its start value. -/
  | startIsType
  /-- The text of a type that holds the null character. -/
  | nullInExpression
  /-- The text of a type that is no expression. -/
  | badExpression (shown : String)
  | expressionTuple (shown : String)
  /-- A class of values that takes no other types. -/
  | classSubscript (name : String)
  /-- A class that has types for its parts already. -/
  | notGeneric (shown : String)
  /-- A validated class, which has no parts. -/
  | withoutParts (shown : String)
  | typePairNeeded (origin : String)
  | openTuple
  /-- A value that says nothing of a field's values. -/
  | noType (shown : String)
  /-- A name in the type of a field that nothing is bound to yet. -/
  | undefinedType (cls name : String)
  /-- Arguments of a function that takes exactly one. -/
  | soleArgumentNeeded (function : String) (given : Nat)
  /-- Arguments of a function that takes another number of them, or more or fewer than that. -/
  | argumentCount (function bound : String) (needed given : Nat)
  /-- Arguments by name for a function that takes none. -/
  | noKeywords (function : String)
  /-- A text that is no integer to a base. -/
  | badNumeral (base : Nat) (shown : String)
  | badDecimal (shown : String)
  /-- A value that is turned into no number, for a function that takes some other values. -/
  | notNumber (function taken type : String)
  /-- A floating-point number that is no integer, since it is none or has no end. -/
  | notWhole ( isNumber : Bool)
  /-- A value in the place of an integer. -/
  | integerNeeded (type : String)
  | lengthless (type : String)
  | emptySequence (function : String)
  /-- A text for the code of a character that is longer or shorter than one, or another value. -/
  | notCharacter (given : String)
  | noCharacter
  /-- A text that is to be bytes without saying how. -/
  | codingNeeded
  | negativeCount
  /-- An integer that is no byte. -/
  | noByte
  | badComplex
  | notComplex (type : String)
  /-- A base for a value that is no text. -/
  | baseOfNumber
  | noBase
  | tooManyArguments (function : String) (most given : Nat)
  | typeArguments
  /-- A class with types for its parts, of which a value might be an object. -/
  | partsTested
  /-- A value in the place of classes that a class might derive from. -/
  | classesNeeded
  /-- A value without a sign to lose. -/
  | sizeless (type : String)
  | summandsNeeded
  | emptySeparator
  /-- A value among texts that are joined, by its index. -/
  | itemNotText (index : Nat) (type : String)
  /-- A value that is spread by names among arguments or entries. -/
  | notMapping (type : String)
  /-- Settings by which no field could be given. -/
  | namelessFields
  /-- A function that describes classes in a way of the past. -/
  | formerDescription (cls : String)
  /-- Settings that a class of validated objects cannot follow. -/
  | badSettings (problem : String)
  /-- A setting, perhaps a text, that does not say which texts are shared. -/
  | badCaching ( isText : Bool)
  | missingKey (key : Value)
  /-- A class whose objects have no function by which they are copied. -/
  | uncopyable (cls : ClassRef)
  /-- A list of slots that is none. -/
  | badSlotList (cls type : String)
  /-- Objects that do not tell their slots. -/
  | slotsUntold
  /-- Objects of which more is kept than they can tell. -/
  | unpicklable (type : String)
  /-- A value that only the class holds, and that is set on an object. -/
  | classVariable (name cls : String)
  /-- A value that a signature is looked for in and that is no function. -/
  | notFunction (v : Value)
  /-- What a value has in the place of its signature. -/
  | badSignature (found : Value)
  /-- A value, behind the words for its kind, for which no signature is found. -/
  | signatureNotFound (kind : String) (v : Value)
  /-- A value that can be called and has no signature. -/
  | noSignature (v : Value)
  /-- A value that wraps itself. -/
  | wrappedInItself (v : Value)
  /-- A rule for setting or deleting that a field of a frozen class would replace. -/
  | replacedRule (attr cls : String)
  | badSlotName
  | badSlotItem (type : String)
  | repeatedVariables
  | repeatedLinks
  | slotConflict (name : String)
  | layoutConflict
  | nullInName
  | badQualname (type : String)
  | badCell (type : ClassRef)
  /-- A value of a class body that cannot be told its name. -/
  | namingFailed (type name cls : String)
  | duplicateBase (name : String)
  | inconsistentBases (names : List String)
  | badTarget (target : Value)
  | unserializable (type : String)
  | badKey (type : String)
  | notDocument (type : String)
  /-- The offset counts characters from zero. -/
  | document (problem : DocumentProblem) (line column offset : Nat)
  | tooManyDigits (limit digits : Nat)
  | tooDeep (activity : String)
  /-- The bytes from `first` up to, and without, `last`; one byte is shown. -/
  | undecodable (coding : String) (byte : UInt8) (first last : Nat) (reason : String)
  /-- Surrogates from `first` up to, and without, `last` in a text; one of them is shown. -/
  | unencodable (code first last : Nat)
  | rejected (details : List (String × Rejection))
  /-- What a function of the caller raises itself. -/
  | raised (kind : FaultKind) (message : String)

namespace Fault

def kind : Fault → FaultKind
  | notMember .. | badToken _ | unknownField .. | mutableDefault .. | slotConflict _
  | tooManyDigits .. | nullInName | tooFewItems .. | tooManyItems _ | signatureNotFound ..
  | noSignature _ | wrappedInItself _ | wrongPair .. | openTuple | badCaching true
  | nullInExpression | negativeShift | zeroStep | badNumeral .. | badDecimal _ | notWhole false
  | emptySequence _ | noCharacter | openPlace | unknownPlace .. | negativeCount
  | noByte | badComplex | noBase | emptySeparator => .value
  | noAttribute .. | noPlace .. | emptySlot .. | undeclared .. | noClassAttribute .. | absent _
  | classOnly .. | classAlone .. | readOnly .. | undeletable .. | notWritable ..
  | classVariable .. => .attr
  | frozenSet _ | frozenDelete _ => .frozen
  | unboundName _ | hiddenField _ | keptFieldName .. | rootNeeded _ => .name
  | document .. => .document
  | undecodable .. => .decoding
  | unencodable .. => .encoding
  | tooDeep _ => .depth
  | indexOverflow _ | notWhole true | integerRoom | integerLimit
  | repetitionTooLong _ => .overflow
  | namingFailed .. => .runtime
  | rejected _ => .rejected
  | overriddenField _ | untypedField .. | settingsTwice | settingsField | startIsType
  | undefinedType .. | namelessFields | formerDescription _ | classOfParts .. => .schema
  | repeatedParameter .. | constantParameter .. | badExpression _ => .form
  | badSettings _ => .construction
  | noType _ => .generation
  | missingKey _ => .key
  | indexRange _ | placeRange | indexRoom => .index
  | zeroDivision _ => .division
  | uncopyable _ => .copying
  | noRoom => .memory
  | raised kind _ => kind
  | _ => .type

/-- What was read, or nothing if there is no such attribute. -/
def ifPresent {α : Type} : Except Fault α → Except Fault (Option α)
  | .ok a => .ok (some a)
  | .error f => if f.kind = .attr then .ok none else .error f

end Fault

end RecordSql
