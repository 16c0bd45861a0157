import SpanLexer.Datum

/-!
What can go wrong, by cause.

`Malformed` lists the compositions that are refused before anything is matched, `SourceFault` what
sources of units refuse; `Fault` adds what can stop an operation on a cursor or a running pattern.
Texts are made from causes in one place, `Fault.message?`.
-/
namespace SpanLexer

/-- Why a pattern cannot be composed from the given parts. -/
inductive Malformed where
  /-- A sequence of no patterns. -/
  | emptySequence
  /-- A choice between no patterns. -/
  | emptyChoice
  /-- A datum stands where a pattern is expected. -/
  | notPattern (given : Datum)
  /-- A datum stands where a text is expected. -/
  | notText (given : Datum)
  /-- A view on octets stands where a text is expected. -/
  | viewAsText
  /-- A literal of no characters. -/
  | emptyLiteral
  /-- A text of any other length stands where one character is expected. -/
  | notOneCharacter (given : List Char)
  /-- A datum stands where a predicate is expected. -/
  | predicateNotCallable (given : Datum)
  /-- An observed pattern without an observer. -/
  | observerMissing
  /-- A datum stands where an observer is expected. -/
  | observerNotCallable (given : Datum)
  /-- An observer that takes no argument by position. -/
  | observerTakesNothing (id : String)
  /-- An observer that needs more than the span it is told. -/
  | observerNeedsMore (id parameter : String)
  /-- A count that is no natural number. -/
  | badCount (given : Datum)

/-- Why a source of units is refused, or refuses to be read or changed. -/
inductive SourceFault where
  /-- A view has other than one dimension. -/
  | viewDimensions (dimensions : Nat)
  /-- A view on other than octets has gaps, so it cannot be read as octets. -/
  | viewWithGaps
  /-- The octets of a view do not make whole items. -/
  | viewItemBroken
  /-- The items of a view do not fill its shape. -/
  | viewShapeMismatch
  /-- A shape of a view without extent in some dimension. -/
  | viewShapeEmpty
  /-- A view on no octets is given a shape. -/
  | viewNothingShaped
  /-- A view without dimensions has no rows. -/
  | viewScalar
  /-- A row of more than one item of a view is assigned. -/
  | viewRowAssigned
  /-- A view has no item of that index. -/
  | viewIndexOutside
  /-- An item of the coded format cannot hold the value. -/
  | viewValue (code : Char)
  /-- An item of the coded format is no number. -/
  | viewType (code : Char)
  /-- An array is not a one dimensional array of octets. -/
  | arrayUnsupported (dimensions : Nat) (elementType : String)
  /-- The items of an array do not fill its shape. -/
  | arrayShapeMismatch (size : Nat) (shape : List Nat)
  /-- An array without dimensions has no rows. -/
  | arrayScalar
  /-- An array has no row of that index. -/
  | arrayIndexOutside (index : Int) (size : Nat)
  /-- An integer item of the named type cannot hold the value. -/
  | arrayInteger (value : Int) (elementType : String)
  /-- No floating point item can hold the value. -/
  | arrayOverflow
  /-- Steps of no length lead nowhere. -/
  | stepZero
  /-- A datum stands where a buffer is expected. -/
  | notBuffer (typeName : String)
  /-- A datum has no parts. -/
  | notDivisible (typeName : String)
  /-- The contents cannot be assigned. -/
  | notAssignable (typeName : String)
  /-- The number is no octet. -/
  | notOctet

/-- Why an operation stopped. -/
inductive Fault where
  /-- A composition was refused. -/
  | malformed (why : Malformed)
  /-- A source was refused, or refused to be read or changed. -/
  | source (why : SourceFault)
  /-- The buffer does not hold the requested window. -/
  | windowOutside (start stop : Int) (size : Nat)
  /-- The target of a move is outside the window. -/
  | seekOutside (target : Int) (origin limit : Nat)
  /-- More units, or fewer than none, were to be consumed than remain. -/
  | advanceOutside (amount : Int) (remaining : Nat)
  /-- There is no remaining unit of that index. -/
  | indexOutside (index : Int)
  /-- The unit is in the window, but the buffer has been shortened since. -/
  | unitGone
  /-- A span that ends before it starts has no length. -/
  | lengthNegative
  /-- The length of a span exceeds what a length can be. -/
  | lengthOverflow
  /-- What was to be run cannot be run. -/
  | notCallable (typeName : String)
  /-- The operator stands between values of these types, neither of which is a pattern. -/
  | operandsUnsupported (symbol left right : String)
  /-- An observer, a predicate or a callable stopped the run by itself. -/
  | raised (message : String)
  /-- Nothing has been defined under the name. -/
  | unknownName (name : String)
  /-- The run revisits a state it has been in, so it would never end. -/
  | endless

/-- The families of faults. -/
inductive Fault.Kind where
  | composition
  | wrongType
  | wrongValue
  | wrongIndex
  | overflow
  | unsupported
  | raised
  | unknownName
  | endless
  deriving DecidableEq, Repr

namespace Malformed

/-- The text of a refusal, where it has one. -/
def message? : Malformed → Option String
  | .emptySequence => some "bind requires at least one tokenizer"
  | .emptyChoice => some "one_of requires at least one tokenizer"
  | .notPattern given => some ("Expected a tokenizer, got " ++ given.render)
  | .notText given => some ("Expected str or bytes, got " ++ given.render)
  | .viewAsText => none
  | .emptyLiteral => some "Cannot tokenize an empty literal"
  | .notOneCharacter given =>
    some ("char_token expects a single character, got " ++ Quoted.quote given)
  | .predicateNotCallable given => some ("Predicate " ++ given.render ++ " is not callable")
  | .observerMissing => some "observe requires an observer"
  | .observerNotCallable given => some ("Observer " ++ given.render ++ " is not callable")
  | .observerTakesNothing id =>
    some ("Observer <obs " ++ id ++ "> can not be called with a single token: " ++
      "too many positional arguments")
  | .observerNeedsMore id parameter =>
    some ("Observer <obs " ++ id ++ "> can not be called with a single token: " ++
      "missing a required argument: " ++ Quoted.quote parameter.toList)
  | .badCount given => some ("count must be a non-negative integer, got " ++ given.render)

end Malformed

namespace SourceFault

/-- The family a fault of a source belongs to. -/
def kind : SourceFault → Fault.Kind
  | .viewDimensions _ => .wrongType
  | .viewWithGaps => .wrongType
  | .viewItemBroken => .wrongType
  | .viewShapeMismatch => .wrongType
  | .viewShapeEmpty => .wrongValue
  | .viewNothingShaped => .wrongType
  | .viewScalar => .wrongType
  | .viewRowAssigned => .unsupported
  | .viewIndexOutside => .wrongIndex
  | .viewValue _ => .wrongValue
  | .viewType _ => .wrongType
  | .arrayUnsupported _ _ => .wrongType
  | .arrayShapeMismatch _ _ => .wrongValue
  | .arrayScalar => .wrongIndex
  | .arrayIndexOutside _ _ => .wrongIndex
  | .arrayInteger _ _ => .overflow
  | .arrayOverflow => .overflow
  | .stepZero => .wrongValue
  | .notBuffer _ => .wrongType
  | .notDivisible _ => .wrongType
  | .notAssignable _ => .wrongType
  | .notOctet => .wrongValue

/-- A shape as it is written; a single extent is followed by a comma. -/
def renderShape : List Nat → String
  | [extent] => "(" ++ toString extent ++ ",)"
  | shape => "(" ++ ",".intercalate (shape.map toString) ++ ")"

/-- The text of a fault of a source. -/
def message : SourceFault → String
  | .viewDimensions dimensions => s!"Expected one dimensional memoryview, got {dimensions}"
  | .viewWithGaps => "memoryview: casts are restricted to C-contiguous views"
  | .viewItemBroken => "memoryview: length is not a multiple of itemsize"
  | .viewShapeMismatch => "memoryview: product(shape) * itemsize != buffer size"
  | .viewShapeEmpty => "memoryview.cast(): elements of shape must be integers > 0"
  | .viewNothingShaped => "memoryview: cannot cast view with zeros in shape or strides"
  | .viewScalar => "invalid indexing of 0-dim memory"
  | .viewRowAssigned => "sub-views are not implemented"
  | .viewIndexOutside => "index out of bounds on dimension 1"
  | .viewValue code => s!"memoryview: invalid value for format '{code}'"
  | .viewType code => s!"memoryview: invalid type for format '{code}'"
  | .arrayUnsupported dimensions elementType =>
    "Expected one dimensional array of uint8, " ++
      s!"got {dimensions} dimensional array of {elementType}"
  | .arrayShapeMismatch size shape =>
    s!"cannot reshape array of size {size} into shape " ++ renderShape shape
  | .arrayScalar => "too many indices for array: array is 0-dimensional, but 1 were indexed"
  | .arrayIndexOutside index size =>
    s!"index {index} is out of bounds for axis 0 with size {size}"
  | .arrayInteger value elementType =>
    s!"Python integer {value} out of bounds for {elementType}"
  | .arrayOverflow => "int too large to convert to float"
  | .stepZero => "slice step cannot be zero"
  | .notBuffer typeName => s!"Unsupported buffer type {typeName}"
  | .notDivisible typeName => s!"'{typeName}' object is not subscriptable"
  | .notAssignable typeName => s!"'{typeName}' object does not support item assignment"
  | .notOctet => "byte must be in range(0, 256)"

end SourceFault

namespace Fault

/-- The family a fault belongs to. -/
def kind : Fault → Kind
  | .malformed _ => .composition
  | .source why => why.kind
  | .windowOutside _ _ _ => .wrongValue
  | .seekOutside _ _ _ => .wrongValue
  | .advanceOutside _ _ => .wrongValue
  | .indexOutside _ => .wrongIndex
  | .unitGone => .wrongIndex
  | .lengthNegative => .wrongValue
  | .lengthOverflow => .overflow
  | .notCallable _ => .wrongType
  | .operandsUnsupported _ _ _ => .wrongType
  | .raised _ => .raised
  | .unknownName _ => .unknownName
  | .endless => .endless

/-- The text of a fault, where it has one. -/
def message? : Fault → Option String
  | .malformed why => why.message?
  | .source why => some why.message
  | .windowOutside start stop size =>
    some s!"Invalid bounds start={start}, end={stop} for buffer of length {size}"
  | .seekOutside target origin limit =>
    some s!"Cannot seek to {target}, input is between {origin} and {limit}"
  | .advanceOutside amount remaining =>
    some s!"Cannot remove {amount} units, only {remaining} remaining"
  | .indexOutside index => some s!"Cursor index {index} out of range"
  | .unitGone => some "bytearray index out of range"
  | .lengthNegative => some "__len__() should return >= 0"
  | .lengthOverflow => some "cannot fit 'int' into an index-sized integer"
  | .notCallable typeName => some s!"'{typeName}' object is not callable"
  | .operandsUnsupported symbol left right =>
    some s!"unsupported operand type(s) for {symbol}: '{left}' and '{right}'"
  | .raised message => some message
  | .unknownName name => some name
  | .endless => some "the run would never end"

end Fault

end SpanLexer
