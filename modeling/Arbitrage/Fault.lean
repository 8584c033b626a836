import Arbitrage.Text.Quoted

namespace Arbitrage

/-- The classes of faults that callers tell apart. -/
inductive FaultClass where
  | missingAttribute
  | wrongType
  | badValue
  | missingKey
  | divisionByZero
  | failedAssertion
  | missingFile
  | directory
  | indexRange
  | overflow
  | runtime
  | exchange
  | missingModule
  | malformedDocument
  | cancelled
  | memory
  deriving DecidableEq, Repr

/-- The name a class of faults is reported under. -/
def FaultClass.name : FaultClass → String
  | .missingAttribute => "AttributeError"
  | .wrongType => "TypeError"
  | .badValue => "ValueError"
  | .missingKey => "KeyError"
  | .divisionByZero => "ZeroDivisionError"
  | .failedAssertion => "AssertionError"
  | .missingFile => "FileNotFoundError"
  | .directory => "IsADirectoryError"
  | .indexRange => "IndexError"
  | .overflow => "OverflowError"
  | .runtime => "RuntimeError"
  | .exchange => "ExchangeError"
  | .missingModule => "ImportError"
  | .malformedDocument => "YAMLError"
  | .cancelled => "CancelledError"
  | .memory => "MemoryError"

/-- Why an operation stopped. Type names are the names of value kinds (`Value.typeName`). -/
inductive Fault where
  /-- A value of kind `owner` has no attribute `name`. -/
  | noAttribute (owner name : String)
  /-- A class has no attribute `name`. -/
  | noClassAttribute (cls name : String)
  /-- A module has no attribute `name`. -/
  | noModuleAttribute (module name : String)
  /-- Texts were to be joined, and the member at `index` is a value of kind `owner`. -/
  | notTextMember (index : Nat) (owner : String)
  /-- A value of kind `owner` cannot be iterated. -/
  | notIterable (owner : String)
  /-- A value of kind `owner` cannot be tested for membership. -/
  | notContainer (owner : String)
  /-- A value of kind `owner` cannot be indexed. -/
  | notSubscriptable (owner : String)
  /-- A value of kind `owner` has no length. -/
  | noLength (owner : String)
  /-- A value of kind `owner` is neither text nor a number, so no double is read from it. -/
  | notRealForDouble (owner : String)
  /-- A value of kind `owner` is neither text nor a number, so no integer is read from it. -/
  | notRealForInt (owner : String)
  /-- A text is no decimal number; the text is shown in its literal form. -/
  | badDoubleText (literal : String)
  /-- A text is no integer in the base; the message shows at most 200 characters of its
  literal form. -/
  | badIntText (base : Nat) (literal : String)
  /-- An infinite double has no integer part. -/
  | infiniteToInt
  /-- NaN has no integer part. -/
  | nanToInt
  /-- An integer is too large for a double. -/
  | intTooLarge
  /-- The quotient of two integers is too large for a double. -/
  | quotientTooLarge
  /-- Two values of kinds `left` and `right` have no order under `op`. -/
  | unordered (op left right : String)
  /-- Unsupported operand kinds for an arithmetic operator. -/
  | badOperands (op left right : String)
  /-- A value of kind `owner` has no exact fraction. -/
  | noFraction (owner : String)
  /-- An entry of a mapping's source sequence is not a sequence. -/
  | entryNotSequence (index : Nat)
  /-- An entry of a mapping's source sequence has `length` members instead of two. -/
  | entryLength (index length : Nat)
  /-- A key that cannot be hashed. -/
  | unhashable (owner : String)
  /-- A value of kind `owner` cannot be unpacked into parts. -/
  | notUnpackable (owner : String)
  /-- Unpacking found fewer members than expected. -/
  | tooFewToUnpack (expected got : Nat)
  /-- Unpacking found more members than expected. -/
  | tooManyToUnpack (expected : Nat)
  /-- A mapping has no entry for a key, shown in its literal form. -/
  | noKey (keyLiteral : String)
  /-- A list index out of range. -/
  | indexOutOfRange
  /-- A tuple index out of range. -/
  | tupleIndexOutOfRange
  /-- A text index out of range. -/
  | textIndexOutOfRange
  /-- A double was divided by zero. -/
  | doubleDivisionByZero
  /-- An integer was divided by zero. -/
  | intDivisionByZero
  /-- An argument outside a mathematical function's domain. -/
  | domain
  /-- A checked condition failed; the text says which. -/
  | assertion (text : String)
  /-- A file is missing; the text says which. -/
  | fileMissing (text : String)
  /-- A file was to be read at `path`, which names a directory. -/
  | isDirectory (path : String)
  /-- A call was made with the wrong arguments; the text says how. -/
  | badCall (text : String)
  /-- A run-time condition stopped the program; the text says which. -/
  | stopped (text : String)
  /-- A number is too large for where it is used; the text says which. -/
  | tooLarge (text : String)
  /-- A value that fails a check of the program itself; the text says which. -/
  | invalid (text : String)
  /-- The exchange refused a request with this text. -/
  | exchangeRefused (text : String)
  /-- A required module is not available; the text says which. -/
  | moduleMissing (text : String)
  /-- A document is not well formed. -/
  | malformed
  /-- The task was cancelled. -/
  | cancelled
  /-- A text too long to be built. -/
  | outOfMemory
  /-- An integer has more decimal digits than a text of it may have. -/
  | intTextTooLong
  /-- A text of `digits` decimal digits is longer than an integer may be read from. -/
  | intDigitsTooMany (digits : Nat)
  deriving Repr, Inhabited

namespace Fault

/-- The class of a fault. -/
def category : Fault → FaultClass
  | .noAttribute .. | .noClassAttribute .. | .noModuleAttribute .. => .missingAttribute
  | .notIterable _ | .notContainer _ | .notSubscriptable _ | .noLength _ | .notRealForDouble _
  | .notRealForInt _ | .unordered .. | .badOperands .. | .noFraction _ | .entryNotSequence _
  | .unhashable _ | .badCall _ | .notUnpackable _ | .notTextMember .. => .wrongType
  | .badDoubleText _ | .badIntText .. | .nanToInt | .entryLength .. | .tooFewToUnpack ..
  | .tooManyToUnpack _ | .domain | .invalid _ | .intTextTooLong | .intDigitsTooMany _ => .badValue
  | .infiniteToInt | .intTooLarge | .quotientTooLarge | .tooLarge _ => .overflow
  | .noKey _ => .missingKey
  | .indexOutOfRange | .tupleIndexOutOfRange | .textIndexOutOfRange => .indexRange
  | .doubleDivisionByZero | .intDivisionByZero => .divisionByZero
  | .assertion _ => .failedAssertion
  | .fileMissing _ => .missingFile
  | .isDirectory _ => .directory
  | .stopped _ => .runtime
  | .exchangeRefused _ => .exchange
  | .moduleMissing _ => .missingModule
  | .malformed => .malformedDocument
  | .cancelled => .cancelled
  | .outOfMemory => .memory

/-- The wording of a fault. -/
def message : Fault → String
  | .noAttribute owner name => s!"'{owner}' object has no attribute '{name}'"
  | .noClassAttribute cls name => s!"type object '{cls}' has no attribute '{name}'"
  | .noModuleAttribute m name => s!"module '{m}' has no attribute '{name}'"
  | .notIterable owner => s!"'{owner}' object is not iterable"
  | .notTextMember i owner => s!"sequence item {i}: expected str instance, {owner} found"
  | .notContainer owner => s!"argument of type '{owner}' is not iterable"
  | .notSubscriptable owner => s!"'{owner}' object is not subscriptable"
  | .noLength owner => s!"object of type '{owner}' has no len()"
  | .notRealForDouble owner =>
    s!"float() argument must be a string or a real number, not '{owner}'"
  | .notRealForInt owner =>
    s!"int() argument must be a string, a bytes-like object or a real number, not '{owner}'"
  | .badDoubleText t => "could not convert string to float: " ++ t
  | .badIntText base t => s!"invalid literal for int() with base {base}: " ++ String.ofList (t.toList.take 200)
  | .infiniteToInt => "cannot convert float infinity to integer"
  | .nanToInt => "cannot convert float NaN to integer"
  | .intTooLarge => "int too large to convert to float"
  | .quotientTooLarge => "integer division result too large for a float"
  | .unordered op l r => s!"'{op}' not supported between instances of '{l}' and '{r}'"
  | .badOperands op l r => s!"unsupported operand type(s) for {op}: '{l}' and '{r}'"
  | .noFraction owner => s!"can't convert type '{owner}' to numerator/denominator"
  | .entryNotSequence i =>
    s!"cannot convert dictionary update sequence element #{i} to a sequence"
  | .entryLength i n =>
    s!"dictionary update sequence element #{i} has length {n}; 2 is required"
  | .unhashable owner => s!"unhashable type: '{owner}'"
  | .notUnpackable owner => s!"cannot unpack non-iterable {owner} object"
  | .tooFewToUnpack e g => s!"not enough values to unpack (expected {e}, got {g})"
  | .tooManyToUnpack e => s!"too many values to unpack (expected {e})"
  | .noKey k => k
  | .indexOutOfRange => "list index out of range"
  | .tupleIndexOutOfRange => "tuple index out of range"
  | .textIndexOutOfRange => "string index out of range"
  | .doubleDivisionByZero => "float division by zero"
  | .intDivisionByZero => "division by zero"
  | .domain => "math domain error"
  | .isDirectory path => "[Errno 21] Is a directory: " ++ Text.quote path
  | .assertion t | .fileMissing t | .badCall t | .stopped t | .invalid t | .tooLarge t
  | .exchangeRefused t | .moduleMissing t => t
  | .malformed => ""
  | .cancelled => ""
  | .outOfMemory => ""
  | .intTextTooLong => "Exceeds the limit (4300 digits) for integer string conversion; " ++
    "use sys.set_int_max_str_digits() to increase the limit"
  | .intDigitsTooMany n => "Exceeds the limit (4300 digits) for integer string conversion: " ++
    s!"value has {n} digits; use sys.set_int_max_str_digits() to increase the limit"

end Fault

end Arbitrage
