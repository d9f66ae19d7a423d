import Rover.Value.Text

/-!
# Faults

Why an operation failed.
-/

namespace Rover

/-- What is wrong with a marked up text: its characters, its words, the way they are put together,
its references or its meaning. -/
inductive MarkupStage where
  | characters | words | grammar | references | meaning
deriving DecidableEq, Repr

inductive FaultKind where
  | type | value | io | key | index | attribute | name | division | overflow | unbound
  | missingFile | runtime | assertion | importing | recursion | memory | image | brokenPipe
  | decoding
  | markup (stage : MarkupStage)
deriving DecidableEq, Repr

def FaultKind.word : FaultKind → String
  | .type => "TypeError"
  | .value => "ValueError"
  | .io => "OSError"
  | .key => "KeyError"
  | .index => "IndexError"
  | .attribute => "AttributeError"
  | .name => "NameError"
  | .division => "ZeroDivisionError"
  | .overflow => "OverflowError"
  | .unbound => "UnboundLocalError"
  | .missingFile => "FileNotFoundError"
  | .runtime => "RuntimeError"
  | .assertion => "AssertionError"
  | .importing => "ImportError"
  | .recursion => "RecursionError"
  | .memory => "MemoryError"
  | .image => "error"
  | .brokenPipe => "BrokenPipeError"
  | .decoding => "JSONDecodeError"
  | .markup .characters => "ReaderError"
  | .markup .words => "ScannerError"
  | .markup .grammar => "ParserError"
  | .markup .references => "ComposerError"
  | .markup .meaning => "ConstructorError"

/-- Causes of failure. Arguments named `kind`, `left` and `right` are names of classes. -/
inductive Fault where
  | bus
  | camera
  | peerClosed
  | operands (op left right : String)
  | joining (left right : String)
  | repeating (kind : String)
  | order (op left right : String)
  | sign (op kind : String)
  | magnitude (kind : String)
  | notCallable (kind : String)
  | notIterable (kind : String)
  | notContainer (kind : String)
  | notIndexable (kind : String)
  | noLength (kind : String)
  | unhashable (kind : String)
  | textMember (kind : String)
  | notInteger (kind : String)
  | notReal (kind : String)
  | position (sequence kind : String)
  | toInteger (kind : String)
  | toFloat (kind : String)
  | arguments (reason : String)
  | wrongType (reason : String)
  | nanToInteger
  | infinityToInteger
  | unreadableInteger (base : Nat) (quoted : String)
  | tooManyDigits (digits : Nat)
  | unwritable
  | unreadableFloat (quoted : String)
  | integerTooLarge
  | quotientTooLarge
  | resultOutOfRange
  | byteRange
  | wordRange
  | negativeToWord
  | domain
  | divisionByZero
  | floatDivisionByZero
  | floorDivisionByZero
  | moduloByZero
  | floatFloorDivisionByZero
  | floatModuloByZero
  | zeroToNegativePower
  | complexDivisionByZero
  | zeroToComplexPower
  | negativeShift
  | negativeSleep
  | nanSleep
  | indexRange (sequence : String)
  | noElement (reason : String)
  | assignmentRange
  | missingKey (key : Value)
  | unknownName (name : String)
  | unboundLocal (name : String)
  | unboundFree (name : String)
  | deletedLocal (name : String)
  | noAttribute (kind name : String)
  | missingFile (name : String)
  | invalidMotor (index : Value)
  | invalidServo (index : Value)
  | invalidPixel (index : Value)
  | unknownSonarAttribute (name : Value)
  | invalidServoId (index : Value)
  | invalidChannel (index : Value)
  | failedAssertion (shown : Value)
  | importForbidden
  | classForbidden
  | notAnException
  | notCatchable
  | noManager (kind : String)
  | notReversible (kind : String)
  | noRounding (kind : String)
  | oneArgument (function : String) (given : Nat)
  | tooManyElements (expected : Nat)
  | tooFewElements (expected got : Nat)
  | tooFewForPlaces (least got : Nat)
  | notUnpackable (kind : String)
  | nothingToRaise
  | tooDeep (doing : String)
  | outOfMemory
  | emptySequence (function : String)
  | rangeStep
  | badImage
  | unencodable
  | notJson (reason : String) (line column place : Nat)
  | unfit (reason : String)
  | unfitRuntime (reason : String)
  | beyondRange (reason : String)
  | badMarkup (stage : MarkupStage) (reason : String)

namespace Fault

def kind : Fault → FaultKind
  | .bus => .io
  | .camera | .unfitRuntime _ | .nothingToRaise => .runtime
  | .peerClosed => .brokenPipe
  | .operands .. | .joining .. | .repeating _ | .order .. | .sign .. | .magnitude _
  | .notCallable _ | .notIterable _ | .notContainer _ | .notIndexable _ | .noLength _
  | .unhashable _ | .textMember _ | .notInteger _ | .notReal _ | .position .. | .toInteger _
  | .toFloat _ | .arguments _ | .wrongType _ | .notAnException | .notCatchable | .noManager _
  | .notReversible _ | .noRounding _ | .oneArgument ..
  | .notUnpackable _ => .type
  | .nanToInteger | .unreadableInteger .. | .tooManyDigits _ | .unwritable | .unreadableFloat _
  | .byteRange | .domain | .negativeShift | .negativeSleep | .nanSleep | .invalidPixel _ | .invalidServoId _
  | .invalidChannel _ | .emptySequence _ | .rangeStep | .tooManyElements _ | .tooFewElements ..
  | .tooFewForPlaces ..
  | .unfit _ => .value
  | .infinityToInteger | .integerTooLarge | .quotientTooLarge | .resultOutOfRange | .wordRange
  | .negativeToWord | .beyondRange _ => .overflow
  | .divisionByZero | .floatDivisionByZero | .floorDivisionByZero | .moduloByZero
  | .floatFloorDivisionByZero | .floatModuloByZero | .zeroToNegativePower
  | .complexDivisionByZero | .zeroToComplexPower => .division
  | .indexRange _ | .noElement _ | .assignmentRange => .index
  | .missingKey _ => .key
  | .unknownName _ | .unboundFree _ | .classForbidden => .name
  | .unboundLocal _ | .deletedLocal _ => .unbound
  | .noAttribute .. | .invalidMotor _ | .invalidServo _
  | .unknownSonarAttribute _ => .attribute
  | .missingFile _ => .missingFile
  | .failedAssertion _ => .assertion
  | .importForbidden => .importing
  | .tooDeep _ => .recursion
  | .outOfMemory => .memory
  | .badImage | .unencodable => .image
  | .notJson .. => .decoding
  | .badMarkup stage _ => .markup stage

def quote (s : String) : String := "'" ++ s ++ "'"

def message : Fault → String
  | .bus => "[Errno 121] Remote I/O error"
  | .camera => "camera error"
  | .peerClosed => "closed"
  | .operands op left right =>
    "unsupported operand type(s) for " ++ op ++ ": " ++ quote left ++ " and " ++ quote right
  | .joining left right =>
    "can only concatenate " ++ left ++ " (not \"" ++ right ++ "\") to " ++ left
  | .repeating kind => "can't multiply sequence by non-int of type " ++ quote kind
  | .order op left right =>
    quote op ++ " not supported between instances of " ++ quote left ++ " and " ++ quote right
  | .sign op kind => "bad operand type for unary " ++ op ++ ": " ++ quote kind
  | .magnitude kind => "bad operand type for abs(): " ++ quote kind
  | .notCallable kind => quote kind ++ " object is not callable"
  | .notIterable kind => quote kind ++ " object is not iterable"
  | .notContainer kind => "argument of type " ++ quote kind ++ " is not iterable"
  | .notIndexable kind => quote kind ++ " object is not subscriptable"
  | .noLength kind => "object of type " ++ quote kind ++ " has no len()"
  | .unhashable kind => "unhashable type: " ++ quote kind
  | .textMember kind => "'in <string>' requires string as left operand, not " ++ kind
  | .notInteger kind => quote kind ++ " object cannot be interpreted as an integer"
  | .notReal kind => "must be real number, not " ++ kind
  | .position sequence kind =>
    sequence ++ " indices must be integers or slices, not " ++ kind
  | .toInteger kind =>
    "int() argument must be a string, a bytes-like object or a real number, not " ++ quote kind
  | .toFloat kind => "float() argument must be a string or a real number, not " ++ quote kind
  | .nanToInteger => "cannot convert float NaN to integer"
  | .infinityToInteger => "cannot convert float infinity to integer"
  | .unreadableInteger base quoted =>
    "invalid literal for int() with base " ++ natText base ++ ": "
      ++ String.ofList (quoted.toList.take 200)
  | .tooManyDigits digits =>
    "Exceeds the limit (" ++ natText Number.digitLimit
      ++ " digits) for integer string conversion: value has " ++ natText digits
      ++ " digits; use sys.set_int_max_str_digits() to increase the limit"
  | .unwritable =>
    "Exceeds the limit (" ++ natText Number.digitLimit
      ++ " digits) for integer string conversion; use sys.set_int_max_str_digits() to increase"
      ++ " the limit"
  | .unreadableFloat quoted => "could not convert string to float: " ++ quoted
  | .integerTooLarge => "int too large to convert to float"
  | .quotientTooLarge => "integer division result too large for a float"
  | .resultOutOfRange => "(34, 'Numerical result out of range')"
  | .byteRange => "bytes must be in range(0, 256)"
  | .wordRange => "int too big to convert"
  | .negativeToWord => "can't convert negative int to unsigned"
  | .domain => "math domain error"
  | .divisionByZero => "division by zero"
  | .floatDivisionByZero => "float division by zero"
  | .floorDivisionByZero => "integer division or modulo by zero"
  | .moduloByZero => "integer modulo by zero"
  | .floatFloorDivisionByZero => "float floor division by zero"
  | .floatModuloByZero => "float modulo"
  | .zeroToNegativePower => "0.0 cannot be raised to a negative power"
  | .complexDivisionByZero => "complex division by zero"
  | .zeroToComplexPower => "0.0 to a negative or complex power"
  | .negativeShift => "negative shift count"
  | .negativeSleep => "sleep length must be non-negative"
  | .nanSleep => "Invalid value NaN (not a number)"
  | .indexRange sequence => sequence ++ " index out of range"
  | .assignmentRange => "list assignment index out of range"
  | .missingKey key => key.repr
  | .unknownName name => "name " ++ quote name ++ " is not defined"
  | .unboundLocal name | .deletedLocal name =>
    "cannot access local variable " ++ quote name ++ " where it is not associated with a value"
  | .unboundFree name =>
    "cannot access free variable " ++ quote name
      ++ " where it is not associated with a value in enclosing scope"
  | .noAttribute kind name => quote kind ++ " object has no attribute " ++ quote name
  | .missingFile name => "[Errno 2] No such file or directory: " ++ quote name
  | .invalidMotor index => "Invalid motor num: " ++ index.text
  | .invalidServo index => "Invalid Servo ID: " ++ index.text
  | .invalidPixel index => "('Invalid pixel index', " ++ index.repr ++ ")"
  | .unknownSonarAttribute name => "Unknow attribute : " ++ name.text
  | .invalidServoId index => "无效的舵机ID: " ++ index.text
  | .invalidChannel index => "巡线传感器通道号无效: " ++ index.text ++ "，范围应为0-3"
  | .failedAssertion shown => shown.text
  | .importForbidden => "__import__ not found"
  | .classForbidden => "__build_class__ not found"
  | .notAnException => "exceptions must derive from BaseException"
  | .notCatchable => "catching classes that do not inherit from BaseException is not allowed"
  | .noManager kind => quote kind ++ " object does not support the context manager protocol"
  | .notReversible kind => quote kind ++ " object is not reversible"
  | .noRounding kind => "type " ++ kind ++ " doesn't define __round__ method"
  | .oneArgument function given =>
    function ++ "() takes 1 positional argument but " ++ natText (given + 1) ++ " were given"
  | .tooManyElements expected =>
    "too many values to unpack (expected " ++ natText expected ++ ")"
  | .tooFewElements expected got =>
    "not enough values to unpack (expected " ++ natText expected ++ ", got "
      ++ natText got ++ ")"
  | .tooFewForPlaces least got =>
    "not enough values to unpack (expected at least " ++ natText least ++ ", got "
      ++ natText got ++ ")"
  | .notUnpackable kind => "cannot unpack non-iterable " ++ kind ++ " object"
  | .nothingToRaise => "No active exception to reraise"
  | .tooDeep doing => "maximum recursion depth exceeded" ++ doing
  | .outOfMemory => ""
  | .emptySequence function => function ++ "() arg is an empty sequence"
  | .rangeStep => "range() arg 3 must not be zero"
  | .badImage =>
    "OpenCV(4.5.5) /io/opencv/modules/imgproc/src/color.cpp:182: error: "
      ++ "(-215:Assertion failed) !_src.empty() in function 'cvtColor'\n"
  | .unencodable =>
    "OpenCV(4.5.5) /io/opencv/modules/imgcodecs/src/loadsave.cpp:976: error: "
      ++ "(-215:Assertion failed) !image.empty() in function 'imencode'\n"
  | .notJson reason line column place =>
    reason ++ ": line " ++ natText line ++ " column " ++ natText column
      ++ " (char " ++ natText place ++ ")"
  | .arguments reason | .wrongType reason | .noElement reason | .unfit reason
  | .unfitRuntime reason | .beyondRange reason | .badMarkup _ reason => reason

def isWritable : Fault → Bool
  | .missingKey v | .failedAssertion v | .invalidPixel v | .invalidServoId v
  | .invalidChannel v => v.isWritable
  | _ => true

def written (f : Fault) : Fault := if f.isWritable then f else .unwritable

end Fault

abbrev Result : Type → Type := Except Fault

namespace Value

def shown (v : Value) : Result String :=
  if v.isWritable then .ok v.text else .error .unwritable

end Value

end Rover
