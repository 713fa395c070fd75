import Colloquy.Json.Reader
import Colloquy.Url.Flaw
import Colloquy.Value.Number

/-! # Faults

Everything that can end an operation, as causes. `message` words them and `family` sorts them: the
families of data faults are what lenient decoding absorbs, and only the transient family is worth
another attempt.
-/
set_option autoImplicit false

namespace Colloquy

inductive NetworkFault where
  | readTimeout
  | connectTimeout
  | writeTimeout
  | poolTimeout
  | connectError
  | readError
  | writeError
  | protocolError
  | tooManyRedirects
deriving DecidableEq, Repr

namespace NetworkFault

def isTimeout : NetworkFault → Bool
  | readTimeout | connectTimeout | writeTimeout | poolTimeout => true
  | _ => false

def isTransport : NetworkFault → Bool
  | connectError | readError | writeError | protocolError => true
  | _ => false

end NetworkFault

inductive Complaint where
  | value
  | type
  | runtime
deriving DecidableEq, Repr

inductive Fault where
  | chat (arguments : List Value)
  | invalidOptions (kind : String)
  | functionNotFound (name : Value)
  | streamedToolCall
  | roundLimit (rounds : Value)
  /-- The service refused. The status is that of the exchange or that of the answer. -/
  | api (message : String) (status : Value)
  | transient (message : String) (status : Value)
  | network (cause : NetworkFault) (message : String)
  | noAttribute (kind member : String)
  | notIterable (kind : String)
  | notKey (kind : String)
  | emptyList
  | emptyText
  | notMember (value : Value) (family : String)
  | notObject (kind : String)
  | number (cause : NumberError)
  | unwritable (cause : Json.Obstacle)
  | notText (position : Nat) (kind : String)
  | notWhole (kind : String)
  | unexpectedKeyword (function keyword : String)
  | missingArgument (function argument : String)
  | missingKey (key : Value)
  | notSubscriptable (kind : String)
  | badSubscript (kind : String)
  | argumentsNotObject (function kind : String)
  | noHandler (function : String)
  | needsAwait (function : String)
  | unreadable (flaw : Json.Flaw)
  | malformedText
  | headerNotAscii
  | malformedYaml
  | isDirectory
  | nameTooLong
  | badAddress (flaw : Url.Flaw)
  | unknownAddress (address : String)
  | badInteger (base : Nat) (text : String)
  | badDecimal (text : String)
  | badMoment (flaw : String)
  | badCodePoint
  | notWritten
  | notOctets (kind : String)
  | endless
  | notMarkup (kind : String)
  | emptyApiKey
  | negativeRounds
  | tooFewAttempts
  | streamFlag (wanted : Bool)
  | unknownPolicy (path : String) (value : Value)
  | notMapping (path : String)
  | clientClosed
  | scriptExhausted
  | raised (complaint : Complaint) (text : String)
  /-- The run was watched for fewer rounds than it took. -/
  | unfinished

namespace Fault

inductive Family where
  | chat
  | invalidOptions
  | functionNotFound
  | streamedToolCall
  | roundLimit
  | api
  | transient
  | network (cause : NetworkFault)
  | missingAttribute
  | type
  | value
  | key
  | index
  | runtime
  | notImplemented
  | json
  | decoding
  | encoding
  | overflow
  | zeroDivision
  | yaml
  | directory
  | disk
  | address
  | memory
  | recursion
deriving DecidableEq, Repr

def family : Fault → Family
  | chat _ => .chat
  | invalidOptions _ => .invalidOptions
  | functionNotFound _ => .functionNotFound
  | streamedToolCall => .streamedToolCall
  | roundLimit _ => .roundLimit
  | api .. => .api
  | transient .. => .transient
  | network cause _ => .network cause
  | noAttribute .. => .missingAttribute
  | notIterable _ | notKey _ | notObject _ | notText .. | notWhole _ | unexpectedKeyword ..
  | missingArgument .. | notSubscriptable _ | badSubscript _ | needsAwait _ | notMarkup _
  | notWritten | notOctets _ => .type
  | emptyList | emptyText => .index
  | notMember .. | argumentsNotObject .. | emptyApiKey | negativeRounds | tooFewAttempts
  | streamFlag _ | unknownPolicy .. | notMapping _ | unknownAddress _ | badInteger ..
  | badDecimal _ | badMoment _ | badCodePoint => .value
  | number .overflow => .overflow
  | number .noMemory => .memory
  | number .zeroDivision => .zeroDivision
  | number _ => .type
  | unwritable .notFinite | unwritable .circular | unwritable .tooLong => .value
  | unwritable .tooDeep => .recursion
  | unwritable _ => .type
  | missingKey _ => .key
  | noHandler _ => .notImplemented
  | unreadable .malformed => .json
  | unreadable (.tooLong _) => .value
  | unreadable (.tooDeep _) => .recursion
  | malformedText => .decoding
  | headerNotAscii => .encoding
  | malformedYaml => .yaml
  | isDirectory => .directory
  | nameTooLong => .disk
  | badAddress _ => .address
  | endless => .recursion
  | clientClosed | scriptExhausted | unfinished => .runtime
  | raised .value _ => .value
  | raised .type _ => .type
  | raised .runtime _ => .runtime

/-- Faults about the shape of data, which lenient readers turn into a report. -/
def isDataFault (f : Fault) : Bool :=
  match f.family with
  | .missingAttribute | .type | .value | .json | .decoding | .encoding => true
  | .invalidOptions => true
  | _ => false

def isTransient : Fault → Bool
  | transient .. => true
  | _ => false

def ownName? (f : Fault) : Option String :=
  match f.family with
  | .chat => some "MiniMaxChatError"
  | .invalidOptions => some "InvalidOptionsError"
  | .functionNotFound => some "FunctionNotFoundError"
  | .streamedToolCall => some "StreamingFunctionCallNotSupportedError"
  | .roundLimit => some "ToolRoundLimitExceededError"
  | .api => some "MiniMaxApiError"
  | .transient => some "TransientApiError"
  | _ => none

/-- Several arguments are shown as a parenthesised list. -/
def argumentsText : List Value → String
  | [] => ""
  | [v] => v.text
  | vs => "(" ++ String.intercalate ", " (vs.map Value.display) ++ ")"

def numberMessage : NumberError → String
  | .overflow => "Result too large"
  | .zeroDivision => "0.0 cannot be raised to a negative power"
  | .notReal => "'<' not supported between instances of 'float' and 'complex'"
  | .unsupported operator left right =>
    "unsupported operand type(s) for " ++ operator ++ ": '" ++ left ++ "' and '" ++ right ++ "'"
  | .notTimes kind => "can't multiply sequence by non-int of type '" ++ kind ++ "'"
  | .noMemory => ""
  | .unordered left right =>
    "'<' not supported between instances of '" ++ left ++ "' and '" ++ right ++ "'"
  | .dateAmongTimes => "can't compare datetime.datetime to datetime.date"
  | .mixedZones => "can't compare offset-naive and offset-aware datetimes"

def lengthMessage (detail : String) : String :=
  "Exceeds the limit (" ++ toString Whole.maxDigits ++ " digits) for integer string conversion" ++
    detail ++ "; use sys.set_int_max_str_digits() to increase the limit"

def depthMessage : String := "maximum recursion depth exceeded"

def obstacleMessage : Json.Obstacle → String
  | .notFinite => "Out of range float values are not JSON compliant"
  | .notWritable kind => "Object of type " ++ kind ++ " is not JSON serializable"
  | .notKey kind => "keys must be str, int, float, bool or None, not " ++ kind
  | .circular => "Circular reference detected"
  | .tooLong => lengthMessage ""
  | .tooDeep => depthMessage ++ " while encoding a JSON object"

def flawMessage : Json.Flaw → String
  | .malformed => "malformed JSON"
  | .tooLong digits => lengthMessage (": value has " ++ toString digits ++ " digits")
  | .tooDeep what => depthMessage ++ " while decoding a JSON " ++ what ++ " from a unicode string"

def message : Fault → String
  | chat arguments => argumentsText arguments
  | invalidOptions kind => "Prompt options are not of type ChatOptions: " ++ kind
  | functionNotFound name => "No function callback found for function name: " ++ name.text
  | streamedToolCall => "Streaming Function calling is not supported"
  | roundLimit rounds =>
    "Model still requested tool calls after " ++ rounds.text ++ " round-trips"
  | api text _ => text
  | transient text _ => text
  | network _ text => text
  | noAttribute kind member => "'" ++ kind ++ "' object has no attribute '" ++ member ++ "'"
  | notIterable kind => "'" ++ kind ++ "' object is not iterable"
  | notKey kind => "unhashable type: '" ++ kind ++ "'"
  | emptyList => "list index out of range"
  | emptyText => "string index out of range"
  | notMember value family => value.display ++ " is not a valid " ++ family
  | notObject kind => "expected a JSON object, got " ++ kind
  | number cause => numberMessage cause
  | unwritable cause => obstacleMessage cause
  | notText position kind =>
    "sequence item " ++ toString position ++ ": expected str instance, " ++ kind ++ " found"
  | notWhole kind => "'" ++ kind ++ "' object cannot be interpreted as an integer"
  | unexpectedKeyword function keyword =>
    function ++ "() got an unexpected keyword argument '" ++ keyword ++ "'"
  | missingArgument function argument =>
    function ++ "() missing 1 required positional argument: '" ++ argument ++ "'"
  | missingKey key => key.display
  | notSubscriptable kind => "'" ++ kind ++ "' object is not subscriptable"
  | badSubscript kind =>
    if kind = "str" then "string indices must be integers, not 'str'"
    else kind ++ " indices must be integers or slices, not str"
  | argumentsNotObject function kind =>
    "Arguments for '" ++ function ++ "' must be a JSON object, got " ++ kind
  | noHandler function => "Function '" ++ function ++ "' has no handler"
  | needsAwait function => "Function '" ++ function ++ "' is async; use acall()"
  | unreadable flaw => flawMessage flaw
  | malformedText => "malformed text"
  | headerNotAscii => "header is not ASCII"
  | malformedYaml => "malformed YAML"
  | isDirectory => "is a directory"
  | nameTooLong => "file name too long"
  | badAddress flaw => flaw.message
  | unknownAddress address => "unknown url type: " ++ Text.quoted address
  | badInteger base text =>
    "invalid literal for int() with base " ++ toString base ++ ": " ++
      String.ofList ((Text.quoted text).toList.take 200)
  | badDecimal text => "could not convert string to float: " ++ Text.quoted text
  | badMoment flaw => flaw
  | badCodePoint => "chr() arg not in range(0x110000)"
  | notWritten => "expected string or bytes-like object, got 'list'"
  | notOctets kind => "a bytes-like object is required, not '" ++ kind ++ "'"
  | endless => depthMessage
  | notMarkup kind => "Input data should be a string, not <class '" ++ kind ++ "'>"
  | emptyApiKey => "MiniMax API key must not be empty"
  | negativeRounds => "max_rounds must be >= 0 or None"
  | tooFewAttempts => "max_attempts must be at least 1"
  | streamFlag wanted => "Request must set stream to " ++ (if wanted then "True" else "False")
  | unknownPolicy path value =>
    "Invalid stream_error_policy in " ++ path ++ ": " ++ value.display
  | notMapping path => "Config file " ++ path ++ " must contain a mapping"
  | clientClosed => "Cannot send a request, as the client has been closed."
  | scriptExhausted => "script exhausted"
  | raised _ text => text
  | unfinished => "the conversation is not finished"

end Fault

/-! ## Steps inside an operation that may fail -/

def NumberError.lift {α : Type} : Except NumberError α → Except Fault α
  | .ok a => .ok a
  | .error e => .error (.number e)

def Json.Obstacle.lift {α : Type} : Except Json.Obstacle α → Except Fault α
  | .ok a => .ok a
  | .error o => .error (.unwritable o)

def Json.Flaw.lift {α : Type} : Except Json.Flaw α → Except Fault α
  | .ok a => .ok a
  | .error flaw => .error (.unreadable flaw)

end Colloquy
