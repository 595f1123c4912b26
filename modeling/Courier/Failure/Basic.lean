import Courier.Failure.Kind
import Courier.Value.Basic

/-!
# Failures

Everything that can go wrong, by cause. A failure holds what its message
needs and nothing else; the wording is in `Failure.message`. Some failures
are caused by another one, which they keep.
-/

namespace Courier

/-- What is wrong with a base URL. -/
inductive UrlFault where
  | scheme
  | notText
  | missingHost
  | unterminatedAddress
  | dataAfterAddress
  | port (text : String)
  deriving Repr

/-- What is wrong with a response. -/
inductive ResponseFault where
  | statusLine (line : String)
  | statusCode (code : String)
  | headerLine (line : String)
  | contentLength (shown : String)
  | chunkSize (size : List UInt8)
  deriving Repr

/-- What a JSON text breaks at a position. -/
inductive JsonProblem where
  | byteOrderMark
  | valueExpected
  | extraData
  | nameExpected
  | colonExpected
  | commaExpected
  | unterminatedString
  | controlCharacter
  | escape
  | unicodeEscape
  deriving DecidableEq, Repr

/-- A broken JSON text: what is wrong, and where. Lines and columns count from
one, positions from zero. -/
structure JsonFault where
  problem : JsonProblem
  line : Nat
  column : Nat
  position : Nat
  deriving DecidableEq, Repr

/-- The two ways to write a payload. -/
inductive BodyFormat where
  | form
  | json
  deriving DecidableEq, Repr

/-- A value used as something that values of its type are not. -/
inductive Misuse where
  | unhashable (type : String)
  | notSearchable (type : String)
  | bytesNeeded
  | notBytes (type : String)
  | notIterable (type : String)
  | notPair (index : Nat)
  | notText (type : String)
  | bytesStartNeeded
  | unordered (operator left right : String)
  | notFields
  | notUnpackable (type : String)
  | keyType (type : String)
  | notJson (type : String)
  | notInteger (type : String)
  | notCut
  | closingUnconnected
  deriving DecidableEq, Repr

/-- A value of the right type that cannot be used all the same. -/
inductive Unacceptable where
  | integer (base : Nat) (shown : String)
  | tooManyDigits (count : Option Nat)
  | pairLength (index length : Nat)
  | tooFewParts (count : Nat)
  | tooManyParts
  | circular
  | contentMode (shown : String)
  | notFinite
  deriving DecidableEq, Repr

/-- What was being done when values turned out to be nested too deep. -/
inductive Activity where
  | showing
  | comparing
  | encodingJson
  | decodingJsonMap
  | decodingJsonList
  deriving DecidableEq, Repr

/-- A failure, by its cause. -/
inductive Failure where
  /-- A failure of the given kind, from outside the library. -/
  | raised (kind : Kind) (args : List Value)
  /-- A failure of the operating system about one file or two. -/
  | raisedOn (kind : Kind) (number text : Value) (files : List Value)
  /-- The stream ended after `got` bytes of the `expected` ones. -/
  | streamEnded (got : Nat) (expected : Option Nat)
  /-- A line is longer than the reader's limit. -/
  | lineTooLong (endFound : Bool)
  /-- A negative number of bytes was asked for. -/
  | negativeRead
  /-- A wait has come to its end. -/
  | waitExpired
  /-- The work was called off. -/
  | cancelled
  /-- There is no connection to read from or write to. -/
  | unconnected
  | invalidUrl (shown : String) (fault : UrlFault)
  | unencodable (type : String) (format : BodyFormat) (cause : Failure)
  | invalidHeader (name value : String)
  | invalidResponse (fault : ResponseFault)
  /-- The network failed under a request. -/
  | transport (cause : Failure)
  /-- A request took longer than it may. -/
  | requestTimedOut (cause : Failure)
  | misuse (fault : Misuse)
  | noMember (type member : String)
  | missingKey (key : Value)
  /-- A lookup was answered without any address. -/
  | noAddress
  | unacceptable (fault : Unacceptable)
  | infiniteInteger
  /-- An integer beyond all binary numbers. -/
  | hugeInteger
  | tooDeep (activity : Activity)
  | invalidJson (fault : JsonFault)
  deriving Repr, Inhabited

namespace Failure

/-- The kind of a failure of the operating system that comes with a number. -/
def numberedKind (kind : Kind) (number : Value) : Kind :=
  match kind, number with
  | .system, .int number => .ofNumber number
  | .system, .bool true => .ofNumber 1
  | kind, _ => kind

/-- The files that a failure of the operating system is about, from what it
was raised with behind its number and its text: the first, and if there is a
first, the third. Work that would have to wait counts what it has done
instead. -/
def filesAmong (kind : Kind) (more : List Value) : List Value :=
  match more with
  | [] | .null :: _ => []
  | file :: rest =>
      if kind == .blocking && file.number?.isSome then []
      else
        match rest with
        | [_, .null] => [file]
        | [_, second] => [file, second]
        | _ => [file]

/-- A failure from outside the library. One of the operating system that comes
with a number is of the kind that the number has, and may be about files. -/
def outside (kind : Kind) (args : List Value) : Failure :=
  match kind.isSystem, args with
  | true, number :: text :: more =>
      if 3 < more.length then .raised kind args
      else
        let kind := numberedKind kind number
        match filesAmong kind more with
        | [] => .raised kind args
        | files => .raisedOn kind number text files
  | _, args => .raised kind args

def kind : Failure → Kind
  | .raised kind _ => kind
  | .raisedOn kind _ _ _ => kind
  | .streamEnded _ _ => .incompleteRead
  | .lineTooLong _ => .lineLimit
  | .negativeRead => .value
  | .waitExpired => .timeout
  | .cancelled => .cancelled
  | .unconnected => .assertion
  | .invalidUrl _ _ => .invalidUrl
  | .unencodable _ _ _ => .serialization
  | .invalidHeader _ _ => .invalidHeader
  | .invalidResponse _ => .invalidResponse
  | .transport _ => .transport
  | .requestTimedOut _ => .requestTimeout
  | .misuse _ => .type
  | .noMember _ _ => .attribute
  | .missingKey _ => .key
  | .noAddress => .index
  | .unacceptable _ => .value
  | .infiniteInteger => .overflow
  | .hugeInteger => .overflow
  | .tooDeep _ => .recursion
  | .invalidJson _ => .json

end Failure

end Courier
