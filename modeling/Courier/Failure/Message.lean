import Courier.Value.Text

/-!
# The wording of failures

One function gives the message of every failure. A failure is described by
the name of its kind and its message, and shown in logs as its kind applied
to what it was raised with.
-/

namespace Courier

open Courier.Text

/-- What is wrong with a base URL, in words. -/
def UrlFault.reason : UrlFault → String
  | .scheme => "Url should starts with `http://` or `https://`."
  | .notText => "expected a string"
  | .missingHost => "missing host"
  | .unterminatedAddress => "unterminated IPv6 address"
  | .dataAfterAddress => "unexpected data after IPv6 address"
  | .port text => "invalid port " ++ String.ofList (Quoted.text text.toList)

/-- What is wrong with a JSON text, in words. -/
def JsonProblem.text : JsonProblem → String
  | .byteOrderMark => "Unexpected UTF-8 BOM (decode using utf-8-sig)"
  | .valueExpected => "Expecting value"
  | .extraData => "Extra data"
  | .nameExpected => "Expecting property name enclosed in double quotes"
  | .colonExpected => "Expecting ':' delimiter"
  | .commaExpected => "Expecting ',' delimiter"
  | .unterminatedString => "Unterminated string starting at"
  | .controlCharacter => "Invalid control character at"
  | .escape => "Invalid \\escape"
  | .unicodeEscape => "Invalid \\uXXXX escape"

def JsonFault.text (fault : JsonFault) : String :=
  fault.problem.text ++ ": line " ++ toString fault.line ++ " column " ++ toString fault.column
    ++ " (char " ++ toString fault.position ++ ")"

/-- What is wrong with a response, in words. -/
def ResponseFault.text : ResponseFault → String
  | .statusLine line => "Invalid status line " ++ String.ofList (Quoted.text line.toList)
  | .statusCode code => "Invalid status code " ++ String.ofList (Quoted.text code.toList)
  | .headerLine line => "Invalid header line " ++ String.ofList (Quoted.text line.toList)
  | .contentLength shown => "Invalid content-length " ++ shown
  | .chunkSize size => "Invalid chunk size " ++ String.ofList (Quoted.bytes size)

/-- How a value was misused, in words. -/
def Misuse.text : Misuse → String
  | .unhashable type => "unhashable type: '" ++ type ++ "'"
  | .notSearchable type => "argument of type '" ++ type ++ "' is not iterable"
  | .bytesNeeded => "a bytes-like object is required, not 'str'"
  | .notBytes type => "can't concat " ++ type ++ " to bytes"
  | .notIterable type => "'" ++ type ++ "' object is not iterable"
  | .notPair index =>
      "cannot convert dictionary update sequence element #" ++ toString index ++ " to a sequence"
  | .notText type => "can only concatenate str (not \"" ++ type ++ "\") to str"
  | .bytesStartNeeded => "startswith first arg must be bytes or a tuple of bytes, not str"
  | .unordered operator left right =>
      "'" ++ operator ++ "' not supported between instances of '" ++ left ++ "' and '" ++ right
        ++ "'"
  | .notFields => "not a valid non-string sequence or mapping object"
  | .notUnpackable type => "cannot unpack non-iterable " ++ type ++ " object"
  | .keyType type => "keys must be str, int, float, bool or None, not " ++ type
  | .notJson type => "Object of type " ++ type ++ " is not JSON serializable"
  | .notInteger type =>
      "int() argument must be a string, a bytes-like object or a real number, not '" ++ type ++ "'"
  | .notCut => "slice indices must be integers or None or have an __index__ method"
  | .closingUnconnected => "`is_closing` method called on unconnected transport"

/-- Why a value cannot be used, in words. -/
def Unacceptable.text : Unacceptable → String
  | .integer base shown =>
      "invalid literal for int() with base " ++ toString base ++ ": " ++ shown
  | .tooManyDigits count =>
      "Exceeds the limit (" ++ toString digitLimit
        ++ " digits) for integer string conversion"
        ++ (match count with
          | some n => ": value has " ++ toString n ++ " digits"
          | none => "")
        ++ "; use sys.set_int_max_str_digits() to increase the limit"
  | .pairLength index length =>
      "dictionary update sequence element #" ++ toString index ++ " has length "
        ++ toString length ++ "; 2 is required"
  | .tooFewParts count =>
      "not enough values to unpack (expected 2, got " ++ toString count ++ ")"
  | .tooManyParts => "too many values to unpack (expected 2)"
  | .circular => "Circular reference detected"
  | .contentMode shown => shown ++ " is not a valid ContentMode"
  | .notFinite => "cannot convert float NaN to integer"

/-- What was being done with values nested too deep, in words. -/
def Activity.text : Activity → String
  | .showing => " while getting the repr of an object"
  | .comparing => " in comparison"
  | .encodingJson => " while encoding a JSON object"
  | .decodingJsonMap => " while decoding a JSON object from a unicode string"
  | .decodingJsonList => " while decoding a JSON array from a unicode string"

/-- The message of a name-resolution failure that was raised without one. -/
def dnsMessage : String :=
  "Abstract base class shared by all dnspython exceptions.\n"
    ++ "\n"
    ++ "    It supports two basic modes of operation:\n"
    ++ "\n"
    ++ "    a) Old/compatible mode is used if ``__init__`` was called with\n"
    ++ "    empty *kwargs*.  In compatible mode all *args* are passed\n"
    ++ "    to the standard Python Exception class as before and all *args* are\n"
    ++ "    printed by the standard ``__str__`` implementation.  Class variable\n"
    ++ "    ``msg`` (or doc string if ``msg`` is ``None``) is returned from ``str()``\n"
    ++ "    if *args* is empty.\n"
    ++ "\n"
    ++ "    b) New/parametrized mode is used if ``__init__`` was called with\n"
    ++ "    non-empty *kwargs*.\n"
    ++ "    In the new mode *args* must be empty and all kwargs must match\n"
    ++ "    those set in class variable ``supp_kwargs``. All kwargs are stored inside\n"
    ++ "    ``self.kwargs`` and used in a new ``__str__`` implementation to construct\n"
    ++ "    a formatted message based on the ``fmt`` class variable, a ``string``.\n"
    ++ "\n"
    ++ "    In the simplest case it is enough to override the ``supp_kwargs``\n"
    ++ "    and ``fmt`` class variables to get nice parametrized messages.\n"
    ++ "    "

/-- The message of a base URL that cannot be used. -/
def invalidUrlText (shown reason : String) : String :=
  "Invalid base url " ++ shown ++ ": " ++ reason

/-- The message of a stream that ended early. -/
def streamEndedText (got : Nat) (expected : String) : String :=
  toString got ++ " bytes read on a total of " ++ expected ++ " expected bytes"

/-- The text of a value inside a message, where texts stand for themselves;
empty for a value that has none. -/
def Value.plainOrEmpty (v : Value) : String := v.plainString.toOption.getD ""

/-- The text of a value inside a message, where texts are quoted; empty for a
value that has none. -/
def Value.shownOrEmpty (v : Value) : String := v.shownString.toOption.getD ""

/-- What a failure from outside was raised with, once its kind has put it in
order: a kind may supply a default message, or keep its message only. -/
def raisedWith (kind : Kind) (args : List Value) : List Value :=
  match kind, args with
  | .dns, [] => [.text dnsMessage]
  | .dnsTimeout, [] => [.text "The DNS operation timed out."]
  | .lineLimit, message :: _ => [message]
  | .incompleteRead, part :: expected :: _ =>
      let count := match expected with
        | .null => "undefined"
        | v => v.shownOrEmpty
      [.text (streamEndedText (part.elements?.getD []).length count)]
  | .invalidUrl, url :: reason =>
      [.text (invalidUrlText url.shownOrEmpty
        ((reason.head?.map Value.plainOrEmpty).getD UrlFault.scheme.reason))]
  | _, args => args

/-- The message of a failure of the operating system with a number. -/
def numberedText (number text : Value) : String :=
  "[Errno " ++ number.plainOrEmpty ++ "] " ++ text.plainOrEmpty

/-- The message of a failed secured connection: its text, if it has one. -/
def tlsText (args : List Value) : String :=
  match args with
  | [_, .text s] | [_, .text s, _] | [_, .text s, _, _] | [_, .text s, _, _, _] => s
  | args => (Value.tuple args).shownOrEmpty

/-- The message of a failure from outside. System failures with a number show
it; a failed secured connection shows its text only. -/
def raisedMessage (kind : Kind) (args : List Value) : String :=
  let args := raisedWith kind args
  if kind.isTls then tlsText args
  else
    match kind.isSystem, args with
    | _, [] => ""
    | _, [arg] => if kind == .key then arg.shownOrEmpty else arg.plainOrEmpty
    | true, number :: text :: more =>
        if 3 < more.length then (Value.tuple args).shownOrEmpty else numberedText number text
    | _, args => (Value.tuple args).shownOrEmpty

/-- The message of a failure of the operating system about files. -/
def raisedOnMessage (kind : Kind) (number text : Value) (files : List Value) : String :=
  if kind.isTls then tlsText [number, text]
  else numberedText number text ++ ": " ++ " -> ".intercalate (files.map Value.shownOrEmpty)

namespace Failure

def cause? : Failure → Option Failure
  | .unencodable _ _ cause => some cause
  | .transport cause => some cause
  | .requestTimedOut cause => some cause
  | .invalidResponse (.chunkSize size) =>
      some (.unacceptable (.integer 16 (String.ofList ((Quoted.bytes size).take 200))))
  | _ => none

/-- A kind's name with a message; an empty message is left out. -/
def describeAs (kind : Kind) (message : String) : String :=
  if message.isEmpty then kind.name else kind.name ++ ": " ++ message

def message : Failure → String
  | .raised kind args => raisedMessage kind args
  | .raisedOn kind number text files => raisedOnMessage kind number text files
  | .streamEnded got expected =>
      streamEndedText got (match expected with
        | some n => toString n
        | none => "undefined")
  | .lineTooLong true => "Separator is found, but chunk is longer than limit"
  | .lineTooLong false => "Separator is not found, and chunk exceed the limit"
  | .negativeRead => "readexactly size can not be less than zero"
  | .waitExpired => ""
  | .cancelled => ""
  | .unconnected => ""
  | .invalidUrl shown fault => invalidUrlText shown fault.reason
  | .unencodable type format cause =>
      "Can't encode " ++ type ++ " as "
        ++ (match format with
          | .form => "form data"
          | .json => "json")
        ++ ": " ++ cause.message
  | .invalidHeader name value =>
      "Invalid header " ++ String.ofList (Quoted.text name.toList) ++ ": "
        ++ String.ofList (Quoted.text value.toList)
  | .invalidResponse fault => fault.text
  | .transport cause => describeAs cause.kind cause.message
  | .requestTimedOut _ => "Request timed out"
  | .misuse fault => fault.text
  | .noMember type member =>
      "'" ++ type ++ "' object has no attribute '" ++ member ++ "'"
  | .missingKey key => key.shownOrEmpty
  | .noAddress => "list index out of range"
  | .unacceptable fault => fault.text
  | .infiniteInteger => "cannot convert float infinity to integer"
  | .hugeInteger => "int too large to convert to float"
  | .tooDeep activity => "maximum recursion depth exceeded" ++ activity.text
  | .invalidJson fault => fault.text

def describe (failure : Failure) : String := describeAs failure.kind failure.message

/-- The failure as logs show it: its kind applied to what it was raised with. -/
def shown (failure : Failure) : String :=
  let args : List Value := match failure with
    | .raised kind args => raisedWith kind args
    | .raisedOn _ number text _ => [number, text]
    | .waitExpired | .cancelled | .unconnected => []
    | failure => [.text failure.message]
  failure.kind.name ++ match args with
    | [arg] => "(" ++ arg.shownOrEmpty ++ ")"
    | args => (Value.tuple args).shownOrEmpty

/-- Why a failure from outside has no text: what it was raised with has none. -/
def textFault? : Failure → Option Failure
  | .raised kind args => fault? (raisedWith kind args)
  | .raisedOn _ number text files => fault? (number :: text :: files)
  | _ => none
where
  /-- What goes wrong when values are shown. -/
  fault? (args : List Value) : Option Failure :=
    match (Value.tuple args).shown with
    | .ok _ => none
    | .error fault => some fault

/-- The failure is one that a caller of a request is meant to handle. -/
def isTransport (failure : Failure) : Bool := failure.kind.isTransport

end Failure

end Courier
