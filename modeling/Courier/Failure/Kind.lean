/-!
# Kinds of failure

Failures come in kinds with fixed names, which messages and logs show. Three
groups matter to the rest of the library: what the network may raise, which
a request turns into a transport failure (`isNetwork`); an expired wait,
which becomes a timed-out request (`isTimeout`); and the transport failures
themselves, the ones a caller is meant to handle (`isTransport`).
-/

namespace Courier

/-- The kind of a failure. -/
inductive Kind where
  -- the operating system and the network
  | system
  | blocking
  | childProcess
  | alreadyExists
  | notFound
  | interrupted
  | isDirectory
  | notDirectory
  | processLookup
  | connection
  | brokenPipe
  | connectionAborted
  | connectionRefused
  | connectionReset
  | permission
  | timeout
  | addressLookup
  | hostLookup
  | tls
  | tlsCertificate
  -- the byte stream
  | endOfData
  | incompleteRead
  | lineLimit
  -- name resolution and host names
  | dns
  | dnsTimeout
  | encoding
  -- values that cannot be used
  | value
  | type
  | key
  | attribute
  | index
  | overflow
  | recursion
  | runtime
  | assertion
  | json
  | cancelled
  -- the library's own
  | base
  | invalidUrl
  | serialization
  | transport
  | requestTimeout
  | invalidHeader
  | invalidResponse
  -- what the library neither raises nor knows
  | other (name : String)
  deriving DecidableEq, Repr, Inhabited

namespace Kind

/-- The name that messages and logs show. -/
def name : Kind → String
  | .system => "OSError"
  | .blocking => "BlockingIOError"
  | .childProcess => "ChildProcessError"
  | .alreadyExists => "FileExistsError"
  | .notFound => "FileNotFoundError"
  | .interrupted => "InterruptedError"
  | .isDirectory => "IsADirectoryError"
  | .notDirectory => "NotADirectoryError"
  | .processLookup => "ProcessLookupError"
  | .connection => "ConnectionError"
  | .brokenPipe => "BrokenPipeError"
  | .connectionAborted => "ConnectionAbortedError"
  | .connectionRefused => "ConnectionRefusedError"
  | .connectionReset => "ConnectionResetError"
  | .permission => "PermissionError"
  | .timeout => "TimeoutError"
  | .addressLookup => "gaierror"
  | .hostLookup => "herror"
  | .tls => "SSLError"
  | .tlsCertificate => "SSLCertVerificationError"
  | .endOfData => "EOFError"
  | .incompleteRead => "IncompleteReadError"
  | .lineLimit => "LimitOverrunError"
  | .dns => "DNSException"
  | .dnsTimeout => "Timeout"
  | .encoding => "UnicodeError"
  | .value => "ValueError"
  | .type => "TypeError"
  | .key => "KeyError"
  | .attribute => "AttributeError"
  | .index => "IndexError"
  | .overflow => "OverflowError"
  | .recursion => "RecursionError"
  | .runtime => "RuntimeError"
  | .assertion => "AssertionError"
  | .json => "JSONDecodeError"
  | .cancelled => "CancelledError"
  | .base => "AiohcError"
  | .invalidUrl => "InvalidURL"
  | .serialization => "SerializationError"
  | .transport => "TransportError"
  | .requestTimeout => "RequestTimeoutError"
  | .invalidHeader => "InvalidHeader"
  | .invalidResponse => "InvalidResponseData"
  | .other name => name

/-- Every kind that is known. -/
def all : List Kind :=
  [.system, .blocking, .childProcess, .alreadyExists, .notFound, .interrupted, .isDirectory,
   .notDirectory, .processLookup, .connection,
   .brokenPipe, .connectionAborted, .connectionRefused, .connectionReset, .permission,
   .timeout, .addressLookup, .hostLookup, .tls, .tlsCertificate, .endOfData, .incompleteRead,
   .lineLimit, .dns, .dnsTimeout, .encoding, .value, .type, .key, .attribute, .index, .overflow,
   .recursion, .runtime, .assertion, .json, .cancelled, .base, .invalidUrl, .serialization,
   .transport, .requestTimeout, .invalidHeader, .invalidResponse]

def ofName (name : String) : Kind := (all.find? (·.name == name)).getD (.other name)

/-- Failures of the operating system, whose numbered form shows the number. -/
def isSystem : Kind → Bool
  | .system | .blocking | .childProcess | .alreadyExists | .notFound | .interrupted
  | .isDirectory | .notDirectory | .processLookup | .connection | .brokenPipe
  | .connectionAborted | .connectionRefused | .connectionReset | .permission | .timeout
  | .addressLookup | .hostLookup | .tls | .tlsCertificate => true
  | _ => false

/-- The numbers of failures of the operating system that have a kind of their own. -/
def systemNumbers : List (Int × Kind) :=
  [(1, .permission), (2, .notFound), (3, .processLookup), (4, .interrupted), (10, .childProcess),
   (11, .blocking), (13, .permission), (17, .alreadyExists), (20, .notDirectory),
   (21, .isDirectory), (32, .brokenPipe), (103, .connectionAborted), (104, .connectionReset),
   (108, .brokenPipe), (110, .timeout), (111, .connectionRefused), (114, .blocking),
   (115, .blocking)]

/-- The kind of a failure of the operating system with a number. -/
def ofNumber (number : Int) : Kind := (systemNumbers.lookup number).getD .system

/-- Failures of a secured connection. -/
def isTls : Kind → Bool
  | .tls | .tlsCertificate => true
  | _ => false

/-- An expired wait. -/
def isTimeout (kind : Kind) : Bool := kind == .timeout

/-- Failures that the network can raise under a request, expired waits apart. -/
def isNetwork (kind : Kind) : Bool :=
  (kind.isSystem && !kind.isTimeout)
    || match kind with
      | .endOfData | .incompleteRead | .lineLimit | .dns | .dnsTimeout | .encoding => true
      | _ => false

/-- Failures of a request as its caller sees them. -/
def isTransport : Kind → Bool
  | .transport | .requestTimeout | .invalidHeader | .invalidResponse => true
  | _ => false

/-- The library's own failures, which carry the failure that caused them. -/
def isOwn : Kind → Bool
  | .base | .invalidUrl | .serialization => true
  | kind => kind.isTransport

theorem name_ofName (name : String) : (ofName name).name = name := by
  unfold ofName
  cases h : all.find? (·.name == name) with
  | none => rfl
  | some kind => simpa using List.find?_some h

end Kind

end Courier
