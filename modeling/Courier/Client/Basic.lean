import Courier.Url.Parse
import Courier.Value.Pairs

/-!
# Clients

A client is bound to a base URL and keeps what all its requests have in
common: the format of bodies, options, default headers, a token, and whether
to log. Options and headers are kept in the order in which they came.
-/

namespace Courier

open Courier.Text

def BodyFormat.ofValue (v : Value) : Except Failure BodyFormat :=
  match v with
  | .text "form" => .ok .form
  | .text "json" => .ok .json
  | v => v.shownString.bind fun shown => .error (.unacceptable (.contentMode shown))

def BodyFormat.name : BodyFormat → String
  | .form => "form"
  | .json => "json"

def BodyFormat.contentType : BodyFormat → String
  | .form => "application/x-www-form-urlencoded"
  | .json => "application/json"

/-- A client. -/
structure Client where
  url : Url
  format : BodyFormat
  options : Entries Value Value := []
  headers : Entries Value Value := []
  token : Value := .null
  debug : Value := .bool true

namespace Client

/-- The options of a client: those given, with the host of the base URL and,
if it names one, the port. -/
def connectOptions (url : Url) (given : Value) : Except Failure (Entries Value Value) :=
  (given.putInto []).map fun options =>
    let options := options.put (.text "host") (.text url.host)
    match url.port with
    | some port => options.put (.text "port") (.int port)
    | none => options

/-- A client for a base URL, a format and options of any values. -/
def make (baseUrl format options : Value) : Except Failure Client := do
  let url ← Url.parse baseUrl
  let format ← BodyFormat.ofValue format
  let options ← connectOptions url options
  .ok { url, format, options }

def baseUrl (c : Client) : String := c.url.toText

/-- The text that logs show for a client. -/
def shown (c : Client) : String := "<Client " ++ c.baseUrl ++ " " ++ c.format.name ++ ">"

/-- How long a request may take. -/
def timeout (c : Client) : Value := (c.options.get? (.text "timeout")).getD .null

/-- Gives all later requests a header. -/
def addHeader (c : Client) (name value : Value) : Except Failure Client :=
  match name.unhashable? with
  | some type => .error (.misuse (.unhashable type))
  | none => .ok { c with headers := c.headers.put name value }

/-- Takes a header off all later requests. Without any headers there is
nothing to take off, whatever the name. -/
def removeHeader (c : Client) (name : Value) : Except Failure Client :=
  if c.headers.isEmpty then .ok c
  else
    match name.unhashable? with
    | some type => .error (.misuse (.unhashable type))
    | none => .ok { c with headers := c.headers.erase name }

/-- Changes the token that authorizes requests. -/
def setToken (c : Client) (token : Value) : Client := { c with token }

/-- Changes whether requests are logged. -/
def setDebug (c : Client) (debug : Value) : Client := { c with debug }

/-- What a client is set up from. -/
structure Profile where
  baseUrl : Value := .text "http://localhost:8888"
  format : Value := .text "json"
  timeout : Value := .float (.ofInt 10)
  debug : Value := .bool true
  token : Value := .null

def ofProfile (p : Profile) : Except Failure Client :=
  (make p.baseUrl p.format (.map [(.text "timeout", p.timeout)])).map fun c =>
    (c.setToken p.token).setDebug p.debug

end Client

end Courier
