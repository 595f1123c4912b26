import Courier.Client.Basic
import Courier.Payload
import Courier.Request.Basic

/-!
# Building requests

A request is built in two parts. The target is the path of the base URL and
the path of the call, with the parameters as a query. The headers are laid
one over the other, so that later layers win and keep the place of the
first: the connection's own, the defaults, those of the body, the
authorization, and those of the call.
-/

namespace Courier.Client

open Courier.Text

/-- What a caller asks for. -/
structure Call where
  method : Value
  path : Value := .null
  params : Value := .null
  body : Value := .null
  headers : Value := .null

/-- The path of a call, starting with a slash unless it is empty. -/
def callPath (path : Value) : Except Failure (List Char) :=
  match path with
  | .text s =>
      match s.toList with
      | [] => .ok []
      | '/' :: rest => .ok ('/' :: rest)
      | s => .ok ('/' :: s)
  | path =>
      if path.truthy then
        match path with
        | .bytes _ | .byteArray _ => .error (.misuse .bytesStartNeeded)
        | path => .error (.noMember path.typeName "startswith")
      else .error (.misuse (.notText path.typeName))

/-- The query of a call with its question mark, if there are parameters. -/
def callQuery (params : Value) : Except Failure (List Char) :=
  if params.truthy then (Query.encode params).map ('?' :: ·) else .ok []

/-- The target of a call: never empty, so that it starts with a slash. -/
def target (base path query : List Char) : List Char :=
  (match base ++ path with
    | [] => ['/']
    | whole => whole) ++ query

def connectionHeaders (url : Url) : Entries Value Value :=
  [(.text "Host", .text url.hostHeader), (.text "Connection", .text "close")]

def bodyHeaders (format : BodyFormat) : Option (List UInt8) → Entries Value Value
  | none => []
  | some data =>
      [(.text "Content-type", .text format.contentType),
       (.text "Content-Length", .text (String.ofList (Integer.decimal data.length)))]

def tokenHeaders (token : Value) : Except Failure (Entries Value Value) :=
  if token.truthy then
    match token with
    | .text s => .ok [(.text "authorization", .text ("Bearer " ++ s))]
    | token => .error (.misuse (.notText token.typeName))
  else .ok []

/-- Lays the headers of a call over each other. -/
def layerHeaders (c : Client) (data : Option (List UInt8)) (overrides : Value) :
    Except Failure (Entries Value Value) := do
  let managed := ((connectionHeaders c.url).putAll c.headers).putAll (bodyHeaders c.format data)
  let token ← tokenHeaders c.token
  overrides.putInto (managed.putAll token)

def build (c : Client) (call : Call) : Except Failure Request := do
  let path ← callPath call.path
  let query ← callQuery call.params
  let base := c.url.path.toList
  let target := target base path query
  let body ← Payload.serialize call.body c.format
  let headers ← c.layerHeaders body call.headers
  .ok
    { method := call.method
      url := c.baseUrl ++ String.ofList (target.drop base.length)
      target := String.ofList target
      headers
      body }

end Courier.Client
