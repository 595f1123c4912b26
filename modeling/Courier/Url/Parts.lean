import Courier.Url.Basic
import Courier.Value.Text

/-!
# URLs from loose parts

A URL may also be put together from any values, none of which is checked.
Its texts then exist only if the values can be used for what they stand for:
the host must be searchable for a colon, and a missing port needs a scheme
with a default.
-/

namespace Courier

open Courier.Text

/-- Whether a colon is found in a host. Texts are searched for the character,
and everything that has elements for an equal element. -/
def holdsColon (host : Value) : Except Failure Bool :=
  match host with
  | .text s => .ok (s.toList.contains ':')
  | .bytes _ | .byteArray _ => .error (.misuse .bytesNeeded)
  | host =>
      match host.elements? with
      | some items => .ok (items.any (· == .text ":"))
      | none => .error (.misuse (.notSearchable host.typeName))

/-- The host as an authority names it: in brackets if it holds a colon, and
as it stands otherwise. -/
def authorityName (host : Value) : Except Failure Value := do
  if ← holdsColon host then
    let name ← host.plain
    .ok (.text (String.ofList ('[' :: name ++ [']'])))
  else .ok host

/-- The host and port as a header names them, for any values: a text, unless
the host stands alone. -/
def authority (host port : Value) : Except Failure Value := do
  let name ← authorityName host
  if port.truthy then
    let name ← name.plain
    let port ← port.plain
    .ok (.text (String.ofList (name ++ ':' :: port)))
  else .ok name

/-- A URL of unchecked parts. -/
structure UrlParts where
  scheme : Value
  host : Value
  port : Value
  path : Value
  address : Value := .null
  deriving Inhabited

namespace UrlParts

def secure (parts : UrlParts) : Bool := parts.scheme == .text "https"

/-- The port if it counts as true, and the scheme's default otherwise. -/
def effectivePort (parts : UrlParts) : Except Failure Value :=
  if parts.port.truthy then .ok parts.port
  else
    match parts.scheme.unhashable? with
    | some type => .error (.misuse (.unhashable type))
    | none =>
        match parts.scheme with
        | .text "http" => .ok (.int 80)
        | .text "https" => .ok (.int 443)
        | scheme => .error (.missingKey scheme)

def hostHeader (parts : UrlParts) : Except Failure Value := authority parts.host parts.port

def toText (parts : UrlParts) : Except Failure (List Char) := do
  let scheme ← parts.scheme.plain
  let authority ← (← parts.hostHeader).plain
  let path ← parts.path.plain
  .ok (scheme ++ "://".toList ++ authority ++ path)

/-- The URLs name the same place. -/
def same (a b : UrlParts) : Except Failure Bool := do
  let equal (x y : Value) : Except Failure Bool :=
    match x.equal? y with
    | some answer => .ok answer
    | none => .error (.tooDeep .comparing)
  let scheme ← equal a.scheme b.scheme
  let host ← equal a.host b.host
  let port ← equal a.port b.port
  let path ← equal a.path b.path
  .ok (scheme && host && port && path)

end UrlParts

/-- The unchecked parts of a base URL. -/
def Url.parts (url : Url) : UrlParts where
  scheme := .text url.scheme.name
  host := .text url.host
  port := match url.port with
    | some port => .int port
    | none => .null
  path := .text url.path
  address := match url.address with
    | some address => .text address
    | none => .null

/-- A text holds a colon if the character is one of its own. -/
theorem holdsColon_text (s : String) : holdsColon (.text s) = .ok (s.toList.contains ':') := rfl

end Courier
