import Courier.Text.Integer

/-!
# Base URLs

The absolute URL that a client is bound to: a scheme, a host, perhaps a
port, and a path without a trailing slash. `Url.toText` prints it in the form
that `Url.parse` reads.
-/

namespace Courier

open Courier.Text

/-- The scheme of a base URL. -/
inductive Scheme where
  | http
  | https
  deriving DecidableEq, Repr, Inhabited

namespace Scheme

def name : Scheme → String
  | .http => "http"
  | .https => "https"

def ofName? (name : List Char) : Option Scheme :=
  if name = "http".toList then some .http
  else if name = "https".toList then some .https
  else none

/-- The port that is meant when none is named. -/
def defaultPort : Scheme → Nat
  | .http => 80
  | .https => 443

theorem ofName?_name (scheme : Scheme) : ofName? scheme.name.toList = some scheme := by
  cases scheme <;> rfl

end Scheme

/-- A base URL. `address` is the host as it was written, if it is an address literal. -/
structure Url where
  scheme : Scheme
  host : String
  port : Option Nat
  path : String
  address : Option String := none
  deriving DecidableEq, Repr, Inhabited

namespace Url

def secure (url : Url) : Bool := url.scheme == .https

def effectivePort (url : Url) : Nat := url.port.getD url.scheme.defaultPort

/-- A host as it stands in front of a port: in brackets if it holds a colon. -/
def bracketed (host : List Char) : List Char :=
  if host.contains ':' then '[' :: host ++ [']'] else host

def authority (url : Url) : List Char :=
  bracketed url.host.toList
    ++ match url.port with
      | some port => ':' :: Integer.decimal port
      | none => []

/-- The value of the header that names the host. -/
def hostHeader (url : Url) : String := String.ofList url.authority

def toText (url : Url) : String :=
  url.scheme.name ++ "://" ++ url.hostHeader ++ url.path

/-- Two base URLs are the same if they name the same place; how the host was
written does not matter. -/
def same (a b : Url) : Bool :=
  a.scheme == b.scheme && a.host == b.host && a.port == b.port && a.path == b.path

theorem same_refl (url : Url) : url.same url = true := by simp [same]

end Url

end Courier
