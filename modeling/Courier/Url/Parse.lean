import Courier.Text.Lower
import Courier.Url.Basic
import Courier.Url.Literal
import Courier.Value.Integer

/-!
# Reading base URLs

A URL is cut at fixed marks: the scheme ends at the first colon, the
authority stands between `//` and the next `/`, `?` or `#`, and the path ends
at `?` or `#`. What is before an `@` in the authority is dropped, a host in
brackets may hold colons, and all else after the first colon is the port.
-/

namespace Courier.Url

open Courier.Text

/-- The parts of a URL as they stand in the text. -/
structure Pieces where
  scheme : List Char
  authority : Option (List Char)
  path : List Char

/-- Cuts a text into the parts of a URL; this never fails. -/
def pieces (s : List Char) : Pieces :=
  let mark := fun c => c == ':' || c == '/' || c == '?' || c == '#'
  let name := s.takeWhile fun c => !mark c
  let (scheme, rest) :=
    match name, s.dropWhile (fun c => !mark c) with
    | [], _ => ([], s)
    | name, ':' :: rest => (name, rest)
    | _, _ => ([], s)
  let (authority, rest) :=
    match rest with
    | '/' :: '/' :: rest =>
        (some (rest.takeWhile fun c => !(c == '/' || c == '?' || c == '#')),
         rest.dropWhile fun c => !(c == '/' || c == '?' || c == '#'))
    | rest => (none, rest)
  { scheme, authority, path := rest.takeWhile fun c => !(c == '?' || c == '#') }

/-- The authority without what is before its first `@`. -/
def dropUserInfo (authority : List Char) : List Char :=
  match partitionAt '@' authority with
  | (_, some rest) => rest
  | (whole, none) => whole

/-- The host and the text of the port, empty if there is none. -/
def splitPort (authority : List Char) : Except UrlFault (List Char × List Char) :=
  match authority with
  | '[' :: inner =>
      match partitionAt ']' inner with
      | (_, none) => .error .unterminatedAddress
      | (host, some []) => .ok (host, [])
      | (host, some (':' :: port)) => .ok (host, port)
      | (_, some _) => .error .dataAfterAddress
  | authority =>
      match partitionAt ':' authority with
      | (host, some port) => .ok (host, port)
      | (host, none) => .ok (host, [])

/-- The failure that a value is no base URL. A value that cannot be shown
fails with that instead. -/
def reject {α : Type} (given : Value) (fault : UrlFault) : Except Failure α :=
  match given.shownString with
  | .ok shown => .error (.invalidUrl shown fault)
  | .error failure => .error failure

/-- Reads a port: digit signs that spell a number from 1 to 65535. -/
def readPort (given : Value) (s : List Char) : Except Failure Nat :=
  if allDigitSigns s then
    match Integer.ofText s with
    | .error failure => .error failure
    | .ok n => if 0 < n ∧ n < 65536 then .ok n.toNat else reject given (.port (String.ofList s))
  else reject given (.port (String.ofList s))

def readPort? (given : Value) (s : List Char) : Except Failure (Option Nat) :=
  if s.isEmpty then .ok none else (readPort given s).map some

/-- Reads a base URL. `given` is shown if it is none. -/
def parseText (given : Value) (s : List Char) : Except Failure Url :=
  let parts := pieces (trim s)
  match Scheme.ofName? (lower parts.scheme), parts.authority with
  | none, _ => reject given .scheme
  | some _, none => reject given .missingHost
  | some _, some [] => reject given .missingHost
  | some scheme, some authority =>
      match splitPort (dropUserInfo authority) with
      | .error fault => reject given fault
      | .ok ([], _) => reject given .missingHost
      | .ok (host, port) =>
          (readPort? given port).map fun port =>
            { scheme
              host := String.ofList (lower host)
              port
              path := String.ofList (dropTrailing (· == '/') parts.path)
              address := if isLiteral host then some (String.ofList host) else none }

/-- Reads a value as a base URL. -/
def parse (given : Value) : Except Failure Url :=
  match given with
  | .text s => parseText given s.toList
  | given => reject given .notText

end Courier.Url
