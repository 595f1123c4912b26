import Courier.Entries
import Courier.Settings.Fault
import Courier.Text.Blank
import Courier.Text.Lower

/-!
# Settings files

A settings file is lines. A header in brackets starts a section; a line with
an equals sign or a colon gives an option its value; a line that is indented
deeper than the option before it continues the value; empty lines inside a
value belong to it; lines that start with a number sign or a semicolon say
nothing. Names of options are in small letters. The section `DEFAULT` holds
what all sections fall back on.

The lines are read one after the other, on a small state, so that what a file
means is a fold over its lines.
-/

namespace Courier.Settings

open Courier.Text

/-- The options of a section. -/
abbrev Options (α : Type) := Entries String α

/-- The section that all others fall back on. -/
def defaultSection : String := "DEFAULT"

/-- What was read so far. The lines of a value are kept apart, the last one first. -/
structure Reading where
  sections : Entries String (Options (List (List Char))) := []
  defaults : Options (List (List Char)) := []
  /-- The section that lines go to. -/
  current : Option String := none
  /-- The option that may be continued. -/
  option : Option String := none
  /-- How deep the last line that was not a continuation is indented. -/
  indent : Nat := 0
  /-- The lines that have no meaning, the last one first. -/
  bad : List (Nat × String) := []

/-- A settings file that was read. -/
structure Ini where
  sections : Entries String (Options String) := []
  defaults : Options String := []

namespace Reading

/-- The options of the section that lines go to. -/
def options (r : Reading) (name : String) : Options (List (List Char)) :=
  if name = defaultSection then r.defaults else (r.sections.get? name).getD []

def setOptions (r : Reading) (name : String) (options : Options (List (List Char))) : Reading :=
  if name = defaultSection then { r with defaults := options }
  else { r with sections := r.sections.put name options }

/-- Adds a line to the value of the option that may be continued. -/
def extend (r : Reading) (line : List Char) : Reading :=
  match r.current, r.option with
  | some name, some option =>
      let options := r.options name
      r.setOptions name (options.put option (line :: (options.get? option).getD []))
  | _, _ => r

/-- The name in a header: what stands between the first bracket and the last. -/
def headerName? (line : List Char) : Option (List Char) :=
  match line with
  | '[' :: rest =>
      match rest.reverse.dropWhile (· != ']') with
      | ']' :: name => if name.isEmpty then none else some name.reverse
      | _ => none
  | _ => none

/-- A section starts. Only the default section may come again. -/
def startSection (r : Reading) (number : Nat) (name : String) : Except Fault Reading :=
  let r := { r with current := some name, option := none }
  if r.sections.has name then .error (.repeatedSection name number)
  else if name = defaultSection then .ok r
  else .ok (r.setOptions name [])

def reject (r : Reading) (number : Nat) (line : List Char) : Reading :=
  { r with bad := (number, String.ofList line) :: r.bad }

/-- A line gives an option its value. An option without a name is no option,
but its value is kept all the same. -/
def startOption (r : Reading) (number : Nat) (line : List Char) (current : String)
    (name value : List Char) : Except Fault Reading :=
  let option := String.ofList (lower (dropTrailing isBlank name))
  let r := if name.isEmpty then r.reject number line else r
  let options := r.options current
  if options.has option then .error (.repeatedOption option current number)
  else
    .ok
      { r.setOptions current (options.put option [trimBy isBlank value]) with
        option := if option.isEmpty then none else some option }

def readEntry (r : Reading) (number : Nat) (line body : List Char) : Except Fault Reading :=
  match headerName? body with
  | some name => r.startSection number (String.ofList name)
  | none =>
      match r.current with
      | none => .error (.outsideSections number (String.ofList line))
      | some current =>
          match body.span fun c => c != '=' && c != ':' with
          | (name, _ :: value) => r.startOption number line current name value
          | (_, []) => .ok (r.reject number line)

/-- The line says nothing. -/
def isComment (body : List Char) : Bool := body.head?.any fun c => c == '#' || c == ';'

/-- Reads the next line, which keeps its end. -/
def readLine (r : Reading) (number : Nat) (line : List Char) : Except Fault Reading :=
  let body := trimBy isBlank line
  if body.isEmpty then .ok (r.extend [])
  else if isComment body then .ok r
  else
    let indent := (line.takeWhile isBlank).length
    if r.option.isSome && r.indent < indent then .ok (r.extend body)
    else { r with indent }.readEntry number line body

/-- The text of a value from its lines. -/
def joinLines (lines : List (List Char)) : String :=
  String.ofList (dropTrailing isBlank (['\n'].intercalate lines.reverse))

/-- The file that was read, if all its lines have a meaning. -/
def close (r : Reading) : Except Fault Ini :=
  if r.bad.isEmpty then
    let join (options : Options (List (List Char))) : Options String :=
      options.map fun entry => (entry.1, joinLines entry.2)
    .ok
      { sections := r.sections.map fun entry => (entry.1, join entry.2)
        defaults := join r.defaults }
  else .error (.malformed r.bad.reverse)

end Reading

/-- One kind of line end: a carriage return, alone or before a line feed, counts as a line feed. -/
def unifyLineEnds : List Char → List Char
  | '\r' :: '\n' :: rest => '\n' :: unifyLineEnds rest
  | '\r' :: rest => '\n' :: unifyLineEnds rest
  | c :: rest => c :: unifyLineEnds rest
  | [] => []

/-- The lines of a text, each with its end; only the last may be without one. -/
def splitLines (s : List Char) : List (List Char) :=
  s.foldr
    (fun c lines =>
      match c, lines with
      | '\n', lines => ['\n'] :: lines
      | c, [] => [[c]]
      | c, line :: rest => (c :: line) :: rest)
    []

namespace Ini

/-- Reads the text of a settings file. -/
def read (text : String) : Except Fault Ini := do
  let lines := splitLines (unifyLineEnds text.toList)
  let last ← (lines.mapIdx fun i line => (i + 1, line)).foldlM
    (fun (r : Reading) (line : Nat × List Char) => r.readLine line.1 line.2) {}
  last.close

/-- The raw text of an option: from the options of a section, or else the default. -/
def lookup (ini : Ini) (options : Options String) (option : String) : Option String :=
  match options.get? option with
  | some value => some value
  | none => ini.defaults.get? option

end Ini

end Courier.Settings
