import Courier.Failure.Message
import Courier.Text.Integer

/-!
# Faults of settings

Everything that can be wrong with a settings file: with its lines, with the
sections and options that are asked for, with references between options,
and with the values themselves. The file's name is not part of a fault; it
is given when the fault is put into words.
-/

namespace Courier.Settings

open Courier.Text

/-- What is wrong with a settings file. Lines count from one and keep their ends. -/
inductive Fault where
  | missingSection (name : String)
  | missingOption (option name : String)
  | repeatedSection (name : String) (line : Nat)
  | repeatedOption (option name : String) (line : Nat)
  /-- A line stands before any section. -/
  | outsideSections (line : Nat) (text : String)
  /-- Lines that are neither headers nor options. -/
  | malformed (lines : List (Nat × String))
  /-- References nested too deep, starting from the raw text of an option. -/
  | referencesTooDeep (option name raw : String)
  /-- A reference to an option that there is not. -/
  | unknownReference (option name raw reference : String)
  /-- A reference without its end. -/
  | brokenReference (rest : String)
  /-- A percent sign that starts nothing. -/
  | strayPercent (rest : String)
  | notBoolean (text : String)
  | notNumber (text : String)
  | notInteger (failure : Failure)
  | unknownLevel (logger handler : String)
  | invalidFormat (text : String)
  deriving Inhabited

namespace Fault

/-- The kind that messages show. -/
def kindName : Fault → String
  | .missingSection _ => "NoSectionError"
  | .missingOption _ _ => "NoOptionError"
  | .repeatedSection _ _ => "DuplicateSectionError"
  | .repeatedOption _ _ _ => "DuplicateOptionError"
  | .outsideSections _ _ => "MissingSectionHeaderError"
  | .malformed _ => "ParsingError"
  | .referencesTooDeep _ _ _ => "InterpolationDepthError"
  | .unknownReference _ _ _ _ => "InterpolationMissingOptionError"
  | .brokenReference _ => "InterpolationSyntaxError"
  | .strayPercent _ => "InterpolationSyntaxError"
  | .notBoolean _ | .notNumber _ | .unknownLevel _ _ | .invalidFormat _ => Kind.value.name
  | .notInteger failure => failure.kind.name

def quoted (s : String) : String := String.ofList (Quoted.text s.toList)

/-- The number of a line in brackets, at least two characters wide. -/
def lineMark (line : Nat) : String :=
  "[line " ++ (if line < 10 then " " else "") ++ toString line ++ "]"

def message (source : String) : Fault → String
  | .missingSection name => "No section: " ++ quoted name
  | .missingOption option name => "No option " ++ quoted option ++ " in section: " ++ quoted name
  | .repeatedSection name line =>
      "While reading from " ++ quoted source ++ " " ++ lineMark line ++ ": section "
        ++ quoted name ++ " already exists"
  | .repeatedOption option name line =>
      "While reading from " ++ quoted source ++ " " ++ lineMark line ++ ": option "
        ++ quoted option ++ " in section " ++ quoted name ++ " already exists"
  | .outsideSections line text =>
      "File contains no section headers.\nfile: " ++ quoted source ++ ", line: "
        ++ toString line ++ "\n" ++ quoted text
  | .malformed lines =>
      "Source contains parsing errors: " ++ quoted source
        ++ String.join (lines.map fun line =>
          "\n\t" ++ lineMark line.1 ++ ": " ++ quoted line.2)
  | .referencesTooDeep option name raw =>
      "Recursion limit exceeded in value substitution: option " ++ quoted option
        ++ " in section " ++ quoted name
        ++ " contains an interpolation key which cannot be substituted in 10 steps. Raw value: "
        ++ quoted raw
  | .unknownReference option name raw reference =>
      "Bad value substitution: option " ++ quoted option ++ " in section " ++ quoted name
        ++ " contains an interpolation key " ++ quoted reference
        ++ " which is not a valid option name. Raw value: " ++ quoted raw
  | .brokenReference rest => "bad interpolation variable reference " ++ quoted rest
  | .strayPercent rest => "'%' must be followed by '%' or '(', found: " ++ quoted rest
  | .notBoolean text => "Not a boolean: " ++ text
  | .notNumber text => "could not convert string to float: " ++ quoted text
  | .notInteger failure => failure.message
  | .unknownLevel logger handler =>
      "Setting.ini contains invalid value for one of the logger levels (" ++ logger ++ " or "
        ++ handler ++ ")"
  | .invalidFormat text => "Invalid format '" ++ text ++ "' for '%' style"

end Fault

end Courier.Settings
