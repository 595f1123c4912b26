import Courier.Dispatch.Run

/-!
# The command line

The command takes one argument, the number of requests, and an option that
shows help. Arguments that start with a dash are options, unless they are
numbers, hold a blank, or stand behind two dashes. Reading stops at the first
request for help or the first misused option; arguments that are left over
are reported together at the end.
-/

namespace Courier.CommandLine

open Courier.Text

/-- What the arguments ask for. -/
inductive Invocation where
  /-- To send requests. -/
  | dispatch (count : Option String)
  | help
  /-- Nothing, since they are wrong. -/
  | misuse (message : String)
  deriving DecidableEq, Repr

/-- How one argument is understood. -/
inductive Argument where
  | plain
  | help
  /-- A request for help with a value, which it does not take. -/
  | helpWith (value : List Char)
  | unknown
  deriving DecidableEq, Repr

/-- Letters behind a dash that asks for help: each may ask again. -/
def readLetters : List Char → Argument
  | [] => .help
  | 'h' :: rest => readLetters rest
  | rest => .helpWith rest

/-- The name of the long option. -/
def longHelp : List Char := "--help".toList

/-- A digit of any script. -/
def isDigit (c : Char) : Bool := (digitValue? c).isSome

/-- The text is a number behind its dash: digits, or a point with digits behind it. -/
def isUnsigned (s : List Char) : Bool :=
  let s := if s.getLast? == some '\n' then s.dropLast else s
  match s.dropWhile isDigit with
  | [] => !s.isEmpty
  | '.' :: rest => !rest.isEmpty && rest.all isDigit
  | _ => false

/-- An argument with a dash that no option has. -/
def readOther (behind : List Char) : Argument :=
  if isUnsigned behind || behind.contains ' ' then .plain else .unknown

/-- How an argument is understood that is not two dashes. -/
def readArgument (argument : List Char) : Argument :=
  match argument with
  | '-' :: 'h' :: '=' :: value =>
      match value with
      | [] => .helpWith []
      | value => readLetters value
  | '-' :: 'h' :: rest => readLetters rest
  | '-' :: '-' :: rest =>
      match partitionAt '=' ('-' :: '-' :: rest) with
      | (name, value) =>
          if name.isPrefixOf longHelp then
            match value with
            | none => .help
            | some value => .helpWith value
          else readOther ('-' :: rest)
  | '-' :: c :: rest => readOther (c :: rest)
  | _ => .plain

/-- What the arguments ask for, once all are read. -/
def conclude (count : Option String) (extra : List String) : Invocation :=
  if extra.isEmpty then .dispatch count
  else .misuse ("unrecognized arguments: " ++ " ".intercalate extra)

/-- The message for a request for help with a value. -/
def helpMisuse (value : List Char) : String :=
  "argument -h/--help: ignored explicit argument " ++ String.ofList (Quoted.text value)

/-- Reads arguments. `count` is the number of requests if it was read, which
`adjacent` says of the argument just before; `extra` is what is left over. -/
def readFrom (count : Option String) (adjacent : Bool) (extra : List String) :
    List String → Invocation
  | [] => conclude count extra
  | argument :: rest =>
      if argument = "--" then
        match count, rest with
        | none, [] => conclude none extra
        | none, next :: rest => conclude (some next) (extra ++ rest)
        | some count, rest =>
            conclude (some count) (extra ++ if adjacent then rest else argument :: rest)
      else
        match readArgument argument.toList with
        | .plain =>
            match count with
            | none => readFrom (some argument) true extra rest
            | some count => readFrom (some count) false (extra ++ [argument]) rest
        | .help => .help
        | .helpWith value => .misuse (helpMisuse value)
        | .unknown => readFrom count false (extra ++ [argument]) rest

def read (arguments : List String) : Invocation := readFrom none false [] arguments

def usage : String := "usage: aiohc-dispatch [-h] [count]\n"

def helpText : String :=
  usage
    ++ "\n"
    ++ "Send concurrent GET requests to the configured target\n"
    ++ "\n"
    ++ "positional arguments:\n"
    ++ "  count       Number of requests to send at once (defaults to 1)\n"
    ++ "\n"
    ++ "options:\n"
    ++ "  -h, --help  show this help message and exit\n"

/-- What a command prints, and whether it got as far as to return. -/
structure Session where
  output : String := ""
  errors : String := ""
  status : Nat := 0
  /-- The command ended before it did any work. -/
  exited : Bool := false
  /-- Everything the run did, if there was one. -/
  report : Option RunReport := none

def printed (report : RunReport) : String :=
  String.join (report.progress.lines.map fun line => line.text ++ "\n")

/-- Carries out a command against a target. -/
def execute (target : Dispatcher) (resolver : Resolver) (peers : Nat → Peer)
    (arguments : List String) : Verdict Session :=
  match read arguments with
  | .help => .ok { output := helpText, exited := true }
  | .misuse message =>
      .ok
        { errors := usage ++ "aiohc-dispatch: error: " ++ message ++ "\n"
          status := 2
          exited := true }
  | .dispatch count =>
      (target.run resolver peers ((count.map Value.text).getD .null)).map fun report =>
        { output := printed report, report := some report }

/-- Without arguments one request is sent. -/
theorem read_nil : read [] = .dispatch none := rfl

end Courier.CommandLine
