import Courier.CommandLine
import Courier.Settings.Basic

/-!
# The command

Runs the command against the target of the default settings. Every request
is answered with what standard input holds.
-/

open Courier

/-- Runs the command. -/
def main (arguments : List String) : IO UInt32 := do
  match Settings.load (some Settings.defaultText) none with
  | .error fault =>
      (← IO.getStderr).putStrLn (fault.message "settings.ini")
      return 1
  | .ok settings =>
      let answer : Stream ← match CommandLine.read arguments with
        | .dispatch _ => do
            let bytes ← (← IO.getStdin).readToEnd
            pure { segments := [bytes.toUTF8.toList] }
        | _ => pure {}
      let resolver : Resolver := { answers := fun _ _ => .error (.raised .dns []) }
      match CommandLine.execute settings.dispatcher resolver (fun _ => .accepts answer none)
          arguments with
      | .ok session =>
          (← IO.getStdout).putStr session.output
          (← IO.getStderr).putStr session.errors
          return session.status.toUInt32
      | .failed failure =>
          (← IO.getStderr).putStrLn failure.describe
          return 1
      | .waiting => return 1
