import Courier.Text.Replace

/-!
# Placeholders

A format may name what it shows by placeholders with a dollar sign, each of
which stands for a directive. They are replaced one after the other, in the
order of the table, so a placeholder that begins with an earlier one is
never found.
-/

namespace Courier.LogFormat

open Courier.Text

/-- The placeholders and the directives they stand for. -/
def placeholders : List (String × String) :=
  [("$name", "%(name)s"),
   ("$levelno", "%(levelno)s"),
   ("$levelname", "%(levelname)s"),
   ("$pathname", "%(pathname)s"),
   ("$filename", "%(filename)s"),
   ("$module", "%(module)s"),
   ("$lineno", "%(lineno)d"),
   ("$funcName", "%(funcName)s"),
   ("$created", "%(created)f"),
   ("$asctime", "%(asctime)s"),
   ("$msecs", "%(msecs)d"),
   ("$relativeCreated", "%(relativeCreated)d"),
   ("$thread", "%(thread)d"),
   ("$threadName", "%(threadName)s"),
   ("$process", "%(process)d"),
   ("$message", "%(message)s")]

/-- Replaces the placeholders of a table, one after the other. -/
def expandAll (table : List (String × String)) (s : List Char) : List Char :=
  table.foldl (fun s entry => replaceAll entry.1.toList entry.2.toList s) s

/-- The format that a text with placeholders stands for. -/
def expand (s : String) : String := String.ofList (expandAll placeholders s.toList)

end Courier.LogFormat
