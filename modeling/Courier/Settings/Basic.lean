import Courier.Client.Basic
import Courier.Dispatch.Run
import Courier.LogFormat.Check
import Courier.LogFormat.Placeholder
import Courier.Settings.Level
import Courier.Settings.Reference

/-!
# Settings

What a program that uses the library can be set up with: how it logs, the
client it makes requests with, the server for host names, and the target of
its runs. Settings come from a file; only the token comes from elsewhere.
-/

namespace Courier

open Courier.Text Courier.Settings

/-- The settings of a program. -/
structure Settings where
  loggerName : String
  loggerLevel : Level
  handlerLevel : Level
  baseUrl : String
  contentMode : String
  timeout : Decimal.Binary64
  debug : Bool
  nameServer : Option String
  targetHost : String
  targetPort : Int
  targetPath : String
  token : Option String
  format : String

namespace Settings

/-- A settings file for a server on the same machine. -/
def defaultText : String :=
  "[Logging]\n"
    ++ "logger_name = aiohc\n"
    ++ "logger_level = debug\n"
    ++ "stream_handler_level = info\n"
    ++ "stream_handler_format = $asctime $levelname [$name] $message\n"
    ++ "\n"
    ++ "[Client]\n"
    ++ "base_url = http://localhost:8888\n"
    ++ "content_mode = json\n"
    ++ "request_timeout = 10\n"
    ++ "debug = true\n"
    ++ "\n"
    ++ "[Connection]\n"
    ++ "default_dns_server =\n"
    ++ "\n"
    ++ "[Dispatcher]\n"
    ++ "target_host = 127.0.0.1\n"
    ++ "target_port = 8888\n"
    ++ "target_path = /hello/\n"

/-- The truth value that a text stands for. -/
def readBoolean (text : String) : Except Fault Bool :=
  let small := String.ofList (lower text.toList)
  if ["1", "yes", "true", "on"].contains small then .ok true
  else if ["0", "no", "false", "off"].contains small then .ok false
  else .error (.notBoolean text)

def readNumber (text : String) : Except Fault Decimal.Binary64 :=
  match Decimal.Binary64.read? text.toList with
  | some x => .ok x
  | none => .error (.notNumber text)

def readInteger (text : String) : Except Fault Int :=
  (Integer.ofText text.toList).mapError .notInteger

def nonempty? (text : String) : Option String := if text.isEmpty then none else some text

def readLevels (logger handler : String) : Except Fault (Level × Level) :=
  match Level.ofName? logger, Level.ofName? handler with
  | some loggerLevel, some handlerLevel => .ok (loggerLevel, handlerLevel)
  | _, _ => .error (.unknownLevel logger handler)

def readFormat (text : String) : Except Fault String :=
  let format := LogFormat.expand text
  if LogFormat.isValid format then .ok format else .error (.invalidFormat format)

/-- The settings of a file. Options are read in a fixed order, and the first fault counts. -/
def ofIni (ini : Ini) (token : Option String) : Except Fault Settings := do
  let loggerName ← ini.get "Logging" "logger_name"
  let logger ← ini.get "Logging" "logger_level"
  let handler ← ini.get "Logging" "stream_handler_level"
  let baseUrl ← ini.get "Client" "base_url"
  let contentMode ← ini.get "Client" "content_mode"
  let timeout ← readNumber (← ini.get "Client" "request_timeout")
  let debug ← readBoolean (← ini.get "Client" "debug")
  let server ← ini.get "Connection" "default_dns_server"
  let targetHost ← ini.get "Dispatcher" "target_host"
  let targetPort ← readInteger (← ini.get "Dispatcher" "target_port")
  let targetPath ← ini.get "Dispatcher" "target_path"
  let (loggerLevel, handlerLevel) ← readLevels logger handler
  let format ← readFormat (← ini.get "Logging" "stream_handler_format")
  .ok
    { loggerName, loggerLevel, handlerLevel, baseUrl, contentMode, timeout, debug
      nameServer := nonempty? (String.ofList (trimBy isBlank server.toList))
      targetHost, targetPort, targetPath
      token := token.bind nonempty?
      format }

/-- The settings of a file that may be missing, which then counts as empty. -/
def load (text : Option String) (token : Option String) : Except Fault Settings := do
  ofIni (← Ini.read (text.getD "")) token

def profile (s : Settings) : Client.Profile where
  baseUrl := .text s.baseUrl
  format := .text s.contentMode
  timeout := .float s.timeout
  debug := .bool s.debug
  token := (s.token.map Value.text).getD .null

/-- The target that the settings describe. Its requests have no time limit. -/
def dispatcher (s : Settings) : Dispatcher where
  host := .text s.targetHost
  port := .int s.targetPort
  path := .text s.targetPath

/-! ## Logging -/

/-- The logger is the one that all others stand under. -/
def isRootLogger (s : Settings) : Bool := s.loggerName.isEmpty || s.loggerName == "root"

/-- The rank that records must have to pass the logger. A logger without a
level takes that of the root logger, warnings, unless it is the root itself. -/
def loggerRank (s : Settings) : Nat :=
  match s.loggerLevel with
  | .unset => if s.isRootLogger then 0 else Level.warning.rank
  | level => level.rank

/-- Records of the level pass the logger. -/
def isEnabled (s : Settings) (level : Level) : Bool := s.loggerRank ≤ level.rank

/-- Records of the level are printed by the handler. -/
def isShown (s : Settings) (level : Level) : Bool := s.handlerLevel.rank ≤ level.rank

/-- The line that the handler prints for a record. -/
def line (s : Settings) (fields : Entries String Value) (time : String) :
    Except LogFormat.Fault String := LogFormat.apply s.format fields time

/-- A record of the level is printed: it passes the logger and the handler,
and the format can be applied to it. -/
def prints (s : Settings) (level : Level) (fields : Entries String Value) (time : String) :
    Bool := s.isEnabled level && s.isShown level && (s.line fields time).isOk

/-- A format that was accepted holds a directive. -/
theorem isValid_readFormat {text format : String} (h : readFormat text = .ok format) :
    LogFormat.isValid format = true := by
  unfold readFormat at h
  simp only at h
  split at h
  · rename_i hvalid
    simp only [Except.ok.injEq] at h
    exact h ▸ hvalid
  · simp at h

end Settings

end Courier
