import VariantIter.World

/-!
Loggers and their handlers.

A logger has a level and handlers, and hands records on to the loggers above it. Only the logger of the package
is ever set up: its handlers are removed one by one, then it gets one for the console and, if there is a file
of the log, one for the file. `Setup.logger` is what a set-up comes down to.
-/

namespace VariantIter.Log

/-- Where a handler writes to. -/
inductive Sink where
  | console
  | file (location : Location)
deriving DecidableEq, Repr

/-- What writes records from a level on. Without a layout it writes messages only. -/
structure Handler where
  sink : Sink
  level : Int := 0
  layout : Bool := false
deriving DecidableEq, Repr

/-- A logger as it is made: without a level and without handlers. -/
structure Logger where
  level : Int := 0
  handlers : List Handler := []
  /-- Whether records go on to the logger above. -/
  propagates : Bool := true
deriving DecidableEq, Repr

/-! ## Setting up -/

namespace Logger

def setLevel (logger : Logger) (level : Int) : Logger :=
  { logger with level := level }

/-- Removes a handler, if it is there. -/
def remove (logger : Logger) (handler : Handler) : Logger :=
  { logger with handlers := logger.handlers.erase handler }

/-- Removes one handler after another. -/
def clear (logger : Logger) : Logger :=
  logger.handlers.foldl remove logger

/-- Adds a new handler. -/
def add (logger : Logger) (handler : Handler) : Logger :=
  { logger with handlers := logger.handlers ++ [handler] }

end Logger

/-- A handler that writes whole lines from a level on. -/
def Handler.lined (sink : Sink) (level : Int) : Handler :=
  ⟨sink, level, true⟩

/-- A call that sets up logging, with a level and a file of any kind. -/
structure SetUp where
  level : Value := .null
  file : LogFile := .value .null

namespace SetUp

/-- The level that a call asks for, by itself or through the environment. -/
def level? (call : SetUp) (world : World) : Except Fault Int :=
  levelOfValue ((world.lookUp? "ENUMERANT_LOG_LEVEL").getD "INFO") call.level.content

/-- What a call does to its surroundings, and how it ends. -/
def run (call : SetUp) : Action Unit :=
  Action.setUpLogging call.level call.file

end SetUp

/-- What a call makes of the logger of the package. A fault leaves what was done before it. -/
def Logger.setUp (logger : Logger) (call : SetUp) (world : World) : Logger :=
  match call.level? world with
  | .error _ => logger
  | .ok level =>
      let logger := (logger.setLevel level).clear.add (.lined .console level)
      match (Action.openLog call.file world).1 with
      | .error _ => logger
      | .ok none => { logger with propagates := false }
      | .ok (some location) =>
          { logger.add (.lined (.file location) level) with propagates := false }

/-- The handlers of a set-up. -/
def Setup.handlers (setup : Setup) : List Handler :=
  .lined .console setup.level :: setup.file.toList.map fun location => .lined (.file location) setup.level

/-- The logger of the package for a set-up. -/
def Setup.logger (setup : Setup) : Logger :=
  ⟨setup.level, setup.handlers, false⟩

/-! ## Records on their way up -/

/-- The name of the logger of the package. -/
def packageName : Text := "enumerant"

/-- The names of the loggers above one whose name is given backwards, the nearest first. What stands before a dot
names a logger, if there is one; it is that of the package, or known. Where there is none, the search goes on
before the character in front of the dot. -/
def namesAbove (known : List Text) : Text → List Text
  | [] => []
  | [_] => []
  | c :: d :: rest =>
      if c == .char '.' then
        let name := (d :: rest).reverse
        if name == packageName || known.contains name then name :: namesAbove known (d :: rest)
        else namesAbove known rest
      else namesAbove known (d :: rest)

/-- The names of the loggers from one of a name up, without the root. -/
def namesUp (known : List Text) (name : Text) : List Text :=
  name :: namesAbove known name.reverse

namespace Logger

/-- The logger above all others. -/
def root : Logger where
  level := warning

/-- The loggers from the one of a name up to the root. All but the logger of the package are as they were
made. -/
def upFrom (package : Logger) (known : List Text) (name : Text) : List Logger :=
  (namesUp known name).map (fun other => if other == packageName then package else {}) ++ [root]

/-- The first level that is set on the way up. -/
def effectiveLevel : List Logger → Int
  | [] => 0
  | logger :: above => if logger.level = 0 then effectiveLevel above else logger.level

/-- The handlers on the way up, as far as records go. -/
def reached : List Logger → List Handler
  | [] => []
  | logger :: above => logger.handlers ++ if logger.propagates then reached above else []

end Logger

/-- What writes a record that reaches no handler. -/
def lastResort : Handler where
  sink := .console
  level := warning

/-- What a handler writes for a record. -/
def Handler.text (handler : Handler) (clock : Text) (record : Record) : Text :=
  if handler.layout then record.line clock else record.message ++ "\n"

end VariantIter.Log

namespace VariantIter.World

/-- Hands a record to a handler, which writes it if it is severe enough. -/
def handle (record : Log.Record) (world : World) (handler : Log.Handler) : World :=
  if handler.level ≤ record.level then
    let text := handler.text world.clock record
    match handler.sink with
    | .console => world.printError text
    | .file location => world.addText record location text
  else world

/-- Sends a record on its way from the logger that it names. The logger of the package is given, and the names
of the others that are known. -/
def emit (package : Log.Logger) (known : List Text) (record : Log.Record) (world : World) : World :=
  let loggers := package.upFrom known record.logger
  if 0 < record.level ∧ Log.Logger.effectiveLevel loggers ≤ record.level then
    match Log.Logger.reached loggers with
    | [] => world.handle record Log.lastResort
    | handlers => handlers.foldl (World.handle record) world
  else world

end VariantIter.World

namespace VariantIter

/-- Logging as it stands: the logger of the package, the names of the other loggers that were asked for, and the
surroundings. -/
structure Logging where
  logger : Log.Logger
  known : List Text := []
  world : World

namespace Logging

/-- Sets logging up. -/
def setUp (logging : Logging) (call : Log.SetUp) : Except Fault Unit × Logging :=
  let (outcome, world) := call.run logging.world
  (outcome, { logging with logger := logging.logger.setUp call logging.world, world := world })

/-- Asks for a logger. -/
def know (logging : Logging) (name : Text) : Logging :=
  { logging with known := name :: logging.known }

/-- Logs a record with the logger that it names. -/
def emit (logging : Logging) (record : Log.Record) : Logging :=
  { logging.know record.logger with
    world := logging.world.emit logging.logger logging.known record }

end Logging

end VariantIter
