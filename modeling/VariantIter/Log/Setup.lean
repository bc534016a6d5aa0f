import VariantIter.Fault
import VariantIter.FileTree
import VariantIter.Log.Record
import VariantIter.Text.Case

/-!
How logging is set up: from which level on records are written, and to which file besides the console.
-/

namespace VariantIter.Log

structure Setup where
  level : Int := info
  file : Option Location := none
deriving DecidableEq, Repr

/-- The level from which records count; level 0 leaves it at warnings. -/
def Setup.threshold (setup : Setup) : Int :=
  if setup.level = 0 then warning else setup.level

/-- Whether a record is written. -/
def Setup.accepts (setup : Setup) (record : Record) : Bool :=
  decide (0 < record.level) && decide (setup.threshold ≤ record.level)

/-- A line of the log at the time that the clock shows. -/
def Record.line (clock : Text) (record : Record) : Text :=
  clock ++ " - " ++ record.logger ++ " - " ++ levelName record.level ++ " - " ++ record.message ++ "\n"

/-- The stacks of calls that a report shows: of where a line was written, and of where its record was made. -/
structure Origin where
  writing : Text := []
  logging : Text := []

/-- The report of a line that a file cannot hold. -/
def Record.report (record : Record) (origin : Origin) (gap : Text.Utf8.Unencodable) : Text :=
  "--- Logging error ---\n" ++
    "Traceback (most recent call last):\n" ++ origin.writing ++
    "UnicodeEncodeError: " ++ gap.message ++ "\n" ++
    "Call stack:\n" ++ origin.logging ++
    "Message: " ++ Text.literal record.message ++ "\n" ++
    "Arguments: ()\n"

/-- The levels by name. -/
def levels : List (Text × Int) :=
  [("CRITICAL", critical), ("FATAL", critical), ("ERROR", error), ("WARN", warning),
    ("WARNING", warning), ("INFO", info), ("DEBUG", debug), ("NOTSET", 0)]

/-- The layout of a line, which has a name like a level. -/
def lineLayout : Text := "%(levelname)s:%(name)s:%(message)s"

/-- The styles of layouts, which have a name like a level. -/
def layoutStyles : Text :=
  "\x7b'%': (<class 'logging.PercentStyle'>, '%(levelname)s:%(name)s:%(message)s'), " ++
    "'\x7b': (<class 'logging.StrFormatStyle'>, '\x7blevelname\x7d:\x7bname\x7d:\x7bmessage\x7d'), " ++
    "'$': (<class 'logging.StringTemplateStyle'>, " ++
    "'$\x7blevelname\x7d:$\x7bname\x7d:$\x7bmessage\x7d')\x7d"

/-- The level that a name in any letter case stands for. Unknown names stand for the level of
information; two names stand for something that is no level. -/
def levelOfName (name : Text) : Except Fault Int :=
  let name := Text.upper name
  match levels.lookup name with
  | some level => .ok level
  | none =>
      if name == "BASIC_FORMAT" then .error (.range (.unknownLevel lineLayout))
      else if name == "_STYLES" then .error (.kind (.notLevel layoutStyles))
      else .ok info

/-- The level that a value stands for; null stands for the given default. -/
def levelOfValue (default : Text) : Value → Except Fault Int
  | .null => levelOfName default
  | .text name => levelOfName name
  | .bytes bs => .error (.kind (.notLevelName (Value.bytes bs).kindName))
  | value => .error (.noAttribute value.qualifiedKind "upper")

/-- The level of a record, which has to be an integer. -/
def recordLevel : Value → Except Fault Int
  | .int n => .ok n
  | .bool b => .ok (if b then 1 else 0)
  | _ => .error (.kind .levelNotInteger)

/-- The name under which a component of the given name logs. -/
def loggerOf : Value → Except Fault Text
  | .text name => .ok (loggerName name)
  | value => .error (.noAttribute value.qualifiedKind "startswith")

end VariantIter.Log
