import VariantIter.Fault
import VariantIter.FileTree
import VariantIter.Json.Reader
import VariantIter.Path
import VariantIter.Text.Case
import VariantIter.Text.Lines
import VariantIter.Yaml.Reader

/-!
Documents: files that hold a value as YAML or JSON.

The suffix of the path decides which of the two a file is; anything but YAML is JSON. Line ends are
unified before a document is read.
-/

namespace VariantIter.Document

def isYaml (path : Path) : Bool :=
  let suffix := Text.lower path.suffix
  suffix == ".yaml" || suffix == ".yml"

/-- Why a file holds no value: it is not readable as what it should be, or something in it is at fault
in another way. -/
inductive Problem where
  | unreadable (detail : Text)
  | fault (fault : Fault)

def ofJsonFault : Json.Fault → Problem
  | .malformed problem line column position =>
      .unreadable (problem.message ++ ": line " ++ Text.ofNat line ++ " column " ++
        Text.ofNat column ++ " (char " ++ Text.ofNat position ++ ")")
  | .tooManyDigits count => .fault (.range (.integer (.tooManyDigits count)))
  | .tooDeep .list => .fault (.depth .list)
  | .tooDeep .mapping => .fault (.depth .mapping)

/-- The largest number that is compared with the code points at all. -/
def maxCode : Nat := 0x7FFFFFFF

def ofYamlFault : Yaml.Fault → Problem
  | .malformed cause => .unreadable cause.message
  | .codePoint code =>
      .fault (if maxCode < code then .overflow .codePoint else .range .codePoint)
  | .integer cause => .fault (.range (.integer cause))
  | .double text => .fault (.range (.double text))
  | .weightOverflow => .fault (.overflow .double)
  | .emptyNumber => .fault .noCharacter
  | .truthValue text => .fault (.noKey text)
  | .stamp => .fault (.noAttribute "NoneType" "groupdict")
  | .stampMapping => .fault (.kind (.notText "list"))
  | .calendar cause => .fault (.range (.calendar cause))
  | .tooDeep => .fault (.depth .value)

/-- The value of a text. -/
def parse (yaml : Bool) (text : String) : Except Problem Value :=
  let cs := Text.unifyLines text.toList
  if yaml then (Yaml.read cs).mapError ofYamlFault else (Json.read cs).mapError ofJsonFault

/-- The value that a file holds. -/
def read (yaml : Bool) (content : Content) : Except Problem Value :=
  match content.read with
  | .ok text => parse yaml text
  | .error fault => .error (.unreadable fault.message)

end VariantIter.Document
