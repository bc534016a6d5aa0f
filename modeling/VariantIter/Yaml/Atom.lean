import VariantIter.Text.Base64
import VariantIter.Text.Case
import VariantIter.Yaml.Fault
import VariantIter.Yaml.Spelling

/-!
The values of scalars.

A scalar is read as what its tag says, which a tag that is written may ask of any text. So the readers
accept more than the spellings that are recognised without a tag, and have a fault for the rest.
-/

namespace VariantIter.Yaml

def withoutMarks (s : Text) : Text :=
  s.filter (· != .char '_')

/-- A sign before a number: whether it is a minus sign, and what follows. -/
def takeSign : Text → Bool × Text
  | .char '-' :: rest => (true, rest)
  | .char '+' :: rest => (false, rest)
  | s => (false, s)

/-- The parts of a number in base sixty. -/
def sixtieths (s : Text) : List Text :=
  Text.splitOn (· == .char ':') s

/-! ## Truth values and integers -/

def truthWords : List (Text × Bool) :=
  [("yes", true), ("no", false), ("true", true), ("false", false), ("on", true), ("off", false)]

def readTruth (s : Text) : Except Fault Bool :=
  let word := Text.lower s
  match truthWords.lookup word with
  | some b => .ok b
  | none => .error (.truthValue word)

def readBase (base : Nat) (s : Text) : Except Fault Int :=
  (Number.readInteger base s).mapError .integer

/-- The integer of a text without a sign in front. -/
def readUnsigned (s : Text) : Except Fault Int :=
  match s with
  | [] => .error .emptyNumber
  | [.char '0'] => .ok 0
  | .char '0' :: .char 'b' :: digits => readBase 2 digits
  | .char '0' :: .char 'x' :: digits => readBase 16 digits
  | .char '0' :: _ => readBase 8 s
  | s => do
      let parts ← (sixtieths s).mapM (readBase 10)
      return parts.foldl (fun total part => total * 60 + part) 0

def readInt (s : Text) : Except Fault Int := do
  let (negative, size) := takeSign (withoutMarks s)
  let n ← readUnsigned size
  return if negative then -n else n

/-! ## Numbers with a fraction -/

def readPart (s : Text) : Except Fault Double :=
  match Number.readDouble s with
  | some x => .ok x
  | none => .error (.double s)

/-- The parts of a number in base sixty from the last one on, each with its weight. -/
def sumParts (total : Double) (weight : Nat) : List Double → Except Fault Double
  | [] => .ok total
  | part :: parts =>
      match Double.ofNat? weight with
      | none => .error .weightOverflow
      | some scale => sumParts (total.add (part.mul scale)) (weight * 60) parts

/-- The number of a text; `none` is the value that is no number, written with its point. -/
def readDouble (s : Text) : Except Fault (Option Double) := do
  let word := Text.lower (withoutMarks s)
  if word.isEmpty then throw .emptyNumber
  let (negative, size) := takeSign word
  let signed (x : Double) : Double := if negative then x.negate else x
  if size == ".inf" then return some (.infinite negative)
  else if size == ".nan" then return none
  else match sixtieths size with
    | [part] => return some (signed (← readPart part))
    | parts => do
        let parts ← parts.mapM readPart
        return some (signed (← sumParts (Double.zero false) 1 parts.reverse))

/-! ## Days, moments and bytes -/

def readStamp (s : Text) : Except Fault Value :=
  match s.chars? with
  | none => .error .stamp
  | some cs => match Stamp.read? (dropFinalBreak cs) with
    | none => .error .stamp
    | some stamp => stamp.value.mapError .calendar

def readBytes (s : Text) : Except Fault (List UInt8) :=
  match s.chars? with
  | none => .error (.malformed .invalidBinary)
  | some cs =>
      if cs.all fun c => decide (c.toNat < 0x80) then
        match Text.Base64.decode cs with
        | some bs => .ok bs
        | none => .error (.malformed .invalidBinary)
      else .error (.malformed .invalidBinary)

/-- The value of a scalar. The label tells a value that is no number from others of its kind. -/
def atom (label : Nat) (tag : Tag) (s : Text) : Except Fault Value :=
  match tag with
  | .null => .ok .null
  | .bool => (readTruth s).map Value.bool
  | .int => (readInt s).map Value.int
  | .double => do
      match ← readDouble s with
      | none => return .double .nan
      | some .nan => return .shared label (.double .nan)
      | some x => return .double x
  | .binary => (readBytes s).map Value.bytes
  | .timestamp => readStamp s
  | .text => .ok (.text s)
  | _ => .error (.malformed .unknownTag)

end VariantIter.Yaml
