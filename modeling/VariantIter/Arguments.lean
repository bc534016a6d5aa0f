import VariantIter.Dialect
import VariantIter.Text.Digits

/-!
Arguments of the command.

Arguments are classified first: switches, which may be shortened as long as one of them is meant,
unknown switches, plain arguments, and the separator after which everything is plain. Then they are
taken in order. The first plain argument that no switch takes is the file with descriptors; what is left
over is refused at the end.
-/

namespace VariantIter

inductive Switch where
  | help
  | target
  | out
  | config
  | failFast
  | logLevel
deriving DecidableEq, Repr

namespace Switch

def all : List Switch :=
  [.help, .target, .out, .config, .failFast, .logLevel]

def long : Switch → Text
  | .help => "--help"
  | .target => "--target"
  | .out => "--out"
  | .config => "--config"
  | .failFast => "--fail-fast"
  | .logLevel => "--log-level"

/-- A switch as messages name it. -/
def label : Switch → Text
  | .help => "-h/--help"
  | switch => switch.long

def takesValue : Switch → Bool
  | .help => false
  | .failFast => false
  | _ => true

end Switch

/-- What is wrong with the arguments. -/
inductive Misuse where
  | missingDescriptors
  | invalidTarget (value : Text)
  | missingValue (switch : Switch)
  | unwantedValue (switch : Switch) (value : Text)
  | ambiguous (argument : Text) (candidates : List Switch)
  | leftOver (arguments : List Text)
deriving DecidableEq, Repr

def Misuse.message : Misuse → Text
  | .missingDescriptors => "the following arguments are required: descriptors"
  | .invalidTarget value =>
      "argument --target: invalid choice: " ++ Text.literal value ++ " (choose from " ++
        Text.joined ", " (Dialect.all.map fun dialect => Text.literal dialect.name) ++ ")"
  | .missingValue switch => "argument " ++ switch.label ++ ": expected one argument"
  | .unwantedValue switch value =>
      "argument " ++ switch.label ++ ": ignored explicit argument " ++ Text.literal value
  | .ambiguous argument candidates =>
      "ambiguous option: " ++ argument ++ " could match " ++
        Text.joined ", " (candidates.map Switch.long)
  | .leftOver arguments => "unrecognized arguments: " ++ Text.joined " " arguments

/-! ## Classification -/

inductive Argument where
  | plain (text : Text)
  | separator
  | switch (switch : Switch) (value : Option Text)
  /-- The short form of help with more after it. -/
  | shortHelp (rest : Text)
  | unknown (text : Text)
deriving DecidableEq, Repr

/-- A minus sign, then digits of any script with at most one point, which is not at the end. One line
feed after it is accepted. -/
def isNegativeNumber (text : Text) : Bool :=
  let text := if text.getLast? == some (.char '\n') then text.dropLast else text
  match text with
  | .char '-' :: number =>
      match number.dropWhile Text.isDecimal with
      | [] => !number.isEmpty
      | .char '.' :: fraction => !fraction.isEmpty && fraction.all Text.isDecimal
      | _ => false
  | _ => false

/-- An argument that starts with a minus sign and is no switch. -/
def classifyOther (text : Text) : Argument :=
  if isNegativeNumber text || text.contains (.char ' ') then .plain text else .unknown text

/-- A name and the value after the first equals sign. -/
def splitValue (text : Text) : Text × Option Text :=
  let name := text.takeWhile (· != .char '=')
  match text.drop name.length with
  | _ :: value => (name, some value)
  | [] => (name, none)

/-- A switch by its whole name, or by the start of its name. -/
def classifyLong (text : Text) : Except Misuse Argument :=
  let (name, value) := splitValue text
  match Switch.all.find? fun switch => switch.long == name with
  | some switch => .ok (.switch switch value)
  | none => match Switch.all.filter fun switch => name.isPrefixOf switch.long with
    | [] => .ok (classifyOther text)
    | [switch] => .ok (.switch switch value)
    | candidates => .error (.ambiguous text candidates)

def classify (text : Text) : Except Misuse Argument :=
  match text with
  | .char '-' :: .char '-' :: _ => classifyLong text
  | [.char '-', .char 'h'] => .ok (.switch .help none)
  | .char '-' :: .char 'h' :: .char '=' :: rest => .ok (.shortHelp rest)
  | .char '-' :: .char 'h' :: rest => .ok (.shortHelp rest)
  | [.char '-'] => .ok (.plain text)
  | .char '-' :: _ => .ok (classifyOther text)
  | _ => .ok (.plain text)

/-- All arguments; those after the first separator are plain. -/
def classifyAll : List Text → Except Misuse (List Argument)
  | [] => .ok []
  | text :: rest =>
      if text == "--" then .ok (.separator :: rest.map Argument.plain)
      else do
        let argument ← classify text
        return argument :: (← classifyAll rest)

/-! ## Taking arguments in order -/

structure Arguments where
  descriptors : Text
  target : Option Dialect := none
  out : Option Text := none
  config : Option Text := none
  failFast : Bool := false
  logLevel : Option Text := none
deriving DecidableEq, Repr

/-- Why there are no arguments to work with. -/
inductive Interruption where
  | help
  | misuse (cause : Misuse)
deriving DecidableEq, Repr

/-- The arguments taken so far. -/
structure Taken where
  descriptors : Option Text := none
  target : Option Dialect := none
  out : Option Text := none
  config : Option Text := none
  failFast : Bool := false
  logLevel : Option Text := none
  leftOver : List Text := []

namespace Taken

/-- Takes a plain argument. -/
def plain (taken : Taken) (text : Text) : Taken :=
  match taken.descriptors with
  | none => { taken with descriptors := some text }
  | some _ => { taken with leftOver := taken.leftOver ++ [text] }

def leave (taken : Taken) (text : Text) : Taken :=
  { taken with leftOver := taken.leftOver ++ [text] }

/-- Takes a switch that was given without a value by writing a separator in its place. The settings are
then asked for, but no file is named. -/
def clear (taken : Taken) (switch : Switch) : Taken :=
  match switch with
  | .target => { taken with target := none }
  | .out => { taken with out := none }
  | .config => { taken with config := some [] }
  | .logLevel => { taken with logLevel := none }
  | _ => taken

/-- Takes a switch with its value. -/
def store (taken : Taken) (switch : Switch) (value : Text) : Except Interruption Taken :=
  match switch with
  | .target => match Dialect.ofName? value with
    | some dialect => .ok { taken with target := some dialect }
    | none => .error (.misuse (.invalidTarget value))
  | .out => .ok { taken with out := some value }
  | .config => .ok { taken with config := some value }
  | .logLevel => .ok { taken with logLevel := some value }
  | .help => .error .help
  | .failFast => .ok { taken with failFast := true }

end Taken

/-- What comes of more characters after the short form of help. The short form may be repeated; anything
else is a value, which help does not take. -/
def helpRun (rest : Text) : Interruption :=
  match rest, rest.dropWhile (· == .char 'h') with
  | _ :: _, [] => .help
  | _, value => .misuse (.unwantedValue .help value)

/-- Takes arguments in order. A separator beside the descriptors is dropped. -/
def takeAll (taken : Taken) : List Argument → Except Interruption Taken
  | [] => .ok taken
  | .unknown text :: rest => takeAll (taken.leave text) rest
  | .shortHelp more :: _ => .error (helpRun more)
  | .switch switch value :: rest =>
      if switch.takesValue then
        match value, rest with
        | some value, rest => do
            let taken ←
              if value == "--" then pure (taken.clear switch) else taken.store switch value
            takeAll taken rest
        | none, .plain value :: rest => do takeAll (← taken.store switch value) rest
        | none, _ => .error (.misuse (.missingValue switch))
      else match value with
        | some value => .error (.misuse (.unwantedValue switch value))
        | none => do takeAll (← taken.store switch []) rest
  | .plain text :: .separator :: rest =>
      match taken.descriptors with
      | none => takeAll (taken.plain text) rest
      | some _ => takeAll ((taken.leave text).leave "--") rest
  | .plain text :: rest => takeAll (taken.plain text) rest
  | .separator :: .plain text :: rest =>
      match taken.descriptors with
      | none => takeAll (taken.plain text) rest
      | some _ => takeAll ((taken.leave "--").leave text) rest
  | .separator :: rest => takeAll (taken.leave "--") rest

/-- The arguments of the command, or why there are none. -/
def Arguments.parse (words : List Text) : Except Interruption Arguments := do
  let arguments ← (classifyAll words).mapError Interruption.misuse
  let taken ← takeAll {} arguments
  match taken.descriptors with
  | none => throw (.misuse .missingDescriptors)
  | some descriptors =>
      if taken.leftOver.isEmpty then
        return ⟨descriptors, taken.target, taken.out, taken.config, taken.failFast,
          taken.logLevel⟩
      else throw (.misuse (.leftOver taken.leftOver))

end VariantIter
