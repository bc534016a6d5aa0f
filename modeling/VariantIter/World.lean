import VariantIter.Log.Setup
import VariantIter.Log.Traced
import VariantIter.Path
import VariantIter.Text.Lines

/-!
The surroundings of a command: files, environment, clock, logging and the two streams that it writes to.

The stream for errors takes every text, and shows halves of surrogate pairs by their numbers. The console takes
what it can encode. An action changes the surroundings and ends in a result or a fault. What was changed before a fault
stays changed.
-/

namespace VariantIter

/-- What the console does with a text: it encodes it, or it keeps it as it is. -/
inductive Console where
  | encoding
  | keeping
deriving DecidableEq, Repr

/-- What keeps the console from taking a text. -/
def Console.gap? (console : Console) (text : Text) : Option Text.Utf8.Unencodable :=
  match console, Text.Utf8.toFile text with
  | .encoding, .error gap => some gap
  | _, _ => none

/-- The name of a file, as a text or as bytes. -/
inductive FileName where
  | text (name : Text)
  | bytes (name : List UInt8)
deriving DecidableEq, Repr

namespace FileName

def toText : FileName → Text
  | .text name => name
  | .bytes name => Text.Utf8.nameOfBytes name

/-- The name that a value is; any other kind of value is at fault. -/
def ofValue (fault : Text → KindFault) (given : Value) : Except Fault FileName :=
  match given.content with
  | .text name => .ok (.text name)
  | .bytes name => .ok (.bytes name)
  | other => .error (.kind (fault other.kindName))

/-- A fault shows the path of a file in the way in which the file was named. -/
def spell : FileName → Fault → Fault
  | .bytes _, .file cause path => .byteFile cause (Text.Utf8.nameBytes path)
  | _, fault => fault

end FileName

/-- What is given as the file of the log: a value, or an object of some kind that answers with a path when it is
asked for one. -/
inductive LogFile where
  | value (value : Value)
  | object (kind : Text) (path : Value)

namespace LogFile

instance : Coe Value LogFile := ⟨.value⟩

/-- Whether a file is given. An object counts as given. -/
def isGiven : LogFile → Bool
  | .value given => given.truthy
  | .object _ _ => true

/-- The name of the file. -/
def name : LogFile → Except Fault FileName
  | .value given => FileName.ofValue .notPath given
  | .object kind path => FileName.ofValue (.notPathOf kind) path

end LogFile

structure World where
  /-- The working directory. -/
  directory : Location := []
  tree : FileTree := {}
  environment : List (Text × Text) := []
  /-- What the clock shows in lines of the log. -/
  clock : Text := []
  log : Log.Setup := {}
  /-- The stacks of calls that are shown for a record whose line a file cannot hold. -/
  origins : Log.Record → Log.Origin := fun _ => {}
  console : Console := .encoding
  stdout : Text := []
  stderr : Text := []

namespace World

def lookUp? (world : World) (name : Text) : Option Text :=
  world.environment.lookup name

/-- Sets a variable of the environment, or removes it. -/
def setVariable (world : World) (name : Text) (value : Option Text) : World :=
  let others := world.environment.filter fun (other, _) => other != name
  { world with environment := match value with
      | some value => (name, value) :: others
      | none => others }

/-- Puts a text out on the console. If the console cannot take it, nothing of it is put out. -/
def print (world : World) (text : Text) : Except Fault World :=
  match world.console.gap? text with
  | some gap => .error (.unencodable gap)
  | none => .ok { world with stdout := world.stdout ++ text }

def printError (world : World) (text : Text) : World :=
  { world with stderr := world.stderr ++ text }

/-- The path of the working directory. -/
def directoryPath (world : World) : Path :=
  ⟨[Path.slash], world.directory⟩

/-- The path from the root that a text names, without two dots. -/
def absolute (world : World) (text : Text) : Path :=
  let path := Path.ofText text
  let start := if path.isAbsolute then ⟨path.anchor, []⟩ else world.directoryPath
  ⟨start.anchor, path.names.foldl
    (fun names (name : Text) => if name == ".." then names.dropLast else names ++ [name])
    start.names⟩

/-- Where a path starts. -/
def startOf (world : World) (path : Path) : Location :=
  if path.isAbsolute then [] else world.directory

/-- Where a path leads. -/
def locate (world : World) (path : Path) : Except FileFault Location :=
  world.tree.walk (world.startOf path) path.names

/-- Whether there is something at a path. A name that is too long is a fault; anything else that cannot
be looked up is not there. -/
def hasEntry (world : World) (path : Path) : Except Fault Bool :=
  match world.locate path with
  | .ok location => .ok (world.tree.entry? location).isSome
  | .error .nameTooLong => .error (.file .nameTooLong path.text)
  | .error _ => .ok false

/-- Adds the text of a record to a file. One that the file cannot hold is left out of it and reported. -/
def addText (world : World) (record : Log.Record) (location : Location) (text : Text) : World :=
  match Text.Utf8.toFile text with
  | .ok text => { world with tree := (world.tree.append location text).toOption.getD world.tree }
  | .error gap => world.printError (record.report (world.origins record) gap)

/-- Writes a record to the stream for errors and to the file of the log, if it is severe enough. -/
def record (world : World) (record : Log.Record) : World :=
  if world.log.accepts record then
    let line := record.line world.clock
    match world.log.file with
    | none => world.printError line
    | some location => (world.printError line).addText record location line
  else world

end World

/-- A computation that changes the surroundings. -/
def Action (α : Type) : Type :=
  World → Except Fault α × World

namespace Action

variable {α β : Type}

protected def pure (a : α) : Action α :=
  fun world => (.ok a, world)

/-- A fault ends the action; the changes before it stay. -/
protected def bind (action : Action α) (next : α → Action β) : Action β :=
  fun world => match action world with
    | (.ok a, world) => next a world
    | (.error fault, world) => (.error fault, world)

instance : Monad Action where
  pure := Action.pure
  bind := Action.bind

/-- Ends with a fault, as it is reported. -/
def fail (fault : Fault) : Action α :=
  fun world => (.error fault.reported, world)

def ofExcept (outcome : Except Fault α) : Action α :=
  fun world => (outcome.mapError Fault.reported, world)

/-- Runs an action and hands on how it ended. -/
def attempt (action : Action α) : Action (Except Fault α) :=
  fun world =>
    let (outcome, world) := action world
    (.ok outcome, world)

/-- Runs an action and ends with another fault, if it fails. -/
def mapFault (f : Fault → Fault) (action : Action α) : Action α :=
  fun world =>
    let (outcome, world) := action world
    (outcome.mapError f, world)

/-- Looks at the surroundings. -/
def view (f : World → α) : Action α :=
  fun world => (.ok (f world), world)

def update (f : World → World) : Action Unit :=
  fun world => (.ok (), f world)

/-- Puts a text out on the console. -/
def print (text : Text) : Action Unit :=
  fun world => match world.print text with
    | .ok world => (.ok (), world)
    | .error fault => (.error fault, world)

def record (record : Log.Record) : Action Unit :=
  update fun world => world.record record

/-- Writes the records of a computation and ends like it. -/
def ofTraced (traced : Traced α) : Action α :=
  fun world => (traced.outcome, traced.records.foldl World.record world)

/-- The longest path in bytes. -/
def maxPath : Nat := 4095

/-- Whether a text can be the path of a file at all. -/
def checkPath (text : Text) : Except Fault Unit :=
  match Text.Utf8.nameGap? 0 text with
  | some gap => .error (.unencodable gap)
  | none =>
      if text.contains (.char '\x00') then .error (.range .nullInPath)
      else if maxPath < Text.Utf8.nameSize text then .error (.file .nameTooLong text)
      else .ok ()

/-- Runs an operation on files with a path that is spelled as `spelling`. -/
def onFiles (spelling : Text) (operation : World → Except FileFault (α × FileTree)) : Action α :=
  fun world =>
    match checkPath spelling, operation world with
    | .error fault, _ => (.error fault, world)
    | .ok (), .ok (a, tree) => (.ok a, { world with tree := tree })
    | .ok (), .error cause => (.error (.file cause spelling), world)

/-- Whether there is something at a path. A text that cannot be a path names nothing, unless it is too
long. -/
def hasEntry (path : Path) : Action Bool :=
  fun world => match checkPath path.text with
    | .ok () => (world.hasEntry path, world)
    | .error (.file cause text) => (.error (.file cause text), world)
    | .error _ => (.ok false, world)

/-- The content of the file at a path. -/
def read (path : Path) : Action Content :=
  onFiles path.text fun world => do
    return (← world.tree.read (← world.locate path), world.tree)

/-- The text of the file at a path, with unified line ends. -/
def readText (path : Path) : Action Text := do
  match (← read path).read with
  | .ok text => return Text.ofChars (Text.unifyLines text.toList)
  | .error fault => fail (.undecodable fault)

/-- Replaces the content of the file at a path, or creates the file. -/
def write (path : Path) (content : Content) : Action Unit :=
  onFiles path.text fun world => do
    return ((), ← world.tree.write (← world.locate path) content)

/-- Replaces the content of the file at a path as it was spelled by a text. A slash at the end names a
directory. A text that a file cannot hold leaves it empty. -/
def writeSpelled (spelling text : Text) : Action Unit := do
  let path := Path.spelled spelling
  let put (content : String) : Action Unit := onFiles spelling fun world => do
    if spelling.getLast? == some Path.slash then
      let _ ← world.locate { path with names := path.names.dropLast.concat "." }
      throw .isDirectory
    return ((), ← world.tree.write (← world.locate path) (.text content))
  match Text.Utf8.toFile text with
  | .ok content => put content
  | .error gap => do
      put ""
      fail (.unencodable gap)

/-- Makes a directory. -/
def makeDirectory (path : Path) : Action Unit :=
  onFiles path.text fun world => do
    return ((), ← world.tree.makeDirectory (← world.locate path))

/-- Creates the file at a path, unless it is there. -/
def touch (path : Path) : Action Unit :=
  onFiles path.text fun world => do
    return ((), ← world.tree.append (← world.locate path) "")

/-- Opens the file of the log, if one is given, and says where it is. -/
def openLog (file : LogFile) : Action (Option Location) :=
  if file.isGiven then do
    let name ← ofExcept file.name
    let path ← view fun world => world.absolute name.toText
    mapFault name.spell (touch path)
    return some path.names
  else pure none

/-- Sets up logging at a level and, if one is given, to a file, which is created. The level is read
from the environment if it is null. A file that cannot be opened leaves the new level. -/
def setUpLogging (level : Value) (file : LogFile) : Action Unit := do
  let default ← view fun world => (world.lookUp? "ENUMERANT_LOG_LEVEL").getD "INFO"
  let level ← ofExcept (Log.levelOfValue default level.content)
  update fun world => { world with log := ⟨level, none⟩ }
  let place ← openLog file
  update fun world => { world with log := ⟨level, place⟩ }

end Action

end VariantIter
