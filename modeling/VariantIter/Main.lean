import Std.Time
import VariantIter.About
import VariantIter.Session

/-!
The program: it takes a picture of the files that the command may look at, runs the command on the
picture, and puts what has changed back into place.
-/

namespace VariantIter.Program

/-- A text with the numbers of halves of surrogate pairs in their place. -/
def printed (text : Text) : String :=
  String.ofList (text.flatMap fun
    | .char c => [c]
    | .surrogate half => ((Text.codeEscape (CodePoint.surrogate half).code).chars?).getD [])

/-- The path of a location on the disk. -/
def onDisk (location : Location) :=
  (fun root => location.foldl (fun path name => path / printed name) root) <$>
    IO.FS.realPath "/"

/-- What is at a location: a directory or a file. -/
def entryAt (location : Location) : IO (Option Entry) := do
  let path ← onDisk location
  if ← path.isDir then return some .directory
  else if ← path.pathExists then
    return some (.file (.bytes (← IO.FS.readBinFile path).toList))
  else return none

/-- The tree with everything from the root down to a location. -/
def withLocation (tree : FileTree) (location : Location) : IO FileTree := do
  let mut tree := tree
  for n in List.range location.length do
    let above := location.take (n + 1)
    if (tree.entry? above).isNone then
      if let some entry ← entryAt above then
        tree := tree.put above entry
  return tree

/-- The surroundings with the file that a text names. -/
def withFile (world : World) (name : Text) : IO World := do
  return { world with tree := ← withLocation world.tree (world.absolute name).names }

/-- What the clock shows. -/
def clockText : IO Text := do
  let now ← Std.Time.PlainDateTime.now
  let number (width : Nat) (n : Nat) : Text := Text.ofChars (Text.padded width n)
  let date := number 4 now.year.toInt.toNat ++ "-" ++ number 2 now.month.val.toNat ++ "-" ++
    number 2 now.day.val.toNat
  let time := number 2 now.hour.val.toNat ++ ":" ++ number 2 now.minute.val.toNat ++ ":" ++
    number 2 now.second.val.toNat
  return date ++ " " ++ time ++ "," ++ number 3 (now.nanosecond.val.toNat / 1000000)

/-- The surroundings of the program. -/
def surroundings : IO World := do
  let directory := Path.namesOf (Text.ofString (← IO.currentDir).toString)
  let mut environment : List (Text × Text) := []
  for name in ["ENUMERANT_TARGET", "ENUMERANT_LOG_LEVEL"] do
    if let some value ← IO.getEnv name then
      environment := (Text.ofString name, Text.ofString value) :: environment
  return {
    directory := directory
    tree := ← withLocation {} directory
    environment := environment
    clock := ← clockText }

/-- The surroundings with the files that the command may look at. -/
def withInputs (world : World) (arguments : Arguments) : IO World := do
  let names := [arguments.descriptors] ++ arguments.out.toList ++ arguments.config.toList ++
    Settings.fileNames
  let world ← names.foldlM withFile world
  match (Settings.load arguments.config world).1 with
  | .ok settings => match LogFile.name (Command.logFile settings) with
    | .ok name => withFile world name.toText
    | .error _ => return world
  | .error _ => return world

/-- The bytes of a file. -/
def bytesOf : Content → ByteArray
  | .text s => s.toUTF8
  | .bytes bs => ⟨bs.toArray⟩

/-- Writes the files that differ from those before. -/
def writeChanges (before after : FileTree) : IO Unit := do
  for (location, entry) in after.entries do
    if before.entry? location != some entry then
      if let .file content := entry then
        IO.FS.writeBinFile (← onDisk location) (bytesOf content)

/-- Runs the command and ends with its exit code, or with 1 after a fault that is not reported. -/
def run (words : List String) : IO UInt32 := do
  let world ← surroundings
  let words := words.map Text.ofString
  let world ← match Arguments.parse words with
    | .ok arguments => withInputs world arguments
    | .error _ => pure world
  let (outcome, after) := Command.run words world
  writeChanges world.tree after.tree
  IO.print (printed after.stdout)
  IO.eprint (printed after.stderr)
  match outcome with
  | .ok code => return UInt32.ofNat code
  | .error fault => do
      IO.eprintln (printed fault.text)
      return 1

end VariantIter.Program

def main (words : List String) : IO UInt32 :=
  VariantIter.Program.run words
