import VariantIter.Fault
import VariantIter.Text.Utf8

/-!
A tree of files and directories.

The tree is a list of locations with what is there. The root is always a directory.
-/

namespace VariantIter

/-- What a file holds: a text, or bytes that need not be one. -/
inductive Content where
  | text (s : String)
  | bytes (bs : List UInt8)
deriving DecidableEq, Repr

namespace Content

def read : Content → Except Text.Utf8.Fault String
  | .text s => .ok s
  | .bytes bs => Text.Utf8.decode bs

/-- The content with a text added at the end. -/
def append : Content → String → Content
  | .text s, t => .text (s ++ t)
  | .bytes bs, t => .bytes (bs ++ Text.Utf8.encode t)

end Content

/-- Names from the root down. -/
abbrev Location := List Text

inductive Entry where
  | directory
  | file (content : Content)
deriving DecidableEq, Repr

structure FileTree where
  entries : List (Location × Entry) := []

namespace FileTree

def entry? (tree : FileTree) (location : Location) : Option Entry :=
  if location.isEmpty then some .directory else tree.entries.lookup location

/-- Sets an entry, in place if there is one at the location. -/
def putIn (location : Location) (entry : Entry) : List (Location × Entry) → List (Location × Entry)
  | [] => [(location, entry)]
  | (location', entry') :: rest =>
      if location' == location then (location, entry) :: rest
      else (location', entry') :: putIn location entry rest

def put (tree : FileTree) (location : Location) (entry : Entry) : FileTree :=
  ⟨putIn location entry tree.entries⟩

/-- The longest name of a file in bytes. -/
def maxName : Nat := 255

/-- Where names lead from a location. Every step starts in a directory; two dots lead up. -/
def walk (tree : FileTree) : Location → List Text → Except FileFault Location
  | here, [] => .ok here
  | here, name :: names =>
      match tree.entry? here with
      | none => .error .notFound
      | some (.file _) => .error .notDirectory
      | some .directory =>
          if name == "." then walk tree here names
          else if name == ".." then walk tree here.dropLast names
          else if maxName < Text.Utf8.nameSize name then .error .nameTooLong
          else walk tree (here ++ [name]) names

/-- The content of the file at a location. -/
def read (tree : FileTree) (location : Location) : Except FileFault Content :=
  match tree.entry? location with
  | none => .error .notFound
  | some .directory => .error .isDirectory
  | some (.file content) => .ok content

/-- The tree with a file of the given content at a location. -/
def write (tree : FileTree) (location : Location) (content : Content) :
    Except FileFault FileTree :=
  match tree.entry? location with
  | some .directory => .error .isDirectory
  | _ => .ok (tree.put location (.file content))

/-- The tree with a text added to the file at a location, which need not be there. -/
def append (tree : FileTree) (location : Location) (text : String) : Except FileFault FileTree :=
  match tree.entry? location with
  | some .directory => .error .isDirectory
  | some (.file content) => .ok (tree.put location (.file (content.append text)))
  | none => .ok (tree.put location (.file (.text text)))

/-- The tree with a directory at a location where there was nothing. -/
def makeDirectory (tree : FileTree) (location : Location) : Except FileFault FileTree :=
  match tree.entry? location with
  | some _ => .error .exists
  | none => .ok (tree.put location .directory)

/-- What is below a location, named from there, in ascending order. -/
def listing (tree : FileTree) (location : Location) : List Text :=
  let names := tree.entries.filterMap fun (below, _) =>
    if location.isPrefixOf below && location.length < below.length then
      some (Text.joined "/" (below.drop location.length))
    else none
  names.mergeSort fun a b => !b.precedes a

end FileTree

end VariantIter
