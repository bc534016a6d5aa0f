import VariantIter.Descriptor.Decode
import VariantIter.Document
import VariantIter.World

/-!
Descriptors from a file.
-/

namespace VariantIter.Descriptor

/-- What is recorded about a file that was read. -/
def loaded (count : Nat) (path : Path) : Log.Record :=
  ⟨Log.descriptorsLogger, Log.info,
    "Loaded " ++ Text.ofNat count ++ " type descriptor(s) from " ++ path.text⟩

/-- The value of a descriptor file. -/
def readDocument (path : Path) (content : Content) : Except Fault Value :=
  match Document.read (Document.isYaml path) content with
  | .ok value => .ok value
  | .error (.unreadable detail) => .error (.descriptor (.unreadable path.text detail) none)
  | .error (.fault fault) => .error fault

/-- The descriptors of a file in the order of the document. -/
def load (name : Text) : Action (List Descriptor) := do
  let path := Path.ofText name
  let content ← Action.read path
  let document ← Action.ofExcept (readDocument path content)
  let descriptors ← Action.ofExcept (decodeDocument document)
  Action.record (loaded descriptors.length path)
  return descriptors

end VariantIter.Descriptor
