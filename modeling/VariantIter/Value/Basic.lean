import VariantIter.Calendar
import VariantIter.Number.Double

/-!
Values of a document: what a descriptor or configuration file holds once it is read.

A mapping keeps its entries in order, one per key. A key written again keeps its first place and takes
the new value.

A document can say that a value stands in several places, and even that a collection holds itself.
Labels tell which places hold the same value; `Value.content` looks through them.
-/

namespace VariantIter

inductive Value where
  | null
  | bool (b : Bool)
  | int (n : Int)
  | double (x : Double)
  | text (s : Text)
  | bytes (bs : List UInt8)
  | date (d : Date)
  | moment (m : Moment)
  | list (items : List Value)
  | tuple (items : List Value)
  | set (items : List Value)
  | map (entries : List (Value × Value))
  /-- A value that may stand in several places under the same label. -/
  | shared (label : Nat) (value : Value)
  /-- A collection that may hold itself: inside of it, `again` with the label stands for it. -/
  | knot (label : Nat) (value : Value)
  | again (label : Nat)
deriving Inhabited

namespace Value

/-! ## Labels -/

mutual

/-- Puts a knot in place of the marks that stand for it. A shared value holds no such marks. -/
def tie (label : Nat) (whole : Value) : Value → Value
  | .again other => if other == label then whole else .again other
  | .knot other value => .knot other (if other == label then value else tie label whole value)
  | .list items => .list (tieItems label whole items)
  | .tuple items => .tuple (tieItems label whole items)
  | .map entries => .map (tieEntries label whole entries)
  | value => value

def tieItems (label : Nat) (whole : Value) : List Value → List Value
  | [] => []
  | item :: items => tie label whole item :: tieItems label whole items

def tieEntries (label : Nat) (whole : Value) : List (Value × Value) → List (Value × Value)
  | [] => []
  | (key, value) :: entries =>
      (key, tie label whole value) :: tieEntries label whole entries

end

/-- The value under a label. -/
def content : Value → Value
  | .shared _ value => value
  | .knot label value => tie label (.knot label value) value
  | value => value

/-! ## Kinds -/

/-- The kind of a value, as messages name it. -/
def kindName : Value → Text
  | .null => "NoneType"
  | .bool _ => "bool"
  | .int _ => "int"
  | .double _ => "float"
  | .text _ => "str"
  | .bytes _ => "bytes"
  | .date _ => "date"
  | .moment _ => "datetime"
  | .list _ => "list"
  | .tuple _ => "tuple"
  | .set _ => "set"
  | .map _ => "dict"
  | .shared _ value => value.kindName
  | .knot _ value => value.kindName
  | .again _ => "object"

/-- The kind of a value with the module that defines it. -/
def qualifiedKind : Value → Text
  | .date _ => "datetime.date"
  | .moment _ => "datetime.datetime"
  | .shared _ value => value.qualifiedKind
  | value => value.kindName

/-- Null, false, zero, and empty texts and collections do not count as given. -/
def truthy : Value → Bool
  | .null => false
  | .bool b => b
  | .int n => n != 0
  | .double x => !x.isZero
  | .text s => !s.isEmpty
  | .bytes bs => !bs.isEmpty
  | .date _ => true
  | .moment _ => true
  | .list items => !items.isEmpty
  | .tuple items => !items.isEmpty
  | .set items => !items.isEmpty
  | .map entries => !entries.isEmpty
  | .shared _ value => value.truthy
  | .knot _ value => value.truthy
  | .again _ => true

/-! ## Keys -/

mutual

/-- The collection that keeps a value from being a key: lists, sets and mappings are no keys, nor is a
tuple that holds one. -/
def unhashable? : Value → Option Text
  | .list _ => some "list"
  | .set _ => some "set"
  | .map _ => some "dict"
  | .tuple items => firstUnhashable? items
  | .shared _ value => value.unhashable?
  | .knot _ value => value.unhashable?
  | _ => none

def firstUnhashable? : List Value → Option Text
  | [] => none
  | item :: items => match item.unhashable? with
    | some kind => some kind
    | none => firstUnhashable? items

end

def isNan : Value → Bool
  | .double x => x == .nan
  | _ => false

/-- Numbers and truth values. -/
def isNumber : Value → Bool
  | .bool _ => true
  | .int _ => true
  | .double _ => true
  | _ => false

mutual

/-- Whether two values are one key. Numbers and truth values are compared as numbers. A number that is
none equals itself only: two of them under different labels differ. -/
def sameKey : Value → Value → Bool
  | .null, .null => true
  | .bool a, .bool b => a == b
  | .bool a, .int n => (if a then 1 else 0) == n
  | .int n, .bool a => (if a then 1 else 0) == n
  | .int m, .int n => m == n
  | .double x, .double y => x.same y || (x == .nan && y == .nan)
  | .double x, .int n => x.equalsInt n
  | .int n, .double x => x.equalsInt n
  | .double x, .bool a => x.equalsInt (if a then 1 else 0)
  | .bool a, .double x => x.equalsInt (if a then 1 else 0)
  | .text s, .text t => s == t
  | .bytes a, .bytes b => a == b
  | .date d, .date e => d == e
  | .moment m, .moment n => m.same n
  | .tuple items, .tuple others => sameKeys items others
  | .shared label value, .shared label' value' =>
      label == label' || (!value.isNan && value.sameKey value')
  | .shared _ value, other => !value.isNan && value.sameKey other
  | value, .shared _ other => !other.isNan && value.sameKey other
  | _, _ => false

def sameKeys : List Value → List Value → Bool
  | [], [] => true
  | item :: items, other :: others => item.sameKey other && sameKeys items others
  | _, _ => false

end

/-- The items that a value is made of: those of a collection, the keys of a mapping, the code points of
a text, or the bytes. -/
def items? (value : Value) : Option (List Value) :=
  match value.content with
  | .list items => some items
  | .tuple items => some items
  | .set items => some items
  | .map entries => some (entries.map Prod.fst)
  | .text s => some (s.map fun c => .text [c])
  | .bytes bs => some (bs.map fun b => .int b.toNat)
  | _ => none

/-- Whether a value is the given text. -/
def isText (word : Text) : Value → Bool
  | .text s => s == word
  | _ => false

end Value

/-- The entries of a mapping in order. -/
abbrev Entries := List (Value × Value)

namespace Entries

/-- The value under a text key. -/
def get? : Entries → Text → Option Value
  | [], _ => none
  | (key, value) :: rest, name => if key.isText name then some value else get? rest name

/-- Sets the value under a key, in place if the key is there and at the end otherwise. -/
def put : Entries → Value → Value → Entries
  | [], key, value => [(key, value)]
  | (key', value') :: rest, key, value =>
      if key'.sameKey key then (key', value) :: rest else (key', value') :: put rest key value

/-- The mapping with the given pairs written one after another. -/
def ofPairs (pairs : List (Value × Value)) : Entries :=
  pairs.foldl (fun entries pair => put entries pair.1 pair.2) []

end Entries

end VariantIter
