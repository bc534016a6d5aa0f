import VariantIter.Dialect
import VariantIter.Identifier
import VariantIter.Text.Case

/-!
Options of generation.

`Options` holds whatever was set; `Options.check` turns it into a `Recipe`, the options a generator can
work with, or says which option is at fault.
-/

namespace VariantIter

/-- A rule for the names of iterator types. -/
structure NamingStrategy where
  /-- The name of the iterator for a type of the given name. -/
  iteratorName : Text → Text

/-- The name of an iterator type: the stem, then the name of the type. -/
structure Naming where
  stem : Text
deriving DecidableEq, Repr

namespace Naming

def defaultStem : Text := "_EnumIterator_"

def ofValue (value : Value) : Except Fault Naming :=
  let refusal : Except Fault Naming :=
    .error (.settings (.invalidStem value) (some (.text "iterator_prefix")))
  match value.content with
  | .text s => if Identifier.isName s then .ok ⟨s⟩ else refusal
  | content =>
      if content.truthy then .error (.kind (.ofNoText content)) else refusal

def iteratorName (naming : Naming) (type : Text) : Text :=
  naming.stem ++ type

def strategy (naming : Naming) : NamingStrategy :=
  ⟨naming.iteratorName⟩

instance : Coe Naming NamingStrategy := ⟨strategy⟩

def literal (naming : Naming) : Text :=
  "PrefixNamingStrategy(prefix=" ++ Text.literal naming.stem ++ ")"

end Naming

/-- The options as they were set, of any kind. -/
structure Options where
  capability : Value := .text "EnumIterator"
  stem : Value := .text Naming.defaultStem
  entry : Value := .text "enum_iter"
  mapping : Value := .text "get"
  counter : Value := .text "idx"
  target : Value := .text "rust"

namespace Options

/-- The names of the options in documents. -/
def names : List Text :=
  ["capability_name", "iterator_prefix", "entry_name", "mapping_name", "counter_name",
    "target_dialect"]

def toEntries (options : Options) : Entries :=
  [(.text "capability_name", options.capability), (.text "iterator_prefix", options.stem),
    (.text "entry_name", options.entry), (.text "mapping_name", options.mapping),
    (.text "counter_name", options.counter), (.text "target_dialect", options.target)]

/-- The options with one of them replaced, unchecked. -/
def set (options : Options) (name : Text) (value : Value) : Options :=
  if name == "capability_name" then { options with capability := value }
  else if name == "iterator_prefix" then { options with stem := value }
  else if name == "entry_name" then { options with entry := value }
  else if name == "mapping_name" then { options with mapping := value }
  else if name == "counter_name" then { options with counter := value }
  else if name == "target_dialect" then { options with target := value }
  else options

/-- Options with the given values in place of the defaults, unchecked. -/
def withEntries (entries : Entries) : Except Fault Options :=
  entries.foldlM (fun options (key, value) =>
    let name := key.display
    if names.contains name then .ok (options.set name value)
    else .error (.kind (.unexpectedOption name))) {}

end Options

/-! ## Order of keys -/

/-- A finite number as numerator and denominator. -/
def Value.ratio? : Value → Option (Int × Nat)
  | .bool b => some (if b then 1 else 0, 1)
  | .int n => some (n, 1)
  | .double (.finite negative mantissa exponent) =>
      some (Double.signedRatio negative mantissa exponent)
  | _ => none

/-- Whether a number comes before another. Nothing comes before or after a value that is no number. -/
def Value.numberBefore? : Value → Value → Option Bool
  | .double .nan, b => if b.isNumber then some false else none
  | a, .double .nan => if a.isNumber then some false else none
  | .double (.infinite s), .double (.infinite s') => some (s && !s')
  | .double (.infinite s), b => if b.isNumber then some s else none
  | a, .double (.infinite s) => if a.isNumber then some !s else none
  | a, b => match a.ratio?, b.ratio? with
    | some (n, d), some (n', d') => some (decide (n * d' < n' * d))
    | _, _ => none

/-- Whether bytes come before others: by the first byte at which they differ. -/
def bytesPrecede : List UInt8 → List UInt8 → Bool
  | _, [] => false
  | [], _ :: _ => true
  | a :: as, b :: bs => decide (a < b) || (a == b && bytesPrecede as bs)

/-- Whether a key comes before another, where they can be compared: texts by code points, numbers by
size, days and moments by time. -/
def Value.precedes (a b : Value) : Except Fault Bool :=
  match a.content, b.content with
  | .text s, .text t => .ok (s.precedes t)
  | .bytes s, .bytes t => .ok (bytesPrecede s t)
  | .date d, .date e => .ok (d.precedes e)
  | .moment m, .moment n =>
      if m.comparable n then .ok (m.precedes n) else .error (.kind .clocksDiffer)
  | .date _, .moment _ => .error (.kind .momentAndDay)
  | .moment _, .date _ => .error (.kind .momentAndDay)
  | a, b => match a.numberBefore? b with
    | some before => .ok before
    | none => .error (.kind (.notComparable a.qualifiedKind b.qualifiedKind))

/-- Puts a key in its place among keys in ascending order. -/
def insertKey (key : Value) : List Value → Except Fault (List Value)
  | [] => .ok [key]
  | other :: keys => do
      if ← key.precedes other then return key :: other :: keys
      else return other :: (← insertKey key keys)

/-- Keys in ascending order. -/
def sortKeys : List Value → Except Fault (List Value)
  | [] => .ok []
  | key :: keys => do insertKey key (← sortKeys keys)

namespace Options

/-- A key that names an option. -/
def isName (key : Value) : Bool :=
  names.any fun name => key.isText name

/-- A given option as text, or its default. -/
def given (entries : Entries) (name : Text) (default : Value) : Except Fault Value :=
  match entries.get? name with
  | some value => do return .text (← value.shown)
  | none => .ok default

/-- The target in small letters, or the default. -/
def givenTarget (entries : Entries) (default : Value) : Except Fault Value :=
  match entries.get? "target_dialect" with
  | some value => do return .text (Text.lower (← value.shown))
  | none => .ok default

/-- Refuses keys that name no option, in ascending order. -/
def refuseUnknown (entries : Entries) : Except Fault Unit :=
  match entries.filterMap fun entry => if isName entry.1 then none else some entry.1 with
  | [] => .ok ()
  | unknown => do
      let sorted ← sortKeys unknown
      let key := match sorted with
        | .null :: _ => none
        | key :: _ => some key
        | [] => none
      throw (.settings (.unknownOptions sorted) key)

/-- The options of a mapping as texts. -/
def ofEntries (entries : Entries) : Except Fault Options := do
  let defaults : Options := {}
  let options : Options := {
    capability := ← given entries "capability_name" defaults.capability
    stem := ← given entries "iterator_prefix" defaults.stem
    entry := ← given entries "entry_name" defaults.entry
    mapping := ← given entries "mapping_name" defaults.mapping
    counter := ← given entries "counter_name" defaults.counter
    target := ← givenTarget entries defaults.target }
  refuseUnknown entries
  return options

end Options

/-- Options that a generator can work with. -/
structure Recipe where
  capability : Value
  stem : Text
  entry : Text
  mapping : Text
  counter : Text
  target : Dialect

def Recipe.toOptions (recipe : Recipe) : Options :=
  ⟨recipe.capability, .text recipe.stem, .text recipe.entry, .text recipe.mapping,
    .text recipe.counter, .text recipe.target.name⟩

namespace Options

def checkStem (value : Value) : Except Fault Text :=
  match value.content with
  | .text s =>
      if Identifier.isName s then .ok s
      else .error (.settings (.invalidStem value) (some (.text "iterator_prefix")))
  | content => .error (.kind (.ofNoText content))

def checkName (option : Text) (value : Value) : Except Fault Text := do
  if ← Identifier.admits value then return value.display
  else throw (.settings (.notIdentifier option) (some (.text option)))

def checkTarget (value : Value) : Except Fault Dialect :=
  let refusal : Except Fault Dialect :=
    .error (Fault.reported (.settings (.unsupportedDialect value) (some (.text "target_dialect"))))
  match value.content with
  | .text s => match Dialect.ofName? s with
    | some dialect => .ok dialect
    | none => refusal
  | _ => refusal

/-- Checks the options in order; the first at fault decides. -/
def check (options : Options) : Except Fault Recipe := do
  if !options.capability.truthy then
    throw (.settings .emptyCapability (some (.text "capability_name")))
  let stem ← checkStem options.stem
  let entry ← checkName "entry_name" options.entry
  let mapping ← checkName "mapping_name" options.mapping
  let counter ← checkName "counter_name" options.counter
  let target ← checkTarget options.target
  return ⟨options.capability, stem, entry, mapping, counter, target⟩

end Options

end VariantIter
