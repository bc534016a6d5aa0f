import VariantIter.Calendar
import VariantIter.Text.Utf8
import VariantIter.Value.Display

/-!
What can go wrong, and how it is reported.

A fault is a cause. Its text is the message of the cause, for descriptors, rendering and settings
followed by the details that are known, such as the type at fault. A fault whose message would have to
show an integer of too many digits is reported as that.
-/

namespace VariantIter

/-- A message with details that are shown in parentheses after it. -/
structure Notice where
  message : Value
  details : Entries := []

/-- The details in order, each as a name and a value. -/
def Notice.detailTexts (notice : Notice) : List Text :=
  notice.details.map fun (name, value) => name.display ++ "=" ++ value.display

def Notice.text (notice : Notice) : Text :=
  if notice.details.isEmpty then notice.message.display
  else notice.message.display ++ " (" ++ Text.joined ", " notice.detailTexts ++ ")"

/-- A notice with one detail, if its value is known. -/
def Notice.about (message : Value) (name : Text) : Option Value → Notice
  | none => ⟨message, []⟩
  | some value => ⟨message, [(.text name, value)]⟩

/-- A type that is not a sum type was given where a capability is derived. -/
structure Rejection where
  capability : Value
  observed : Value

/-- The message of a rejection never carries details, so that it can be matched on. -/
def Rejection.message (rejection : Rejection) : Text :=
  rejection.capability.display ++ " is only defined for sum types, not " ++
    rejection.observed.display

/-- Whether the values in a message can be shown. -/
def Rejection.isShowable (rejection : Rejection) : Bool :=
  rejection.capability.isShowable && rejection.observed.isShowable

/-- What is wrong with a descriptor. -/
inductive DescriptorFault where
  | invalidIdentifier (name : Value)
  | invalidVisibility (qualifier : Value)
  | invalidFieldType (type : Value)
  | invalidField (item : Value)
  | fieldsNotPairs
  | duplicateField (name : Text)
  | twoPayloads (variant : Value)
  | positionalNotList
  | invalidVariant (item : Value)
  | invalidEntry (item : Value)
  | unknownKind (name : Text)
  | variantsNotList
  | typesNotList
  | unsupportedDocument (kind : Text)
  | unreadable (path detail : Text)

def DescriptorFault.message : DescriptorFault → Text
  | .invalidIdentifier name => "Invalid identifier: " ++ name.literal
  | .invalidVisibility qualifier => "Invalid visibility: " ++ qualifier.literal
  | .invalidFieldType type => "Field type must be a non-empty string, got " ++ type.literal
  | .invalidField item => "Named field must be a name/type pair, got " ++ item.literal
  | .fieldsNotPairs => "Named fields must be a mapping or a list of pairs"
  | .duplicateField name => "Duplicate field name " ++ Text.literal name
  | .twoPayloads variant =>
      "Variant " ++ variant.literal ++ " cannot be both positional and named"
  | .positionalNotList => "Positional fields must be a list of types"
  | .invalidVariant item =>
      "Variant must be a name or a mapping with 'name', got " ++ item.literal
  | .invalidEntry item => "Type entry must be a mapping with 'name', got " ++ item.literal
  | .unknownKind name => "Unknown type kind " ++ Text.literal name
  | .variantsNotList => "Variants must be a list"
  | .typesNotList => "'types' must be a list"
  | .unsupportedDocument kind => "Unsupported descriptor document: " ++ kind
  | .unreadable path detail => "Failed to parse " ++ path ++ ": " ++ detail

/-- Whether the values in a message can be shown. -/
def DescriptorFault.isShowable : DescriptorFault → Bool
  | .invalidIdentifier name => name.isShowable
  | .invalidVisibility qualifier => qualifier.isShowable
  | .invalidFieldType type => type.isShowable
  | .invalidField item => item.isShowable
  | .twoPayloads variant => variant.isShowable
  | .invalidVariant item => item.isShowable
  | .invalidEntry item => item.isShowable
  | _ => true

/-- What is wrong with the settings. -/
inductive SettingsFault where
  | emptyCapability
  | invalidStem (stem : Value)
  | notIdentifier (field : Text)
  | unsupportedDialect (dialect : Value)
  | unknownOptions (names : List Value)
  | fileNotFound (path : Text)
  | unreadable (path detail : Text)
  | notMapping (path : Text)

def SettingsFault.message : SettingsFault → Text
  | .emptyCapability => "Capability name cannot be empty"
  | .invalidStem stem =>
      "Iterator prefix " ++ stem.literal ++ " is not an identifier start"
  | .notIdentifier field => field ++ " must be an identifier"
  | .unsupportedDialect dialect => "Unsupported target dialect: " ++ dialect.display
  | .unknownOptions names => "Unknown generation options: " ++ (Value.list names).literal
  | .fileNotFound path => "Configuration file " ++ path ++ " not found"
  | .unreadable path detail => "Failed to load configuration from " ++ path ++ ": " ++ detail
  | .notMapping path => "Configuration in " ++ path ++ " must be a mapping"

/-- Whether the values in a message can be shown. -/
def SettingsFault.isShowable : SettingsFault → Bool
  | .invalidStem stem => stem.isShowable
  | .unsupportedDialect dialect => dialect.isShowable
  | .unknownOptions names => (Value.list names).isShowable
  | _ => true

/-- What is wrong with a template or the names it uses. -/
inductive TemplateFault where
  | notFound (file directory : Text)
  | undefinedName (name : Text)
  | noAttribute (owner name : Text)
  | noFilter (name : Text)
  | unknownTag (name : Text)
  | misplacedTag (name : Text)
  | unclosedLoop
  | malformedTag (content : Text)

def TemplateFault.message : TemplateFault → Text
  | .notFound file directory =>
      Text.literal file ++ " not found in search path: " ++ Text.literal directory
  | .undefinedName name => Text.literal name ++ " is undefined"
  | .noAttribute owner name =>
      Text.literal owner ++ " has no attribute " ++ Text.literal name
  | .noFilter name => "No filter named " ++ Text.literal name ++ "."
  | .unknownTag name => "Encountered unknown tag " ++ Text.literal name ++ "."
  | .misplacedTag name =>
      "Encountered unknown tag " ++ Text.literal name ++
        ". Jinja was looking for the following tags: 'endfor' or 'else'. " ++
        "The innermost block that needs to be closed is 'for'."
  | .unclosedLoop =>
      "Unexpected end of template. Jinja was looking for the following tags: " ++
        "'endfor' or 'else'. The innermost block that needs to be closed is 'for'."
  | .malformedTag content => "Malformed tag " ++ Text.literal content ++ "."

/-- Why a file cannot be opened or a directory cannot be made. -/
inductive FileFault where
  | notFound
  | isDirectory
  | notDirectory
  | exists
  | nameTooLong
deriving DecidableEq, Repr

def FileFault.message : FileFault → Text
  | .notFound => "[Errno 2] No such file or directory"
  | .isDirectory => "[Errno 21] Is a directory"
  | .notDirectory => "[Errno 20] Not a directory"
  | .exists => "[Errno 17] File exists"
  | .nameTooLong => "[Errno 36] File name too long"

/-- A value of a kind that an operation does not take. -/
inductive KindFault where
  | notText (kind : Text)
  /-- Bytes where the pattern is one for texts. -/
  | bytesForText
  | notHashable (kind : Text)
  | notIterable (kind : Text)
  | notSequence (index : Nat)
  | notComparable (left right : Text)
  | notShape (value : Value)
  | notPath (kind : Text)
  /-- An object of the kind `owner` was asked for its path. -/
  | notPathOf (owner kind : Text)
  | notWritable (kind : Text)
  | notWritableKey (kind : Text)
  | notLevel (text : Text)
  | notLevelName (kind : Text)
  | levelNotInteger
  | notMessage (kind : Text)
  /-- Moments of which only one knows its difference from universal time. -/
  | clocksDiffer
  /-- A moment and a day, in either order. -/
  | momentAndDay
  | unexpectedOption (name : Text)

def KindFault.message : KindFault → Text
  | .notText kind => "expected string or bytes-like object, got " ++ Text.literal kind
  | .bytesForText => "cannot use a string pattern on a bytes-like object"
  | .notHashable kind => "unhashable type: " ++ Text.literal kind
  | .notIterable kind => Text.literal kind ++ " object is not iterable"
  | .notSequence index =>
      "cannot convert dictionary update sequence element #" ++ Text.ofNat index ++
        " to a sequence"
  | .notComparable left right =>
      "'<' not supported between instances of " ++ Text.literal left ++ " and " ++
        Text.literal right
  | .notShape value => "Not a payload shape: " ++ value.literal
  | .notPath kind => "expected str, bytes or os.PathLike object, not " ++ kind
  | .notPathOf owner kind =>
      "expected " ++ owner ++ ".__fspath__() to return str or bytes, not " ++ kind
  | .notWritable kind => "Object of type " ++ kind ++ " is not JSON serializable"
  | .notWritableKey kind => "keys must be str, int, float, bool or None, not " ++ kind
  | .notLevel text => "Level not an integer or a valid string: " ++ text
  | .notLevelName kind => "attribute name must be string, not " ++ Text.literal kind
  | .levelNotInteger => "level must be an integer"
  | .notMessage kind => "__str__ returned non-string (type " ++ kind ++ ")"
  | .clocksDiffer => "can't compare offset-naive and offset-aware datetimes"
  | .momentAndDay => "can't compare datetime.datetime to datetime.date"
  | .unexpectedOption name =>
      "GenerationConfig.__init__() got an unexpected keyword argument " ++ Text.literal name

/-- What is wrong with a value that was to be a name but is no text. -/
def KindFault.ofNoText : Value → KindFault
  | .bytes _ => .bytesForText
  | value => .notText value.qualifiedKind

/-- A value outside of the range that an operation takes. -/
inductive RangeFault where
  | pairLength (index length : Nat)
  | unknownLevel (text : Text)
  | integer (cause : Number.IntegerFault)
  | double (text : Text)
  | calendar (cause : CalendarFault)
  | codePoint
  | unshowable
  | circular
  | nullInPath
deriving DecidableEq, Repr

def RangeFault.message : RangeFault → Text
  | .pairLength index length =>
      "dictionary update sequence element #" ++ Text.ofNat index ++ " has length " ++
        Text.ofNat length ++ "; 2 is required"
  | .unknownLevel text => "Unknown level: " ++ Text.literal text
  | .integer (.tooManyDigits count) =>
      "Exceeds the limit (4300 digits) for integer string conversion: value has " ++
        Text.ofNat count ++ " digits; use sys.set_int_max_str_digits() to increase the limit"
  | .integer (.invalid base text) =>
      "invalid literal for int() with base " ++ Text.ofNat base ++ ": " ++
        (Text.literal text).take 200
  | .double text => "could not convert string to float: " ++ Text.literal text
  | .calendar cause => cause.message
  | .codePoint => "chr() arg not in range(0x110000)"
  | .unshowable =>
      "Exceeds the limit (4300 digits) for integer string conversion; " ++
        "use sys.set_int_max_str_digits() to increase the limit"
  | .circular => "Circular reference detected"
  | .nullInPath => "embedded null byte"

/-- A number that is too large for what it is used for. -/
inductive OverflowFault where
  | codePoint
  | double
deriving DecidableEq, Repr

def OverflowFault.message : OverflowFault → Text
  | .codePoint => "Python int too large to convert to C int"
  | .double => "int too large to convert to float"

/-- What is nested too deeply to be worked with. -/
inductive DepthFault where
  | list
  | mapping
  | value
deriving DecidableEq, Repr

def DepthFault.message : DepthFault → Text
  | .list => "maximum recursion depth exceeded while decoding a JSON array from a unicode string"
  | .mapping => "maximum recursion depth exceeded while decoding a JSON object from a unicode string"
  | .value => "maximum recursion depth exceeded"

/-- Everything that can go wrong. Some causes come with a detail: the type, the dialect or the key that
they are about. -/
inductive Fault where
  | rejected (rejection : Rejection)
  | descriptor (cause : DescriptorFault) (type : Option Value)
  | rendering (type : Text) (cause : TemplateFault) (dialect : Text)
  | settings (cause : SettingsFault) (key : Option Value)
  | kind (cause : KindFault)
  | range (cause : RangeFault)
  | overflow (cause : OverflowFault)
  | depth (cause : DepthFault)
  /-- A text that is none of the keys it is looked up among. -/
  | noKey (text : Text)
  /-- The first character of an empty text was asked for. -/
  | noCharacter
  | unencodable (gap : Text.Utf8.Unencodable)
  | undecodable (fault : Text.Utf8.Fault)
  | noAttribute (owner name : Text)
  | file (cause : FileFault) (path : Text)
  /-- The same, where the path was given as bytes. -/
  | byteFile (cause : FileFault) (path : List UInt8)
  | noCurrentSettings
  | notImplemented

namespace Fault

/-- The notice of a fault about descriptors, rendering or settings. -/
def notice? : Fault → Option Notice
  | .rejected rejection => some ⟨.text rejection.message, []⟩
  | .descriptor cause type => some (.about (.text cause.message) "type_name" type)
  | .rendering type cause dialect =>
      some (.about (.text ("Template rendering failed for " ++ type ++ ": " ++ cause.message))
        "dialect" (some (.text dialect)))
  | .settings cause key => some (.about (.text cause.message) "key" key)
  | _ => none

/-- The text of a fault. -/
def text (fault : Fault) : Text :=
  match fault.notice? with
  | some notice => notice.text
  | none => match fault with
    | .kind cause => cause.message
    | .range cause => cause.message
    | .overflow cause => cause.message
    | .depth cause => cause.message
    | .noKey text => Text.literal text
    | .noCharacter => "string index out of range"
    | .unencodable gap => gap.message
    | .undecodable fault => fault.message
    | .noAttribute owner name =>
        Text.literal owner ++ " object has no attribute " ++ Text.literal name
    | .file cause path => cause.message ++ ": " ++ Text.literal path
    | .byteFile cause path => cause.message ++ ": " ++ literalBytes path
    | .noCurrentSettings => "no current configuration"
    | _ => ""

/-- Whether the message of a fault can be shown. -/
def isShowable : Fault → Bool
  | .rejected rejection => rejection.isShowable
  | .descriptor cause type =>
      cause.isShowable && match type with
        | some type => type.isShowable
        | none => true
  | .settings cause key =>
      cause.isShowable && match key with
        | some key => key.isShowable
        | none => true
  | .kind (.notShape value) => value.isShowable
  | _ => true

/-- The fault that is reported for a fault. -/
def reported (fault : Fault) : Fault :=
  if fault.isShowable then fault else .range .unshowable

end Fault

/-- The text of a value, if it can be shown. -/
def Value.shown (value : Value) : Except Fault Text :=
  if value.isShowable then .ok value.display else .error (.range .unshowable)

namespace Notice

/-- A notice with the details that a value holds; what does not count as given is none. -/
def ofValue (message details : Value) : Except Fault Notice :=
  if !details.truthy then .ok ⟨message, []⟩
  else match details.content with
    | .map entries => .ok ⟨message, entries⟩
    | details => .error (.noAttribute details.qualifiedKind "items")

/-- The text of a notice whose message need not be a text. Without details it has to be one. -/
def shown (notice : Notice) : Except Fault Text :=
  match notice.details, notice.message with
  | [], .text s => .ok s
  | [], message => .error (.kind (.notMessage message.kindName))
  | details, message =>
      if message.isShowable && (Value.map details).isShowable then .ok notice.text
      else .error (.range .unshowable)

end Notice

end VariantIter
