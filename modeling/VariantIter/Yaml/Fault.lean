import VariantIter.Calendar
import VariantIter.Number.Reading

/-!
Why the text of a YAML document has no value.

A text can be malformed. A text that is well formed can still hold a scalar that does not spell what it
has to: a number, a truth value, a moment, or a code point.
-/

namespace VariantIter.Yaml

inductive Malformed where
  | unprintable
  | unexpectedCharacter
  | colonExpected
  | entryNotAllowed
  | keyNotAllowed
  | valueNotAllowed
  | invalidDirective
  | invalidAnchor
  | invalidTag
  | invalidEscape
  | invalidBlockHeader
  | unterminatedQuote
  | markerInQuote
  | unbalancedBracket
  | contentExpected
  | endExpected
  | documentExpected
  | severalDocuments
  | duplicateAnchor
  | unknownAlias
  | unknownHandle
  | unknownTag
  | wrongNode
  | collectionAsKey
  | invalidMerge
  | invalidBinary
  | tooDeep
deriving DecidableEq, Repr

def Malformed.message : Malformed → Text
  | .unprintable => "special characters are not allowed"
  | .unexpectedCharacter => "found a character that cannot start any token"
  | .colonExpected => "could not find expected ':'"
  | .entryNotAllowed => "sequence entries are not allowed here"
  | .keyNotAllowed => "mapping keys are not allowed here"
  | .valueNotAllowed => "mapping values are not allowed here"
  | .invalidDirective => "found an invalid directive"
  | .invalidAnchor => "expected alphabetic or numeric character in an anchor or alias"
  | .invalidTag => "found an invalid tag"
  | .invalidEscape => "found unknown escape character"
  | .invalidBlockHeader => "expected chomping or indentation indicators"
  | .unterminatedQuote => "found unexpected end of stream in a quoted scalar"
  | .markerInQuote => "found unexpected document separator in a quoted scalar"
  | .unbalancedBracket => "found a closing bracket without its opening one"
  | .contentExpected => "expected the node content"
  | .endExpected => "expected the end of a collection"
  | .documentExpected => "expected the start of a document"
  | .severalDocuments => "expected a single document in the stream"
  | .duplicateAnchor => "found duplicate anchor"
  | .unknownAlias => "found undefined alias"
  | .unknownHandle => "found undefined tag handle"
  | .unknownTag => "could not determine a constructor for the tag"
  | .wrongNode => "found a node of another kind than its tag asks for"
  | .collectionAsKey => "found unhashable key"
  | .invalidMerge => "expected a mapping or list of mappings for merging"
  | .invalidBinary => "failed to decode base64 data"
  | .tooDeep => "the document is nested too deeply"

inductive Fault where
  | malformed (cause : Malformed)
  /-- An escape with the number of no code point. -/
  | codePoint (code : Nat)
  | integer (cause : Number.IntegerFault)
  | double (text : Text)
  /-- A place of a number in base sixty has a weight beyond the range. -/
  | weightOverflow
  /-- A number without any characters. -/
  | emptyNumber
  | truthValue (text : Text)
  /-- A text that is no moment. -/
  | stamp
  /-- A mapping where a moment is asked for. -/
  | stampMapping
  | calendar (cause : CalendarFault)
  /-- Collections stand inside of each other more often than is allowed. -/
  | tooDeep
deriving DecidableEq, Repr

/-- Why finding tokens stopped: the text is malformed, or a fault of another kind was met when `seen`
characters of the text had been looked at. -/
inductive Halt where
  | malformed (cause : Malformed)
  | fault (fault : Fault) (seen : Nat)
deriving DecidableEq, Repr

end VariantIter.Yaml
