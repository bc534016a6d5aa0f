import VariantIter.Text.Lines
import VariantIter.Yaml.Stamp
import VariantIter.Yaml.Tag

/-!
What a plain scalar is, by its spelling.

`Tag.ofSpelling` recognises numbers, truth values, null, days, moments and the two special keys;
everything else is text.
-/

namespace VariantIter.Yaml

def trueWords : List String :=
  ["yes", "Yes", "YES", "true", "True", "TRUE", "on", "On", "ON"]

def falseWords : List String :=
  ["no", "No", "NO", "false", "False", "FALSE", "off", "Off", "OFF"]

def nullWords : List String :=
  ["", "~", "null", "Null", "NULL"]

def isDigitOrMark (c : Char) : Bool :=
  Text.isDigit c || c == '_'

/-- Without a sign in front. -/
def dropSign : List Char → List Char
  | '-' :: cs => cs
  | '+' :: cs => cs
  | cs => cs

/-- A part of a number in base sixty: one digit, or two of which the first is at most five. -/
def isSixtieth : List Char → Bool
  | [a] => Text.isDigit a
  | [a, b] => '0' ≤ a && a ≤ '5' && Text.isDigit b
  | _ => false

/-- A number in base sixty, of two parts at least. -/
def isSexagesimal (first : List Char → Bool) (cs : List Char) : Bool :=
  match Text.splitOn (· == ':') cs with
  | head :: part :: parts => first head && (part :: parts).all isSixtieth
  | _ => false

/-- Digits and marks that start with a digit other than zero. -/
def isCounting : List Char → Bool
  | c :: cs => '1' ≤ c && c ≤ '9' && cs.all isDigitOrMark
  | [] => false

/-- Digits and marks that start with a digit. -/
def isDigits : List Char → Bool
  | c :: cs => Text.isDigit c && cs.all isDigitOrMark
  | [] => false

def isBinary (c : Char) : Bool :=
  c == '0' || c == '1' || c == '_'

def isOctal (c : Char) : Bool :=
  ('0' ≤ c && c ≤ '7') || c == '_'

def isHexOrMark (c : Char) : Bool :=
  Text.isHexDigit c || c == '_'

/-- An integer in base two, eight, ten, sixteen or sixty. -/
def isInt (cs : List Char) : Bool :=
  match dropSign cs with
  | ['0'] => true
  | '0' :: 'b' :: digits => !digits.isEmpty && digits.all isBinary
  | '0' :: 'x' :: digits => !digits.isEmpty && digits.all isHexOrMark
  | '0' :: digits => digits.all isOctal
  | cs => isCounting cs || isSexagesimal isCounting cs

/-- An exponent with its sign, or nothing. -/
def isExponent : List Char → Bool
  | [] => true
  | e :: sign :: digits =>
      (e == 'e' || e == 'E') && (sign == '-' || sign == '+') && !digits.isEmpty &&
        digits.all Text.isDigit
  | _ => false

/-- Digits and marks, then an exponent or nothing. -/
def isFraction (cs : List Char) : Bool :=
  isExponent (cs.dropWhile isDigitOrMark)

/-- A number with a point. -/
def isPointed (cs : List Char) : Bool :=
  let whole := cs.takeWhile (· != '.')
  match cs.dropWhile (· != '.') with
  | '.' :: fraction =>
      (isDigits whole && isFraction fraction) ||
        (isSexagesimal isDigits whole && fraction.all isDigitOrMark)
  | _ => false

/-- A number that starts with its point; it has no sign. -/
def isBarePointed : List Char → Bool
  | '.' :: c :: cs => Text.isDigit c && isFraction cs
  | _ => false

def infinityWords : List String :=
  [".inf", ".Inf", ".INF"]

def nanWords : List String :=
  [".nan", ".NaN", ".NAN"]

def isDouble (cs : List Char) : Bool :=
  isPointed (dropSign cs) || isBarePointed cs ||
    infinityWords.contains (String.ofList (dropSign cs)) || nanWords.contains (String.ofList cs)

/-- A day: four digits, two and two. -/
def isDay : List Char → Bool
  | [a, b, c, d, '-', e, f, '-', g, h] => [a, b, c, d, e, f, g, h].all Text.isDigit
  | _ => false

/-- A day followed by a time of day. -/
def isMoment (cs : List Char) : Bool :=
  match Stamp.read? cs with
  | some stamp => stamp.clock.isSome
  | none => false

/-- The marks of other kinds of nodes, which stand for no value where they are alone. -/
def isNodeMark (cs : List Char) : Bool :=
  cs == ['!'] || cs == ['&'] || cs == ['*']

/-- Without a line feed at the end. -/
def dropFinalBreak : List Char → List Char
  | [] => []
  | ['\n'] => []
  | c :: cs => c :: dropFinalBreak cs

/-- The tag of characters of which the last is no line feed. -/
def Tag.ofWord (cs : List Char) : Tag :=
  let s := String.ofList cs
  if nullWords.contains s then .null
  else if trueWords.contains s || falseWords.contains s then .bool
  else if isDouble cs then .double
  else if isInt cs then .int
  else if s == "<<" then .merge
  else if isDay cs || isMoment cs then .timestamp
  else if s == "=" then .default
  else if isNodeMark cs then .unknown
  else .text

/-- The tag of a plain scalar. One line feed at the end does not count, unless there is nothing else. -/
def Tag.ofSpelling (s : Text) : Tag :=
  match s.chars? with
  | none => .text
  | some ['\n'] => .text
  | some cs => .ofWord (dropFinalBreak cs)

end VariantIter.Yaml
