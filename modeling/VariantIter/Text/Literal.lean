import VariantIter.Text.Digits
import VariantIter.Text.Printable

/-!
Two ways to quote a text.

A literal shows a text inside a message: it prefers the single quote, and escapes what cannot be
printed. An enclosed text is a string of the generated code: the double quote and the backslash are
preceded by a backslash, and `disclose` reads it back.
-/

namespace VariantIter.Text

def singleQuote : CodePoint := .char '\x27'

def doubleQuote : CodePoint := .char '\x22'

def backslash : CodePoint := .char '\\'

/-- The shortest escape with the number of a code point. -/
def codeEscape (code : Nat) : Text :=
  ofChars <|
    if code < 0x100 then '\\' :: 'x' :: hex 2 code
    else if code < 0x10000 then '\\' :: 'u' :: hex 4 code
    else '\\' :: 'U' :: hex 8 code

/-- One code point of a literal between the quotes `quote`, in the shortest escape that fits. -/
def literalPoint (quote c : CodePoint) : Text :=
  if c = backslash ∨ c = quote then [backslash, c]
  else if c = '\n' then "\\n"
  else if c = '\r' then "\\r"
  else if c = '\t' then "\\t"
  else if isPrintable c then [c]
  else codeEscape c.code

/-- The double quote is used for a text with single quotes and no double ones. -/
def literalQuote (cs : Text) : CodePoint :=
  if cs.contains singleQuote && !cs.contains doubleQuote then doubleQuote else singleQuote

/-- A text as messages show it. -/
def literal (s : Text) : Text :=
  let quote := literalQuote s
  quote :: s.flatMap (literalPoint quote) ++ [quote]

/-- A text with `new` wherever `old` stood. -/
def replaced (cs : Text) (old : CodePoint) (new : Text) : Text :=
  cs.flatMap fun c => if c = old then new else [c]

/-- A string of the generated code that stands for `cs`. Backslashes come first, so that those written
before double quotes are not doubled. -/
def enclose (cs : Text) : Text :=
  let doubled := cs.replaced backslash [backslash, backslash]
  doubleQuote :: doubled.replaced doubleQuote [backslash, doubleQuote] ++ [doubleQuote]

/-- Reads up to the first double quote that no backslash takes: the text read, and what follows. A
backslash takes the code point after it as it is. -/
def discloseBody : Text → Option (Text × Text)
  | [] => none
  | [c] => if c = doubleQuote then some ([], []) else none
  | c :: d :: rest =>
      if c = backslash then (discloseBody rest).map fun (text, tail) => (d :: text, tail)
      else if c = doubleQuote then some ([], d :: rest)
      else (discloseBody (d :: rest)).map fun (text, tail) => (c :: text, tail)

/-- Reads an enclosed text at the start of `cs`. -/
def disclose : Text → Option (Text × Text)
  | [] => none
  | c :: rest => if c = doubleQuote then discloseBody rest else none

end VariantIter.Text
