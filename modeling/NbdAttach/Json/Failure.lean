import NbdAttach.Decimal.Shortest
import NbdAttach.Text.Quoted

/-!
# Failures of reading JSON

A text is read from left to right, and the first problem decides. A `Failure` is that problem with
the place where it was noticed; `Cause.category` sorts the problems into three kinds: the text ended
early, it is not JSON, or it is JSON of another shape than was asked for.
-/

namespace NbdAttach.Json

/-- The two things that can enclose a value. -/
inductive Enclosure
  | list
  | object
deriving DecidableEq, Repr

/-- What stands where something else was asked for. -/
inductive Found
  | null
  | boolean (b : Bool)
  | integer (negative : Bool) (size : Nat)
  /-- A float, by its size in units of the smallest double. -/
  | float (negative : Bool) (units : Nat)
  | string (s : String)
  | list
  | object
deriving DecidableEq, Repr

def Found.text : Found → String
  | .null => "null"
  | .boolean b => s!"boolean `{b}`"
  | .integer false size => s!"integer `{size}`"
  | .integer true size => s!"integer `-{size}`"
  | .float negative units =>
    "floating point `" ++ (if negative then "-" else "") ++ Double.text units ++ "`"
  | .string s => "string " ++ Text.quote s
  | .list => "sequence"
  | .object => "map"

/-- What is wrong with a text. -/
inductive Cause
  -- the text ended early
  | endInValue
  | endInString
  | endIn (e : Enclosure)
  -- the text is not JSON
  | expectedValue
  | expectedWord
  | expectedColon
  | expectedCommaOrEnd (e : Enclosure)
  | expectedKey
  | trailingComma
  | trailingText
  | badNumber
  | numberTooLarge
  | badEscape
  | loneSurrogate
  | missingSurrogate
  | controlCharacter
  -- the text is JSON of another shape
  | mismatch (found : Found) (expected : String)
  | outOfRange (found : Found) (expected : String)
  | duplicateField (name : String)
deriving DecidableEq, Repr

/-- The three kinds of problems. -/
inductive Category
  | truncated
  | malformed
  | mistyped
deriving DecidableEq, Repr

namespace Cause

def category : Cause → Category
  | .endInValue | .endInString | .endIn _ => .truncated
  | .mismatch .. | .outOfRange .. | .duplicateField _ => .mistyped
  | _ => .malformed

def text : Cause → String
  | .endInValue => "EOF while parsing a value"
  | .endInString => "EOF while parsing a string"
  | .endIn .list => "EOF while parsing a list"
  | .endIn .object => "EOF while parsing an object"
  | .expectedValue => "expected value"
  | .expectedWord => "expected ident"
  | .expectedColon => "expected `:`"
  | .expectedCommaOrEnd .list => "expected `,` or `]`"
  | .expectedCommaOrEnd .object => "expected `,` or `\x7d`"
  | .expectedKey => "key must be a string"
  | .trailingComma => "trailing comma"
  | .trailingText => "trailing characters"
  | .badNumber => "invalid number"
  | .numberTooLarge => "number out of range"
  | .badEscape => "invalid escape"
  | .loneSurrogate => "lone leading surrogate in hex escape"
  | .missingSurrogate => "unexpected end of hex escape"
  | .controlCharacter => "control character (\\u0000-\\u001F) found while parsing a string"
  | .mismatch found expected => s!"invalid type: {found.text}, expected {expected}"
  | .outOfRange found expected => s!"invalid value: {found.text}, expected {expected}"
  | .duplicateField name => s!"duplicate field `{name}`"

end Cause

/-- The number of bytes of a text. -/
def byteLength (text : List Char) : Nat :=
  text.foldl (fun n c => n + c.utf8Size) 0

/-- A problem, and how many bytes of the text lie behind the place where it was noticed. -/
structure Failure where
  cause : Cause
  left : Nat
deriving DecidableEq, Repr

namespace Failure

/-- A problem noticed in front of `rest`. -/
def before (cause : Cause) (rest : List Char) : Failure :=
  ⟨cause, byteLength rest⟩

/-- A problem with the first byte of `rest`. -/
def on (cause : Cause) (rest : List Char) : Failure :=
  ⟨cause, byteLength rest - 1⟩

/-- Line and column behind the first `bytes` bytes of a text; columns are counted in bytes. -/
def position (text : List Char) (bytes line column : Nat) : Nat × Nat :=
  match text with
  | [] => (line, column)
  | c :: rest =>
    if bytes = 0 then (line, column)
    else if bytes < c.utf8Size then (line, column + bytes)
    else if c = '\n' then position rest (bytes - 1) (line + 1) 0
    else position rest (bytes - c.utf8Size) line (column + c.utf8Size)

/-- The wording of a failure to read `text`. -/
def message (f : Failure) (text : List Char) : String :=
  let (line, column) := position text (byteLength text - f.left) 1 0
  s!"{f.cause.text} at line {line} column {column}"

end Failure

/-- Blanks between the parts of a JSON text. -/
def isBlank (c : Char) : Bool :=
  c = ' ' || c = '\n' || c = '\t' || c = '\r'

def skipBlanks (text : List Char) : List Char :=
  text.dropWhile isBlank

end NbdAttach.Json
