import NbdAttach.Json.Skip

/-!
# Records

A record is a value with named fields, each with a default. In JSON it is an object of those fields
it changes, in any order and with any other members between, or a list of the values of its first
fields in order. `readRecord` reads either on top of the defaults.

How a field is read is up to the field: `FieldReader.read` reads a value and puts it into the
record.
-/

namespace NbdAttach.Json

/-- A field of a record: its name, and how a value is read and put in. -/
structure FieldReader (α : Type) where
  name : String
  read : α → List Char → Except Failure (α × List Char)

/-! ### Values of other shapes -/

def Found.ofNumber : Number → Found
  | .natural n => .integer false n
  | .negative n => .integer true n
  | .float negative units => .float negative units

/-- The problem with a value that is not what was asked for. A scalar is read to its end first, so
that a problem in its text comes before the problem of its shape. -/
def mismatch (expected : String) (text : List Char) : Failure :=
  let word (found : Found) (rest : Except Failure (List Char)) : Failure :=
    match rest with
    | .error f => f
    | .ok rest => .before (.mismatch found expected) rest
  let number (result : Except Failure (Number × List Char)) : Failure :=
    match result with
    | .error f => f
    | .ok (n, rest) => .before (.mismatch (.ofNumber n) expected) rest
  match text with
  | [] => ⟨.endInValue, 0⟩
  | 'n' :: rest => word .null (readWord ['u', 'l', 'l'] rest)
  | 't' :: rest => word (.boolean true) (readWord ['r', 'u', 'e'] rest)
  | 'f' :: rest => word (.boolean false) (readWord ['a', 'l', 's', 'e'] rest)
  | '"' :: rest =>
    match readString rest with
    | .error f => f
    | .ok (s, rest) => .before (.mismatch (.string s) expected) rest
  | '[' :: rest => .before (.mismatch .list expected) ('[' :: rest)
  | '\x7b' :: rest => .before (.mismatch .object expected) ('\x7b' :: rest)
  | '-' :: rest => number (readNumber true rest)
  | c :: rest =>
    if isDigit c then number (readNumber false (c :: rest))
    else .on .expectedValue (c :: rest)

/-- Reads a text. -/
def readText (expected : String) (text : List Char) : Except Failure (String × List Char) :=
  match skipBlanks text with
  | '"' :: rest => readString rest
  | text => .error (mismatch expected text)

/-- Reads a number from zero to `max`. -/
def readNatural (expected : String) (max : Nat) (text : List Char) :
    Except Failure (Nat × List Char) :=
  let use (result : Except Failure (Number × List Char)) : Except Failure (Nat × List Char) :=
    match result with
    | .error f => .error f
    | .ok (.natural n, rest) =>
      if n ≤ max then .ok (n, rest)
      else .error (.before (.outOfRange (.integer false n) expected) rest)
    | .ok (.negative n, rest) => .error (.before (.outOfRange (.integer true n) expected) rest)
    | .ok (number, rest) => .error (.before (.mismatch (.ofNumber number) expected) rest)
  match skipBlanks text with
  | '-' :: rest => use (readNumber true rest)
  | c :: rest =>
    if isDigit c then use (readNumber false (c :: rest)) else .error (mismatch expected (c :: rest))
  | [] => .error ⟨.endInValue, 0⟩

/-! ### Objects -/

/-- The start of the next member behind its opening quote, or what follows the object. -/
inductive NextMember
  | key (rest : List Char)
  | done (rest : List Char)

/-- Goes to the next member. In front of the first one there is no comma. -/
def nextMember (first : Bool) (text : List Char) : Except Failure NextMember :=
  match skipBlanks text with
  | [] => .error ⟨.endIn .object, 0⟩
  | '\x7d' :: rest => .ok (.done rest)
  | c :: rest =>
    if first then
      if c = '"' then .ok (.key rest) else .error (.on .expectedKey (c :: rest))
    else if c = ',' then
      match skipBlanks rest with
      | [] => .error ⟨.endInValue, 0⟩
      | '"' :: rest => .ok (.key rest)
      | '\x7d' :: rest => .error (.on .trailingComma ('\x7d' :: rest))
      | rest => .error (.on .expectedKey rest)
    else .error (.on (.expectedCommaOrEnd .object) (c :: rest))

/-- Goes over the colon behind a key. -/
def skipColon (text : List Char) : Except Failure (List Char) :=
  match skipBlanks text with
  | [] => .error ⟨.endIn .object, 0⟩
  | ':' :: rest => .ok rest
  | rest => .error (.on .expectedColon rest)

/-- What is left when a second member with the same name is noticed: the blanks behind the name are
read then, and the end of the object if it comes next. -/
def afterDuplicate (text : List Char) : List Char :=
  match skipBlanks text with
  | '\x7d' :: rest => rest
  | rest => rest

/-- Reads the value of one member, whose key is `name`, into the record. -/
def readMember {α : Type} (fields : List (FieldReader α)) (seen : List String) (name : String)
    (record : α) (text : List Char) : Except Failure (α × List Char) :=
  match fields.find? (·.name == name) with
  | some field =>
    if seen.contains name then .error (.before (.duplicateField name) (afterDuplicate text))
    else
      match skipColon text with
      | .error f => .error f
      | .ok rest => field.read record rest
  | none =>
    match skipColon text with
    | .error f => .error f
    | .ok rest =>
      match skipValue rest with
      | .error f => .error f
      | .ok rest => .ok (record, rest)

/-- Reads the members of an object into the record, at most the given number of them. `seen` are
the names of the members so far. -/
def readMembers {α : Type} (fields : List (FieldReader α)) (first : Bool) (seen : List String)
    (record : α) (text : List Char) : Nat → Except Failure (α × List Char)
  | 0 => .error (.before .expectedKey text)
  | members + 1 =>
    match nextMember first text with
    | .error f => .error f
    | .ok (.done rest) => .ok (record, rest)
    | .ok (.key rest) =>
      match readString rest with
      | .error f => .error f
      | .ok (name, rest) =>
        match readMember fields seen name record rest with
        | .error f => .error f
        | .ok (record, rest) => readMembers fields false (name :: seen) record rest members

/-! ### Lists -/

/-- Goes to the next element, if there is one. In front of the first one there is no comma. -/
def nextElement (first : Bool) (text : List Char) : Except Failure (Option (List Char)) :=
  match skipBlanks text with
  | [] => .error ⟨.endIn .list, 0⟩
  | ']' :: _ => .ok none
  | c :: rest =>
    if first then .ok (some (c :: rest))
    else if c = ',' then
      match skipBlanks rest with
      | [] => .error ⟨.endInValue, 0⟩
      | ']' :: rest => .error (.on .trailingComma (']' :: rest))
      | rest => .ok (some rest)
    else .error (.on (.expectedCommaOrEnd .list) (c :: rest))

/-- Reads elements into the fields, in order, as long as there are any. -/
def readElements {α : Type} (first : Bool) (record : α) (text : List Char) :
    List (FieldReader α) → Except Failure (α × List Char)
  | [] => .ok (record, text)
  | field :: fields =>
    match nextElement first text with
    | .error f => .error f
    | .ok none => .ok (record, text)
    | .ok (some rest) =>
      match field.read record rest with
      | .error f => .error f
      | .ok (record, rest) => readElements false record rest fields

/-- Goes over the end of a list whose elements are all read. -/
def endList (text : List Char) : Except Failure (List Char) :=
  match skipBlanks text with
  | [] => .error ⟨.endIn .list, 0⟩
  | ']' :: rest => .ok rest
  | ',' :: rest =>
    match skipBlanks rest with
    | ']' :: rest => .error (.on .trailingComma (']' :: rest))
    | rest => .error (.on .trailingText rest)
  | rest => .error (.on .trailingText rest)

/-- Reads a record on top of its defaults. -/
def readRecord {α : Type} (expected : String) (fields : List (FieldReader α)) (default : α)
    (text : List Char) : Except Failure (α × List Char) :=
  match skipBlanks text with
  | '\x7b' :: rest => readMembers fields true [] default rest (rest.length + 1)
  | '[' :: rest =>
    match readElements true default rest fields with
    | .error f => .error f
    | .ok (record, rest) =>
      match endList rest with
      | .error f => .error f
      | .ok rest => .ok (record, rest)
  | text => .error (mismatch expected text)

/-- Reads a text that is one record and nothing else. -/
def decodeRecord {α : Type} (expected : String) (fields : List (FieldReader α)) (default : α)
    (text : List Char) : Except Failure α :=
  match readRecord expected fields default text with
  | .error f => .error f
  | .ok (record, rest) =>
    match skipBlanks rest with
    | [] => .ok record
    | rest => .error (.on .trailingText rest)

end NbdAttach.Json
