import NbdAttach.Json.Literal
import NbdAttach.Json.Number

/-!
# Skipping values

A member that nobody asked for is passed over. Its value has to be JSON, at any depth, but nothing
is kept of it. `skipValue` walks over one value with a stack of what encloses the place it is at.
-/

namespace NbdAttach.Json

/-- What follows a word such as `null`, of which `word` is still to come. -/
def readWord : (word text : List Char) → Except Failure (List Char)
  | [], text => .ok text
  | _ :: _, [] => .error ⟨.endInValue, 0⟩
  | w :: word, c :: rest =>
    if c = w then readWord word rest else .error (.on .expectedWord (c :: rest))

/-- What follows a value that encloses nothing. -/
def skipScalar : List Char → Except Failure (List Char)
  | [] => .error ⟨.endInValue, 0⟩
  | 'n' :: rest => readWord ['u', 'l', 'l'] rest
  | 't' :: rest => readWord ['r', 'u', 'e'] rest
  | 'f' :: rest => readWord ['a', 'l', 's', 'e'] rest
  | '"' :: rest => skipString rest
  | '-' :: rest => skipNumber rest
  | c :: rest =>
    if isDigit c then skipNumber (c :: rest) else .error (.on .expectedValue (c :: rest))

/-- What follows the key of a member and its colon. -/
def skipKey (text : List Char) : Except Failure (List Char) :=
  match skipBlanks text with
  | [] => .error ⟨.endIn .object, 0⟩
  | '"' :: rest =>
    match skipString rest with
    | .error f => .error f
    | .ok rest =>
      match skipBlanks rest with
      | ':' :: rest => .ok rest
      | [] => .error ⟨.endIn .object, 0⟩
      | rest => .error (.on .expectedColon rest)
  | rest => .error (.on .expectedKey rest)

/-- What the walk looks for next. -/
inductive SkipState
  | value
  /-- Inside an enclosure: its end or its first value. -/
  | opened
  /-- Behind a value: the end of the enclosure, or a comma and one more value. -/
  | afterValue
deriving DecidableEq, Repr

/-- One step: what is looked for next, in which enclosures, and what is left of the text. -/
def skipStep (state : SkipState) (enclosures : List Enclosure) (text : List Char) :
    Except Failure (SkipState × List Enclosure × List Char) :=
  match state, enclosures with
  | .value, _ =>
    match skipBlanks text with
    | '[' :: rest => .ok (.opened, .list :: enclosures, rest)
    | '\x7b' :: rest => .ok (.opened, .object :: enclosures, rest)
    | text =>
      match skipScalar text with
      | .error f => .error f
      | .ok rest => .ok (.afterValue, enclosures, rest)
  | _, [] => .ok (state, [], text)
  | _, e :: outer =>
    let next (text : List Char) : Except Failure (SkipState × List Enclosure × List Char) :=
      match e with
      | .list => .ok (.value, enclosures, text)
      | .object =>
        match skipKey text with
        | .error f => .error f
        | .ok rest => .ok (.value, enclosures, rest)
    match skipBlanks text with
    | [] => .error ⟨.endIn e, 0⟩
    | c :: rest =>
      if (e = .list ∧ c = ']') ∨ (e = .object ∧ c = '\x7d') then .ok (.afterValue, outer, rest)
      else
        match state with
        | .afterValue =>
          if c = ',' then next rest else .error (.on (.expectedCommaOrEnd e) (c :: rest))
        | _ => next (c :: rest)

/-- The walk, of at most the given number of steps. -/
def skipFrom (state : SkipState) (enclosures : List Enclosure) (text : List Char) :
    Nat → Except Failure (List Char)
  | 0 => .error (.before .expectedValue text)
  | steps + 1 =>
    if state = .afterValue ∧ enclosures = [] then .ok text
    else
      match skipStep state enclosures text with
      | .error f => .error f
      | .ok (state, enclosures, rest) => skipFrom state enclosures rest steps

/-- What follows one value. Each character is worth at most two steps. -/
def skipValue (text : List Char) : Except Failure (List Char) :=
  skipFrom .value [] text (2 * text.length + 2)

end NbdAttach.Json
