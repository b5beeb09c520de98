import NbdAttach.Json.Failure

/-!
# String literals

Two ways over a string literal, both starting behind its opening quote. `readString` gives the text
that the literal stands for; half of a surrogate pair stands for nothing, and is an error.
`skipString` only looks for the end: escapes are checked in form, and half a pair passes. A control
character is an error for both. The reader has taken it up when it notices, and the search stops
in front of it.
-/

namespace NbdAttach.Json

open Text

/-- The number that four hexadecimal digits stand for. -/
def hexQuad? (a b c d : Char) : Option Nat :=
  match hexValue? a, hexValue? b, hexValue? c, hexValue? d with
  | some a, some b, some c, some d => some (((a * 16 + b) * 16 + c) * 16 + d)
  | _, _, _, _ => none

/-- What a letter behind a backslash stands for. -/
def escaped? (c : Char) : Option Char :=
  match c with
  | '"' => some '"'
  | '\\' => some '\\'
  | '/' => some '/'
  | 'b' => some '\x08'
  | 'f' => some '\x0c'
  | 'n' => some '\n'
  | 'r' => some '\r'
  | 't' => some '\t'
  | _ => none

def isHighSurrogate (n : Nat) : Bool :=
  0xd800 ≤ n && n ≤ 0xdbff

def isLowSurrogate (n : Nat) : Bool :=
  0xdc00 ≤ n && n ≤ 0xdfff

/-- The character that a pair of surrogates stands for. -/
def pairChar (high low : Nat) : Char :=
  Char.ofNat (0x10000 + (high - 0xd800) * 0x400 + (low - 0xdc00))

/-- A number with fewer than four digits behind it: there is no room for them, or one of them is
none. -/
def shortQuad (rest : List Char) : Failure :=
  if byteLength rest < 4 then ⟨.endInString, 0⟩ else ⟨.badEscape, byteLength rest - 4⟩

/-- The text of a literal and what follows its closing quote; `done` is the text so far, in
reverse. -/
def readStringFrom (done : List Char) : List Char → Except Failure (List Char × List Char)
  | [] => .error ⟨.endInString, 0⟩
  | '"' :: rest => .ok (done.reverse, rest)
  | ['\\'] => .error ⟨.endInString, 0⟩
  | '\\' :: 'u' :: a :: b :: c :: d :: rest =>
    match hexQuad? a b c d with
    | none => .error (shortQuad (a :: b :: c :: d :: rest))
    | some n =>
      if isLowSurrogate n then .error (.before .loneSurrogate rest)
      else if isHighSurrogate n then
        match rest with
        | [] => .error ⟨.endInString, 0⟩
        | ['\\'] => .error ⟨.endInString, 0⟩
        | '\\' :: 'u' :: e :: f :: g :: h :: rest =>
          match hexQuad? e f g h with
          | none => .error (shortQuad (e :: f :: g :: h :: rest))
          | some m =>
            if isLowSurrogate m then readStringFrom (pairChar n m :: done) rest
            else .error (.before .loneSurrogate rest)
        | '\\' :: 'u' :: rest => .error (shortQuad rest)
        | '\\' :: rest => .error (.on .missingSurrogate rest)
        | rest => .error (.on .missingSurrogate rest)
      else readStringFrom (Char.ofNat n :: done) rest
  | '\\' :: 'u' :: rest => .error (shortQuad rest)
  | '\\' :: c :: rest =>
    match escaped? c with
    | some e => readStringFrom (e :: done) rest
    | none => .error (.on .badEscape (c :: rest))
  | c :: rest =>
    if c < ' ' then .error (.on .controlCharacter (c :: rest))
    else readStringFrom (c :: done) rest

/-- The text of a literal and what follows its closing quote. -/
def readString (text : List Char) : Except Failure (String × List Char) :=
  match readStringFrom [] text with
  | .ok (chars, rest) => .ok (String.ofList chars, rest)
  | .error f => .error f

/-- What follows the closing quote of a literal. -/
def skipString : List Char → Except Failure (List Char)
  | [] => .error ⟨.endInString, 0⟩
  | '"' :: rest => .ok rest
  | ['\\'] => .error ⟨.endInString, 0⟩
  | '\\' :: 'u' :: a :: b :: c :: d :: rest =>
    match hexQuad? a b c d with
    | none => .error (shortQuad (a :: b :: c :: d :: rest))
    | some _ => skipString rest
  | '\\' :: 'u' :: rest => .error (shortQuad rest)
  | '\\' :: c :: rest =>
    match escaped? c with
    | some _ => skipString rest
    | none => .error (.on .badEscape (c :: rest))
  | c :: rest =>
    if c < ' ' then .error (.before .controlCharacter (c :: rest)) else skipString rest

end NbdAttach.Json
