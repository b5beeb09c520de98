import NbdAttach.Log.Limit
import NbdAttach.Text.CharClass
import NbdAttach.Text.Cut
import NbdAttach.Text.Pattern

/-!
# Log directives

A directive sets a limit for the notices that it is about:

* `debug` is about every notice;
* `name=debug` is about the notices whose origin has a name that begins so;
* `name[{field}]=debug` is about those of them that have a field, and every notice has the field
  `message`;
* `name[span]=debug` is about what is told within a span of work, and no notice is.

Without a word for the limit everything is shown. `LogDirective.read?` reads a directive, and
`LogDirective.concerns` says which notices it is about.
-/

namespace NbdAttach

open Text

/-- What a directive asks of a notice, apart from its origin. -/
inductive LogCondition
  /-- Nothing. -/
  | always
  /-- It has a field of this name. -/
  | hasField (name : List Char)
  /-- It is told within a span of work. A field with a certain value is looked for there as well. -/
  | withinSpan
deriving DecidableEq, Repr

namespace LogCondition

/-- Does every notice meet the condition? If not, none does. -/
def holds : LogCondition → Bool
  | .always => true
  | .hasField name => name = "message".toList
  | .withinSpan => false

/-- The number of fields that are asked for. -/
def fieldCount : LogCondition → Nat
  | .hasField _ => 1
  | _ => 0

/-- Is the text an exponent, or empty? -/
def isExponent (text : List Char) : Bool :=
  match text with
  | [] => true
  | e :: rest =>
    let digits := if rest.head? = some '+' ∨ rest.head? = some '-' then rest.drop 1 else rest
    e.toLower = 'e' && digits ≠ [] && digits.all Char.isDigit

/-- Is the text a decimal number without a sign, or a word for what has no end or is no number? -/
def isMagnitude (text : List Char) : Bool :=
  let whole := text.takeWhile Char.isDigit
  let behindWhole := text.drop whole.length
  let behindPoint := if behindWhole.head? = some '.' then behindWhole.drop 1 else behindWhole
  let fraction := behindPoint.takeWhile Char.isDigit
  String.ofList (text.map Char.toLower) ∈ ["inf", "infinity", "nan"] ||
    (whole ++ fraction ≠ [] && isExponent (behindPoint.drop fraction.length))

/-- Can the text be asked for as the value of a field? It is a pattern or a number. Only a number
begins with a plus sign, and all the others are patterns as well. -/
def isValue (text : List Char) : Bool :=
  match text with
  | '+' :: magnitude => isMagnitude magnitude
  | _ => Pattern.isPattern text

/-- Reads what stands between braces: the name of a field, or a name and a value. -/
def ofField? (text : List Char) : Option LogCondition :=
  if text = [] then none
  else
    match cutAt '=' text with
    | (name, none) => some (.hasField name)
    | (_, some value) => if isValue (cutAt '=' value).1 then some .withinSpan else none

/-- Reads what follows an opening bracket: the condition, and what stands behind the closing
bracket. -/
def read? (text : List Char) : Option (LogCondition × List Char) :=
  let span := text.takeWhile fun c => c ≠ ']' && c ≠ '\x7b'
  match text.drop span.length with
  | ']' :: rest => some (.withinSpan, rest)
  | '\x7b' :: rest =>
    match cutAt '\x7d' rest with
    | (field, some (']' :: rest)) =>
      (ofField? field).map fun condition => (if span = [] then condition else .withinSpan, rest)
    | _ => none
  | _ => none

end LogCondition

/-- One directive of a filter. -/
structure LogDirective where
  /-- How the name of the origin begins. -/
  source : List Char := []
  condition : LogCondition := .always
  limit : LogLimit
deriving DecidableEq, Repr

namespace LogDirective

/-- Is the directive about a notice? -/
def concerns (d : LogDirective) (n : Notice) : Bool :=
  d.source.isPrefixOf n.origin.name.toList && d.condition.holds

/-- Does the directive say at least as much about its notices as another one? A longer name says
more, and of two equally long ones that with a field. -/
def isAsSpecificAs (d other : LogDirective) : Bool :=
  other.source.length < d.source.length ||
    (other.source.length = d.source.length && other.condition.fieldCount ≤ d.condition.fieldCount)

/-! ### Reading -/

/-- May a name begin with the character? -/
def startsName (c : Char) : Bool :=
  c = '-' || c = ':' || c = '_' || isAlphanumeric c

/-- Reads the name, the condition, and what stands behind an equals sign. Blanks at the end count
as part of the name or of the word; behind a bracket they do not count. -/
def parts? (text : List Char) : Option (List Char × LogCondition × Option (List Char)) :=
  match text with
  | [] => none
  | c :: _ =>
    if c ≠ '[' ∧ !startsName c then none
    else
      let name := text.takeWhile fun c => c ≠ '=' && c ≠ '['
      match text.drop name.length with
      | '=' :: word => some (name, .always, some word)
      | '[' :: rest =>
        match LogCondition.read? rest with
        | none => none
        | some (condition, '=' :: word) => some (name, condition, some word)
        | some (condition, rest) =>
          if rest.all isBlank then some (name, condition, none) else none
      | _ => some (name, .always, none)

/-- Reads a directive. Blanks in front of it count as part of its name, so it is about no notice
then, and no limit can be read behind them. -/
def read? (text : List Char) : Option LogDirective :=
  let blanks := text.takeWhile isBlank
  match parts? (text.drop blanks.length) with
  | none => none
  | some (name, condition, some word) =>
    if blanks ≠ [] then none
    else if word = [] then some ⟨name, condition, .everything⟩
    else (LogLimit.ofWord? word).map fun limit => ⟨name, condition, limit⟩
  | some (name, .always, none) =>
    match LogLimit.ofWord? (blanks ++ name) with
    | some limit => some { limit }
    | none => some { source := blanks ++ name, limit := .everything }
  | some (name, condition, none) => some ⟨blanks ++ name, condition, .everything⟩

end LogDirective

end NbdAttach
