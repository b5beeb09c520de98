import NbdAttach.Text.Cut

/-!
# Tokens of the flag run

A command line starts with its flag run: the longest run of tokens that begin with a dash and are
not the terminator `--`. Each token of the run is read by itself, without the flag table.

* `flagRun` and `operands` divide the command line.
* `Token.read` reads one token of the run. Tokens that begin with `--nbd` never reach the plugin:
  they are the marker `--nbd`, an extra flag for the server or an extra parameter, and anything
  else that begins so is wrong whatever the table says.
-/

namespace NbdAttach

open Text

/-- The token that ends the flag run and is dropped. -/
def terminator : String := "--"

/-- Does the token begin with a dash? -/
def isDashed (token : String) : Bool :=
  token.toList.head? == some '-'

/-- Can the token stand in the flag run? -/
def inFlagRun (token : String) : Bool :=
  isDashed token && token != terminator

/-- The flags at the start of a command line. -/
def flagRun (args : List String) : List String :=
  args.takeWhile inFlagRun

/-- The operands: what follows the flag run, without the terminator that may end it. -/
def operands (args : List String) : List String :=
  match args.dropWhile inFlagRun with
  | [] => []
  | token :: rest => if token = terminator then rest else token :: rest

/-- A token of the flag run, read without the flag table. -/
inductive Token
  /-- `--nbd`, which says nothing new. -/
  | marker
  /-- `--nbd-flag=value`: one more flag for the server. -/
  | serverFlag (value : String)
  /-- `--nbd-param=value`: one more parameter behind those of the plugin. -/
  | extraParam (value : String)
  /-- Another token that begins with `--nbd`. -/
  | badExtra
  /-- `-f`. -/
  | foreground
  /-- `-d`. -/
  | debug
  /-- `--name` or `--name=value`. -/
  | named (name : String) (value? : Option String)
  /-- A token with one dash that is neither `-f` nor `-d`. -/
  | badOption
deriving DecidableEq, Repr

namespace Token

/-- Reads a token that begins with `--nbd`, given what follows these letters. -/
def readExtra (rest : List Char) : Token :=
  match rest with
  | [] => .marker
  | _ =>
    match cutAt '=' rest with
    | (name, some value) =>
      if name = "-flag".toList then .serverFlag (String.ofList value)
      else if name = "-param".toList then .extraParam (String.ofList value)
      else .badExtra
    | (_, none) => .badExtra

/-- Reads one token of the flag run. -/
def read (token : String) : Token :=
  match token.toList with
  | '-' :: '-' :: body =>
    match body with
    | 'n' :: 'b' :: 'd' :: rest => readExtra rest
    | _ =>
      let (name, value?) := cutAt '=' body
      .named (String.ofList name) (value?.map String.ofList)
  | ['-', 'f'] => .foreground
  | ['-', 'd'] => .debug
  | _ => .badOption

/-- Does the token belong to the tokens that begin with `--nbd`? -/
def isExtra : Token → Bool
  | .marker | .serverFlag _ | .extraParam _ | .badExtra => true
  | _ => false

def serverFlag? : Token → Option String
  | .serverFlag value => some value
  | _ => none

def extraParam? : Token → Option String
  | .extraParam value => some value
  | _ => none

end Token

end NbdAttach
