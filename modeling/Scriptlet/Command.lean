/-!
# Commands: what the words of a command line ask for

    run [-s | --source] [--emit tokens|ast] INPUT
    help [run]

Words are taken in from the left.  The word after `--emit` is its value unless it looks like an
option; it is checked when the next known word is taken in, so that an unknown word is refused
first.  After `--` every word is an input.
-/

namespace Scriptlet

/-- what is shown of a script instead of running it -/
inductive Emission where
  | tokens
  | ast
deriving DecidableEq

def Emission.ofText? : String → Option Emission
  | "tokens" => some .tokens
  | "ast" => some .ast
  | _ => none

/-- The input is a script if it is `inline`, and otherwise the path of one. -/
structure Command where
  input : String
  inline : Bool
  emit : Option Emission
deriving DecidableEq

inductive Refusal where
  | help
  | version
  | nothingAsked
  | unknownCommand
  | unknownArgument
  | missingInput
  | invalidValue
  /-- An option that takes no value is given one. -/
  | valueNotTaken
  /-- An option stands there twice. -/
  | repeated
deriving DecidableEq

/-- Help and version are answers, all else is misuse. -/
def Refusal.exitCode : Refusal → Nat
  | .help | .version => 0
  | _ => 2

namespace Command

/-! ### words -/

inductive Word where
  /-- The word `--` ends the options. -/
  | escape
  | long (name : List Char) (value : Option (List Char))
  | short (flags : List Char)
  | plain
deriving DecidableEq

/-- A single `-` is a word like any other. -/
def Word.ofChars : List Char → Word
  | ['-', '-'] => .escape
  | '-' :: '-' :: cs =>
    let name := cs.takeWhile (· != '=')
    match cs.dropWhile (· != '=') with
    | [] => .long name none
    | _ :: value => .long name (some value)
  | ['-'] => .plain
  | '-' :: flags => .short flags
  | _ => .plain

/-! ### the words after `run` -/

/-- What the words so far have given.  `pending` is there while an `--emit` waits to be checked,
with the word after it once there is one. -/
structure Draft where
  input : Option String
  inline : Bool
  emit : Option Emission
  pending : Option (Option String)

namespace Draft

def empty : Draft := ⟨none, false, none, none⟩

def setEmit (d : Draft) (value : String) : Except Refusal Draft :=
  if d.emit.isSome then .error .repeated
  else
    match Emission.ofText? value with
    | none => .error .invalidValue
    | some e => .ok { d with emit := some e, pending := none }

def settle (d : Draft) : Except Refusal Draft :=
  match d.pending with
  | none => .ok d
  | some none => .error .invalidValue
  | some (some value) => d.setEmit value

def setInline (d : Draft) : Except Refusal Draft :=
  if d.inline then .error .repeated else .ok { d with inline := true }

/-- There is one input only. -/
def addInput (d : Draft) (w : String) : Except Refusal Draft :=
  if d.input.isSome then .error .unknownArgument
  else
    match d.settle with
    | .error r => .error r
    | .ok d => .ok { d with input := some w }

def addFlags (d : Draft) : List Char → Except Refusal Draft
  | [] => .ok d
  | 's' :: flags =>
    match d.settle with
    | .error r => .error r
    | .ok d =>
      match d.setInline with
      | .error r => .error r
      | .ok d => addFlags d flags
  | 'h' :: _ =>
    match d.settle with
    | .error r => .error r
    | .ok _ => .error .help
  | _ => .error .unknownArgument

def addLong (d : Draft) (name : String) (value : Option String) : Except Refusal Draft :=
  match name, value with
  | "help", none =>
    match d.settle with
    | .error r => .error r
    | .ok _ => .error .help
  | "source", none =>
    match d.settle with
    | .error r => .error r
    | .ok d => d.setInline
  | "emit", none =>
    match d.settle with
    | .error r => .error r
    | .ok d => .ok { d with pending := some none }
  | "emit", some value =>
    match d.settle with
    | .error r => .error r
    | .ok d => d.setEmit value
  | "help", some _ => .error .valueNotTaken
  | "source", some _ => .error .valueNotTaken
  | _, _ => .error .unknownArgument

/-- a word that is no option: the value that `--emit` waits for, or the input -/
def addPlain (d : Draft) (w : String) : Except Refusal Draft :=
  if d.pending = some none then .ok { d with pending := some (some w) } else d.addInput w

def addInputs (d : Draft) : List String → Except Refusal Draft
  | [] => .ok d
  | w :: ws =>
    match d.addInput w with
    | .error r => .error r
    | .ok d => addInputs d ws

def addAll (d : Draft) : List String → Except Refusal Draft
  | [] => .ok d
  | w :: ws =>
    match Word.ofChars w.toList with
    | .escape => d.addInputs ws
    | .long name value =>
      match d.addLong (String.ofList name) (value.map String.ofList) with
      | .error r => .error r
      | .ok d => addAll d ws
    | .short flags =>
      match d.addFlags flags with
      | .error r => .error r
      | .ok d => addAll d ws
    | .plain =>
      match d.addPlain w with
      | .error r => .error r
      | .ok d => addAll d ws

def finish (d : Draft) : Except Refusal Command :=
  match d.settle with
  | .error r => .error r
  | .ok d =>
    match d.input with
    | none => .error .missingInput
    | some input => .ok ⟨input, d.inline, d.emit⟩

end Draft

def ofRunWords (ws : List String) : Except Refusal Command :=
  match Draft.empty.addAll ws with
  | .error r => .error r
  | .ok d => d.finish

/-! ### the first word -/

def isCommandName (w : String) : Bool := w == "run" || w == "help"

def helpFor : List String → Refusal
  | [] => .help
  | [w] => if isCommandName w then .help else .unknownCommand
  | _ => .unknownCommand

def refuseFirst : Word → List String → Refusal
  | .escape, [] => .nothingAsked
  | .escape, w :: _ => if isCommandName w then .unknownArgument else .unknownCommand
  | .long name value, _ =>
    if String.ofList name = "help" then
      if value.isSome then .valueNotTaken else .help
    else if String.ofList name = "version" then
      if value.isSome then .valueNotTaken else .version
    else .unknownArgument
  | .short flags, _ =>
    match flags.head? with
    | some 'h' => .help
    | some 'V' => .version
    | _ => .unknownArgument
  | .plain, _ => .unknownCommand

/-- The command that the words after the program's name ask for. -/
def ofWords : List String → Except Refusal Command
  | [] => .error .nothingAsked
  | w :: ws =>
    if w = "run" then ofRunWords ws
    else if w = "help" then .error (helpFor ws)
    else .error (refuseFirst (Word.ofChars w.toList) ws)

end Command

end Scriptlet
