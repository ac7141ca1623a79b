import SqlSession.Number.Numeral
import SqlSession.Text.Search

/-! # Words and options

The words of a command line, and what a command line may hold: options with or without a value, some of
which may come from an environment variable instead, positional words, and the names of subcommands.
Names are matched whole and in their case.
-/

namespace SqlSession.CommandLine

/-! ### Words -/

/-- What a word of a command line looks like. -/
inductive Word where
  | plain (text : String)
  /-- Two dashes: every word after them is plain. -/
  | separator
  /-- Two dashes, a name, and a value where an equals sign follows the name. -/
  | long (name : String) (value : Option String)
  /-- A dash and at least one letter. -/
  | short (letters : List Char)
deriving DecidableEq, Repr

namespace Word

/-- The look of a word.  A single dash is plain. -/
def ofString (s : String) : Word :=
  match s.toList with
  | ['-', '-'] => separator
  | '-' :: '-' :: rest =>
    match Text.cutAt '=' rest with
    | some (name, value) => long (String.ofList name) (some (String.ofList value))
    | none => long (String.ofList rest) none
  | '-' :: c :: rest => short (c :: rest)
  | _ => plain s

end Word

/-! ### Values -/

/-- The value of an option. -/
inductive Datum where
  | text (s : String)
  | number (n : Nat)
  | truth (b : Bool)
deriving DecidableEq, Repr

/-- What is wrong with a command line, or what it asks for in place of a run. -/
inductive Fault where
  | help
  /-- Nothing at all was given. -/
  | helpForNothing
  | version
  | noCommand
  | unknownCommand
  | unknownArgument
  /-- An option stands twice that may stand once. -/
  | repeated
  /-- A value was attached to an option that takes none. -/
  | unwantedValue
  /-- An option stands without the value that it takes. -/
  | missingValue
  /-- A value is not among the few that are possible. -/
  | impossibleValue
  | badNumber
  | missingArgument
deriving DecidableEq, Repr

/-- The kind of value that an option takes. -/
inductive ValueKind where
  | text
  /-- A whole number of 32 bits; a minus sign before zero is allowed. -/
  | word32
  /-- A whole number of 64 bits. -/
  | word64
  | truth
deriving DecidableEq, Repr

namespace ValueKind

/-- The value that a text is. -/
def read : ValueKind → String → Except Fault Datum
  | text, s => .ok (.text s)
  | word32, s =>
    match Number.int? s.toList with
    | some i => if Number.fitsUnsigned 32 i then .ok (.number i.toNat) else .error .badNumber
    | none => .error .badNumber
  | word64, s =>
    match Number.unsigned? s.toList with
    | some n => if n < Nat.pow 2 64 then .ok (.number n) else .error .badNumber
    | none => .error .badNumber
  | truth, s =>
    if s = "true" then .ok (.truth true)
    else if s = "false" then .ok (.truth false)
    else .error .impossibleValue

end ValueKind

/-! ### Options -/

/-- What an option does when it stands on a command line. -/
inductive Effect where
  /-- It takes one value, and stands at most once. -/
  | single
  /-- It takes one value each time it stands. -/
  | many
  /-- It stands at most once, without a value. -/
  | flag
  | help
  | version
deriving DecidableEq, Repr

namespace Effect

/-- Whether an option takes a value. -/
def takesValue : Effect → Bool
  | single | many => true
  | _ => false

end Effect

/-- An option of a command line. -/
structure Switch where
  /-- The name after two dashes. -/
  name : String
  /-- The letter after one dash. -/
  letter : Option Char := none
  effect : Effect := .single
  kind : ValueKind := .text
  /-- The environment variable that gives the value where the command line does not. -/
  source? : Option String := none
deriving DecidableEq, Repr

/-- What a command line may hold. -/
structure Grammar where
  options : List Switch
  /-- The positional words, all of which must be there. -/
  positionals : List String := []
  /-- The names of the subcommands. -/
  commands : List String := []
deriving DecidableEq, Repr

namespace Grammar

/-- The option of a name. -/
def long? (g : Grammar) (name : String) : Option Switch := g.options.find? (·.name == name)

/-- The option of a letter. -/
def short? (g : Grammar) (letter : Char) : Option Switch := g.options.find? (·.letter == some letter)

end Grammar

end SqlSession.CommandLine
