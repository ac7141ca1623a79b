import SqlSession.CommandLine.Grammar

/-! # Reading a command line

Words are read from the left.  An option that takes a value waits for the next word, unless the value is
attached to it; the value is looked at when the next option or positional word comes, or at the end.
That is why a word that cannot be there is found before a value that cannot be read.
-/

namespace SqlSession.CommandLine

/-- What has been read of a command line. -/
structure Reading where
  /-- The values read, in order. -/
  values : List (String × Datum)
  /-- The option that came last, with its value once that has come. -/
  pending : Option (Switch × Option String)
  positionals : List String
  /-- Whether every further word is plain. -/
  literal : Bool
deriving Repr

namespace Reading

/-- Nothing read. -/
def start : Reading := ⟨[], none, [], false⟩

/-- Whether an option has a value. -/
def has (r : Reading) (name : String) : Bool := r.values.any (·.1 == name)

/-- The value of an option, the first of several. -/
def value? (r : Reading) (name : String) : Option Datum := (r.values.find? (·.1 == name)).map Prod.snd

/-- All values of an option. -/
def allValues (r : Reading) (name : String) : List Datum :=
  (r.values.filter (·.1 == name)).map Prod.snd

/-- Whether an option waits for its value. -/
def isWaiting (r : Reading) : Bool := r.pending.any fun (_, v) => v.isNone

/-- Gives an option a value. -/
def take (r : Reading) (o : Switch) (value : String) : Except Fault Reading :=
  if o.effect != .many && r.has o.name then .error .repeated
  else do
    let d ← o.kind.read value
    return { r with values := r.values ++ [(o.name, d)] }

/-- Looks at the value of the option that came last. -/
def settle (r : Reading) : Except Fault Reading :=
  match r.pending with
  | none => .ok r
  | some (_, none) => .error .missingValue
  | some (o, some v) => { r with pending := none }.take o v

/-- An option without a value has come. -/
def mark (r : Reading) (o : Switch) : Except Fault Reading := do
  let r ← r.settle
  match o.effect with
  | .help => .error .help
  | .version => .error .version
  | _ => r.take o "true"

/-- An option has come that takes a value, with the value if it is attached. -/
def await (r : Reading) (o : Switch) (value : Option String) : Except Fault Reading := do
  let r ← r.settle
  match value with
  | none => return { r with pending := some (o, none) }
  | some v => r.take o v

/-- Letters after a dash: flags, up to one that takes the rest as its value, with or without an equals
sign before it. -/
def letters (r : Reading) (g : Grammar) : List Char → Except Fault Reading
  | [] => .ok r
  | c :: rest =>
    match g.short? c with
    | none => .error .unknownArgument
    | some o =>
      if o.effect.takesValue then
        match rest with
        | [] => r.await o none
        | '=' :: v => r.await o (some (String.ofList v))
        | v => r.await o (some (String.ofList v))
      else do
        let r ← r.mark o
        r.letters g rest

/-- A positional word has come. -/
def positional (r : Reading) (g : Grammar) (s : String) : Except Fault Reading :=
  if r.positionals.length < g.positionals.length then do
    let r ← r.settle
    return { r with positionals := r.positionals ++ [s] }
  else if g.commands.isEmpty || (r.literal && g.commands.contains s) then .error .unknownArgument
  else .error .unknownCommand

/-- The next word has come. -/
def word (r : Reading) (g : Grammar) (s : String) : Except Fault Reading :=
  if r.literal then r.positional g s
  else
    match Word.ofString s with
    | .separator => .ok { r with literal := true }
    | .long name value =>
      match g.long? name with
      | none => .error .unknownArgument
      | some o =>
        if o.effect.takesValue then r.await o value
        else if value.isSome then .error .unwantedValue
        else r.mark o
    | .short cs => r.letters g cs
    | .plain s =>
      match r.pending with
      | some (o, none) => .ok { r with pending := some (o, some s) }
      | _ => r.positional g s

/-- Reads words up to the name of a subcommand, which is given with the words after it. -/
def words (r : Reading) (g : Grammar) :
    List String → Except Fault (Reading × Option (String × List String))
  | [] => .ok (r, none)
  | s :: rest =>
    if !r.literal && !r.isWaiting && g.commands.contains s then .ok (r, some (s, rest))
    else do
      let r ← r.word g s
      r.words g rest

/-- Gives every option that has no value that of its environment variable. -/
def fill (environment : List (String × String)) (r : Reading) : List Switch → Except Fault Reading
  | [] => .ok r
  | o :: rest =>
    match o.source?.bind (environment.lookup ·) with
    | some v =>
      if r.has o.name then r.fill environment rest
      else do
        let r ← r.take o v
        r.fill environment rest
    | none => r.fill environment rest

/-- Whether all positional words are there. -/
def complete (r : Reading) (g : Grammar) : Except Fault Unit :=
  if r.positionals.length < g.positionals.length then .error .missingArgument else .ok ()

/-! ### Typed values -/

/-- The text of an option. -/
def text? (r : Reading) (name : String) : Option String :=
  match r.value? name with
  | some (.text s) => some s
  | _ => none

/-- The number of an option, or a default. -/
def number (r : Reading) (name : String) (otherwise : Nat) : Nat :=
  match r.value? name with
  | some (.number n) => n
  | _ => otherwise

/-- Whether a flag is set. -/
def isSet (r : Reading) (name : String) : Bool := r.value? name == some (.truth true)

/-- All texts of an option. -/
def texts (r : Reading) (name : String) : List String :=
  (r.allValues name).filterMap fun d => match d with
    | .text s => some s
    | _ => none

end Reading

end SqlSession.CommandLine
