import SqlSession.Journal
import SqlSession.Number.Numeral
import SqlSession.Text.Alphanumeric
import SqlSession.Text.Blank
import SqlSession.Text.Fold
import SqlSession.Text.Search
import SqlSession.Text.Utf8

/-! # Log filters

Which records a log shows.  A filter is a list of directives with commas between them: a level for
everything, a target with a level, or a target alone, which shows everything of it.  A directive may
also name a span in brackets, and in braces a field.  Of the directives that are about a record, the
one with the longest target decides, then the one that names a field, then the last of several.

White space around a directive does not count when its parts are found, but they are cut from the text
with the white space, so that leading white space moves every part.  Where such a cut would part a
character, there is no filter at all.
-/

namespace SqlSession

/-- What a directive asks of the fields of a record. -/
structure FieldDemand where
  /-- The name of the field. -/
  name : List Char
  /-- Whether a value is asked for, which only spans can give. -/
  valued : Bool
deriving DecidableEq, Repr

/-- One directive of a filter: how verbose the records that it is about may be. -/
structure Directive where
  /-- What the targets of the records begin with. -/
  target : Option (List Char)
  /-- The name of the span that the records are in. -/
  span : Option (List Char)
  field : Option FieldDemand
  verbosity : Nat
deriving DecidableEq, Repr

namespace Directive

/-- Why a text is no directive. -/
inductive Fault where
  | malformed
  /-- A part would begin or end inside of a character. -/
  | partedCharacter
deriving DecidableEq, Repr

/-- The verbosity that shows every level. -/
def everything : Nat := Level.trace.verbosity

/-- The verbosity that a text names: a level or `off` in any case, or a number up to five. -/
def verbosity? (s : List Char) : Option Nat :=
  match Number.unsigned? s with
  | some n => if n ≤ everything then some n else none
  | none =>
    let name := Text.lowerAscii (String.ofList s)
    if name = "off" then some 0
    else ([Level.error, .warn, .info, .debug, .trace].find? fun l =>
      Text.lowerAscii l.name == name).map Level.verbosity

/-! ### Reading -/

/-- Whether a directive may start with a character, other than a bracket. -/
def mayStart (c : Char) : Bool := Text.isAlphanumeric c || c == '-' || c == ':' || c == '_'

/-- What a text holds from an octet on. -/
def after (s : List Char) (start : Nat) : Except Fault (List Char) :=
  match Text.dropOctets? start s with
  | some r => .ok r
  | none => .error .partedCharacter

/-- What a text holds from one octet up to another. -/
def between (s : List Char) (start stop : Nat) : Except Fault (List Char) := do
  match Text.takeOctets? (stop - start) (← after s start) with
  | some r => .ok r
  | none => .error .partedCharacter

/-- The verbosity that a text names from an octet on; without a name everything is shown. -/
def level (s : List Char) (start : Nat) : Except Fault Nat := do
  let name ← after s start
  if name.isEmpty then return everything
  else
    match verbosity? name with
    | some v => return v
    | none => .error .malformed

/-- The verbosity after a closing bracket: `rest` starts at the octet `start` of the text. -/
def levelAfterBracket (s : List Char) (start : Nat) (rest : List Char) : Except Fault Nat :=
  match rest with
  | [] => .ok everything
  | '=' :: _ => level s (start + 1)
  | _ => .error .malformed

/-- Whether a character ends the name of a span: a closing bracket or an opening brace. -/
def endsSpan (c : Char) : Bool := c == ']' || c == '\x7b'

/-- The field of a directive. -/
def demand (field : List Char) : FieldDemand := ⟨field.takeWhile (· != '='), field.contains '='⟩

/-- The directive whose opening bracket stands before the octet `start`, where `rest` starts. -/
def bracketed (s : List Char) (target : Option (List Char)) (start : Nat) (rest : List Char) :
    Except Fault Directive :=
  let stop := start + Text.octets (rest.takeWhile fun c => !endsSpan c)
  match rest.dropWhile fun c => !endsSpan c with
  | [] => .error .malformed
  | ']' :: rest => do
    let span ← between s start stop
    return ⟨target, some span, none, ← levelAfterBracket s (stop + 1) rest⟩
  | _ :: rest => do
    let span ← between s start stop
    let fieldStop := stop + 1 + Text.octets (rest.takeWhile (· != '\x7d'))
    match rest.dropWhile (· != '\x7d') with
    | [] => .error .malformed
    | _ :: rest =>
      let field ← between s (stop + 1) fieldStop
      if field.isEmpty then .error .malformed
      else
        match rest with
        | ']' :: rest =>
          let v ← levelAfterBracket s (fieldStop + 2) rest
          return ⟨target, if span.isEmpty then none else some span, some (demand field), v⟩
        | _ => .error .malformed

/-- The directive of a text. -/
def ofText (s : List Char) : Except Fault Directive :=
  match Text.trim s with
  | [] => .error .malformed
  | '[' :: rest => bracketed s none 1 rest
  | c :: rest =>
    if !mayStart c then .error .malformed
    else
      let isMark (c : Char) : Bool := c == '=' || c == '['
      let stop := Text.octets ((c :: rest).takeWhile fun c => !isMark c)
      match (c :: rest).dropWhile fun c => !isMark c with
      | [] =>
        .ok (match verbosity? s with
          | some v => ⟨none, none, none, v⟩
          | none => ⟨some s, none, none, everything⟩)
      | '=' :: _ => do
        let target ← between s 0 stop
        return ⟨some target, none, none, ← level s (stop + 1)⟩
      | _ :: rest => do
        let target ← between s 0 stop
        bracketed s (some target) (stop + 1) rest

/-! ### Deciding -/

/-- Whether a directive may be about records outside of any span. -/
def isFree (d : Directive) : Bool := d.span.isNone && !d.field.any FieldDemand.valued

/-- Whether a record has a field. -/
def hasField (r : LogRecord) (name : List Char) : Bool :=
  name == "message".toList || r.fields.any fun (n, _) => n.toList == name

/-- Whether a directive is about a record. -/
def concerns (d : Directive) (r : LogRecord) : Bool :=
  d.isFree && d.target.all (·.isPrefixOf r.target.toList) && d.field.all fun f => hasField r f.name

/-- How particular a directive is about targets. -/
def particularity (d : Directive) : Nat := (d.target.map fun t => t.length + 1).getD 0

/-- The name of the field of a directive, empty if there is none. -/
def fieldName (d : Directive) : String := String.ofList ((d.field.map FieldDemand.name).getD [])

/-- Whether a directive goes before another one that stands before it in the filter. -/
def overrides (d earlier : Directive) : Bool :=
  earlier.particularity < d.particularity ||
    (earlier.particularity == d.particularity && !(d.fieldName < earlier.fieldName))

end Directive

/-- The directives of a filter, at least one. -/
structure LogFilter where
  directives : List Directive
deriving DecidableEq, Repr

namespace LogFilter

/-- The filter that shows errors. -/
def errorsOnly : LogFilter := ⟨[⟨none, none, none, Level.error.verbosity⟩]⟩

/-- The filter of a text, if none of its directives parts a character.  What is no directive is passed
over, and without directives errors are shown. -/
def ofString? (s : String) : Option LogFilter :=
  let readings := (Text.pieces ',' s.toList).map Directive.ofText
  if readings.any fun
    | .error .partedCharacter => true
    | _ => false
  then none
  else
    match readings.filterMap Except.toOption with
    | [] => some errorsOnly
    | ds => some ⟨ds⟩

/-- The directive that decides on a record. -/
def deciding? (f : LogFilter) (r : LogRecord) : Option Directive :=
  (f.directives.filter (·.concerns r)).foldl (fun best d =>
    if best.all d.overrides then some d else best) none

/-- Whether a record is shown. -/
def shows (f : LogFilter) (r : LogRecord) : Bool :=
  (f.deciding? r).any fun d => r.level.verbosity ≤ d.verbosity

end LogFilter

end SqlSession
