import SqlSession.Domain.Direction
import SqlSession.Domain.Joiner
import SqlSession.Domain.Mapping
import SqlSession.Domain.Punycode

/-! # Domains in ASCII

The form in which a domain is looked up.  Its characters are mapped and composed, every label that
claims to stand for other letters is read and must be what the mapping would have made of it, and the
labels must be sound.  Then each is written in ASCII.
-/

namespace SqlSession.Domain

/-- The ASCII characters that no domain holds. -/
def isDenied (c : Char) : Bool :=
  c.toNat ≤ 0x20 || c.toNat == 0x7F ||
    ['%', '#', '/', ':', '<', '>', '?', '@', '[', '\\', ']', '^', '|'].contains c

/-- The longest code that is read, and the longest label that is written as one. -/
def codeLimit : Nat := 2000

def labelLimit : Nat := 1000

/-- A text with its characters mapped and composed, if all of them may occur. -/
def mapped? (s : List Char) : Option (List Char) := do
  let images ← s.mapM image?
  let composed := Text.composed images.flatten
  if composed.any isDenied then none else return composed

/-- The letters of a mapped label.  What a code stands for must be unchanged by the mapping. -/
def letters? (label : List Char) : Option (List Char) :=
  match Text.afterPrefix Punycode.lead label with
  | none => some label
  | some code => do
    if codeLimit < code.length || code.getLast?.all (· == '-') then none
    else
      let letters ← Punycode.decode? code
      if mapped? letters == some letters then return letters else none

/-- Whether a label is sound by itself. -/
def isSound (label : List Char) : Bool :=
  label.all Punycode.isAscii || (isWellJoined label && label.length ≤ labelLimit)

/-- A domain in ASCII, if it is sound. -/
def toAscii? (name : List Char) : Option (List Char) := do
  let labels ← (Text.pieces '.' (← mapped? name)).mapM letters?
  if labels.all isSound && isReadable labels then return ['.'].intercalate (labels.map Punycode.encode)
  else none

end SqlSession.Domain
