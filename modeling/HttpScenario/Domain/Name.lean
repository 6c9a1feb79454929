import HttpScenario.Domain.Composition
import HttpScenario.Domain.Direction
import HttpScenario.Domain.Joining
import HttpScenario.Domain.Mapping
import HttpScenario.Domain.Mark
import HttpScenario.Domain.Punycode

namespace HttpScenario.Domain

/-! Domain names in ASCII. A label with other characters is written in Punycode behind
a mark. -/

def punycodeMark : List Char := "xn--".toList

/-- The longest label that is written in Punycode, and the longest one that is read. -/
def encodeLimit : Nat := 1000
def decodeLimit : Nat := 2000

structure Label where
  characters : List Char
  written : List Char
deriving DecidableEq

namespace Label

/-- Whether characters are in the form that names are brought into. -/
def isUnified (cs : List Char) : Bool :=
  cs.all (fun c => unify? c == some [c]) && composed cs == cs

/-- The label that is written in Punycode, from behind the mark. It has to need that. -/
def ofPunycode? (cs : List Char) : Option Label := do
  if decodeLimit < cs.length then none
  else
    let characters ← Punycode.decode? cs
    if characters.all Punycode.isBasic || !isUnified characters then none
    else return ⟨characters, punycodeMark ++ cs⟩

def ofUnified? (cs : List Char) : Option Label :=
  match punycodeMark.isPrefixOf? cs with
  | some rest => if rest.all Punycode.isBasic then ofPunycode? rest else none
  | none =>
      if cs.all Punycode.isBasic then some ⟨cs, cs⟩
      else if encodeLimit < cs.length then none
      else some ⟨cs, punycodeMark ++ Punycode.encode cs⟩

def isValid (label : Label) : Bool :=
  !label.characters.head?.any isMark && joinersFit [] label.characters

end Label

/-- Names with letters from right to left have a rule for all of their labels. -/
def directionsFit (labels : List Label) : Bool :=
  let turns := labels.any fun label => label.characters.any fun c => (direction c).turns
  !turns || labels.all fun label => keepsDirection label.characters

/-- Whether a name is in ASCII already and no label of it is written in Punycode. -/
def isPlain (name : List Char) : Bool :=
  name.all Punycode.isBasic && (name.splitOn '.').all (!punycodeMark.isPrefixOf ·)

def unified? (name : List Char) : Option (List Char) :=
  (name.mapM unify?).map fun parts => composed parts.flatten

def writeUnified? (unified : List Char) : Option (List Char) := do
  let labels ← (unified.splitOn '.').mapM Label.ofUnified?
  if labels.all Label.isValid && directionsFit labels then
    return ['.'].intercalate (labels.map (·.written))
  else none

/-- The ASCII form of a domain name without forbidden characters. Nothing but the
letter case of a plain name changes. -/
def toAscii? (forbidden : Char → Bool) (name : List Char) : Option (List Char) := do
  let lower := name.map Char.toLower
  if isPlain lower then
    if lower.any forbidden then none else return lower
  else
    let unified ← unified? name
    if unified.any forbidden then none else writeUnified? unified

end HttpScenario.Domain
