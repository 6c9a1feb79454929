import HttpScenario.Domain.Name
import HttpScenario.Url.Address
import HttpScenario.Url.Escape

namespace HttpScenario.Url

def isForbidden (c : Char) : Bool :=
  c == '\x00' || " #/:<>?@[\\]^|".toList.contains c

def isForbiddenInName (c : Char) : Bool :=
  isForbidden c || c.toNat < 0x20 || c.toNat == 0x7F || c == '%'

def readBracketed? (cs : List Char) : Option String := do
  if cs.getLast? = some ']' then
    return "[" ++ writeSixteens (← readSixteens? cs.dropLast) ++ "]"
  else none

/-- Reads a host that is a name or an address. Escapes are resolved before anything
else, and a name is brought into its ASCII form. -/
def readHost? (cs : List Char) : Option String := do
  match cs with
  | '[' :: rest => readBracketed? rest
  | cs =>
      let name ← Domain.toAscii? isForbiddenInName (← unescapeText? cs).toList
      if name.isEmpty then none
      else if endsInNumber name then return writeAddress (← addressValue? (hostParts name))
      else return String.ofList name

def readOpaqueHost? (cs : List Char) : Option String :=
  match cs with
  | '[' :: rest => readBracketed? rest
  | cs => if cs.any isForbidden then none else some (String.ofList (escape isControl cs))

def isSendableHost (host : String) : Bool :=
  !host.toList.any "\"\x7b\x7d`".toList.contains

end HttpScenario.Url
