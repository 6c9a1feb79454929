import HttpScenario.Binary64.Basic
import HttpScenario.Json.Members

namespace HttpScenario

inductive Number where
  | int (value : Int)
  | float (value : Binary64)
deriving DecidableEq

/-- Integers and floats are never equal to one another. -/
def Number.same : Number → Number → Bool
  | .int a, .int b => a == b
  | .float a, .float b => a.same b
  | _, _ => false

/-- A JSON document. The members of an object stand in the order in which they
were added. -/
inductive Json where
  | null
  | bool (value : Bool)
  | num (value : Number)
  | str (value : String)
  | arr (items : List Json)
  | obj (members : List (String × Json))

namespace Json

instance : Inhabited Json := ⟨.null⟩

def ofNat (n : Nat) : Json := .num (.int n)

mutual

def same : Json → Json → Bool
  | .null, .null => true
  | .bool a, .bool b => a == b
  | .num a, .num b => a.same b
  | .str a, .str b => a == b
  | .arr items, .arr others => sameItems items others
  | .obj members, .obj others =>
      members.length == others.length && sameMembers members others
  | _, _ => false

def sameItems : List Json → List Json → Bool
  | [], [] => true
  | item :: items, other :: others => item.same other && sameItems items others
  | _, _ => false

def sameMembers : List (String × Json) → List (String × Json) → Bool
  | [], _ => true
  | (name, value) :: rest, others =>
      (match Members.find? name others with
        | some other => value.same other
        | none => false) && sameMembers rest others

end

mutual

def depth : Json → Nat
  | .arr items => depthItems items + 1
  | .obj members => depthMembers members + 1
  | _ => 0

def depthItems : List Json → Nat
  | [] => 0
  | item :: items => max item.depth (depthItems items)

def depthMembers : List (String × Json) → Nat
  | [] => 0
  | (_, value) :: rest => max value.depth (depthMembers rest)

end

def isArray : Json → Bool
  | .arr _ => true
  | _ => false

def isObject : Json → Bool
  | .obj _ => true
  | _ => false

def isContainer (v : Json) : Bool := v.isArray || v.isObject

def member? (name : String) : Json → Option Json
  | .obj members => Members.find? name members
  | _ => none

def item? (i : Nat) : Json → Option Json
  | .arr items => items[i]?
  | _ => none

end Json

end HttpScenario
