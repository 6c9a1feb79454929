import HttpScenario.Json.Path
import HttpScenario.Json.Value

namespace HttpScenario

/-! Reading, setting and removing what a path addresses. The steps before the
last one never create anything: where they lead nowhere, nothing is addressed. -/

namespace Json

def step? (v : Json) : Step → Option Json
  | .key name => v.member? name
  | .index i => v.item? i

def descend? (v : Json) : List Step → Option Json
  | [] => some v
  | step :: steps => (v.step? step).bind (descend? · steps)

def replaceStep (v : Json) (step : Step) (child : Json) : Json :=
  match v, step with
  | .obj members, .key name => .obj (Members.put name child members)
  | .arr items, .index i => .arr (items.set i child)
  | v, _ => v

/-- A copy of a document in which places may have been changed, and how many were. -/
structure Copy where
  document : Json
  touched : Nat

/-- Changes the document that steps lead to. Nothing is touched where they lead nowhere. -/
def changeAt (change : Json → Copy) (v : Json) : List Step → Copy
  | [] => change v
  | step :: steps =>
      match v.step? step with
      | none => ⟨v, 0⟩
      | some child =>
          let changed := child.changeAt change steps
          ⟨v.replaceStep step changed.document, changed.touched⟩

end Json

namespace Target

def collect? (step : Step) : Json → Option Json
  | .arr items =>
      let found := items.filterMap (·.step? step)
      if found.isEmpty then none else some (.arr found)
  | _ => none

/-- What a target addresses in the document reached. A wildcard collects what it
finds in the elements. -/
def select? (v : Json) : Target → Option Json
  | .key name => v.member? name
  | .index i => v.item? i
  | .eachKey name => collect? (.key name) v
  | .eachIndex i => collect? (.index i) v

/-- Sets one place: the member of an object, there before or not, or an element
that is there. -/
def assignOne (x : Json) (v : Json) (step : Step) : Json.Copy :=
  match v, step with
  | .obj members, .key name => ⟨.obj (Members.put name x members), 1⟩
  | .arr items, .index i => if i < items.length then ⟨.arr (items.set i x), 1⟩ else ⟨v, 0⟩
  | _, _ => ⟨v, 0⟩

def deleteOne (v : Json) (step : Step) : Json.Copy :=
  match v, step with
  | .obj members, .key name =>
      ⟨.obj (Members.erase name members), if (Members.find? name members).isSome then 1 else 0⟩
  | .arr items, .index i => if i < items.length then ⟨.arr (items.eraseIdx i), 1⟩ else ⟨v, 0⟩
  | _, _ => ⟨v, 0⟩

def touchedIn : List Json.Copy → Nat
  | [] => 0
  | copy :: copies => copy.touched + touchedIn copies

def changeEach (change : Json → Json.Copy) (v : Json) : Json.Copy :=
  match v with
  | .arr items =>
      let copies := items.map change
      ⟨.arr (copies.map Json.Copy.document), touchedIn copies⟩
  | _ => ⟨v, 0⟩

def change (one : Json → Step → Json.Copy) (v : Json) : Target → Json.Copy
  | .key name => one v (.key name)
  | .index i => one v (.index i)
  | .eachKey name => changeEach (one · (.key name)) v
  | .eachIndex i => changeEach (one · (.index i)) v

end Target

inductive Unmatched where
  | skip
  | raise
deriving DecidableEq

namespace Json

def get? (v : Json) (path : Path) : Option Json :=
  (v.descend? path.parents).bind path.target.select?

def assign (v : Json) (path : Path) (x : Json) : Copy :=
  v.changeAt (path.target.change (Target.assignOne x)) path.parents

def delete (v : Json) (path : Path) : Copy :=
  v.changeAt (path.target.change Target.deleteOne) path.parents

end Json

/-- The outcome of a change under a policy: the copy, or a report of the path when no
place was touched. -/
def Unmatched.settle (policy : Unmatched) (path : Path) (copy : Json.Copy) :
    Except PathError Json :=
  if copy.touched = 0 ∧ policy = .raise then .error (.unmatched path.text)
  else .ok copy.document

namespace Json

def update (v : Json) (path : Path) (x : Json) (policy : Unmatched) : Except PathError Json :=
  policy.settle path (v.assign path x)

def remove (v : Json) (path : Path) (policy : Unmatched) : Except PathError Json :=
  policy.settle path (v.delete path)

def getAt (v : Json) (path : String) : Except PathError (Option Json) := do
  let path ← Path.parse path
  return v.get? path

def updateAt (v : Json) (path : String) (x : Json) (policy : Unmatched) :
    Except PathError Json := do
  let path ← Path.parse path
  v.update path x policy

def removeAt (v : Json) (path : String) (policy : Unmatched) : Except PathError Json := do
  let path ← Path.parse path
  v.remove path policy

end Json

end HttpScenario
