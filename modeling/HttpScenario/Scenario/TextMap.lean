import HttpScenario.Failure
import HttpScenario.Json.Writer
import HttpScenario.Table
import HttpScenario.Text.Blank

namespace HttpScenario

def Json.plainText : Json → String
  | .str s => s
  | v => v.compact

/-- Adds the texts of members one after the other, so that the last one wins
where two have the same key. -/
def addTexts (lowerKeys : Bool) (field : String) (texts : Table String) :
    Members Json → Except FormatFault (Table String)
  | [] => .ok texts
  | (name, value) :: rest =>
      let key := if lowerKeys then Text.lower name else name
      if value.isContainer then .error (.notScalar field key)
      else addTexts lowerKeys field (texts.insert key value.plainText) rest

def textMap (name field : String) (lowerKeys : Bool) (members : Members Json) :
    Except Failure (Table String) :=
  (addTexts lowerKeys field ∅ members).mapError (.scenarioFormat name)

end HttpScenario
