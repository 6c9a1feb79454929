import HttpScenario.Scenario.TextMap
import HttpScenario.Text.Replace

namespace HttpScenario.Placeholder

def tight (name : List Char) : List Char := '{' :: '{' :: name ++ ['}', '}']

def spaced (name : List Char) : List Char := tight (' ' :: name ++ [' '])

/-- Puts a value in the place of a variable, written with blanks around its name
or without. -/
def fillVariable (text : List Char) (name : String) (value : Json) : List Char :=
  let new := value.plainText.toList
  Text.replaceAll (spaced name.toList) new (Text.replaceAll (tight name.toList) new text)

/-- Fills the placeholders of a body, variable after variable in the order of
their names. Placeholders of other variables stay. -/
def fillBody (values : Table Json) (text : String) : String :=
  String.ofList <| values.entries.foldl
    (fun text entry => fillVariable text entry.1 entry.2) text.toList

/-- Fills the placeholders of a URL from left to right. What has no value stays,
and values are not looked at again. -/
def fillUrlCharacters (parameters : Table String) (url : List Char) : List Char :=
  match _hopen : url.dropWhile (· != '{') with
  | [] => url
  | _ :: afterOpen =>
      match _hclose : afterOpen.dropWhile (· != '}') with
      | [] => url
      | _ :: rest =>
          let name := afterOpen.takeWhile (· != '}')
          let value :=
            match parameters.find? (String.ofList name) with
            | some value => value.toList
            | none => '{' :: name ++ ['}']
          url.takeWhile (· != '{') ++ value ++ fillUrlCharacters parameters rest
termination_by url.length
decreasing_by
  have open_le := (List.dropWhile_suffix (l := url) (· != '{')).length_le
  have rest_le := (List.dropWhile_suffix (l := afterOpen) (· != '}')).length_le
  rw [_hopen] at open_le
  rw [_hclose] at rest_le
  simp only [List.length_cons] at open_le rest_le
  omega

def fillUrl (parameters : Table String) (url : String) : String :=
  String.ofList (fillUrlCharacters parameters url.toList)

end HttpScenario.Placeholder
