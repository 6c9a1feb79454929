import HttpScenario.Settings
import HttpScenario.Toml.Reader

namespace HttpScenario

/-! Settings from TOML. Keys that are unknown are passed over, and what is missing
has its default. The settings of a part are a table, or an array that gives
them in their order. -/

namespace Toml

def asText? : Toml → Option String
  | .text s => some s
  | _ => none

def asFlag? : Toml → Option Bool
  | .flag b => some b
  | _ => none

def asNatural? : Toml → Option Nat
  | .integer n => if 0 ≤ n then some n.toNat else none
  | _ => none

def isEmptyContainer : Toml → Bool
  | .array items => items.isEmpty
  | .table _ members => members.isEmpty
  | .tables items => items.isEmpty
  | _ => false

/-- A name: a text, or a table with the name as its only key and nothing in it. -/
def asName? : Toml → Option String
  | .text s => some s
  | .table _ [(name, value)] => if value.isEmptyContainer then some name else none
  | _ => none

/-- The values of a part by key and place. A date counts as a table in which no
key is known. -/
def fields? : Toml → Option (String → Nat → Option Toml)
  | .table _ members => some fun key _ => Members.find? key members
  | .array items => some fun _ place => items[place]?
  | .tables items => some fun _ place => (items[place]?).map (.table .header)
  | .moment => some fun _ _ => none
  | _ => none

def setting? {α : Type} (decode : Toml → Option α) (default : α) : Option Toml → Option α
  | none => some default
  | some v => decode v

end Toml

def Format.ofName? (name : String) : Option Format :=
  if name = "json" then some .plain
  else if name = "template" then some .template
  else none

namespace RunnerSettings

def ofToml? (v : Toml) : Option RunnerSettings := do
  let field ← v.fields?
  let default : RunnerSettings := {}
  let scenariosDirectory ←
    Toml.setting? Toml.asText? default.scenariosDirectory (field "scenarios_dir" 0)
  let timeoutSeconds ←
    Toml.setting? Toml.asNatural? default.timeoutSeconds (field "request_timeout_secs" 1)
  let defaultContentType ←
    Toml.setting? (fun v => v.asText?.map some) default.defaultContentType
      (field "default_content_type" 2)
  let format ←
    Toml.setting? (fun v => v.asName?.bind Format.ofName?) default.format (field "parser" 3)
  return { scenariosDirectory, timeoutSeconds, defaultContentType, format }

end RunnerSettings

namespace VerifierSettings

def ofToml? (v : Toml) : Option VerifierSettings := do
  let field ← v.fields?
  let default : VerifierSettings := {}
  let heal ← Toml.setting? Toml.asFlag? default.heal (field "update_scenarios_on_fail" 0)
  let healHeaders ← Toml.setting? Toml.asFlag? default.healHeaders (field "update_headers" 1)
  return { heal, healHeaders }

end VerifierSettings

namespace Settings

def ofEntries? (entries : Toml.Entries) : Option Settings := do
  let runner ← Toml.setting? RunnerSettings.ofToml? {} (Members.find? "runner" entries)
  let verifier ← Toml.setting? VerifierSettings.ofToml? {} (Members.find? "verify" entries)
  return { runner, verifier }

def parse (text : String) : Except Failure Settings :=
  match (Toml.parse? text).bind ofEntries? with
  | some settings => .ok settings
  | none => .error .settings

def load (files : Files) (path : String) : Except Failure Settings :=
  match files.readText path with
  | .error fault => .error (.unreadable path fault)
  | .ok text => parse text

end Settings

end HttpScenario
