import HttpScenario.Proofs.Scenario.HealedRecord
import Mathlib.Data.List.Induction

namespace HttpScenario

/-! Records that are healed by several calls, one after the other. A record shows the last
reply that it was healed by, whatever else was healed in between. -/

structure HealCall where
  outcome : Outcome
  withHeaders : Bool
deriving DecidableEq

namespace HealCall

def name (call : HealCall) : String := call.outcome.testCase.name

def path (call : HealCall) : String := call.outcome.testCase.filePath

def reply (call : HealCall) : Reply := call.outcome.reply

def named (name : String) (calls : List HealCall) : List HealCall :=
  calls.filter (·.name = name)

def lastWithHeaders? (calls : List HealCall) : Option HealCall :=
  (calls.filter (·.withHeaders)).getLast?

section Record

variable {calls : List HealCall} {record : Members Json}

def healAll (calls : List HealCall) (record : Members Json) : Members Json :=
  calls.foldl (fun record call => call.reply.healRecord call.withHeaders record) record

theorem healAll_concat (calls : List HealCall) (call : HealCall) (record : Members Json) :
    healAll (calls ++ [call]) record =
      call.reply.healRecord call.withHeaders (healAll calls record) := by
  rw [healAll, List.foldl_concat]
  rfl

/-- The record `healed` is `record` with the status and the body that the last call has
brought, and the headers of the last call that brings headers. -/
structure Settled (last : HealCall) (headers? : Option HealCall)
    (record healed : Members Json) : Prop where
  status : healed.find? Record.Field.status.name = some (.ofNat last.reply.status.toNat)
  response : last.reply.StoredAs (healed.find? Record.Field.response.name)
  responseHeaders : healed.find? Record.Field.responseHeaders.name =
    match headers? with
    | some call =>
        some (.obj (call.reply.headers.entries.map fun entry => (entry.1, .str entry.2)))
    | none => record.find? Record.Field.responseHeaders.name
  others : ∀ field, field ∉ Reply.expectations → healed.find? field = record.find? field

theorem find?_healAll_of_not_mem {field : String} (hfield : field ∉ Reply.expectations)
    (calls : List HealCall) (record : Members Json) :
    (healAll calls record).find? field = record.find? field := by
  induction calls using List.reverseRecOn with
  | nil => rfl
  | append_singleton calls call ih =>
      rw [healAll_concat, (Reply.healRecord_heals _ _ _).others field hfield, ih]

theorem find?_healAll_responseHeaders (calls : List HealCall) (record : Members Json) :
    (healAll calls record).find? Record.Field.responseHeaders.name =
      match lastWithHeaders? calls with
      | some call =>
          some (.obj (call.reply.headers.entries.map fun entry => (entry.1, .str entry.2)))
      | none => record.find? Record.Field.responseHeaders.name := by
  -- From the end: the last call decides, unless it brings no headers.
  induction calls using List.reverseRecOn with
  | nil => rfl
  | append_singleton calls call ih =>
      rw [healAll_concat, (Reply.healRecord_heals _ _ _).responseHeaders, ih]
      cases hheaders : call.withHeaders with
      | false => simp [lastWithHeaders?, List.filter_append, hheaders]
      | true => simp [lastWithHeaders?, List.filter_append, hheaders]

theorem healAll_settled {last : HealCall} (hlast : calls.getLast? = some last)
    (record : Members Json) :
    Settled last (lastWithHeaders? calls) record (healAll calls record) := by
  obtain ⟨earlier, rfl⟩ := List.getLast?_eq_some_iff.mp hlast
  have hheals := last.reply.healRecord_heals last.withHeaders (healAll earlier record)
  rw [← healAll_concat] at hheals
  refine ⟨hheals.status, hheals.response, find?_healAll_responseHeaders _ _, ?_⟩
  intro field hfield
  exact find?_healAll_of_not_mem hfield _ _

end Record

section Records

variable {call first second : HealCall} {records : Members Json} {record other : Members Json}

/-- What stands at a name after calls of that name. Only a record is healed. -/
def settle (calls : List HealCall) : Json → Json
  | .obj record => .obj (healAll calls record)
  | v => v

theorem settle_nil : settle [] = id := by
  funext v
  cases v <;> rfl

theorem settle_cons (call : HealCall) (calls : List HealCall) :
    settle (call :: calls) = settle calls ∘ settle [call] := by
  funext v
  cases v <;> rfl

def healIn (call : HealCall) (records : Members Json) : Members Json :=
  match records.find? call.name with
  | some (.obj record) =>
      records.put call.name (.obj (call.reply.healRecord call.withHeaders record))
  | _ => records

def healInAll (calls : List HealCall) (records : Members Json) : Members Json :=
  calls.foldl (fun records call => call.healIn records) records

theorem healIn_of_find? (hfind : records.find? call.name = some (.obj record)) :
    call.healIn records =
      records.put call.name (.obj (call.reply.healRecord call.withHeaders record)) := by
  rw [healIn, hfind]

theorem find?_healIn_self (call : HealCall) (records : Members Json) :
    (call.healIn records).find? call.name = (records.find? call.name).map (settle [call]) := by
  unfold healIn
  split
  · next hfind =>
      rw [hfind]
      exact Members.find?_put_self _ _ _
  · next hnone =>
      cases hfind : records.find? call.name with
      | none => rfl
      | some v =>
          cases v with
          | obj record => exact absurd hfind (hnone record)
          | _ => rfl

theorem find?_healIn_of_ne {name : String} (hne : name ≠ call.name) (records : Members Json) :
    (call.healIn records).find? name = records.find? name := by
  unfold healIn
  split
  · exact Members.find?_put_of_ne hne _ _
  · rfl

theorem names_healIn (call : HealCall) (records : Members Json) :
    (call.healIn records).names = records.names := by
  unfold healIn
  split
  · next hfind => exact Members.names_put_of_mem (Members.mem_names_of_find? hfind) _
  · rfl

theorem names_healInAll (calls : List HealCall) (records : Members Json) :
    (healInAll calls records).names = records.names := by
  induction calls generalizing records with
  | nil => rfl
  | cons call calls ih => exact (ih (call.healIn records)).trans (names_healIn call records)

theorem find?_healInAll (name : String) (calls : List HealCall) (records : Members Json) :
    (healInAll calls records).find? name =
      (records.find? name).map (settle (named name calls)) := by
  induction calls generalizing records with
  | nil => rw [named, List.filter_nil, settle_nil, Option.map_id]; rfl
  | cons call calls ih =>
      have hnext : healInAll (call :: calls) records = healInAll calls (call.healIn records) := rfl
      rw [hnext, ih, named, named, List.filter_cons]
      by_cases h : call.name = name
      · subst h
        rw [if_pos (by simp), settle_cons, find?_healIn_self, Option.map_map]
      · rw [if_neg (by simp [h]), find?_healIn_of_ne (Ne.symm h)]

theorem healIn_comm (hne : first.name ≠ second.name)
    (hfirst : records.find? first.name = some (.obj record))
    (hsecond : records.find? second.name = some (.obj other)) :
    second.healIn (first.healIn records) = first.healIn (second.healIn records) := by
  have hfirst' : (second.healIn records).find? first.name = some (.obj record) := by
    rw [find?_healIn_of_ne hne, hfirst]
  have hsecond' : (first.healIn records).find? second.name = some (.obj other) := by
    rw [find?_healIn_of_ne hne.symm, hsecond]
  rw [healIn_of_find? hfirst', healIn_of_find? hsecond', healIn_of_find? hfirst,
    healIn_of_find? hsecond]
  exact Members.put_comm hne (Members.mem_names_of_find? hfirst)
    (Members.mem_names_of_find? hsecond) _ _

end Records

end HealCall

end HttpScenario
