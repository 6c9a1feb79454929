import HttpScenario.Text.Digit

namespace HttpScenario.Text

/-! Tables over code points. A table is written as lines of text: entries between single
blanks, with all numbers in radix sixteen. An entry is a code point, a range such
as `61-7A`, or every second one of a range, `100-12E/2`. What a table gives for
them follows. `=73.73` gives the same code points for all of them; `+31.30` gives
them for the first, and for the others as well, but with the last one moved on by
as much as they are from the first. -/

/-- Code points that are `stride` apart, and what a table gives for them. -/
structure CodeRun where
  first : Nat
  last : Nat
  stride : Nat := 1
  moving : Bool := false
  value : List Nat := []
deriving DecidableEq

namespace CodeRun

def contains (run : CodeRun) (code : Nat) : Bool :=
  run.first ≤ code && code ≤ run.last && (code - run.first) % run.stride == 0

def valueAt (run : CodeRun) (code : Nat) : List Nat :=
  if run.moving then
    run.value.dropLast ++ run.value.getLast?.toList.map (· + (code - run.first))
  else run.value

def readCode? (cs : List Char) : Option Nat :=
  if cs.isEmpty then none else digitsValue? 16 cs

def readRange? (cs : List Char) : Option CodeRun := do
  let (range, stride) ←
    match cs.splitOn '/' with
    | [range] => some (range, 1)
    | [range, stride] => (readCode? stride).map (range, ·)
    | _ => none
  match range.splitOn '-' with
  | [only] => do
      let code ← readCode? only
      return { first := code, last := code, stride }
  | [first, last] => do
      return { first := ← readCode? first, last := ← readCode? last, stride }
  | _ => none

def read? (cs : List Char) : Option CodeRun := do
  let isMark (c : Char) : Bool := c == '=' || c == '+'
  let run ← readRange? (cs.takeWhile (!isMark ·))
  match cs.dropWhile (!isMark ·) with
  | [] => return run
  | mark :: value => do
      return { run with moving := mark == '+', value := ← (value.splitOn '.').mapM readCode? }

end CodeRun

abbrev CodeTable := List CodeRun

namespace CodeTable

def ofLines (lines : List String) : CodeTable :=
  lines.flatMap fun line => (line.toList.splitOn ' ').filterMap CodeRun.read?

def find? (table : CodeTable) (code : Nat) : Option (List Nat) :=
  (List.find? (fun run => run.contains code) table).map (·.valueAt code)

def contains (table : CodeTable) (code : Nat) : Bool :=
  table.any fun run => run.contains code

end CodeTable

end HttpScenario.Text
