import HttpScenario.Toml.Scalar

namespace HttpScenario.Toml

/-! Values and documents. As in other readers of nested texts, the reader of
inner values is a parameter of the readers of arrays and tables in braces, and
`limit` bounds the rounds of loops that each take a character. -/

def readItems (value : List Char → Option (Toml × List Char)) (bound : Nat) :
    (limit : Nat) → (read : List Toml) → List Char → Option (Toml × List Char)
  | 0, _, _ => none
  | limit + 1, read, cs =>
      match skipGaps bound cs with
      | ']' :: rest => some (.array read.reverse, rest)
      | cs => do
          let (item, rest) ← value cs
          match skipGaps bound rest with
          | ',' :: rest => readItems value bound limit (item :: read) rest
          | rest => return (.array (item :: read).reverse, ← expect ']' rest)

def readPair (value : List Char → Option (Toml × List Char)) (limit : Nat) (cs : List Char) :
    Option (((List String × String) × Toml) × List Char) := do
  let (key, rest) ← readKey limit cs
  let (v, rest) ← value (skipBlanks (← expect '=' rest))
  return ((key, v), rest)

def readPairs (value : List Char → Option (Toml × List Char)) (bound : Nat) :
    (limit : Nat) → Entries → List Char → Option (Toml × List Char)
  | 0, _, _ => none
  | limit + 1, entries, cs => do
      let (((keys, key), v), rest) ← readPair value bound cs
      let entries ← add keys key v entries
      match skipBlanks rest with
      | ',' :: rest => readPairs value bound limit entries rest
      | rest => return (.table .inline entries, ← expect '}' rest)

def readInline (value : List Char → Option (Toml × List Char)) (limit : Nat)
    (cs : List Char) : Option (Toml × List Char) :=
  match skipBlanks cs with
  | '}' :: rest => some (.table .inline [], rest)
  | _ => readPairs value limit limit [] cs

def readScalar (limit : Nat) (cs : List Char) : Option (Toml × List Char) :=
  match cs with
  | [] => none
  | c :: _ =>
      if c = '"' ∨ c = '\'' then (readString limit cs).map fun (s, rest) => (.text s, rest)
      else
        match "true".toList.isPrefixOf? cs with
        | some rest => some (.flag true, rest)
        | none =>
            match "false".toList.isPrefixOf? cs with
            | some rest => some (.flag false, rest)
            | none => readNumber cs

def depthLimit : Nat := 79

def readValue (limit : Nat) : (depth : Nat) → List Char → Option (Toml × List Char)
  | 0, cs =>
      match cs with
      | '[' :: _ => none
      | '{' :: _ => none
      | cs => readScalar limit cs
  | depth + 1, cs =>
      match cs with
      | '[' :: rest => readItems (readValue limit depth) limit limit [] rest
      | '{' :: rest => readInline (readValue limit depth) limit rest
      | cs => readScalar limit cs

/-- A document that is being read: its tables, and the header that is open. -/
structure Draft where
  root : Entries := []
  header : List String := []

def readTableHeader (limit : Nat) (draft : Draft) (cs : List Char) :
    Option (Draft × List Char) := do
  let ((keys, key), rest) ← readKey limit cs
  let rest ← endLine (← expect ']' rest)
  let root ← atHeader (openTable key) keys draft.root
  return ({ root, header := keys ++ [key] }, rest)

def readItemHeader (limit : Nat) (draft : Draft) (cs : List Char) :
    Option (Draft × List Char) := do
  let ((keys, key), rest) ← readKey limit cs
  let rest ← endLine (← expect ']' (← expect ']' rest))
  let root ← atHeader (openItem key) keys draft.root
  return ({ root, header := keys ++ [key] }, rest)

def readKeyLine (limit : Nat) (draft : Draft) (cs : List Char) :
    Option (Draft × List Char) := do
  let (((keys, key), v), rest) ← readPair (readValue limit depthLimit) limit cs
  let rest ← endLine rest
  let root ← atHeader (add keys key v) draft.header draft.root
  return ({ draft with root }, rest)

def readLinesOf (bound : Nat) : (limit : Nat) → Draft → List Char → Option Entries
  | 0, _, _ => none
  | limit + 1, draft, cs =>
      match skipBlanks cs with
      | [] => some draft.root
      | '#' :: rest => do readLinesOf bound limit draft (← endLine ('#' :: rest))
      | '[' :: '[' :: rest => do
          let (draft, rest) ← readItemHeader bound draft rest
          readLinesOf bound limit draft rest
      | '[' :: rest => do
          let (draft, rest) ← readTableHeader bound draft rest
          readLinesOf bound limit draft rest
      | c :: rest =>
          if c = '\n' ∨ c = '\r' then do
            readLinesOf bound limit draft (← newline? (c :: rest))
          else do
            let (draft, rest) ← readKeyLine bound draft (c :: rest)
            readLinesOf bound limit draft rest

/-- The document that a text is. A byte order mark at its beginning is passed over. -/
def parse? (text : String) : Option Entries :=
  let cs :=
    match text.toList with
    | '\uFEFF' :: rest => rest
    | cs => cs
  readLinesOf (cs.length + 1) (cs.length + 1) {} cs

end HttpScenario.Toml
