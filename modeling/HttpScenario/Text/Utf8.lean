namespace HttpScenario.Text

/-! UTF-8. In bytes that are not well formed, each longest beginning of a
character becomes one replacement character. -/

/-- A character of which some bytes were read: the bits so far, how many bytes
are missing, and the range of the next one. -/
structure Utf8Pending where
  bits : Nat
  missing : Nat
  low : Nat
  high : Nat

def replacement : Char := '\uFFFD'

def utf8Start (b : Nat) : List Char × Option Utf8Pending :=
  if b < 0x80 then ([Char.ofNat b], none)
  else if b < 0xC2 then ([replacement], none)
  else if b < 0xE0 then ([], some ⟨b - 0xC0, 1, 0x80, 0xBF⟩)
  else if b = 0xE0 then ([], some ⟨0, 2, 0xA0, 0xBF⟩)
  else if b = 0xED then ([], some ⟨b - 0xE0, 2, 0x80, 0x9F⟩)
  else if b < 0xF0 then ([], some ⟨b - 0xE0, 2, 0x80, 0xBF⟩)
  else if b = 0xF0 then ([], some ⟨0, 3, 0x90, 0xBF⟩)
  else if b < 0xF4 then ([], some ⟨b - 0xF0, 3, 0x80, 0xBF⟩)
  else if b = 0xF4 then ([], some ⟨b - 0xF0, 3, 0x80, 0x8F⟩)
  else ([replacement], none)

def utf8Step : Option Utf8Pending → Nat → List Char × Option Utf8Pending
  | none, b => utf8Start b
  | some pending, b =>
      if pending.low ≤ b ∧ b ≤ pending.high then
        let bits := pending.bits * 64 + (b - 0x80)
        if pending.missing = 1 then ([Char.ofNat bits], none)
        else ([], some ⟨bits, pending.missing - 1, 0x80, 0xBF⟩)
      else
        let (chars, next) := utf8Start b
        (replacement :: chars, next)

def decodeUtf8From (pending : Option Utf8Pending) : List UInt8 → List Char
  | [] => if pending.isSome then [replacement] else []
  | b :: bytes =>
      let (chars, next) := utf8Step pending b.toNat
      chars ++ decodeUtf8From next bytes

def decodeUtf8 (bytes : List UInt8) : List Char := decodeUtf8From none bytes

def encodeUtf8 (cs : List Char) : List UInt8 := cs.flatMap String.utf8EncodeChar

end HttpScenario.Text
