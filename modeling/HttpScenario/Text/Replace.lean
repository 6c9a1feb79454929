namespace HttpScenario.Text

/-! Replacement of a part of a text, from left to right. A part that was put in
is not looked at again. -/

/-- Replaces `part` after passing over `skip` characters. -/
def replaceAfter (part new : List Char) : (skip : Nat) → List Char → List Char
  | _, [] => []
  | skip + 1, _ :: rest => replaceAfter part new skip rest
  | 0, c :: rest =>
      if part.isPrefixOf (c :: rest) then
        new ++ replaceAfter part new (part.length - 1) rest
      else c :: replaceAfter part new 0 rest

def replaceAll (part new cs : List Char) : List Char :=
  replaceAfter part new 0 cs

end HttpScenario.Text
