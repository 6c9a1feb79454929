namespace HttpScenario.Json

inductive Reason where
  | unfinishedArray
  | unfinishedObject
  | unfinishedString
  | unfinishedValue
  | colonExpected
  | arrayEndExpected
  | objectEndExpected
  | wordExpected
  | valueExpected
  | badEscape
  | badNumber
  | numberOutOfRange
  | controlCharacter
  | nameExpected
  | loneSurrogate
  | trailingComma
  | trailingCharacters
  | unfinishedEscapePair
  | tooDeep
deriving DecidableEq

def Reason.text : Reason → String
  | .unfinishedArray => "EOF while parsing a list"
  | .unfinishedObject => "EOF while parsing an object"
  | .unfinishedString => "EOF while parsing a string"
  | .unfinishedValue => "EOF while parsing a value"
  | .colonExpected => "expected `:`"
  | .arrayEndExpected => "expected `,` or `]`"
  | .objectEndExpected => "expected `,` or `\x7d`"
  | .wordExpected => "expected ident"
  | .valueExpected => "expected value"
  | .badEscape => "invalid escape"
  | .badNumber => "invalid number"
  | .numberOutOfRange => "number out of range"
  | .controlCharacter =>
      "control character (\\u0000-\\u001F) found while parsing a string"
  | .nameExpected => "key must be a string"
  | .loneSurrogate => "lone leading surrogate in hex escape"
  | .trailingComma => "trailing comma"
  | .trailingCharacters => "trailing characters"
  | .unfinishedEscapePair => "unexpected end of hex escape"
  | .tooDeep => "recursion limit exceeded"

structure Position where
  line : Nat := 1
  column : Nat := 0
deriving DecidableEq

def Position.after (p : Position) (c : Char) : Position :=
  if c = '\n' then { line := p.line + 1 }
  else { p with column := p.column + c.utf8Size }

/-- The place that lies `bytes` bytes after `p`, where `p` is the place of `text`. -/
def Position.advance (p : Position) (bytes : Nat) : List Char → Position
  | [] => p
  | c :: text =>
      if bytes < c.utf8Size then { p with column := p.column + bytes }
      else (p.after c).advance (bytes - c.utf8Size) text

structure ParseError where
  reason : Reason
  position : Position
deriving DecidableEq

def ParseError.message (e : ParseError) : String :=
  s!"{e.reason.text} at line {e.position.line} column {e.position.column}"

/-! While a text is read, a place in it is the part that is left to read and a
number of bytes looked at beyond that. -/

/-- A fault at a place `ahead` bytes into `rest`. -/
structure Stop where
  reason : Reason
  rest : List Char
  ahead : Nat
deriving DecidableEq

def Stop.before (reason : Reason) (rest : List Char) : Stop :=
  { reason, rest, ahead := 0 }

/-- A fault of the first character of `rest`, or of the end of the text. -/
def Stop.inside (reason : Reason) (rest : List Char) : Stop :=
  { reason, rest, ahead := if rest.isEmpty then 0 else 1 }

def byteLength : List Char → Nat
  | [] => 0
  | c :: text => c.utf8Size + byteLength text

def Stop.toParseError (text : List Char) (stop : Stop) : ParseError :=
  let bytes := byteLength text - byteLength stop.rest + stop.ahead
  { reason := stop.reason, position := Position.advance {} bytes text }

end HttpScenario.Json
