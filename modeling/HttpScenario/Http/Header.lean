import HttpScenario.Http.Message

namespace HttpScenario

namespace Header

def isTokenChar (c : Char) : Bool :=
  c.isAlphanum || "!#$%&'*+-.^_`|~".toList.contains c

def nameLimit : Nat := 65535

def isLegalName (name : String) : Bool :=
  !name.isEmpty && name.utf8ByteSize ≤ nameLimit && name.toList.all isTokenChar

def isLegalValue (value : String) : Bool :=
  value.toList.all fun c => c == '\t' || (0x20 ≤ c.toNat && c.toNat != 0x7F)

/-- Adds headers to those that are ready. An empty name is passed over. -/
def addAll (ready : Table String) : List (String × String) → Except HeaderFault (Table String)
  | [] => .ok ready
  | (name, value) :: rest =>
      if name.isEmpty then addAll ready rest
      else if !isLegalName name then .error (.illegalName name)
      else if !isLegalValue value then .error (.illegalValue name)
      else addAll (ready.insert (Text.lower name) value) rest

/-- The headers to send for a map: in the order of the names as they are
written, so that the last spelling of a name wins. -/
def build (headers : Table String) : Except HeaderFault (Table String) :=
  addAll ∅ headers.entries

def cookieLine (cookies : Table String) : Option String :=
  if cookies.isEmpty then none
  else some ("; ".intercalate (cookies.entries.map fun cookie => cookie.1 ++ "=" ++ cookie.2))

def checkedCookieLine (cookies : Table String) : Except HeaderFault (Option String) :=
  match cookieLine cookies with
  | none => .ok none
  | some line => if isLegalValue line then .ok (some line) else .error .illegalCookie

def isShowable (b : UInt8) : Bool := b == 9 || (32 ≤ b && b < 127)

def showValue (value : List UInt8) : String :=
  if value.all isShowable then String.ofList (value.map fun b => Char.ofNat b.toNat)
  else "<binary>"

def collectLine (collected : Table String) (line : String × List UInt8) : Table String :=
  let name := Text.lower line.1
  let value := showValue line.2
  match collected.find? name with
  | some before => collected.insert name (before ++ ", " ++ value)
  | none => collected.insert name value

/-- The received headers by name: the values of one name are joined in the order
of their lines. -/
def collect (lines : List (String × List UInt8)) : Table String :=
  lines.foldl collectLine ∅

end Header

end HttpScenario
