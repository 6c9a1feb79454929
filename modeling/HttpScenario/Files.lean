namespace HttpScenario

/-! A tree of files and directories, and paths into it. A path is followed one
name at a time from the directory where work is done, or from the root when it
begins with a slash; every name but the last one has to lead to a directory. -/

inductive FileFault where
  | missing
  | notDirectory
  | isDirectory
  | nameTooLong
  | nulByte
  | notUtf8
deriving DecidableEq

def FileFault.message : FileFault → String
  | .missing => "No such file or directory (os error 2)"
  | .notDirectory => "Not a directory (os error 20)"
  | .isDirectory => "Is a directory (os error 21)"
  | .nameTooLong => "File name too long (os error 36)"
  | .nulByte => "file name contained an unexpected NUL byte"
  | .notUtf8 => "stream did not contain valid UTF-8"

inductive FileEntry where
  | file (bytes : ByteArray)
  | directory

abbrev Location := List String

/-- The entries of a tree below its root, and the directory where work is done. -/
structure Files where
  entries : List (Location × FileEntry)
  workplace : Location

namespace Files

/-- The longest name, and one more than the longest path, in bytes. -/
def nameLimit : Nat := 255
def pathLimit : Nat := 4096

def find? (files : Files) (location : Location) : Option FileEntry :=
  if location.isEmpty then some .directory
  else (files.entries.find? fun entry => entry.1 == location).map Prod.snd

def setEntry (location : Location) (content : FileEntry) :
    List (Location × FileEntry) → List (Location × FileEntry)
  | [] => [(location, content)]
  | entry :: rest =>
      if entry.1 = location then (location, content) :: rest
      else entry :: setEntry location content rest

def set (files : Files) (location : Location) (content : FileEntry) : Files :=
  { files with entries := setEntry location content files.entries }

/-- Follows names. The last one may lead to nothing. -/
def follow (files : Files) (location : Location) : List String → Except FileFault Location
  | [] => .ok location
  | name :: names =>
      match files.find? location with
      | none => .error .missing
      | some (.file _) => .error .notDirectory
      | some .directory =>
          if name = "" ∨ name = "." then files.follow location names
          else if name = ".." then files.follow location.dropLast names
          else if nameLimit < name.utf8ByteSize then .error .nameTooLong
          else files.follow (location ++ [name]) names

def names (path : String) : List String :=
  (path.toList.splitOn '/').map String.ofList

def isAbsolute (path : String) : Bool := path.toList.head? == some '/'

def start (files : Files) (path : String) : Location :=
  if isAbsolute path then [] else files.workplace

def locate (files : Files) (path : String) : Except FileFault Location :=
  if path.toList.contains '\x00' then .error .nulByte
  else if path.isEmpty then .error .missing
  else if pathLimit ≤ path.utf8ByteSize then .error .nameTooLong
  else files.follow (files.start path) (names path)

def readBytes (files : Files) (path : String) : Except FileFault ByteArray := do
  let location ← files.locate path
  match files.find? location with
  | none => .error .missing
  | some .directory => .error .isDirectory
  | some (.file bytes) => .ok bytes

def readText (files : Files) (path : String) : Except FileFault String := do
  let bytes ← files.readBytes path
  match String.fromUTF8? bytes with
  | some text => .ok text
  | none => .error .notUtf8

/-- Replaces the content of a file, or makes a file in a directory that is there. -/
def writeBytes (files : Files) (path : String) (bytes : ByteArray) :
    Except FileFault Files := do
  let location ← files.locate path
  match files.find? location with
  | some .directory => .error .isDirectory
  | _ => .ok (files.set location (.file bytes))

def writeText (files : Files) (path : String) (text : String) : Except FileFault Files :=
  files.writeBytes path text.toUTF8

/-- Makes the directories that names lead through, where nothing is there yet. -/
def makeDirectories (files : Files) (location : Location) : List String → Files × Location
  | [] => (files, location)
  | name :: names =>
      if name = "" ∨ name = "." then files.makeDirectories location names
      else if name = ".." then files.makeDirectories location.dropLast names
      else
        let location := location ++ [name]
        let files := if (files.find? location).isSome then files else files.set location .directory
        files.makeDirectories location names

def empty (workplace : Location) : Files :=
  (Files.makeDirectories ⟨[], workplace⟩ [] workplace).1

def makeDirectory (files : Files) (path : String) : Files :=
  (files.makeDirectories (files.start path) (names path)).1

def makeFile (files : Files) (path : String) (bytes : ByteArray) : Except FileFault Files :=
  (files.makeDirectories (files.start path) (names path).dropLast).1.writeBytes path bytes

def removeFile (files : Files) (path : String) : Except FileFault Files := do
  let location ← files.locate path
  match files.find? location with
  | none => .error .missing
  | some .directory => .error .isDirectory
  | some (.file _) =>
      .ok { files with entries := files.entries.filter fun entry => entry.1 != location }

end Files

/-- Work in a tree of files, which may fail. However it ends, it leaves a tree. -/
abbrev Work (ε α : Type) := EStateM ε Files α

namespace Work

def writeText (path text : String) : Work FileFault Unit := fun files =>
  match files.writeText path text with
  | .ok written => .ok () written
  | .error fault => .error fault files

variable {ε α : Type}

def left (work : Work ε α) (files : Files) : Files :=
  match work files with
  | .ok _ left => left
  | .error _ left => left

def outcome (work : Work ε α) (files : Files) : Except ε Files :=
  match work files with
  | .ok _ left => .ok left
  | .error e _ => .error e

end Work

/-- A path taken from a directory: one slash between the two, and the path alone
when it is absolute or the directory is empty. -/
def joinPath (directory path : String) : String :=
  if Files.isAbsolute path || directory.isEmpty then path
  else if directory.toList.getLast? = some '/' then directory ++ path
  else directory ++ "/" ++ path

end HttpScenario
