import AccessControl.Failure.Cause
import AccessControl.Text.Blank
import AccessControl.Text.Quoted
import AccessControl.Text.Utf8

/-!
# Files

The files that can be reached: a tree of folders below one root, with the errors of
reading and writing them.
-/

namespace AccessControl

/-- What a path leads to. -/
inductive FileNode where
  | file (bytes : List UInt8)
  | folder
  deriving DecidableEq, Inhabited

/-- The files and folders below a root.  `root` is the path of the root itself, and an
entry is known by the names that lead to it. -/
structure Files where
  root : String := ""
  entries : List (List String × FileNode) := []
  deriving DecidableEq, Inhabited

/-- A path without empty parts and parts that stay where they are. -/
structure Location where
  absolute : Bool
  parts : List String
  deriving DecidableEq, Inhabited

namespace Location

/-- The path that a text writes. -/
def ofText (text : String) : Location :=
  ⟨text.toList.head? = some '/',
    ((splitAt '/' text.toList).map String.ofList).filter fun part => part != "" && part != "."⟩

/-- The text of a path. -/
def text (p : Location) : String :=
  let body := "/".intercalate p.parts
  if p.absolute then "/" ++ body else if body = "" then "." else body

/-- The path of the folder that holds an entry. -/
def parent (p : Location) : Location := { p with parts := p.parts.dropLast }

/-- The name of an entry in its folder. -/
def name (p : Location) : String := p.parts.getLastD ""

/-- The path leads to the folder of the program, to one above it or to the topmost one. -/
def leadsUp (p : Location) : Bool := p.parts.all (· == "..")

/-- The path of an entry of a folder. -/
def child (p : Location) (name : String) : Location := { p with parts := p.parts ++ [name] }

end Location

namespace Files

/-! ### Names -/

/-- The most bytes of a name. -/
def maxNameSize : Nat := 255

/-- A name has too many bytes. -/
def isLongName (name : String) : Bool := maxNameSize < name.utf8ByteSize

/-! ### Errors -/

/-- The error of a kind about a path. -/
def error (kind : HostErrorKind) (path : String) : HostError :=
  let text :=
    match kind with
    | .isDirectory => "[Errno 21] Is a directory: "
    | .notDirectory => "[Errno 20] Not a directory: "
    | .fileExists => "[Errno 17] File exists: "
    | .longName => "[Errno 36] File name too long: "
    | _ => "[Errno 2] No such file or directory: "
  ⟨kind, text ++ path⟩

/-- No path has a zero byte. -/
def checkPath (p : Location) : Except HostError Unit :=
  if p.text.toList.contains '\x00' then .error ⟨.value, "embedded null byte"⟩ else .ok ()

/-- The error about bytes that are no text. -/
def decodingError (fault : DecodingFault) : HostError :=
  let place :=
    match fault.bytes with
    | [b] =>
      "byte 0x" ++ String.ofList (hexText 2 b.toNat) ++ " in position " ++ toString fault.position
    | bytes =>
      "bytes in position " ++ toString fault.position ++ "-"
        ++ toString (fault.position + bytes.length - 1)
  ⟨.decoding, "'utf-8' codec can't decode " ++ place ++ ": " ++ fault.reason⟩

/-! ### Looking up -/

/-- What the names below the root lead to. -/
def node? (s : Files) (names : List String) : Option FileNode :=
  if names.isEmpty then some .folder else s.entries.lookup names

/-- Follows names from a folder. -/
def follow (s : Files) : List String → List String → Except HostErrorKind (List String × FileNode)
  | at_, [] =>
    match s.node? at_ with
    | some node => .ok (at_, node)
    | none => .error .fileNotFound
  | at_, name :: rest =>
    match s.node? at_ with
    | none => .error .fileNotFound
    | some (.file _) => .error .notDirectory
    | some .folder =>
      if isLongName name then .error .longName
      else s.follow (if name = ".." then at_.dropLast else at_ ++ [name]) rest

/-- What a path leads to, with the names that lead to it from the root. -/
def locate (s : Files) (p : Location) : Except HostErrorKind (List String × FileNode) :=
  let root := Location.ofText s.root
  if p.absolute == root.absolute && root.parts.isPrefixOf p.parts then
    s.follow [] (p.parts.drop root.parts.length)
  else .error .fileNotFound

/-- The bytes of the file at a path. -/
def bytesAt (s : Files) (p : Location) : Except HostError (List UInt8) := do
  checkPath p
  match s.locate p with
  | .ok (_, .file bytes) => return bytes
  | .ok (_, .folder) => throw (error .isDirectory (quoted p.text))
  | .error kind => throw (error (if p.leadsUp then .isDirectory else kind) (quoted p.text))

/-- The text of the file at a path. -/
def textAt (s : Files) (p : Location) : Except HostError String := do
  let bytes ← s.bytesAt p
  match Utf8.decode bytes with
  | .ok text => return text
  | .error fault => .error (decodingError fault)

/-- The names of the entries of the root, in order. -/
def names (s : Files) : List String :=
  (s.entries.filterMap fun
    | ([name], _) => some name
    | _ => none).mergeSort fun a b => !(b < a)

/-! ### Changing -/

/-- The files with an entry at the names below the root. -/
def put (s : Files) (names : List String) (node : FileNode) : Files :=
  { s with entries := s.entries.filter (fun e => e.1 != names) ++ [(names, node)] }

/-- The name of the file in which a text is kept until it takes the place of another. -/
def draftName (name : String) : String := "." ++ name ++ ".********"

/-- The names that lead to a folder in which an entry is made; `path` is what an error is
about. -/
def folderFor (s : Files) (folder : Location) (name path : String) :
    Except HostError (List String) :=
  match s.locate folder with
  | .error kind => .error (error kind (quoted path))
  | .ok (_, .file _) => .error (error .notDirectory (quoted path))
  | .ok (names, .folder) =>
    if isLongName name then .error (error .longName (quoted path)) else .ok names

/-- Writes a text to a path, through a draft beside it. -/
def write (s : Files) (p : Location) (text : String) : Except HostError Files := do
  checkPath p
  let draft := (p.parent.child (draftName p.name)).text
  let folder ← s.folderFor p.parent (draftName p.name) draft
  match s.node? (folder ++ [p.name]) with
  | some .folder => throw (error .isDirectory (quoted draft ++ " -> " ++ quoted p.text))
  | _ => return s.put (folder ++ [p.name]) (.file (Utf8.encode text))

/-- Writes bytes to a path. -/
def writeBytes (s : Files) (p : Location) (bytes : List UInt8) : Except HostError Files := do
  checkPath p
  let folder ← s.folderFor p.parent p.name p.text
  match s.node? (folder ++ [p.name]) with
  | some .folder => throw (error .isDirectory (quoted p.text))
  | _ => return s.put (folder ++ [p.name]) (.file bytes)

/-- Makes a folder at a path. -/
def makeFolder (s : Files) (p : Location) : Except HostError Files := do
  checkPath p
  match s.locate p with
  | .ok _ => throw (error .fileExists (quoted p.text))
  | .error _ =>
    let folder ← s.folderFor p.parent p.name p.text
    return s.put (folder ++ [p.name]) .folder

end Files

end AccessControl
