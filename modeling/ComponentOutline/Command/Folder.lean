import ComponentOutline.Text.Utf8

/-!
# Folders

A folder holds files and further folders under names.  A path leads through folders
by its names; it may step aside by a dot, back by two dots, and it has to end in a
folder if a slash ends it.
-/

namespace ComponentOutline

/-- What stands under a name. -/
inductive Entry where
  | file (bytes : List UInt8)
  | folder

/-- Why a path cannot be used. -/
inductive PathFault where
  | missing
  | isFolder
  | notFolder
  /-- The path or a name in it has more bytes than a file system takes. -/
  | tooLong
  /-- The path holds the character that ends a path. -/
  | holdsNull
  deriving DecidableEq

/-- The working folder: what stands at the end of a list of names.  Names that lead
out of it start with two dots or a slash. -/
abbrev Folder := List String → Option Entry

namespace Folder

/-- The parts of a path between its slashes. -/
def parts (path : String) : List String :=
  (path.toList.splitOn '/').map String.ofList

/-- The names of a path without its dots. -/
def namesOf (path : String) : List String :=
  (parts path).filter fun part => part != "" && part != "."

/-- What is known outside of the working folder: the folders around it, and the few
places that every system has, among them a file that is always empty. -/
def outside? : List String → Option Entry
  | ["/"] => some .folder
  | ["/", "dev"] => some .folder
  | ["/", "tmp"] => some .folder
  | ["/", "dev", "null"] => some (.file [])
  | names => if names.all (· == "..") then some .folder else none

/-- The folder with these files; it has the folders that lead to them. -/
def ofFiles (files : List (String × List UInt8)) : Folder := fun names =>
  match outside? names, files.find? fun file => namesOf file.1 == names with
  | some entry, _ => some entry
  | none, some file => some (.file file.2)
  | none, none =>
      if files.any fun file => names.isPrefixOf (namesOf file.1) then some .folder else none

/-- The number of bytes that a path has to stay below. -/
def pathLimit : Nat :=
  4096

/-- The number of bytes that a name can have. -/
def nameLimit : Nat :=
  255

/-- Why nothing stands at the end of names: there is no such entry, or there cannot be
one. -/
def absence (names : List String) : PathFault :=
  if nameLimit < (names.getLast?.getD "").utf8ByteSize then .tooLong else .missing

/-- The names one step back. -/
def back (names : List String) : List String :=
  match names.getLast? with
  | none => [".."]
  | some ".." => names ++ [".."]
  | some "/" => names
  | some _ => names.dropLast

/-- Goes on from names by one part of a path. -/
def advance (names : List String) (part : String) : List String :=
  if part == "" || part == "." then names
  else if part == ".." then back names
  else names ++ [part]

/-- Goes on from a folder by one part of a path. -/
def step (folder : Folder) (names : List String) (part : String) :
    Except PathFault (List String) :=
  match folder names with
  | none => .error (absence names)
  | some (.file _) => .error .notFolder
  | some .folder => .ok (advance names part)

/-- Where a path starts, and its parts. -/
def route (path : String) : List String × List String :=
  match parts path with
  | "" :: rest => (["/"], rest)
  | all => ([], all)

/-- The names that a path leads to; whether anything stands there is left open. -/
def resolve (folder : Folder) (path : String) : Except PathFault (List String) :=
  if path == "" then .error .missing
  else if path.toList.contains '\x00' then .error .holdsNull
  else if pathLimit ≤ path.utf8ByteSize then .error .tooLong
  else
    let (start, rest) := route path
    rest.foldlM folder.step start

/-- What stands at the end of a path. -/
def find (folder : Folder) (path : String) : Except PathFault Entry := do
  let names ← folder.resolve path
  match folder names with
  | some entry => return entry
  | none => .error (absence names)

/-- The bytes of a file. -/
def read (folder : Folder) (path : String) : Except PathFault (List UInt8) := do
  match ← folder.find path with
  | .file bytes => return bytes
  | .folder => .error .isFolder

/-- A path without the slashes that end it. -/
def withoutEndingSlashes (path : String) : String :=
  String.ofList (path.toList.reverse.dropWhile (· == '/')).reverse

/-- The names under which a file can be written at a path. -/
def target (folder : Folder) (path : String) : Except PathFault (List String) := do
  if withoutEndingSlashes path == "" then .error .isFolder
  if pathLimit ≤ path.utf8ByteSize then .error .tooLong
  let names ← folder.resolve (withoutEndingSlashes path)
  if path.endsWith "/" then .error .isFolder
  match folder names, absence names with
  | some .folder, _ => .error .isFolder
  | none, .tooLong => .error .tooLong
  | _, _ => return names

/-- The lists of names that a path passes from its start on. -/
def passed (names : List String) : List String → List (List String)
  | [] => [names]
  | part :: rest => names :: passed (advance names part) rest

/-- The lists of names that have to be looked up to follow a path. -/
def trail (path : String) : List (List String) :=
  let (start, rest) := route path
  passed start rest

/-- The path of names. -/
def pathOf : List String → String
  | [] => "."
  | "/" :: names => "/" ++ "/".intercalate names
  | names => "/".intercalate names

/-- The folder in which just these entries are known. -/
def ofEntries (entries : List (List String × Entry)) : Folder := fun names =>
  (entries.find? fun entry => entry.1 == names).map (·.2)

end Folder

/-- Text with one sort of line end: a carriage return counts as a line end, also
together with the line feed after it. -/
def unifyLineEnds : List Char → List Char
  | [] => []
  | '\r' :: '\n' :: rest => '\n' :: unifyLineEnds rest
  | '\r' :: rest => '\n' :: unifyLineEnds rest
  | character :: rest => character :: unifyLineEnds rest

/-- The source text in the bytes of a file. -/
def sourceOfBytes (bytes : List UInt8) : Except Utf8.Fault String :=
  (Utf8.decode bytes).map fun text => String.ofList (unifyLineEnds text.toList)

end ComponentOutline
