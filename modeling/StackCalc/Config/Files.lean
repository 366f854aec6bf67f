import StackCalc.Config.Document

/-!
# Files and merging

The program reads its configuration file from a store of files by path. A file holds bytes,
and is read as text when they are UTF-8. A path is resolved one name at a time, from the root
when it starts with a slash and from the working directory otherwise: `.` stays where it is,
`..` goes up, and every name before the last must be a directory. A path that names a
directory, or goes through a file as if it were one, cannot be read, and neither can a path
with no file. The system takes paths of fewer than 4096 bytes, names of at most 255 bytes and
no NUL character. Some paths name the standard input: reading one gives what the input holds
and uses it up. Writing and removing a file resolve the path the same way, and change nothing
when it does not resolve to a file or to nothing. Merging a document sets its settings and
bindings over those already there; a text that is not a document changes nothing.

Which texts are documents, and what their tables hold, is up to a document reader, which
merging takes as a parameter: a reader refuses a text or gives its two tables. A program run
reads with `Document.read?`.
-/

namespace StackCalc.Config

/-- Files by path with their bytes, the directories that exist, the paths that name the
standard input, and what the input holds. Paths are written without `.`, `..` or repeated
slashes: from the root as `/a/b`, from the working directory as `a/b`. -/
structure FileStore where
  files : List (String × ByteArray)
  directories : List String
  inputs : List String := []
  input : String := ""
  deriving Inhabited

/-- What a path names. -/
inductive Entry where
  | file (bytes : ByteArray)
  | directory
  /-- The standard input. -/
  | input
  | missing
  deriving Inhabited

/-- Whether an entry is the standard input. -/
def Entry.isInput : Entry → Bool
  | .input => true
  | _ => false

/-- Where the resolution of a path stands: from the root or from the working directory, how
many levels above the working directory, and the names below that. -/
structure Place where
  fromRoot : Bool
  ups : Nat
  names : List String
  deriving Repr, DecidableEq, Inhabited

namespace Place

/-- The place one name further on. -/
def enter (p : Place) (name : String) : Place :=
  if name = "." then p
  else if name = ".." then
    match p.names with
    | [] => if p.fromRoot then p else { p with ups := p.ups + 1 }
    | ns => { p with names := ns.dropLast }
  else { p with names := p.names ++ [name] }

/-- The path of a place, as the store writes it. -/
def key (p : Place) : String :=
  (if p.fromRoot then "/" else "") ++ "/".intercalate (List.replicate p.ups ".." ++ p.names)

/-- The names of a path, without the empty ones that repeated or final slashes leave. -/
def namesOf (path : String) : List String :=
  (path.splitOn "/").filter (· != "")

end Place

/-- The fewest bytes a path can have that the system refuses as too long. -/
def pathLimit : Nat := 4096

/-- The most bytes one name in a path can have. -/
def nameLimit : Nat := 255

/-- The fault of a path as a whole, found before any of its names is looked up: a NUL
character first, then a length the system does not take. -/
def pathFault? (path : String) : Option ReadFault :=
  if path.contains (Char.ofNat 0) then some .nulByte
  else if pathLimit ≤ path.utf8ByteSize then some .nameTooLong
  else none

namespace FileStore

/-- The store without files. -/
def empty : FileStore := ⟨[], [], [], ""⟩

/-- What a place holds. The root and the working directory and those above it are
directories. -/
def entry (fs : FileStore) (p : Place) : Entry :=
  if p.names.isEmpty then .directory
  else
    let k := p.key
    match fs.files.find? (·.1 == k) with
    | some f => .file f.2
    | none =>
      if fs.inputs.contains k then .input
      else if fs.directories.contains k then .directory
      else .missing

/-- The place a path leads to. Each name is looked up in turn in the directory reached so
far, so a name too long is refused there; every name before the last must be a directory.
The empty path leads nowhere. -/
def locate (fs : FileStore) (path : String) : Except ReadFault Place :=
  match pathFault? path with
  | some fault => .error fault
  | none =>
    if path.isEmpty then .error .notFound
    else go ⟨path.startsWith "/", 0, []⟩ (Place.namesOf path)
where
  go (p : Place) : List String → Except ReadFault Place
    | [] => .ok p
    | name :: rest =>
      if nameLimit < name.utf8ByteSize then .error .nameTooLong
      else
        let q := p.enter name
        if rest.isEmpty then .ok q
        else
          match fs.entry q with
          | .directory => go q rest
          | .file _ | .input => .error .notDirectory
          | .missing => .error .notFound

/-- Reads the text at a path. A path that ends in a slash must name a directory, so it cannot
name a file or the input that is read; a file whose bytes are not UTF-8 is no text. -/
def read (fs : FileStore) (path : String) : Except ReadFault String := do
  let p ← fs.locate path
  match fs.entry p with
  | .file bytes =>
    if path.endsWith "/" then .error .notDirectory
    else
      match String.fromUTF8? bytes with
      | some text => .ok text
      | none => .error .invalidUtf8
  | .input => if path.endsWith "/" then .error .notDirectory else .ok fs.input
  | .directory => .error .isDirectory
  | .missing => .error .notFound

/-- Whether reading a path reads the standard input, and so uses it up. -/
def drawsInput (fs : FileStore) (path : String) : Bool :=
  match fs.locate path with
  | .ok p => (fs.entry p).isInput && !path.endsWith "/"
  | .error _ => false

/-- Writes a text to a file, replacing one at the same path. Nothing changes when the path
does not resolve, ends in a slash, or names a directory or the input. -/
def write (fs : FileStore) (path text : String) : FileStore :=
  match fs.locate path with
  | .error _ => fs
  | .ok p =>
    if path.endsWith "/" then fs
    else
      match fs.entry p with
      | .file _ | .missing =>
        let k := p.key
        { fs with files := (k, text.toUTF8) :: fs.files.filter (·.1 != k) }
      | .directory | .input => fs

/-- Removes the file at a path. Nothing changes when the path does not resolve to a file, or
ends in a slash. -/
def remove (fs : FileStore) (path : String) : FileStore :=
  match fs.locate path with
  | .error _ => fs
  | .ok p =>
    if path.endsWith "/" then fs
    else
      let k := p.key
      { fs with files := fs.files.filter (·.1 != k) }

end FileStore

/-- Sets a document's settings and bindings over the configuration. -/
def mergeDocument (c : Config) (d : Document) : Config :=
  { settings := c.settings.insertAll d.settings, bindings := c.bindings.insertAll d.bindings }

/-- Merges a text, if `readDocument` reads it as a configuration document. -/
def mergeText? (c : Config) (readDocument : String → Option Document) (text : String) :
    Option Config :=
  (readDocument text).map c.mergeDocument

/-- Merges the file at a path, read by `read`, as `readDocument` reads its text. -/
def mergeFile (c : Config) (readDocument : String → Option Document)
    (read : String → Except ReadFault String) (path : String) : Except ConfigError Config :=
  match read path with
  | .error fault => .error (.unreadable path fault)
  | .ok text =>
    match c.mergeText? readDocument text with
    | some c => .ok c
    | none => .error (.malformed path)

end StackCalc.Config
