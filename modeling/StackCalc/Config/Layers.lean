import StackCalc.Config.Defaults
import StackCalc.Config.Files
import StackCalc.Cli.Options

/-!
# A configuration in layers

A configuration is built in layers, each over the one before: the built-in defaults (or
nothing), single settings, single bindings, configuration files (each written or removed,
then merged), configuration texts, and last the command line. A file or text that fails to
merge leaves the configuration as it was and is recorded; a command line that is refused
changes nothing. Files and texts are read as documents by `Document.read?`.
-/

namespace StackCalc.Config

/-- The layers of a configuration. -/
structure Layers where
  defaults : Bool := true
  settings : List (String × Setting) := []
  bindings : List (String × String) := []
  /-- Files by path, each written with its text or removed, then merged. -/
  files : List (String × Option String) := []
  /-- Texts merged as configuration documents. -/
  documents : List String := []
  /-- The command line, without the program name. -/
  args : List String := []
  deriving Repr, Inhabited

/-- Why a layer failed to merge. -/
inductive MergeFailure where
  /-- A file could not be read or is no document. -/
  | file (e : ConfigError)
  /-- A text is no document. -/
  | document
  deriving Repr, Inhabited

/-- A configuration built in layers, with what happened on the way. -/
structure Layered where
  config : Config
  store : FileStore
  /-- One result per file. -/
  fileMerges : List (Except ConfigError Unit)
  /-- One flag per text: whether it merged. -/
  documentMerges : List Bool
  options : Except Cli.UsageError Cli.Options
  deriving Inhabited

/-- Writes or removes a file, then merges it. -/
def mergeFileLayer (acc : Config × FileStore × List (Except ConfigError Unit))
    (file : String × Option String) : Config × FileStore × List (Except ConfigError Unit) :=
  let (c, fs, results) := acc
  let fs := match file.2 with
    | some text => fs.write file.1 text
    | none => fs.remove file.1
  match c.mergeFile Document.read? fs.read file.1 with
  | .ok c' => (c', fs, results ++ [.ok ()])
  | .error e => (c, fs, results ++ [.error e])

/-- Merges a text. -/
def mergeDocumentLayer (acc : Config × List Bool) (text : String) : Config × List Bool :=
  match acc.1.mergeText? Document.read? text with
  | some c => (c, acc.2 ++ [true])
  | none => (acc.1, acc.2 ++ [false])

/-- Builds the configuration of the layers over a file store. -/
def Layers.build (l : Layers) (store : FileStore) : Layered :=
  let c := if l.defaults then Config.defaults else Config.empty
  let c := l.settings.foldl (fun c p => c.set p.1 p.2) c
  let c := l.bindings.foldl (fun c p => c.bind p.1 p.2) c
  let (c, store, fileMerges) := l.files.foldl mergeFileLayer (c, store, [])
  let (c, documentMerges) := l.documents.foldl mergeDocumentLayer (c, [])
  let options := Cli.parse l.args
  let c := match options with
    | .ok o => o.applyTo c
    | .error _ => c
  ⟨c, store, fileMerges, documentMerges, options⟩

/-- The first layer that failed to merge: files first, then texts. -/
def Layered.firstFailure? (l : Layered) : Option MergeFailure :=
  match l.fileMerges.findSome? (fun r => match r with
      | .error e => some e
      | .ok () => none) with
  | some e => some (.file e)
  | none => if l.documentMerges.all id then none else some .document

end StackCalc.Config
