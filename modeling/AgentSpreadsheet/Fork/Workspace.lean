import AgentSpreadsheet.Library.FileTree
import AgentSpreadsheet.Revision

/-! The workspace boundary of a fork: where its base is read from and where it is saved to.
A path is checked first and opened afterwards, by the path it was given as. -/
namespace AgentSpreadsheet.Workspace
open Library

/-! ### Paths -/

namespace FilePath

/-- Without what stays at the end; a leading dot of a relative path remains. -/
def trimRight (absolute : Bool) (segments : List String) : List String :=
  match (segments.reverse.dropWhile stays).reverse with
  | [] => if absolute = false ∧ segments.head? = some "." then ["."] else []
  | trimmed => trimmed

def splitLast (path : FilePath) : Option (FilePath × String) :=
  match path.segments.reverse.dropWhile stays with
  | name :: before => some (⟨path.absolute, trimRight path.absolute before.reverse⟩, name)
  | [] =>
    if path.absolute = false ∧ path.segments.head? = some "." then some (⟨false, []⟩, ".")
    else none

def parent (path : FilePath) : Option FilePath := (splitLast path).map Prod.fst

def fileName (path : FilePath) : Option String :=
  (splitLast path).bind fun last => if isName last.2 then some last.2 else none

/-- In lower case; none for a name that starts with its only dot. -/
def extension (path : FilePath) : Option String :=
  (fileName path).bind fun name =>
    let fromEnd := name.toList.reverse
    match fromEnd.span (· ≠ '.') with
    | (after, _ :: before) =>
      if before = [] then none else some (String.ofList (after.reverse.map Char.toLower))
    | (_, []) => none

def join (path : FilePath) (name : String) : FilePath := { path with segments := path.segments ++ [name] }

end FilePath

/-- A file with the time it was last modified at. -/
structure FileContent where
  bytes : List UInt8
  modified : Int
  deriving DecidableEq, Repr

abbrev Tree := FileTree FileContent

def FileError.text : FileError → String
  | .notFound => "No such file or directory (os error 2)"
  | .notDirectory => "Not a directory (os error 20)"
  | .isDirectory => "Is a directory (os error 21)"
  | .tooManyLinks => "Too many levels of symbolic links (os error 40)"

def io {α : Type} : Except FileError α → (String → String) → Result α
  | .ok value, _ => .ok value
  | .error e, message => .error (message (FileError.text e))

section Files
variable (links : Nat) (cwd : Location) (tree : Tree)

/-- A candidate that does not exist stands for its name in its parent directory. -/
def canonicalCandidate (candidate : FilePath) (field : String) : Result Location :=
  if tree.pathExists links cwd candidate then
    io (tree.canonicalize links cwd candidate) fun e =>
      field ++ " could not be canonicalized: " ++ e
  else do
    let parent ← required (FilePath.parent candidate) (field ++ " must have a parent directory")
    let name ← required (FilePath.fileName candidate) (field ++ " must include a file name")
    let directory ← io (tree.canonicalize links cwd parent) fun e =>
      field ++ " parent directory could not be canonicalized: " ++ e
    pure (directory ++ [name])

/-- Symbolic links are followed before the comparison. -/
def canonicalizeAndEnforceWithinWorkspace (workspaceRoot candidate : FilePath) (field : String) :
    Result Location := do
  let root ← io (tree.canonicalize links cwd workspaceRoot) fun e =>
    "failed to canonicalize workspace_root: " ++ e
  let canonical ← canonicalCandidate links cwd tree candidate field
  ensure (root <+: canonical) (field ++ " must be within workspace_root after canonicalization")
  pure canonical

def metadata (path : FilePath) : Except FileError (Option FileContent) := do
  let location ← tree.locate links cwd path
  match tree.node location with
  | some (.file content) => .ok (some content)
  | some _ => .ok none
  | none => .error .notFound

/-- Where opening a file for writing, made if it is missing, leads to. -/
def openForWrite (path : FilePath) : Except FileError Location := do
  let location ← tree.locate links cwd path
  if tree.canWrite location then .ok location
  else if (tree.node location).isSome then .error .isDirectory
  else .error .notFound

/-- The locations read and written, and the tree afterwards. -/
structure Copied where
  source : Location
  destination : Location
  after : Tree

/-- Both paths are followed through their links. -/
def copy (now : Int) (source destination : FilePath) : Result Copied := do
  let sourceAt ← io (tree.locate links cwd source) id
  match tree.node sourceAt with
  | none => .error (FileError.text .notFound)
  | some (.file content) => do
    let destinationAt ← io (openForWrite links cwd tree destination) id
    if h : tree.canWrite destinationAt = true then
      .ok ⟨sourceAt, destinationAt, tree.write destinationAt ⟨content.bytes, now⟩ h⟩
    else .error (FileError.text .isDirectory)
  | some _ =>
    .error "the source path is neither a regular file nor a symlink to a regular file"

end Files

/-! ### Forks -/

structure ForkFiles where
  basePath : FilePath
  baseHash : String
  baseModified : Int
  workPath : FilePath

structure ForkConfig where
  forkDir : FilePath
  maxForks : Nat

abbrev Forks := List (String × ForkFiles)

def maxFileSize : Nat := 100 * 1024 * 1024

section Forks
variable (links : Nat) (cwd : Location) (digest : List UInt8 → String) (tree : Tree)

def ForkFiles.validateBaseUnchanged (fork : ForkFiles) : Result Unit := do
  let content ← io (metadata links cwd tree fork.basePath) id
  let content ← required content (FileError.text .isDirectory)
  ensure (content.modified = fork.baseModified) "base file modified since fork creation"
  ensure (digest content.bytes = fork.baseHash) "base file content changed since fork creation"

/-- The target is checked by its canonical path and written by its own. -/
def saveFork (now : Int) (forks : Forks) (forkId : String) (targetPath workspaceRoot : FilePath) :
    Result Copied := do
  let _ ← canonicalizeAndEnforceWithinWorkspace links cwd tree workspaceRoot targetPath "target_path"
  ensure (FilePath.extension targetPath = some "xlsx") "target must be .xlsx"
  let fork ← required (forks.lookup forkId) ("fork not found: " ++ forkId)
  fork.validateBaseUnchanged links cwd digest tree
  copy links cwd tree now fork.workPath targetPath

/-- The first drawn identity that no fork and no work file has. -/
def allocateForkId (config : ForkConfig) (forks : Forks) (candidates : List String) : Result String :=
  required ((candidates.take 21).find? fun candidate => (forks.lookup candidate).isNone &&
    !tree.pathExists links cwd (FilePath.join config.forkDir (candidate ++ ".xlsx")))
    "failed to allocate unique fork id"

/-- `candidates` are drawn at random. The base is read by its canonical path. -/
def createFork (now : Int) (config : ForkConfig) (forks : Forks) (candidates : List String)
    (basePath workspaceRoot : FilePath) : Result (Copied × Forks) := do
  ensure (forks.length < config.maxForks) ("max forks (" ++ toString config.maxForks ++
    ") reached, discard existing forks first")
  ensure (FilePath.extension basePath = some "xlsx") "only .xlsx files supported for fork/recalc"
  ensure (tree.pathExists links cwd basePath = true) "base file does not exist"
  let canonical ← canonicalizeAndEnforceWithinWorkspace links cwd tree workspaceRoot basePath
    "base_path"
  let content ← io (metadata links cwd tree ⟨true, canonical⟩) id
  ensure (∀ file ∈ content, file.bytes.length ≤ maxFileSize) "base file too large"
  let forkId ← allocateForkId links cwd tree config forks candidates
  let workPath := FilePath.join config.forkDir (forkId ++ ".xlsx")
  let copied ← copy links cwd tree now ⟨true, canonical⟩ workPath
  let base ← io (metadata links cwd copied.after ⟨true, canonical⟩) id
  let base ← required base (FileError.text .isDirectory)
  pure (copied, (forkId, ⟨⟨true, canonical⟩, digest base.bytes, base.modified, workPath⟩) :: forks)

end Forks

end AgentSpreadsheet.Workspace
