import AgentSpreadsheet.Library.Interference

/-! The cache of open workbooks beside the work files of the forks. A reader loads a file
between two acquisitions of the cache lock; a writer replaces the file and then takes the
workbook out of the cache. -/
namespace AgentSpreadsheet.WorkbookCache
open Library

/-- Canonical identities: those of forks, and those of the files of the workspace. -/
inductive WorkbookId where
  | fork (forkId : String)
  | indexed (identity : String)
  deriving DecidableEq

structure ResolvedWorkbookRef where
  workbookId : WorkbookId
  path : String
  deriving DecidableEq

structure WorkbookContext (Content : Type) where
  path : String
  content : Content
  deriving DecidableEq

/-- `written` are the contents a file has had, the current one first. `entries` has the
workbook used last in front. `acknowledged` says how many contents the work file of a fork
had had when a write was followed by its eviction, `opened` what was acknowledged when a
request resolved its workbook; the code reads neither. -/
structure CacheState (Content : Type) where
  forks : List String
  index : String → Option ResolvedWorkbookRef
  written : String → List Content
  capacity : Nat
  entries : List (WorkbookId × WorkbookContext Content)
  acknowledged : String → Nat
  opened : Nat → Nat

inductive CacheAct (Content : Type) where
  | resolve (name : String)
  | get (canonical : WorkbookId)
  | load (resolved : ResolvedWorkbookRef)
  | put (canonical : WorkbookId) (workbook : WorkbookContext Content)
  /-- A reader returns. -/
  | yield (canonical : WorkbookId) (workbook : WorkbookContext Content)
  | replaceWorkFile (forkId : String) (content : Content)
  /-- A writer evicts, after the write that made the given number of contents. -/
  | pop (canonical : WorkbookId) (writes : Nat)

abbrev CacheAnswer {Content : Type} : CacheAct Content → Type
  | .resolve _ => Option ResolvedWorkbookRef
  | .get _ => Option (WorkbookContext Content)
  | .load _ => Option (WorkbookContext Content)
  | .replaceWorkFile _ _ => Nat
  | _ => Unit

section Repository
variable {Content : Type} (workPath : String → String)

namespace CacheState
variable (s : CacheState Content)

/-- A fork by its own name, else a workbook of the index. -/
def resolve (name : String) : Option ResolvedWorkbookRef :=
  if name ∈ s.forks then some ⟨.fork name, workPath name⟩ else s.index name

def without (canonical : WorkbookId) : List (WorkbookId × WorkbookContext Content) :=
  s.entries.filter fun entry => entry.1 ≠ canonical

def find (canonical : WorkbookId) : Option (WorkbookContext Content) :=
  (s.entries.find? fun entry => entry.1 = canonical).map Prod.snd

/-- The entry used last comes first, and the one not used longest gives way. -/
def insert (canonical : WorkbookId) (workbook : WorkbookContext Content) : CacheState Content :=
  { s with entries := ((canonical, workbook) :: s.without canonical).take s.capacity }

def acknowledgedOf : WorkbookId → Nat
  | .fork forkId => s.acknowledged forkId
  | .indexed _ => 0

def opens (task : Nat) (answer : Option ResolvedWorkbookRef) : CacheState Content :=
  let writes := (answer.map fun resolved => s.acknowledgedOf resolved.workbookId).getD 0
  { s with opened := Function.update s.opened task writes }

def replace (path : String) (content : Content) : CacheState Content :=
  { s with written := Function.update s.written path (content :: s.written path) }

/-- An eviction after a write. -/
def pop (canonical : WorkbookId) (writes : Nat) : CacheState Content :=
  { s with
    entries := s.without canonical
    acknowledged := fun forkId =>
      if canonical = .fork forkId then max (s.acknowledged forkId) writes
      else s.acknowledged forkId }

def Separate : Prop := ∀ name resolved forkId, s.index name = some resolved →
  resolved.workbookId ≠ .fork forkId

end CacheState

/-- The content is one of the last a file has had, from the given number on. -/
def Since (written : List Content) (writes : Nat) (content : Content) : Prop :=
  ∃ newer older, written = newer ++ content :: older ∧ writes ≤ older.length + 1

/-- What an access does. `admits` restricts the insertions. -/
def performs (admits : CacheState Content → WorkbookId → WorkbookContext Content → Prop)
    (task : Nat) : (act : CacheAct Content) → CacheState Content → CacheAnswer act →
      CacheState Content → Prop
  | .resolve name, s, answer, t => answer = s.resolve workPath name ∧
      t = s.opens task answer
  | .get canonical, s, answer, t => answer = s.find canonical ∧
      t = match answer with
        | some workbook => s.insert canonical workbook
        | none => s
  | .load resolved, s, answer, t => t = s ∧ ∀ workbook, answer = some workbook →
      workbook.path = resolved.path ∧ (s.written resolved.path).head? = some workbook.content
  | .put canonical workbook, s, _, t => admits s canonical workbook ∧ t = s.insert canonical workbook
  | .yield _ _, s, _, t => t = s
  | .replaceWorkFile forkId content, s, answer, t =>
      answer = (s.written (workPath forkId)).length + 1 ∧
      t = s.replace (workPath forkId) content
  | .pop canonical writes, s, _, t => t = s.pop canonical writes

/-- Forks come and go, the workspace is scanned again, files are written otherwise, and
entries are evicted. -/
def Elsewhere (s t : CacheState Content) : Prop :=
  ∃ forks index written entries, t = { s with forks, index, written, entries } ∧ t.Separate ∧
    (∀ forkId, s.written (workPath forkId) <:+ written (workPath forkId)) ∧ entries.Sublist s.entries

def cacheSharing (admits : CacheState Content → WorkbookId → WorkbookContext Content → Prop) :
    Sharing Nat (@CacheAnswer Content) (CacheState Content) where
  initial s := s.entries = [] ∧ (∀ forkId, s.acknowledged forkId = 0) ∧ s.Separate
  performs := performs workPath admits
  release _ s := s
  event := Elsewhere workPath

/-! ### Requests -/

abbrev CacheScript (Content : Type) := Script (@CacheAnswer Content) String Unit

/-- The workbook is looked up, and loaded and put into the cache when it is not there. -/
def openResolved (resolved : ResolvedWorkbookRef) : CacheScript Content :=
  .call (.get resolved.workbookId) fun
    | some workbook => .call (.yield resolved.workbookId workbook) fun _ => .done (.ok ())
    | none => .call (.load resolved) fun
      | none => .done (.error "failed to parse workbook")
      | some workbook => .call (.put resolved.workbookId workbook) fun _ =>
        .call (.yield resolved.workbookId workbook) fun _ => .done (.ok ())

def openWorkbook (name : String) : CacheScript Content :=
  .call (.resolve name) fun
    | none => .done (.error ("workbook id " ++ name ++ " not found"))
    | some resolved => openResolved resolved

/-- `close_workbook`, after a write. -/
def closeWorkbook (name : String) (writes : Nat) : CacheScript Content :=
  .call (.resolve name) fun
    | none => .done (.error ("workbook id " ++ name ++ " not found"))
    | some resolved => .call (.pop resolved.workbookId writes) fun _ => .done (.ok ())

def writeFork (forkId : String) (content : Content) : CacheScript Content :=
  .call (.replaceWorkFile forkId content) fun writes => closeWorkbook forkId writes

inductive IsRequest : CacheScript Content → Prop
  | reader (name : String) : IsRequest (openWorkbook name)
  | writer (forkId : String) (content : Content) : IsRequest (writeFork forkId content)

/-- Whatever a writer has followed by an eviction is in what is inserted. -/
def InsertsRecent (s : CacheState Content) (canonical : WorkbookId)
    (workbook : WorkbookContext Content) : Prop :=
  ∀ forkId, canonical = .fork forkId →
    Since (s.written (workPath forkId)) (s.acknowledged forkId) workbook.content

end Repository

end AgentSpreadsheet.WorkbookCache
