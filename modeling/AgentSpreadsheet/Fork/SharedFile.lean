import AgentSpreadsheet.Revision
import AgentSpreadsheet.Library.Interference

/-! The work file of a fork under several calls at once. Canonical writes and
recalculations publish under the fork's lock; the older tools read the file and write it
back without. -/
namespace AgentSpreadsheet.SharedFile
open Library

/-- The work file with what the fork keeps about it. -/
structure WorkFork (Book : Type) where
  workFile : Book
  contentRevision : String
  stateRevision : String
  deriving DecidableEq

/-- A call on the fork. `edit`, `apply` and `evaluate` are what it does to the workbook, and
`fresh` is the revision it draws. -/
inductive ForkCall (Book : Type) where
  | tool (edit : Book → Result Book)
  | write (expectedRevision : String) (apply : Book → Result Book) (fresh : String)
  | recalculate (expectedRevision : String) (evaluate : Book → Result Book) (fresh : String)

section Calls
variable {Book : Type} (digest : Book → String)

namespace WorkFork
variable (fork : WorkFork Book)

def syncRevisions : WorkFork Book :=
  if digest fork.workFile = fork.contentRevision then fork
  else ⟨fork.workFile, digest fork.workFile, digest fork.workFile⟩

/-- The content is recorded and the revision advances. -/
def recordContent (fresh : String) : WorkFork Book := ⟨fork.workFile, digest fork.workFile, fresh⟩

end WorkFork

/-- A publication of a changed workbook, by its caller alone. -/
def publishAlone (expectedRevision : String) (change : Book → Result Book) (fresh : String)
    (fork : WorkFork Book) : Option (WorkFork Book) :=
  let synced := fork.syncRevisions digest
  if expectedRevision = synced.stateRevision then
    (change synced.workFile).toOption.map fun book =>
      ({ synced with workFile := book } : WorkFork Book).recordContent digest fresh
  else none

/-- A call that runs alone; none when it reports an error. -/
def ForkCall.runAlone (fork : WorkFork Book) : ForkCall Book → Option (WorkFork Book)
  | tool edit => (edit fork.workFile).toOption.map fun book => { fork with workFile := book }
  | write expectedRevision apply fresh => publishAlone digest expectedRevision apply fresh fork
  | recalculate expectedRevision evaluate fresh =>
    publishAlone digest expectedRevision evaluate fresh fork

/-- Calls one after another, the last one last in the list. -/
def runSerially (calls : Nat → Option (ForkCall Book)) (start : WorkFork Book) :
    List Nat → Option (WorkFork Book) :=
  List.foldl (fun fork call => fork.bind fun fork =>
    (calls call).bind fun call => call.runAlone digest fork) (some start)

/-! ### Accesses -/

/-- How far a call is: `reading` has read the file, `checked` has also compared the revision. -/
inductive Stage where
  | outside
  | reading
  | checked
  deriving DecidableEq

/-- `lock` is the call that holds the fork's lock. The code has none of the rest: `stage` is
how far the calls are, `owed` the revision of a publication whose content is not recorded
yet, `calls` are the calls made so far, `order` those that have written, and `failed` says
that one has reported an error. -/
structure ForkShare (Book : Type) where
  fork : WorkFork Book
  lock : Option Nat
  stage : Nat → Stage
  owed : Option String
  calls : Nat → Option (ForkCall Book)
  order : List Nat
  failed : Bool

inductive ForkAct (Book : Type) where
  | getFork (call : ForkCall Book)
  | lock
  | unlock
  | syncRevisions
  | readFile
  | replaceFile (book : Book) (owed : Option String)
  | recordContent (fresh : String)
  | report (message : String)

abbrev ForkAnswer {Book : Type} : ForkAct Book → Type
  | .syncRevisions => String
  | .readFile => Book
  | _ => Unit

namespace ForkShare
variable (s : ForkShare Book) (task : Nat)

def setStage (stage : Stage) : ForkShare Book :=
  { s with stage := Function.update s.stage task stage }

def getFork (call : ForkCall Book) : ForkShare Book :=
  { s with calls := Function.update s.calls task (some call) }

def syncRevisions : ForkShare Book :=
  ({ s with fork := s.fork.syncRevisions digest } : ForkShare Book).setStage task .checked

def readFile : ForkShare Book :=
  s.setStage task (if s.stage task = .checked then .checked else .reading)

/-- A tool is done with the file when it has written it. -/
def replaceFile (book : Book) (owed : Option String) : ForkShare Book :=
  ({ s with
    fork := { s.fork with workFile := book }
    owed := owed.or s.owed
    order := s.order ++ [task] } : ForkShare Book).setStage task
      (if owed.isSome then .checked else .outside)

def recordContent (fresh : String) : ForkShare Book :=
  ({ s with fork := s.fork.recordContent digest fresh, owed := none } : ForkShare Book).setStage task .outside

def report : ForkShare Book := ({ s with failed := true } : ForkShare Book).setStage task .outside

end ForkShare

/-- What an access does; `admits` restricts the writes of the file. -/
def performs (admits : Nat → ForkShare Book → Prop) (task : Nat) :
    (act : ForkAct Book) → ForkShare Book → ForkAnswer act → ForkShare Book → Prop
  | .getFork call, s, _, t => s.lock = none ∧ s.calls task = none ∧ t = s.getFork task call
  | .lock, s, _, t => s.lock = none ∧ t = { s with lock := some task }
  | .unlock, s, _, t => t = { s with lock := none }
  | .syncRevisions, s, answer, t =>
      answer = (s.fork.syncRevisions digest).stateRevision ∧ t = s.syncRevisions digest task
  | .readFile, s, answer, t => answer = s.fork.workFile ∧ t = s.readFile task
  | .replaceFile book owed, s, _, t => admits task s ∧ t = s.replaceFile task book owed
  | .recordContent fresh, s, _, t => t = s.recordContent digest task fresh
  | .report _, s, _, t => t = s.report task

def forkSharing (start : WorkFork Book) (admits : Nat → ForkShare Book → Prop) :
    Sharing Nat (@ForkAnswer Book) (ForkShare Book) where
  initial s := s = ⟨start, none, fun _ => .outside, none, fun _ => none, [], false⟩
  performs := performs digest admits
  release _ s := s
  event _ _ := False

/-! ### Calls -/

abbrev ForkScript (Book : Type) := Script (@ForkAnswer Book) String Unit

def conflict (expectedRevision current : String) : String :=
  "revision conflict: expected " ++ expectedRevision ++ ", current " ++ current

def reportError (message : String) : ForkScript Book :=
  .call (.report message) fun _ => .done (.error message)

def unlockError (message : String) : ForkScript Book :=
  .call .unlock fun _ => reportError message

/-- The end of a section that has the lock: the revision is compared again and the new
workbook put in the place of the old one. -/
def publish (expectedRevision : String) (book : Book) (fresh : String) : ForkScript Book :=
  .call .syncRevisions fun current =>
    if expectedRevision = current then
      .call (.replaceFile book (some fresh)) fun _ => .call (.recordContent fresh) fun _ =>
        .call .unlock fun _ => .done (.ok ())
    else unlockError (conflict expectedRevision current)

/-- `get_fork`, then the file is read, edited and written without the lock. -/
def toolScript (edit : Book → Result Book) : ForkScript Book :=
  .call (.getFork (.tool edit)) fun _ => .call .readFile fun book =>
    match edit book with
    | .ok book => .call (.replaceFile book none) fun _ => .done (.ok ())
    | .error e => reportError e

def writeScript (expectedRevision : String) (apply : Book → Result Book) (fresh : String) :
    ForkScript Book :=
  .call (.getFork (.write expectedRevision apply fresh)) fun _ => .call .lock fun _ =>
    .call .syncRevisions fun current =>
      if expectedRevision = current then
        .call .readFile fun book =>
          match apply book with
          | .ok book => publish expectedRevision book fresh
          | .error e => unlockError e
      else unlockError (conflict expectedRevision current)

/-- The workbook is copied and evaluated between two sections that have the lock. -/
def recalculateScript (expectedRevision : String) (evaluate : Book → Result Book)
    (fresh : String) : ForkScript Book :=
  .call (.getFork (.recalculate expectedRevision evaluate fresh)) fun _ => .call .lock fun _ =>
    .call .syncRevisions fun current =>
      if expectedRevision = current then
        .call .unlock fun _ => .call .readFile fun book =>
          match evaluate book with
          | .ok book => .call .lock fun _ => publish expectedRevision book fresh
          | .error e => reportError e
      else unlockError (conflict expectedRevision current)

def ForkCall.script : ForkCall Book → ForkScript Book
  | tool edit => toolScript edit
  | write expectedRevision apply fresh => writeScript expectedRevision apply fresh
  | recalculate expectedRevision evaluate fresh => recalculateScript expectedRevision evaluate fresh

def IsCall (script : ForkScript Book) : Prop := ∃ call : ForkCall Book, script = call.script

/-- Nobody else is between the first look at the file and the last. -/
def Undisturbed (task : Nat) (s : ForkShare Book) : Prop := ∀ other, other ≠ task → s.stage other = .outside

end Calls

end AgentSpreadsheet.SharedFile
