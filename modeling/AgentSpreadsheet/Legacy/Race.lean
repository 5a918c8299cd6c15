import AgentSpreadsheet.Legacy.Integrity

/-! Clients of one legacy store whose calls interleave, one file access at a time.
The lock keeps appends apart and nothing else: a call that saves the branch table
saves over whatever was saved since it loaded it. -/
namespace AgentSpreadsheet.Legacy
open Library

/-- A call under way. `loaded` and `branch` are the table and the branch name it
has read last, `saved` the branch it has saved. -/
structure Running where
  call : Call
  script : FileScript Reply
  loaded : Option (List BranchInfo)
  branch : Option String
  saved : Option String

def Running.begin (tools : Tools Archive) (call : Call) : Running :=
  ⟨call, call.script tools, none, none, none⟩

def savedBranch (call : Call) (branch : Option String) : Option String :=
  match call with
  | .createBranch name _ _ => some name
  | .append _ => branch
  | _ => none

/-- What is known of a call after an access to `files`. -/
def Running.note (current : Running) (files : Files) : FileAct → Running
  | .readBranches => { current with loaded := some files.branches }
  | .readBranchName => { current with branch := some (trim files.currentBranch) }
  | .writeBranches _ => { current with saved := savedBranch current.call current.branch }
  | _ => current

structure Race (Client : Type) where
  files : Files
  holder : Option Client
  running : Client → Option Running
  acknowledged : List (Call × Reply)

def Race.start : Race Client := ⟨Files.create, none, fun _ => none, []⟩

section Steps
variable [DecidableEq Client] (tools : Tools Archive)

def Race.setRunning (race : Race Client) (client : Client) (current : Option Running) :
    Race Client :=
  { race with running := fun c => if c = client then current else race.running c }

def Race.begin (race : Race Client) (client : Client) (call : Call) : Race Client :=
  race.setRunning client (some (.begin tools call))

/-- Who holds the lock after an access of a client. -/
def holderAfter (holder : Option Client) (client : Client) : FileAct → Option Client
  | .lock => some client
  | .unlock => none
  | _ => holder

def Race.access (race : Race Client) (client : Client) (current : Running) (act : FileAct)
    (next : act.Ans → FileScript Reply) : Race Client :=
  { race with
    files := (act.perform race.files).2
    holder := holderAfter race.holder client act }.setRunning client
      (some { current.note race.files act with script := next (act.perform race.files).1 })

def Race.finish (race : Race Client) (client : Client) (call : Call) (result : Result Reply) :
    Race Client :=
  { race with
    acknowledged := match result with
      | .ok reply => race.acknowledged ++ [(call, reply)]
      | .error _ => race.acknowledged }.setRunning client none

/-- The states of all interleavings the lock permits, each access one `P` allows. -/
inductive RaceReaches (P : Race Client → Running → FileAct → Prop) : Race Client → Prop
  | start : RaceReaches P .start
  | begin {race : Race Client} (client : Client) (call : Call) :
      RaceReaches P race → race.running client = none →
      RaceReaches P (race.begin tools client call)
  | access {race : Race Client} (client : Client) (current : Running) (act : FileAct)
      (next : act.Ans → FileScript Reply) : RaceReaches P race →
      race.running client = some current → current.script = .call act next →
      (act = .lock → race.holder = none) → P race current act →
      RaceReaches P (race.access client current act next)
  | finish {race : Race Client} (client : Client) (current : Running) (result : Result Reply) :
      RaceReaches P race → race.running client = some current →
      current.script = .done result →
      RaceReaches P (race.finish client current.call result)

end Steps

def SavesFresh (race : Race Client) (current : Running) (act : FileAct) : Prop :=
  ∀ table, act = .writeBranches table → current.loaded = some race.files.branches

/-- An append finds its branch in the table, with a tip the event comes from. -/
def SavesAtTip (race : Race Client) (current : Running) (act : FileAct) : Prop :=
  ∀ table event branch, act = .writeBranches table → current.call = .append event →
    current.branch = some branch → ∃ info, getBranch race.files.branches branch = some info ∧
      ∀ tip, info.tipOpId = some tip → Ancestor race.files.log tip event.opId

def savedTable (call : Call) (branch : Option String) (loaded : List BranchInfo) :
    Option (List BranchInfo) :=
  match call, branch with
  | .createBranch name forkPoint label, _ =>
    some (loaded ++ [⟨name, forkPoint, forkPoint, label⟩])
  | .append event, some branch => some (setTip branch event.opId loaded)
  | _, _ => none

/-- The call has saved what it is acknowledged for. -/
def Acknowledges (call : Call) (saved : Option String) (reply : Reply) : Prop :=
  match call with
  | .createBranch name _ _ => saved = some name
  | .append _ => ∀ branch, reply = .appended branch → saved = some branch
  | _ => True

/-- What the rest of a call does to the branch table, whatever it reads: it saves
the table it has loaded with its own change. -/
def Behaves (call : Call) : FileScript Reply → Option (List BranchInfo) → Option String →
    Option String → Prop
  | .done result, _, _, saved => ∀ reply, result = .ok reply → Acknowledges call saved reply
  | .call act next, loaded, branch, saved =>
    match act, next with
    | .readBranches, next => ∀ table, Behaves call (next table) (some table) branch saved
    | .readBranchName, next => ∀ name, Behaves call (next name) loaded (some (trim name)) saved
    | .writeBranches table, next =>
      (∀ t, loaded = some t → savedTable call branch t = some table) ∧
        Behaves call (next ()) loaded branch (savedBranch call branch)
    | _, next => ∀ answer, Behaves call (next answer) loaded branch saved

def LeavesTable : FileScript α → Prop
  | .done _ => True
  | .call act next => (∀ table, act ≠ .writeBranches table) ∧ ∀ answer, LeavesTable (next answer)

section Scripts
variable {tools : Tools Archive} {call : Call} {loaded : Option (List BranchInfo)}
  {branch saved : Option String}

theorem LeavesTable.bind {x : FileScript α} {f : α → FileScript β} (hx : LeavesTable x)
    (hf : ∀ a, LeavesTable (f a)) : LeavesTable (x >>= f) := by
  change LeavesTable (x.bind f)
  induction x with
  | done result =>
    cases result with
    | ok a => exact hf a
    | error e => trivial
  | call act next ih => exact ⟨hx.1, fun answer => ih answer (hx.2 answer)⟩

theorem leavesTable_done (result : Result α) : LeavesTable (.done result : FileScript α) := trivial

theorem leavesTable_guard (p : Prop) [Decidable p] (message : String) :
    LeavesTable (Script.guard p message : FileScript Unit) := by
  unfold Script.guard
  split <;> exact leavesTable_done _

theorem leavesTable_access {act : FileAct} (h : ∀ table, act ≠ .writeBranches table) :
    LeavesTable (access act) := ⟨h, fun _ => leavesTable_done _⟩

theorem ensureLegacyWritable_leavesTable : LeavesTable ensureLegacyWritable :=
  (leavesTable_access (by simp)).bind fun _ => leavesTable_guard _ _

theorem readHead_leavesTable : LeavesTable readHead :=
  (leavesTable_access (by simp)).bind fun _ => leavesTable_done _

theorem writeHead_leavesTable (opId : String) : LeavesTable (writeHead opId) :=
  ensureLegacyWritable_leavesTable.bind fun _ => leavesTable_access (by simp)

theorem readEvents_leavesTable : LeavesTable (Legacy.readEvents tools) := by
  refine (leavesTable_access (by simp)).bind fun events => ?_
  refine (leavesTable_done _).bind fun _ => ?_
  refine (leavesTable_access (by simp)).bind fun branches => ?_
  refine readHead_leavesTable.bind fun head => ?_
  exact (leavesTable_done _).bind fun committed => leavesTable_done _

theorem checkPreconditions_leavesTable (event : OpEvent) :
    LeavesTable (checkPreconditions tools event) := by
  have hmaterialize : LeavesTable (materialize tools) := by
    refine readHead_leavesTable.bind fun head => ?_
    cases head with
    | none => exact leavesTable_done _
    | some id =>
      refine readEvents_leavesTable.bind fun events => ?_
      exact (leavesTable_done _).bind fun _ => leavesTable_done _
  unfold checkPreconditions
  split
  · exact leavesTable_done _
  split
  · exact leavesTable_done _
  refine hmaterialize.bind fun bytes => (leavesTable_guard _ _).bind fun _ => ?_
  split
  · exact leavesTable_done _
  · exact (leavesTable_done _).bind fun _ => leavesTable_guard _ _

theorem previousHash_leavesTable (head : Option String) : LeavesTable (previousHash head) := by
  cases head with
  | none => exact leavesTable_done _
  | some id => exact (leavesTable_access (by simp)).bind fun _ => leavesTable_done _

/-- A part that saves no table may read anything. -/
theorem Behaves.bind {x : FileScript α} {f : α → FileScript Reply} (hx : LeavesTable x)
    (hf : ∀ a loaded branch, Behaves call (f a) loaded branch saved) :
    Behaves call (x >>= f) loaded branch saved := by
  change Behaves call (x.bind f) loaded branch saved
  induction x generalizing loaded branch with
  | done result =>
    cases result with
    | ok a => exact hf a loaded branch
    | error e =>
      intro reply hreply
      cases hreply
  | call act next ih =>
    cases act with
    | writeBranches table => exact absurd rfl (hx.1 table)
    | _ => exact fun answer => ih answer (hx.2 answer)

theorem Behaves.guard {p : Prop} [Decidable p] {message : String} {f : Unit → FileScript Reply}
    (h : Behaves call (f ()) loaded branch saved) :
    Behaves call (Script.guard p message >>= f) loaded branch saved := by
  unfold Script.guard
  split
  · exact h
  · intro reply hreply
    cases hreply

theorem Behaves.of_leavesTable {x : FileScript α} {f : α → Reply} (hx : LeavesTable x)
    (hcall : ∀ reply, Acknowledges call saved reply) :
    Behaves call (x >>= fun a => pure (f a)) loaded branch saved :=
  .bind hx fun _ _ _ reply _ => hcall reply

theorem Behaves.unlocking {x : FileScript α} {f : α → FileScript Reply}
    (h : Behaves call (x >>= f) loaded branch saved) :
    Behaves call (Legacy.unlocking x >>= f) loaded branch saved := by
  change Behaves call (x.bind f) loaded branch saved at h
  change Behaves call ((Legacy.unlocking x).bind f) loaded branch saved
  induction x generalizing loaded branch saved with
  | done result => exact fun _ => h
  | call act next ih =>
    cases act with
    | writeBranches table => exact ⟨h.1, ih () h.2⟩
    | _ => exact fun answer => ih answer (h answer)

theorem append_behaves (event : OpEvent) :
    Behaves (.append event) ((Call.append event).script tools) loaded branch saved := by
  unfold Call.script appendEvent
  simp only [Script.bind_assoc]
  refine .bind (leavesTable_done _) fun _ _ _ => ?_
  refine .bind (leavesTable_guard _ _) fun _ _ _ => ?_
  refine .bind ensureLegacyWritable_leavesTable fun _ _ _ => ?_
  refine .bind (leavesTable_access (by simp)) fun _ _ _ => .unlocking ?_
  unfold appendLocked currentBranch
  simp only [Script.bind_assoc]
  refine .bind ensureLegacyWritable_leavesTable fun _ _ _ => ?_
  refine .bind readHead_leavesTable fun head _ _ => ?_
  refine .bind (leavesTable_guard _ _) fun _ _ _ => ?_
  refine .bind (checkPreconditions_leavesTable event) fun _ _ _ => ?_
  refine .bind (previousHash_leavesTable head) fun previous _ _ => ?_
  refine .bind (leavesTable_access (by simp)) fun _ _ _ => ?_
  refine .bind (writeHead_leavesTable _) fun _ _ _ => ?_
  -- the branch name, then the table, then the save of both
  intro name table
  refine ⟨fun t ht => ?_, fun reply hreply branch hbranch => ?_⟩
  · rw [← Option.some.inj ht]
    rfl
  · rw [← Except.ok.inj hreply] at hbranch
    exact congrArg some (Reply.appended.inj hbranch)

theorem Call.script_behaves (call : Call) :
    Behaves call (call.script tools) loaded branch saved := by
  cases call with
  | append event => exact append_behaves event
  | createBranch name forkPoint label =>
    unfold Call.script Legacy.createBranch
    simp only [Script.bind_assoc]
    refine .bind ensureLegacyWritable_leavesTable fun _ _ _ => ?_
    intro table
    refine Behaves.guard ⟨fun t ht => ?_, fun _ _ => rfl⟩
    rw [← Option.some.inj ht]
    rfl
  | switchBranch name =>
    refine .of_leavesTable ?_ fun _ => trivial
    refine ensureLegacyWritable_leavesTable.bind fun _ => ?_
    refine (leavesTable_access (by simp)).bind fun branches => ?_
    refine (leavesTable_done _).bind fun branch => ?_
    refine (leavesTable_access (by simp)).bind fun _ => ?_
    cases branch.tipOpId with
    | some opId => exact writeHead_leavesTable opId
    | none => exact writeHead_leavesTable ""
  | undo =>
    refine .of_leavesTable ?_ fun _ => trivial
    refine readHead_leavesTable.bind fun head => ?_
    cases head with
    | none => exact leavesTable_done _
    | some id =>
      refine readEvents_leavesTable.bind fun events => (leavesTable_done _).bind fun event => ?_
      rw [moveHead_eq]
      exact (writeHead_leavesTable _).bind fun _ => leavesTable_done _
  | redo =>
    refine .of_leavesTable ?_ fun _ => trivial
    refine readHead_leavesTable.bind fun head => readEvents_leavesTable.bind fun events => ?_
    refine (leavesTable_done _).bind fun event => ?_
    exact (writeHead_leavesTable _).bind fun _ => leavesTable_done _
  | checkout opId =>
    refine .of_leavesTable ?_ fun _ => trivial
    refine readEvents_leavesTable.bind fun events => (leavesTable_guard _ _).bind fun _ => ?_
    exact writeHead_leavesTable opId

end Scripts

section Tables
variable {branches : List BranchInfo} {name other opId : String} {info : BranchInfo}

theorem getBranch_append (h : getBranch branches name = some info) (more : List BranchInfo) :
    getBranch (branches ++ more) name = some info := by
  unfold getBranch at h ⊢
  rw [List.find?_append, h]
  rfl

theorem getBranch_append_self (h : info.name = name) :
    ∃ found, getBranch (branches ++ [info]) name = some found := by
  cases hfind : getBranch (branches ++ [info]) name with
  | some found => exact ⟨found, rfl⟩
  | none =>
    have hnot := List.find?_eq_none.mp hfind info (by simp)
    simp [h] at hnot

theorem getBranch_setTip_of_ne (hne : name ≠ other) :
    getBranch (setTip other opId branches) name = getBranch branches name := by
  induction branches with
  | nil => rfl
  | cons first rest ih =>
    unfold setTip getBranch
    split
    · rename_i hfirst
      rw [List.find?_cons_of_neg (by simpa [hfirst] using hne.symm),
        List.find?_cons_of_neg (by simpa [hfirst] using hne.symm)]
    · rw [List.find?_cons, List.find?_cons]
      split
      · rfl
      · exact ih

theorem getBranch_setTip_self (h : getBranch branches name = some info) :
    getBranch (setTip name opId branches) name = some { info with tipOpId := some opId } := by
  induction branches with
  | nil => cases h
  | cons first rest ih =>
    unfold setTip
    unfold getBranch at h ih ⊢
    by_cases hfirst : first.name = name
    · rw [List.find?_cons_of_pos (by simpa using hfirst)] at h
      obtain rfl := Option.some.inj h
      rw [if_pos hfirst, List.find?_cons_of_pos (by simpa using hfirst)]
    · rw [List.find?_cons_of_neg (by simpa using hfirst)] at h
      rw [if_neg hfirst, List.find?_cons_of_neg (by simpa using hfirst)]
      exact ih h

end Tables

def KeepsBranch (files : Files) (name : String) : Prop :=
  ∃ info, getBranch files.branches name = some info

/-- The event is the tip of its branch or one of the tip's ancestors. -/
def KeepsEvent (files : Files) (event : OpEvent) (branch : String) : Prop :=
  ∃ info tip, getBranch files.branches branch = some info ∧ info.tipOpId = some tip ∧
    Ancestor files.log event.opId tip

/-- What a call has saved is still there. `tips` says whether events count. -/
def Kept (tips : Prop) (files : Files) (call : Call) (saved : Option String) : Prop :=
  match call with
  | .createBranch name _ _ => saved = some name → KeepsBranch files name
  | .append event => tips → ∀ branch, saved = some branch → KeepsEvent files event branch
  | _ => True

structure Grows (tips : Prop) (files files' : Files) : Prop where
  branch : ∀ name, KeepsBranch files name → KeepsBranch files' name
  event : tips → ∀ event branch, KeepsEvent files event branch → KeepsEvent files' event branch

structure Race.Sound (tips : Prop) (race : Race Client) : Prop where
  running : ∀ client current, race.running client = some current →
    Behaves current.call current.script current.loaded current.branch current.saved ∧
      Kept tips race.files current.call current.saved
  acknowledged : ∀ call reply, (call, reply) ∈ race.acknowledged →
    ∃ saved, Acknowledges call saved reply ∧ Kept tips race.files call saved

section Sound
variable {tools : Tools Archive} {tips : Prop} {files files' : Files} {call : Call}
  {saved : Option String}

theorem Kept.grows (h : Kept tips files call saved) (hgrows : Grows tips files files') :
    Kept tips files' call saved := by
  cases call with
  | createBranch name forkPoint label => exact fun hsaved => hgrows.branch name (h hsaved)
  | append event =>
    exact fun htips branch hsaved => hgrows.event htips event branch (h htips branch hsaved)
  | _ => trivial

theorem Grows.of_branches (h : files'.branches = files.branches) (hlog : files'.log = files.log) :
    Grows tips files files' := by
  refine ⟨fun name hname => ?_, fun _ event branch hevent => ?_⟩
  · unfold KeepsBranch
    rw [h]
    exact hname
  · unfold KeepsEvent
    rw [h, hlog]
    exact hevent

theorem Ancestor.grow {log : List OpEvent} {a b : String} (h : Ancestor log a b)
    (more : List OpEvent) : Ancestor (log ++ more) a b := by
  induction h with
  | refl => exact .refl
  | step found parent _ ih =>
    refine .step ?_ parent ih
    unfold findEvent at found ⊢
    rw [List.find?_append, found]
    rfl

/-- A saved table with a new branch, or with a tip moved on. -/
theorem Grows.save {table : List BranchInfo} {branch : Option String}
    (htable : savedTable call branch files.branches = some table)
    (htip : tips → ∀ event name, call = .append event → branch = some name →
      ∃ info, getBranch files.branches name = some info ∧
        ∀ tip, info.tipOpId = some tip → Ancestor files.log tip event.opId) :
    Grows tips files { files with branches := table } ∧
      Kept tips { files with branches := table } call (savedBranch call branch) := by
  cases call with
  | createBranch name forkPoint label =>
    obtain rfl := Option.some.inj htable
    refine ⟨⟨?_, ?_⟩, fun _ => getBranch_append_self rfl⟩
    · exact fun other ⟨info, hinfo⟩ => ⟨info, getBranch_append hinfo _⟩
    · exact fun _ event other ⟨info, tip, hinfo, hevent⟩ =>
        ⟨info, tip, getBranch_append hinfo _, hevent⟩
  | append event =>
    cases branch with
    | none => cases htable
    | some name =>
      obtain rfl := Option.some.inj htable
      refine ⟨⟨?_, ?_⟩, ?_⟩
      · rintro other ⟨info, hinfo⟩
        by_cases hother : other = name
        · subst hother
          exact ⟨_, getBranch_setTip_self hinfo⟩
        · exact ⟨info, (getBranch_setTip_of_ne hother).trans hinfo⟩
      · rintro htips other branch ⟨info, tip, hinfo, hinfoTip, hancestor⟩
        by_cases hbranch : branch = name
        · -- the old tip is an ancestor of the new one
          subst hbranch
          obtain ⟨info', hinfo', hbelow⟩ := htip htips event branch rfl rfl
          rw [hinfo] at hinfo'
          obtain rfl := Option.some.inj hinfo'
          exact ⟨_, event.opId, getBranch_setTip_self hinfo, rfl,
            hancestor.trans (hbelow tip hinfoTip)⟩
        · exact ⟨info, tip, (getBranch_setTip_of_ne hbranch).trans hinfo, hinfoTip, hancestor⟩
      · intro htips branch hbranch
        obtain rfl := Option.some.inj hbranch
        obtain ⟨info, hinfo, _⟩ := htip htips event name rfl rfl
        exact ⟨_, event.opId, getBranch_setTip_self hinfo, rfl, .refl⟩
  | _ => cases htable

variable [DecidableEq Client] {race : Race Client} {client : Client} {current : Running}

theorem Race.Sound.access (h : race.Sound tips) {act : FileAct}
    {next : act.Ans → FileScript Reply} (hcurrent : race.running client = some current)
    (hscript : current.script = .call act next) (hfresh : SavesFresh race current act)
    (htip : tips → SavesAtTip race current act) :
    (race.access client current act next).Sound tips := by
  obtain ⟨hbehaves, hkept⟩ := h.running client current hcurrent
  rw [hscript] at hbehaves
  have hstep : Grows tips race.files (act.perform race.files).2 ∧
      Behaves current.call (next (act.perform race.files).1)
        (current.note race.files act).loaded (current.note race.files act).branch
        (current.note race.files act).saved ∧
      Kept tips (act.perform race.files).2 current.call (current.note race.files act).saved := by
    cases act with
    | writeBranches table =>
      obtain ⟨hgrows, hsaved⟩ := Grows.save (hbehaves.1 _ (hfresh table rfl))
        fun htips event name hcall hname => htip htips table event name rfl hcall hname
      exact ⟨hgrows, hbehaves.2, hsaved⟩
    | appendLog event =>
      have hgrows : Grows tips race.files ((FileAct.appendLog event).perform race.files).2 :=
        ⟨fun _ h => h, fun _ other branch ⟨info, tip, hinfo, hinfoTip, hancestor⟩ =>
          ⟨info, tip, hinfo, hinfoTip, hancestor.grow [event]⟩⟩
      exact ⟨hgrows, hbehaves (), hkept.grows hgrows⟩
    | _ => exact ⟨.of_branches rfl rfl, hbehaves _, hkept.grows (.of_branches rfl rfl)⟩
  obtain ⟨hgrows, hbehaves', hkept'⟩ := hstep
  refine ⟨fun other found hfound => ?_, fun call reply hack => ?_⟩
  · change (if other = client then _ else race.running other) = some found at hfound
    split at hfound
    · obtain rfl := Option.some.inj hfound
      have hcall : (current.note race.files act).call = current.call := by cases act <;> rfl
      dsimp only
      rw [hcall]
      exact ⟨hbehaves', hkept'⟩
    · obtain ⟨hb, hk⟩ := h.running other found hfound
      exact ⟨hb, hk.grows hgrows⟩
  · obtain ⟨saved, hack, hk⟩ := h.acknowledged call reply hack
    exact ⟨saved, hack, hk.grows hgrows⟩

theorem Race.Sound.begin (h : race.Sound tips) (client : Client) (call : Call) :
    (race.begin tools client call).Sound tips := by
  refine ⟨fun other found hfound => ?_, h.acknowledged⟩
  change (if other = client then _ else race.running other) = some found at hfound
  split at hfound
  · obtain rfl := Option.some.inj hfound
    refine ⟨call.script_behaves, ?_⟩
    cases call with
    | createBranch name forkPoint label =>
      intro hsaved
      cases hsaved
    | append event =>
      intro _ branch hsaved
      cases hsaved
    | _ => trivial
  · exact h.running other found hfound

theorem Race.Sound.finish (h : race.Sound tips) {result : Result Reply}
    (hcurrent : race.running client = some current) (hscript : current.script = .done result) :
    (race.finish client current.call result).Sound tips := by
  obtain ⟨hbehaves, hkept⟩ := h.running client current hcurrent
  rw [hscript] at hbehaves
  refine ⟨fun other found hfound => ?_, fun call reply hack => ?_⟩
  · change (if other = client then none else race.running other) = some found at hfound
    split at hfound
    · cases hfound
    · exact h.running other found hfound
  · cases result with
    | error e => exact h.acknowledged call reply hack
    | ok done =>
      rcases List.mem_append.mp hack with hack | hack
      · exact h.acknowledged call reply hack
      · obtain ⟨rfl, rfl⟩ := Prod.mk.inj (List.mem_singleton.mp hack)
        exact ⟨current.saved, hbehaves reply rfl, hkept⟩

theorem RaceReaches.sound
    (h : RaceReaches tools (fun race current act => SavesFresh race current act ∧
      (tips → SavesAtTip race current act)) race) : race.Sound tips := by
  induction h with
  | start =>
    refine ⟨fun _ _ hrunning => ?_, fun _ _ hack => ?_⟩
    · cases hrunning
    · cases hack
  | begin client call _ _ ih => exact ih.begin client call
  | access client current act next _ hcurrent hscript _ hsaves ih =>
    exact ih.access hcurrent hscript hsaves.1 hsaves.2
  | finish client current result _ hcurrent hscript ih => exact ih.finish hcurrent hscript

end Sound

theorem RaceReaches.imp [DecidableEq Client] {tools : Tools Archive}
    {P Q : Race Client → Running → FileAct → Prop} {race : Race Client}
    (h : RaceReaches tools P race) (himp : ∀ race current act, P race current act → Q race current act) :
    RaceReaches tools Q race := by
  induction h with
  | start => exact .start
  | begin client call _ hidle ih => exact .begin client call ih hidle
  | access client current act next _ hcurrent hscript hlock hP ih =>
    exact .access client current act next ih hcurrent hscript hlock (himp _ _ _ hP)
  | finish client current result _ hcurrent hscript ih =>
    exact .finish client current result ih hcurrent hscript

inductive Turn (Client : Type) where
  | begin (client : Client) (call : Call)
  | step (client : Client)

section Schedules
variable [DecidableEq Client] (tools : Tools Archive)

def Race.turn (race : Race Client) : Turn Client → Option (Race Client)
  | .begin client call =>
    match race.running client with
    | none => some (race.begin tools client call)
    | some _ => none
  | .step client =>
    match race.running client with
    | none => none
    | some current =>
      match current.script with
      | .done result => some (race.finish client current.call result)
      | .call act next =>
        if act = .lock ∧ race.holder.isSome = true then none
        else some (race.access client current act next)

/-- Whether a save finds the table that was loaded, and an append an empty branch
or the parent of its event. -/
def savesSafely (race : Race Client) (current : Running) : Bool :=
  match current.script with
  | .call (.writeBranches _) _ =>
    current.loaded == some race.files.branches &&
      match current.call, current.branch with
      | .append event, some branch => (getBranch race.files.branches branch).any fun info =>
          info.tipOpId.all fun tip =>
            (findEvent race.files.log event.opId).any (·.parentId == some tip)
      | _, _ => true
  | _ => true

def Race.safe (race : Race Client) : Turn Client → Bool
  | .begin _ _ => true
  | .step client => (race.running client).all (savesSafely race)

def Race.play (race : Race Client) : List (Turn Client) → Option (Race Client)
  | [] => some race
  | turn :: rest => (race.turn tools turn).bind fun race => race.play rest

def Race.safely (race : Race Client) : List (Turn Client) → Bool
  | [] => true
  | turn :: rest => race.safe turn && (race.turn tools turn).all fun race => race.safely rest

variable {tools} {race race' : Race Client} {P : Race Client → Running → FileAct → Prop}

theorem RaceReaches.turn {turn : Turn Client} (h : RaceReaches tools P race)
    (hturn : race.turn tools turn = some race')
    (hP : ∀ client current act next, turn = .step client → race.running client = some current →
      current.script = .call act next → P race current act) : RaceReaches tools P race' := by
  cases turn with
  | begin client call =>
    unfold Race.turn at hturn
    dsimp only at hturn
    split at hturn
    · rename_i hidle
      rw [← Option.some.inj hturn]
      exact .begin client call h hidle
    · cases hturn
  | step client =>
    unfold Race.turn at hturn
    dsimp only at hturn
    split at hturn
    · cases hturn
    rename_i current hcurrent
    split at hturn
    · rename_i result hscript
      rw [← Option.some.inj hturn]
      exact .finish client current result h hcurrent hscript
    · rename_i act next hscript
      split at hturn
      · cases hturn
      · rename_i hfree
        rw [← Option.some.inj hturn]
        refine .access client current act next h hcurrent hscript (fun hlock => ?_)
          (hP client current act next rfl hcurrent hscript)
        cases hholder : race.holder with
        | none => rfl
        | some holder => exact absurd ⟨hlock, by rw [hholder]; rfl⟩ hfree

theorem RaceReaches.play {turns : List (Turn Client)}
    (h : RaceReaches tools (fun _ _ _ => True) race) (hplay : race.play tools turns = some race') :
    RaceReaches tools (fun _ _ _ => True) race' := by
  induction turns generalizing race with
  | nil =>
    rw [← Option.some.inj hplay]
    exact h
  | cons turn rest ih =>
    obtain ⟨next, hnext, hrest⟩ := Option.bind_eq_some_iff.mp hplay
    exact ih (h.turn hnext fun _ _ _ _ _ _ _ => trivial) hrest

theorem savesSafely_saves {current : Running} {act : FileAct} {next : act.Ans → FileScript Reply}
    (h : savesSafely race current = true) (hscript : current.script = .call act next) :
    SavesFresh race current act ∧ SavesAtTip race current act := by
  unfold savesSafely at h
  rw [hscript] at h
  constructor
  · intro table hact
    subst hact
    exact beq_iff_eq.mp (Bool.and_eq_true_iff.mp h).1
  · intro table event branch hact hcall hbranch
    subst hact
    have htip := (Bool.and_eq_true_iff.mp h).2
    rw [hcall, hbranch] at htip
    obtain ⟨info, hinfo, hparent⟩ := Option.any_eq_true _ _ |>.mp htip
    refine ⟨info, hinfo, fun tip hinfoTip => ?_⟩
    rw [hinfoTip] at hparent
    obtain ⟨found, hfound, hchild⟩ := Option.any_eq_true _ _ |>.mp hparent
    exact .step hfound (beq_iff_eq.mp hchild) .refl

theorem RaceReaches.playSafely {turns : List (Turn Client)}
    (h : RaceReaches tools
      (fun race current act => SavesFresh race current act ∧ SavesAtTip race current act) race)
    (hplay : race.play tools turns = some race') (hsafe : race.safely tools turns = true) :
    RaceReaches tools
      (fun race current act => SavesFresh race current act ∧ SavesAtTip race current act) race' := by
  induction turns generalizing race with
  | nil =>
    rw [← Option.some.inj hplay]
    exact h
  | cons turn rest ih =>
    obtain ⟨next, hnext, hrest⟩ := Option.bind_eq_some_iff.mp hplay
    obtain ⟨hturn, hafter⟩ := Bool.and_eq_true_iff.mp hsafe
    rw [hnext] at hafter
    refine ih (h.turn hnext fun client current act next hstep hcurrent hscript => ?_) hrest hafter
    subst hstep
    unfold Race.safe at hturn
    dsimp only at hturn
    rw [hcurrent] at hturn
    exact savesSafely_saves hturn hscript

end Schedules

def steps (client : Client) (n : Nat) : List (Turn Client) := List.replicate n (.step client)

/-- A branch created while an append waits to load the table. -/
def apartTurns : List (Turn Bool) :=
  .begin true (.append (sampleEvent "a" none)) :: steps true 8 ++
    .begin false (.createBranch "alt" none none) :: steps false 4 ++ steps true 4

/-- Calls one after the other: the second event is undone and the branch moved on
to the third. -/
def movedOnTurns : List (Turn Bool) :=
  .begin true (.append (sampleEvent "a" none)) :: steps true 12 ++
    .begin true (.append (sampleEvent "b" (some "a"))) :: steps true 13 ++
    .begin true .undo :: steps true 7 ++
    .begin true (.append (sampleEvent "c" (some "a"))) :: steps true 13

/-- A branch created between the load and the save of an append. -/
def overlappingTurns : List (Turn Bool) :=
  .begin true (.append (sampleEvent "a" none)) :: steps true 9 ++
    .begin false (.createBranch "alt" none none) :: steps false 4 ++ steps true 3

theorem Ancestor.parent {log : List OpEvent} {a b : String} {parentId : Option String}
    (h : Ancestor log a b) (hne : a ≠ b) (hb : (findEvent log b).map (·.parentId) = some parentId) :
    ∃ p, parentId = some p ∧ Ancestor log a p := by
  cases h with
  | refl => exact absurd rfl hne
  | step found parent above =>
    rw [found] at hb
    exact ⟨_, (Option.some.inj hb).symm.trans parent, above⟩

theorem movedOnTurns_lose_event : ∃ race, Race.start.play sampleTools movedOnTurns = some race ∧
    (Call.append (sampleEvent "b" (some "a")), Reply.appended "main") ∈ race.acknowledged ∧
    ¬ KeepsEvent race.files (sampleEvent "b" (some "a")) "main" := by
  have hends : (Race.start.play sampleTools movedOnTurns).map (fun race =>
      (race.acknowledged[1]?, race.files.branches,
        ["a", "c"].map fun id => (findEvent race.files.log id).map (·.parentId))) =
      some (some (.append (sampleEvent "b" (some "a")), .appended "main"),
        [⟨"main", some "c", none, none⟩], [some none, some (some "a")]) := by decide +kernel
  obtain ⟨race, hplay, hrace⟩ := Option.map_eq_some_iff.mp hends
  simp only [Prod.mk.injEq, List.map_cons, List.cons.injEq] at hrace
  obtain ⟨hack, hbranches, hroot, hchild, _⟩ := hrace
  refine ⟨race, hplay, List.mem_of_getElem? hack, ?_⟩
  rintro ⟨info, tip, hinfo, htip, hancestor⟩
  rw [hbranches] at hinfo
  obtain rfl := Option.some.inj hinfo
  obtain rfl := Option.some.inj htip
  -- the path of "c" is "a" alone
  obtain ⟨p, hp, habove⟩ := hancestor.parent (by decide) hchild
  obtain rfl := Option.some.inj hp
  obtain ⟨p, hp, _⟩ := habove.parent (by decide) hroot
  cases hp

theorem overlappingTurns_lose_branch :
    ∃ race, Race.start.play sampleTools overlappingTurns = some race ∧
      (Call.createBranch "alt" none none, Reply.done) ∈ race.acknowledged ∧
      ¬ KeepsBranch race.files "alt" := by
  have hends : (Race.start.play sampleTools overlappingTurns).map (fun race =>
      (race.acknowledged, race.files.branches)) =
      some ([(.createBranch "alt" none none, .done),
        (.append (sampleEvent "a" none), .appended "main")],
        [⟨"main", some "a", none, none⟩]) := by decide +kernel
  obtain ⟨race, hplay, hrace⟩ := Option.map_eq_some_iff.mp hends
  obtain ⟨hack, hbranches⟩ := Prod.mk.inj hrace
  refine ⟨race, hplay, ?_, ?_⟩
  · rw [hack]
    simp
  · rintro ⟨info, hinfo⟩
    rw [hbranches] at hinfo
    cases hinfo

end AgentSpreadsheet.Legacy
