import AgentSpreadsheet.Fork.WorkbookCache

/-! When the cache does not outlive a write. It does not as long as nothing older than an
acknowledged write is inserted; a reader that loaded the file before the write and inserts
it after the eviction brings the old workbook back. -/
namespace AgentSpreadsheet.WorkbookCache
open Library

section Freshness
variable {Content : Type} {workPath : String → String} {s t : CacheState Content}

theorem Since.weaken {written : List Content} {writes fewer : Nat} {content : Content}
    (h : Since written writes content) (hle : fewer ≤ writes) : Since written fewer content := by
  obtain ⟨newer, older, hwritten, hwrites⟩ := h
  exact ⟨newer, older, hwritten, by omega⟩

theorem Since.grow {written written' : List Content} {writes : Nat} {content : Content}
    (h : Since written writes content) (hgrow : written <:+ written') :
    Since written' writes content := by
  obtain ⟨newer, older, hwritten, hwrites⟩ := h
  obtain ⟨newest, hnewest⟩ := hgrow
  refine ⟨newest ++ newer, older, ?_, hwrites⟩
  rw [← hnewest, hwritten, List.append_assoc]

theorem since_head {written : List Content} {writes : Nat} {content : Content}
    (h : written.head? = some content) (hle : writes ≤ written.length) :
    Since written writes content := by
  cases written with
  | nil => contradiction
  | cons head older =>
    injection h with h
    subst h
    exact ⟨[], older, rfl, hle⟩

/-- No entry of a fork is older than its acknowledged writes. -/
structure Fresh (workPath : String → String) (s : CacheState Content) : Prop where
  cached : ∀ forkId workbook, (WorkbookId.fork forkId, workbook) ∈ s.entries →
    Since (s.written (workPath forkId)) (s.acknowledged forkId) workbook.content
  acknowledged : ∀ forkId, s.acknowledged forkId ≤ (s.written (workPath forkId)).length
  separate : s.Separate

/-- Files are written on, and acknowledgements stay. -/
structure Grows (workPath : String → String) (s t : CacheState Content) : Prop where
  acknowledged : ∀ forkId, s.acknowledged forkId ≤ t.acknowledged forkId
  written : ∀ forkId, s.written (workPath forkId) <:+ t.written (workPath forkId)

theorem Grows.of_eq (hacknowledged : t.acknowledged = s.acknowledged)
    (hwritten : t.written = s.written) : Grows workPath s t := by
  constructor
  · intro forkId
    exact Nat.le_of_eq (congrFun hacknowledged forkId).symm
  · intro forkId
    have hsame : t.written (workPath forkId) = s.written (workPath forkId) := congrFun hwritten _
    exact hsame ▸ List.suffix_refl _

theorem Grows.refl (s : CacheState Content) : Grows workPath s s := .of_eq rfl rfl

theorem Grows.trans {u : CacheState Content} (h : Grows workPath s t) (h' : Grows workPath t u) :
    Grows workPath s u :=
  ⟨fun forkId => Nat.le_trans (h.acknowledged forkId) (h'.acknowledged forkId),
    fun forkId => (h.written forkId).trans (h'.written forkId)⟩

def Yields (workPath : String → String) (task : Nat) (canonical : WorkbookId)
    (workbook : WorkbookContext Content) (s : CacheState Content) : Prop :=
  ∀ forkId, canonical = .fork forkId →
    Since (s.written (workPath forkId)) (s.opened task) workbook.content

/-- A return is allowed when it is recent, an eviction when its write was made. -/
def Allowed (workPath : String → String) (task : Nat) : CacheAct Content → CacheState Content → Prop
  | .yield canonical workbook, s => Yields workPath task canonical workbook s
  | .pop canonical writes, s => ∀ forkId, canonical = .fork forkId →
      writes ≤ (s.written (workPath forkId)).length
  | _, _ => True

def freshness (workPath : String → String) : Discipline Nat (CacheAct Content) (CacheState Content) where
  inv := Fresh workPath
  rely task s t := t.opened task = s.opened task ∧ Grows workPath s t
  allowed := Allowed workPath
  idle _ _ := True
  ended _ _ := True

/-! ### Accesses -/

theorem find_mem {canonical : WorkbookId} {workbook : WorkbookContext Content}
    (h : s.find canonical = some workbook) : (canonical, workbook) ∈ s.entries := by
  obtain ⟨entry, hentry, hworkbook⟩ := Option.map_eq_some_iff.mp h
  have hcanonical := List.find?_some hentry
  have hmem := List.mem_of_find?_eq_some hentry
  simp only [decide_eq_true_eq] at hcanonical
  rw [← hcanonical, ← hworkbook]
  exact hmem

theorem mem_insert {canonical other : WorkbookId} {workbook workbook' : WorkbookContext Content}
    (h : (other, workbook') ∈ (s.insert canonical workbook).entries) :
    (other = canonical ∧ workbook' = workbook) ∨ (other, workbook') ∈ s.entries := by
  rcases List.mem_cons.mp (List.mem_of_mem_take h) with h | h
  · injection h with hother hworkbook
    exact Or.inl ⟨hother, hworkbook⟩
  · exact Or.inr (List.mem_filter.mp h).1

theorem Fresh.insert (h : Fresh workPath s) {canonical : WorkbookId}
    {workbook : WorkbookContext Content} (hrecent : InsertsRecent workPath s canonical workbook) :
    Fresh workPath (s.insert canonical workbook) where
  cached forkId other hmem := by
    rcases mem_insert hmem with hnew | hold
    · rw [hnew.2]
      exact hrecent forkId hnew.1.symm
    · exact h.cached forkId other hold
  acknowledged := h.acknowledged
  separate := h.separate

theorem grows_replace (path : String) (content : Content) :
    Grows workPath s (s.replace path content) := by
  refine ⟨fun _ => Nat.le_refl _, fun forkId => ?_⟩
  change _ <:+ Function.update s.written path _ _
  by_cases hpath : workPath forkId = path
  · rw [hpath, Function.update_self]
    exact List.suffix_cons _ _
  · have hsame : Function.update s.written path (content :: s.written path) (workPath forkId) =
        s.written (workPath forkId) := Function.update_of_ne hpath _ _
    exact hsame ▸ List.suffix_refl _

theorem Fresh.written (h : Fresh workPath s) (hseparate : t.Separate)
    (hentries : t.entries.Sublist s.entries) (hacknowledged : t.acknowledged = s.acknowledged)
    (hgrows : Grows workPath s t) : Fresh workPath t where
  cached forkId workbook hmem := by
    rw [hacknowledged]
    exact (h.cached forkId workbook (hentries.subset hmem)).grow (hgrows.written forkId)
  acknowledged forkId := by
    rw [hacknowledged]
    exact Nat.le_trans (h.acknowledged forkId) (hgrows.written forkId).length_le
  separate := hseparate

theorem grows_pop (canonical : WorkbookId) (writes : Nat) :
    Grows workPath s (s.pop canonical writes) := by
  refine ⟨fun forkId => ?_, fun _ => List.suffix_refl _⟩
  change _ ≤ if _ then _ else _
  split
  · exact Nat.le_max_left _ _
  · exact Nat.le_refl _

theorem Fresh.pop (h : Fresh workPath s) {canonical : WorkbookId} {writes : Nat}
    (hwrites : ∀ forkId, canonical = .fork forkId → writes ≤ (s.written (workPath forkId)).length) :
    Fresh workPath (s.pop canonical writes) where
  cached forkId workbook hmem := by
    have hkept := List.mem_filter.mp hmem
    have hne : canonical ≠ .fork forkId := fun hsame => of_decide_eq_true hkept.2 hsame.symm
    change Since _ (if canonical = .fork forkId then _ else _) _
    rw [if_neg hne]
    exact h.cached forkId workbook hkept.1
  acknowledged forkId := by
    change (if canonical = .fork forkId then _ else _) ≤ _
    split
    · rename_i hsame
      exact Nat.max_le.mpr ⟨h.acknowledged forkId, hwrites forkId hsame⟩
    · exact h.acknowledged forkId
  separate := h.separate

/-- One access keeps the cache fresh, when insertions are recent. -/
theorem fresh_access {task : Nat} {act : CacheAct Content} {answer : CacheAnswer act}
    (h : Fresh workPath s) (hallowed : Allowed workPath task act s)
    (hperforms : performs workPath (InsertsRecent workPath) task act s answer t) :
    Fresh workPath t ∧ Grows workPath s t ∧ ∀ other, other ≠ task → t.opened other = s.opened other := by
  cases act with
  | resolve name =>
    obtain ⟨-, ht⟩ := hperforms
    subst ht
    refine ⟨⟨h.cached, h.acknowledged, h.separate⟩, Grows.of_eq rfl rfl, fun other hother => ?_⟩
    exact Function.update_of_ne hother _ _
  | get canonical =>
    obtain ⟨hanswer, ht⟩ := hperforms
    cases answer with
    | none =>
      obtain rfl : t = s := ht
      exact ⟨h, Grows.refl t, fun _ _ => rfl⟩
    | some workbook =>
      obtain rfl : t = s.insert canonical workbook := ht
      refine ⟨h.insert fun forkId hsame => ?_, Grows.of_eq rfl rfl, fun _ _ => rfl⟩
      have hmem := find_mem hanswer.symm
      rw [hsame] at hmem
      exact h.cached forkId workbook hmem
  | load resolved =>
    obtain ⟨ht, -⟩ := hperforms
    subst ht
    exact ⟨h, Grows.refl t, fun _ _ => rfl⟩
  | put canonical workbook =>
    obtain ⟨hrecent, ht⟩ := hperforms
    subst ht
    exact ⟨h.insert hrecent, Grows.of_eq rfl rfl, fun _ _ => rfl⟩
  | yield canonical workbook =>
    obtain rfl : t = s := hperforms
    exact ⟨h, Grows.refl t, fun _ _ => rfl⟩
  | replaceWorkFile forkId content =>
    obtain ⟨-, ht⟩ := hperforms
    subst ht
    have hgrows := @grows_replace Content workPath s (workPath forkId) content
    exact ⟨h.written h.separate (List.Sublist.refl _) rfl hgrows, hgrows, fun _ _ => rfl⟩
  | pop canonical writes =>
    obtain rfl : t = s.pop canonical writes := hperforms
    exact ⟨h.pop hallowed, grows_pop canonical writes, fun _ _ => rfl⟩

theorem freshness_sound :
    (freshness workPath).Sound (@cacheSharing Content workPath (InsertsRecent workPath)) where
  refl _ s := ⟨rfl, Grows.refl s⟩
  trans _ _ _ _ h h' := ⟨h'.1.trans h.1, h.2.trans h'.2⟩
  initial s h := by
    refine ⟨⟨fun forkId workbook hmem => ?_, fun forkId => ?_, h.2.2⟩, fun _ => trivial⟩
    · rw [h.1] at hmem
      exact absurd hmem List.not_mem_nil
    · rw [h.2.1 forkId]
      exact Nat.zero_le _
  access task act s answer t h hallowed hperforms := by
    obtain ⟨hfresh, hgrows, hopened⟩ := fresh_access h hallowed hperforms
    exact ⟨hfresh, fun other hother => ⟨hopened other hother, hgrows⟩⟩
  finish _ s h _ := ⟨h, trivial, fun _ _ => ⟨rfl, Grows.refl s⟩⟩
  event s t h hevent := by
    obtain ⟨forks, index, written, entries, ht, hseparate, hwritten, hentries⟩ := hevent
    subst ht
    have hgrows : Grows workPath s { s with forks, index, written, entries } :=
      ⟨fun _ => Nat.le_refl _, hwritten⟩
    exact ⟨h.written hseparate hentries rfl hgrows, fun _ => ⟨rfl, hgrows⟩⟩
  idle _ _ _ _ _ := trivial
  ended _ _ _ _ _ := trivial

/-! ### Requests -/

theorem Yields.later {task : Nat} {canonical : WorkbookId} {workbook : WorkbookContext Content}
    (h : Yields workPath task canonical workbook s) (hopened : t.opened task = s.opened task)
    (hgrows : Grows workPath s t) : Yields workPath task canonical workbook t := by
  intro forkId hcanonical
  rw [hopened]
  exact (h forkId hcanonical).grow (hgrows.written forkId)

/-- What a reader knows once it has resolved its workbook: a fork has its own path, and
everything acknowledged before is still so. -/
def Resolved (workPath : String → String) (task : Nat) (resolved : ResolvedWorkbookRef)
    (s : CacheState Content) : Prop :=
  ∀ forkId, resolved.workbookId = .fork forkId →
    resolved.path = workPath forkId ∧ s.opened task ≤ s.acknowledged forkId

theorem Resolved.later {task : Nat} {resolved : ResolvedWorkbookRef}
    (h : Resolved workPath task resolved s) (hopened : t.opened task = s.opened task)
    (hgrows : Grows workPath s t) : Resolved workPath task resolved t := by
  intro forkId hcanonical
  rw [hopened]
  exact ⟨(h forkId hcanonical).1,
    Nat.le_trans (h forkId hcanonical).2 (hgrows.acknowledged forkId)⟩

theorem resolve_fork {name forkId : String} {resolved : ResolvedWorkbookRef} (h : s.Separate)
    (hresolve : s.resolve workPath name = some resolved) (hfork : resolved.workbookId = .fork forkId) :
    name = forkId ∧ resolved.path = workPath forkId := by
  unfold CacheState.resolve at hresolve
  split at hresolve
  · injection hresolve with hresolve
    subst hresolve
    injection hfork with hfork
    exact ⟨hfork, congrArg workPath hfork⟩
  · exact absurd hfork (h name resolved forkId hresolve)

theorem resolved_opens {task : Nat} {name : String} {resolved : ResolvedWorkbookRef}
    (h : s.Separate) (hresolve : s.resolve workPath name = some resolved) :
    Resolved workPath task resolved (s.opens task (some resolved)) := by
  intro forkId hfork
  refine ⟨(resolve_fork h hresolve hfork).2, ?_⟩
  change Function.update s.opened task (s.acknowledgedOf resolved.workbookId) task ≤ _
  rw [Function.update_self, hfork]
  exact Nat.le_refl _

variable {task : Nat}

theorem yield_keeps {canonical : WorkbookId} {workbook : WorkbookContext Content}
    (h : Yields workPath task canonical workbook s) :
    (Script.call (.yield canonical workbook) fun _ => .done (.ok ()) : CacheScript Content).Keeps
      (cacheSharing workPath (InsertsRecent workPath)) (freshness workPath) task
      (fun _ _ => True) s := by
  intro t _ hrely
  exact ⟨h.later hrely.1 hrely.2, fun _ _ _ _ => trivial⟩

/-- A reader returns nothing older than what was acknowledged when it started. -/
theorem openWorkbook_keeps (name : String) :
    (openWorkbook name : CacheScript Content).Keeps (cacheSharing workPath (InsertsRecent workPath))
      (freshness workPath) task (fun _ _ => True) s := by
  intro t hfresh _
  refine ⟨trivial, ?_⟩
  intro answer u hperforms _
  obtain ⟨hanswer, hu⟩ := hperforms
  cases answer with
  | none => exact trivial
  | some resolved =>
    have hresolved : Resolved workPath task resolved u := by
      rw [hu]
      exact resolved_opens hfresh.separate hanswer.symm
    clear hu hanswer
    intro t' hfresh' hrely
    have hresolved' := hresolved.later hrely.1 hrely.2
    refine ⟨trivial, ?_⟩
    intro found u' hperforms _
    obtain ⟨hfound, hu'⟩ := hperforms
    cases found with
    | some workbook =>
      obtain rfl : u' = t'.insert resolved.workbookId workbook := hu'
      apply yield_keeps
      intro forkId hfork
      have hmem := find_mem hfound.symm
      rw [hfork] at hmem
      exact (hfresh'.cached forkId workbook hmem).weaken (hresolved' forkId hfork).2
    | none =>
      obtain rfl : u' = t' := hu'
      intro t'' hfresh'' hrely'
      have hresolved'' := hresolved'.later hrely'.1 hrely'.2
      refine ⟨trivial, ?_⟩
      intro loaded u'' hperforms _
      obtain ⟨hu'', hloaded⟩ := hperforms
      subst hu''
      cases loaded with
      | none => exact trivial
      | some workbook =>
        have hyields : Yields workPath task resolved.workbookId workbook u'' := by
          intro forkId hfork
          obtain ⟨hpath, hopened⟩ := hresolved'' forkId hfork
          have hhead := (hloaded workbook rfl).2
          rw [hpath] at hhead
          exact since_head hhead (Nat.le_trans hopened (hfresh''.acknowledged forkId))
        intro t3 _ hrely3
        refine ⟨trivial, ?_⟩
        intro _ u3 hperforms _
        obtain ⟨-, hu3⟩ := hperforms
        subst hu3
        have hyields' := hyields.later hrely3.1 hrely3.2
        exact yield_keeps fun forkId hfork => hyields' forkId hfork

theorem writeFork_keeps (forkId : String) (content : Content) :
    (writeFork forkId content).Keeps (cacheSharing workPath (InsertsRecent workPath))
      (freshness workPath) task (fun _ _ => True) s := by
  intro t _ _
  refine ⟨trivial, ?_⟩
  intro writes u hperforms _
  obtain ⟨hwrites, hu⟩ := hperforms
  have hmade : writes ≤ (u.written (workPath forkId)).length := by
    subst hu
    change writes ≤ (Function.update t.written (workPath forkId) _ (workPath forkId)).length
    rw [Function.update_self, hwrites]
    exact Nat.le_refl _
  clear hu hwrites
  intro t' hfresh' hrely
  refine ⟨trivial, ?_⟩
  intro answer u' hperforms _
  obtain ⟨hanswer, hu'⟩ := hperforms
  cases answer with
  | none => exact trivial
  | some resolved =>
    intro t'' _ hrely'
    refine ⟨fun other hother => ?_, fun _ _ _ _ => trivial⟩
    have hsame := (resolve_fork hfresh'.separate hanswer.symm hother).1
    subst hsame
    have hgrows := (hrely.2.written forkId).length_le
    have hgrows' := (hrely'.2.written forkId).length_le
    subst hu'
    exact Nat.le_trans hmade (Nat.le_trans hgrows hgrows')

theorem request_keeps {x : CacheScript Content} (h : IsRequest x) :
    x.Keeps (cacheSharing workPath (InsertsRecent workPath)) (freshness workPath) task
      (fun _ _ => True) s := by
  cases h with
  | reader name => exact openWorkbook_keeps name
  | writer forkId content => exact writeFork_keeps forkId content

/-- In every run whose insertions are recent, a reader of a fork returns a workbook at least
as recent as every write that was followed by its eviction before the reader started. -/
theorem open_workbook_recent {w : Library.World Nat (@CacheAnswer Content) String Unit (CacheState Content)}
    (hw : w.Reached (cacheSharing workPath (InsertsRecent workPath)) IsRequest) {reader : Nat}
    {forkId : String} {workbook : WorkbookContext Content} {next : Unit → CacheScript Content}
    (hdue : w.tasks reader = some (.call (.yield (.fork forkId) workbook) next)) :
    Since (w.shared.written (workPath forkId)) (w.shared.opened reader) workbook.content :=
  freshness_sound.allowed (fun _ _ _ hx _ _ => request_keeps hx) hw hdue forkId rfl

end Freshness

/-! ### A reader beside a writer -/

def workFile (forkId : String) : String := "/forks/" ++ forkId ++ ".xlsx"

def forkRef : ResolvedWorkbookRef := ⟨.fork "f", workFile "f"⟩

def oneFork : CacheState String where
  forks := ["f"]
  index _ := none
  written _ := ["old"]
  capacity := 4
  entries := []
  acknowledged _ := 0
  opened _ := 0

section Runs
variable {admits : CacheState String → WorkbookId → WorkbookContext String → Prop}
  {s : CacheState String} {tasks : List (Option (CacheScript String))}

def Runs (admits : CacheState String → WorkbookId → WorkbookContext String → Prop)
    (s : CacheState String) (tasks : List (Option (CacheScript String))) : Prop :=
  (Library.World.ofList s tasks).Reached (cacheSharing workFile admits) IsRequest

theorem oneFork_runs : Runs admits oneFork [none, none, none] := by
  have hinitial : (cacheSharing workFile admits).initial oneFork :=
    ⟨rfl, fun _ => rfl, fun _ _ _ h => nomatch h⟩
  exact Library.World.Reached.startList hinitial 3

def afterWrite (s : CacheState String) (task : Nat) : CacheState String :=
  ((s.replace (workFile "f") "new").opens task (some forkRef)).pop (.fork "f") 2

theorem writer_runs (h : Runs admits s tasks) (i : Nat) (hidle : tasks[i]? = some none)
    (hresolve : s.resolve workFile "f" = some forkRef) (hwritten : s.written (workFile "f") = ["old"]) :
    Runs admits (afterWrite s i) (tasks.set i (some (.done (.ok ())))) := by
  obtain ⟨hi, -⟩ := List.getElem?_eq_some_iff.mp hidle
  have hbegun := Library.World.Reached.beginList h i hidle (.writer "f" "new")
  have hreplaced := Library.World.Reached.accessList hbegun i 2 (s.replace (workFile "f") "new")
    (List.getElem?_set_self hi) ⟨by rw [hwritten]; rfl, rfl⟩
  rw [List.set_set] at hreplaced
  have hresolved := Library.World.Reached.accessList hreplaced i (some forkRef)
    ((s.replace (workFile "f") "new").opens i (some forkRef)) (List.getElem?_set_self hi)
    ⟨hresolve.symm, rfl⟩
  rw [List.set_set] at hresolved
  have hpopped := Library.World.Reached.accessList hresolved i () (afterWrite s i)
    (List.getElem?_set_self hi) rfl
  rw [List.set_set] at hpopped
  exact hpopped

theorem reader_resolves (h : Runs admits s tasks) (i : Nat) (hidle : tasks[i]? = some none)
    (hresolve : s.resolve workFile "f" = some forkRef) :
    Runs admits (s.opens i (some forkRef)) (tasks.set i (some (openResolved forkRef))) := by
  obtain ⟨hi, -⟩ := List.getElem?_eq_some_iff.mp hidle
  have hbegun := Library.World.Reached.beginList h i hidle (.reader "f")
  have hresolved := Library.World.Reached.accessList hbegun i (some forkRef) (s.opens i (some forkRef))
    (List.getElem?_set_self hi) ⟨hresolve.symm, rfl⟩
  rw [List.set_set] at hresolved
  exact hresolved

def missedReader (workbook : WorkbookContext String) : CacheScript String :=
  .call (.put (.fork "f") workbook) fun _ =>
    .call (.yield (.fork "f") workbook) fun _ => .done (.ok ())

theorem reader_loads {content : String} (h : Runs admits s tasks) (i : Nat)
    (hidle : tasks[i]? = some none) (hresolve : s.resolve workFile "f" = some forkRef)
    (hmiss : s.find (.fork "f") = none) (hcontent : (s.written (workFile "f")).head? = some content) :
    Runs admits (s.opens i (some forkRef))
      (tasks.set i (some (missedReader ⟨workFile "f", content⟩))) := by
  obtain ⟨hi, -⟩ := List.getElem?_eq_some_iff.mp hidle
  have hresolved := reader_resolves h i hidle hresolve
  have hmissed := Library.World.Reached.accessList hresolved i none (s.opens i (some forkRef))
    (List.getElem?_set_self hi) ⟨hmiss.symm, rfl⟩
  rw [List.set_set] at hmissed
  have hloaded := Library.World.Reached.accessList hmissed i (some ⟨workFile "f", content⟩)
    (s.opens i (some forkRef)) (List.getElem?_set_self hi) ⟨rfl, fun workbook hworkbook => by
      injection hworkbook with hworkbook
      subst hworkbook
      exact ⟨rfl, hcontent⟩⟩
  rw [List.set_set] at hloaded
  exact hloaded

theorem reader_inserts {workbook : WorkbookContext String} (h : Runs admits s tasks) (i : Nat)
    (htask : tasks[i]? = some (some (missedReader workbook)))
    (hadmits : admits s (.fork "f") workbook) :
    Runs admits (s.insert (.fork "f") workbook)
      (tasks.set i (some (.call (.yield (.fork "f") workbook) fun _ => .done (.ok ())))) :=
  Library.World.Reached.accessList h i () (s.insert (.fork "f") workbook) htask ⟨hadmits, rfl⟩

theorem reader_finds {workbook : WorkbookContext String} (h : Runs admits s tasks) (i : Nat)
    (hidle : tasks[i]? = some none) (hresolve : s.resolve workFile "f" = some forkRef)
    (hfound : s.find (.fork "f") = some workbook) :
    Runs admits ((s.opens i (some forkRef)).insert (.fork "f") workbook)
      (tasks.set i (some (.call (.yield (.fork "f") workbook) fun _ => .done (.ok ())))) := by
  obtain ⟨hi, -⟩ := List.getElem?_eq_some_iff.mp hidle
  have hresolved := reader_resolves h i hidle hresolve
  have hread := Library.World.Reached.accessList hresolved i (some workbook)
    ((s.opens i (some forkRef)).insert (.fork "f") workbook) (List.getElem?_set_self hi)
    ⟨hfound.symm, rfl⟩
  rw [List.set_set] at hread
  exact hread

end Runs

/-- The first reader loads before the write and inserts after the eviction; the next reader
finds the old workbook. -/
theorem open_workbook_stale :
    ∃ w : Library.World Nat (@CacheAnswer String) String Unit (CacheState String),
      w.Reached (cacheSharing workFile fun _ _ _ => True) IsRequest ∧
      (∃ next, w.tasks 2 = some (.call (.yield (.fork "f") ⟨workFile "f", "old"⟩) next)) ∧
      ¬Since (w.shared.written (workFile "f")) (w.shared.opened 2) "old" := by
  have hloaded := reader_loads (@oneFork_runs fun _ _ _ => True) 0 rfl rfl rfl rfl
  have hwritten := writer_runs hloaded 1 rfl rfl rfl
  have hinserted := reader_inserts hwritten 0 rfl trivial
  have hfound := reader_finds hinserted 2 rfl rfl rfl
  refine ⟨_, hfound, ⟨_, rfl⟩, ?_⟩
  change ¬Since ["new", "old"] 2 "old"
  intro h
  obtain ⟨newer, older, hwritten, hwrites⟩ := h
  have hlength := congrArg List.length hwritten
  simp only [List.length_cons, List.length_nil, List.length_append] at hlength
  have hnewer : newer = [] := by
    rw [← List.length_eq_zero_iff]
    omega
  rw [hnewer] at hwritten
  injection hwritten with hhead
  exact absurd hhead (by decide)

/-- A reader after the write inserts the new workbook, and the next reader finds it. -/
theorem open_workbook_recent_after_write : Since ["new", "old"] 2 "new" := by
  have hwritten := writer_runs (@oneFork_runs (InsertsRecent workFile)) 1 rfl rfl rfl
  have hloaded := @reader_loads _ (afterWrite oneFork 1) _ "new" hwritten 0 rfl rfl rfl rfl
  have hinserted := reader_inserts hloaded 0 rfl fun forkId hfork => by
    injection hfork with hfork
    subst hfork
    exact ⟨[], ["old"], rfl, by decide⟩
  have hfound := reader_finds hinserted 2 rfl rfl rfl
  exact @open_workbook_recent _ workFile _ hfound 2 "f" ⟨workFile "f", "new"⟩ _ rfl

end AgentSpreadsheet.WorkbookCache
