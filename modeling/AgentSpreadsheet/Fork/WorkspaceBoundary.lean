import AgentSpreadsheet.Fork.Workspace
import Mathlib.Data.List.TakeWhile

/-! What is read and written of the workspace. The base of a fork is opened by the path
that was checked. The target of a save is opened by its own path, which may end in a link
to a file that does not exist yet. -/
namespace AgentSpreadsheet.Workspace
open Library

/-! ### Parents -/

theorem trimRight_append (absolute : Bool) (segments : List String) :
    ∃ middle, segments = FilePath.trimRight absolute segments ++ middle ∧
      ∀ segment ∈ middle, stays segment = true := by
  have hsplit : segments = (segments.reverse.dropWhile stays).reverse ++
      (segments.reverse.takeWhile stays).reverse := by
    rw [← List.reverse_append, List.takeWhile_append_dropWhile, List.reverse_reverse]
  have htaken : ∀ segment ∈ (segments.reverse.takeWhile stays).reverse, stays segment = true := by
    intro segment hsegment
    exact List.mem_takeWhile_imp (List.mem_reverse.mp hsegment)
  unfold FilePath.trimRight
  cases htrimmed : (segments.reverse.dropWhile stays).reverse with
  | cons head tail =>
    rw [htrimmed] at hsplit
    exact ⟨_, hsplit, htaken⟩
  | nil =>
    rw [htrimmed, List.nil_append] at hsplit
    rw [← hsplit] at htaken
    simp only
    split
    · rename_i hdot
      cases segments with
      | nil => exact nomatch hdot.2
      | cons head tail =>
        obtain rfl : head = "." := by simpa using hdot.2
        exact ⟨tail, rfl, fun segment hsegment => htaken segment (List.mem_cons_of_mem _ hsegment)⟩
    · exact ⟨segments, rfl, htaken⟩

theorem splitLast_segments {path parent : FilePath} {name : String}
    (h : FilePath.splitLast path = some (parent, name)) (hname : isName name = true) :
    parent.absolute = path.absolute ∧ ∃ middle rest,
      path.segments = parent.segments ++ (middle ++ name :: rest) ∧
        (∀ segment ∈ middle, stays segment = true) ∧ ∀ segment ∈ rest, stays segment = true := by
  unfold FilePath.splitLast at h
  have hsplit : path.segments = (path.segments.reverse.dropWhile stays).reverse ++
      (path.segments.reverse.takeWhile stays).reverse := by
    rw [← List.reverse_append, List.takeWhile_append_dropWhile, List.reverse_reverse]
  cases hdropped : path.segments.reverse.dropWhile stays with
  | nil =>
    rw [hdropped] at h
    simp only at h
    split at h
    · injection h with h
      injection h with _ hdot
      rw [← hdot] at hname
      exact absurd hname (by decide)
    · contradiction
  | cons head before =>
    rw [hdropped] at h hsplit
    injection h with h
    injection h with hparent hhead
    subst hparent
    subst hhead
    obtain ⟨middle, hmiddle, hstays⟩ := trimRight_append path.absolute before.reverse
    have htaken : ∀ segment ∈ (path.segments.reverse.takeWhile stays).reverse,
        stays segment = true := by
      intro segment hsegment
      exact List.mem_takeWhile_imp (List.mem_reverse.mp hsegment)
    generalize (path.segments.reverse.takeWhile stays).reverse = rest at hsplit htaken
    refine ⟨rfl, middle, rest, ?_, hstays, htaken⟩
    rw [hsplit, List.reverse_cons, ← List.append_assoc, ← hmiddle]
    simp

theorem splitLast_of_names {path parent : FilePath} {name : String}
    (hparent : FilePath.parent path = some parent) (hname : FilePath.fileName path = some name) :
    FilePath.splitLast path = some (parent, name) ∧ isName name = true := by
  unfold FilePath.parent at hparent
  unfold FilePath.fileName at hname
  obtain ⟨last, hlast, hfirst⟩ := Option.map_eq_some_iff.mp hparent
  rw [hlast] at hname ⊢
  simp only [Option.bind_some] at hname
  split at hname
  · rename_i hisName
    injection hname with hname
    rw [← hfirst, ← hname]
    exact ⟨rfl, hisName⟩
  · contradiction

section Boundary
variable {links : Nat} {cwd : Location} {tree : Tree}

theorem canonicalize_ok {path : FilePath} {location : Location} :
    tree.canonicalize links cwd path = .ok location ↔
      tree.locate links cwd path = .ok location ∧ (tree.node location).isSome = true := by
  unfold FileTree.canonicalize
  rw [bind_eq_ok]
  constructor
  · intro h
    obtain ⟨found, hfound, hnode⟩ := h
    split at hnode
    · rename_i hsome
      injection hnode with hnode
      exact hnode ▸ ⟨hfound, hsome⟩
    · contradiction
  · intro h
    refine ⟨location, h.1, ?_⟩
    rw [if_pos h.2]

theorem io_ok {α : Type} {x : Except FileError α} {message : String → String} {value : α} :
    io x message = .ok value ↔ x = .ok value := by
  cases x with
  | ok found =>
    unfold io
    constructor <;> intro h <;> injection h with h <;> rw [h]
  | error e =>
    unfold io
    exact iff_of_false nofun nofun

theorem locate_notLink {path : FilePath} {last : Location}
    (h : tree.locate links cwd path = .ok last) :
    ∀ target, tree.node last ≠ some (.link target) := by
  have hwalks := FileTree.locate_walks h
  apply hwalks.notLink
  unfold FileTree.locate at h
  by_cases habsolute : path.absolute = true
  · unfold FilePath.start
    rw [if_pos habsolute, tree.root]
    exact nofun
  · cases hsegments : path.segments with
    | nil =>
      rw [if_pos ⟨Bool.eq_false_iff.mpr habsolute, hsegments⟩] at h
      contradiction
    | cons segment rest =>
      rw [hsegments] at hwalks
      have hdirectory : tree.node (path.start cwd) = some .directory := by
        cases hwalks <;> assumption
      rw [hdirectory]
      exact nofun

theorem canonicalizeAndEnforce_ok {workspaceRoot candidate : FilePath} {field : String}
    {canonical : Location} (h : canonicalizeAndEnforceWithinWorkspace links cwd tree workspaceRoot
      candidate field = .ok canonical) :
    ∃ root, tree.canonicalize links cwd workspaceRoot = .ok root ∧ root <+: canonical ∧
      (tree.canonicalize links cwd candidate = .ok canonical ∨
        tree.pathExists links cwd candidate = false ∧
          ∃ parent name directory, FilePath.parent candidate = some parent ∧
            FilePath.fileName candidate = some name ∧
            tree.canonicalize links cwd parent = .ok directory ∧ canonical = directory ++ [name]) := by
  unfold canonicalizeAndEnforceWithinWorkspace at h
  obtain ⟨root, hroot, h⟩ := bind_eq_ok.mp h
  obtain ⟨found, hfound, h⟩ := bind_eq_ok.mp h
  obtain ⟨hinside, h⟩ := check_bind_eq_ok.mp h
  injection h with h
  subst h
  refine ⟨root, io_ok.mp hroot, ensure_eq_ok.mp hinside, ?_⟩
  unfold canonicalCandidate at hfound
  split at hfound
  · exact Or.inl (io_ok.mp hfound)
  · rename_i hexists
    obtain ⟨parent, hparent, hfound⟩ := bind_eq_ok.mp hfound
    obtain ⟨name, hname, hfound⟩ := bind_eq_ok.mp hfound
    obtain ⟨directory, hdirectory, hfound⟩ := bind_eq_ok.mp hfound
    injection hfound with hfound
    exact Or.inr ⟨Bool.eq_false_iff.mpr hexists, parent, name, directory, required_eq_ok.mp hparent,
      required_eq_ok.mp hname, io_ok.mp hdirectory, hfound.symm⟩

/-- A path ends at its name in its parent directory, or where the link of that name leads. -/
theorem walks_last {path parent : FilePath} {name : String} {directory last : Location}
    (hparent : FilePath.parent path = some parent) (hname : FilePath.fileName path = some name)
    (hdirectory : tree.canonicalize links cwd parent = .ok directory)
    (hlast : tree.locate links cwd path = .ok last) :
    ((∀ target, tree.node (directory ++ [name]) ≠ some (.link target)) ∧ last = directory ++ [name]) ∨
      ∃ target, tree.node (directory ++ [name]) = some (.link target) ∧
        tree.Walks (target.start directory) target.segments last := by
  obtain ⟨hsplit, hisName⟩ := splitLast_of_names hparent hname
  obtain ⟨habsolute, middle, rest, hsegments, hmiddle, hrest⟩ := splitLast_segments hsplit hisName
  have hto := FileTree.locate_walks (canonicalize_ok.mp hdirectory).1
  have hstart : parent.start cwd = path.start cwd := by
    unfold FilePath.start
    rw [habsolute]
  rw [hstart] at hto
  obtain ⟨found, hfound, hwalks⟩ := (FileTree.locate_walks hlast).split _ _ hsegments
  rw [← hto.unique hfound] at hwalks
  obtain ⟨same, hsame, hwalks⟩ := hwalks.split _ _ rfl
  rw [hsame.stays_eq hmiddle] at hwalks
  cases hwalks with
  | stay _ hstays => exact absurd hstays (FileTree.isName_not_stays hisName)
  | up => exact absurd hisName FileTree.not_name_up
  | enter _ _ hnode hwalks => exact Or.inl ⟨hnode, hwalks.stays_eq hrest⟩
  | @follow _ _ _ _ target _ _ hnode hwalks =>
    refine Or.inr ⟨target, hnode, ?_⟩
    obtain ⟨middle, hmiddle, hwalks⟩ := hwalks.split _ _ rfl
    rw [hwalks.stays_eq hrest]
    exact hmiddle

theorem copy_ok {now : Int} {source destination : FilePath} {copied : Copied}
    (h : copy links cwd tree now source destination = .ok copied) :
    tree.locate links cwd source = .ok copied.source ∧
      tree.locate links cwd destination = .ok copied.destination ∧
      ∀ location, location ≠ copied.destination →
        copied.after.node location = tree.node location := by
  unfold copy at h
  obtain ⟨sourceAt, hsource, h⟩ := bind_eq_ok.mp h
  split at h
  · contradiction
  · obtain ⟨destinationAt, hdestination, h⟩ := bind_eq_ok.mp h
    have hlocate : tree.locate links cwd destination = .ok destinationAt := by
      have hopen := io_ok.mp hdestination
      unfold openForWrite at hopen
      obtain ⟨location, hlocation, hopen⟩ := bind_eq_ok.mp hopen
      split at hopen
      · injection hopen with hopen
        exact hopen ▸ hlocation
      · split at hopen <;> contradiction
    split at h
    · injection h with h
      subst h
      exact ⟨io_ok.mp hsource, hlocate, fun location hlocation => if_neg hlocation⟩
    · contradiction
  · contradiction

/-- The last component of the path is a link to a file that does not exist, out of the
directory. -/
def DanglesOut (links : Nat) (cwd : Location) (tree : Tree) (root : Location) (path : FilePath) :
    Prop :=
  ∃ parent name directory target missing, FilePath.parent path = some parent ∧
    FilePath.fileName path = some name ∧ tree.canonicalize links cwd parent = .ok directory ∧
    tree.node (directory ++ [name]) = some (.link target) ∧
    tree.Walks (target.start directory) target.segments missing ∧ tree.node missing = none ∧
    ¬root <+: missing

theorem danglesOut_last {root last : Location} {path : FilePath}
    (h : DanglesOut links cwd tree root path) (hlast : tree.locate links cwd path = .ok last) :
    tree.node last = none ∧ ¬root <+: last := by
  obtain ⟨parent, name, directory, target, missing, hparent, hname, hdirectory, hlink, hwalks,
    hnode, hout⟩ := h
  rcases walks_last hparent hname hdirectory hlast with hlast | hlast
  · exact absurd hlink (hlast.1 target)
  · obtain ⟨target', hlink', hwalks'⟩ := hlast
    rw [hlink] at hlink'
    injection hlink' with hlink'
    injection hlink' with hlink'
    subst hlink'
    rw [← hwalks.unique hwalks']
    exact ⟨hnode, hout⟩

/-- An accepted path ends in the workspace unless it dangles out of it. -/
theorem accepted_inside_iff {workspaceRoot candidate : FilePath} {field : String}
    {canonical last : Location} (h : canonicalizeAndEnforceWithinWorkspace links cwd tree
      workspaceRoot candidate field = .ok canonical)
    (hlast : tree.locate links cwd candidate = .ok last) :
    ∃ root, tree.canonicalize links cwd workspaceRoot = .ok root ∧
      (root <+: last ↔ ¬DanglesOut links cwd tree root candidate) := by
  obtain ⟨root, hroot, hinside, hcases⟩ := canonicalizeAndEnforce_ok h
  refine ⟨root, hroot, fun hin hout => (danglesOut_last hout hlast).2 hin, fun hkept => ?_⟩
  rcases hcases with hcanonical | hmissing
  · have hsame := (canonicalize_ok.mp hcanonical).1
    rw [hlast] at hsame
    injection hsame with hsame
    rw [hsame]
    exact hinside
  · obtain ⟨hexists, parent, name, directory, hparent, hname, hdirectory, hcanonical⟩ := hmissing
    rcases walks_last hparent hname hdirectory hlast with hplain | hlink
    · rw [hplain.2, ← hcanonical]
      exact hinside
    · obtain ⟨target, hnode, hwalks⟩ := hlink
      have hnone : tree.node last = none := by
        unfold FileTree.pathExists at hexists
        rw [hlast] at hexists
        exact Option.isNone_iff_eq_none.mp (Option.isSome_eq_false_iff.mp hexists)
      by_contra hout
      exact hkept ⟨parent, name, directory, target, last, hparent, hname, hdirectory, hnode, hwalks,
        hnone, hout⟩

variable {digest : List UInt8 → String} {now : Int} {forks : Forks}

theorem saveFork_ok {forkId : String} {targetPath workspaceRoot : FilePath} {copied : Copied}
    (h : saveFork links cwd digest tree now forks forkId targetPath workspaceRoot = .ok copied) :
    (∀ location, location ≠ copied.destination → copied.after.node location = tree.node location) ∧
      ∃ root, tree.canonicalize links cwd workspaceRoot = .ok root ∧
        (root <+: copied.destination ↔ ¬DanglesOut links cwd tree root targetPath) := by
  unfold saveFork at h
  obtain ⟨canonical, haccepted, h⟩ := bind_eq_ok.mp h
  obtain ⟨-, h⟩ := check_bind_eq_ok.mp h
  obtain ⟨fork, -, h⟩ := bind_eq_ok.mp h
  obtain ⟨-, h⟩ := check_bind_eq_ok.mp h
  obtain ⟨-, hdestination, hframe⟩ := copy_ok h
  exact ⟨hframe, accepted_inside_iff haccepted hdestination⟩

theorem createFork_ok {config : ForkConfig} {candidates : List String}
    {basePath workspaceRoot : FilePath} {copied : Copied} {forks' : Forks}
    (h : createFork links cwd digest tree now config forks candidates basePath workspaceRoot =
      .ok (copied, forks')) :
    ∃ root, tree.canonicalize links cwd workspaceRoot = .ok root ∧ root <+: copied.source := by
  unfold createFork at h
  obtain ⟨-, h⟩ := check_bind_eq_ok.mp h
  obtain ⟨-, h⟩ := check_bind_eq_ok.mp h
  obtain ⟨hexists, h⟩ := check_bind_eq_ok.mp h
  obtain ⟨canonical, haccepted, h⟩ := bind_eq_ok.mp h
  obtain ⟨content, -, h⟩ := bind_eq_ok.mp h
  dsimp only at h
  obtain ⟨-, h⟩ := check_bind_eq_ok.mp h
  obtain ⟨forkId, -, h⟩ := bind_eq_ok.mp h
  obtain ⟨copied', hcopied, h⟩ := bind_eq_ok.mp h
  obtain ⟨found, -, h⟩ := bind_eq_ok.mp h
  obtain ⟨base, -, h⟩ := bind_eq_ok.mp h
  injection h with h
  injection h with h _
  subst h
  obtain ⟨root, hroot, hinside, hcases⟩ := canonicalizeAndEnforce_ok haccepted
  refine ⟨root, hroot, ?_⟩
  rcases hcases with hcanonical | hmissing
  · obtain ⟨hlocate, hnode⟩ := canonicalize_ok.mp hcanonical
    have hself := FileTree.locate_location links cwd (Option.isSome_iff_ne_none.mp hnode)
      (locate_notLink hlocate)
    rw [(copy_ok hcopied).1] at hself
    injection hself with hself
    rw [hself]
    exact hinside
  · rw [ensure_eq_ok.mp hexists] at hmissing
    exact nomatch hmissing.1

/-- Nothing is written outside the workspace, but through a link that dangles out of it, and
nothing is read outside it. -/
theorem fork_files_inside_workspace (links : Nat) (cwd : Location) (digest : List UInt8 → String)
    (tree : Tree) (now : Int) (forks : Forks) :
    (∀ forkId targetPath workspaceRoot copied,
      saveFork links cwd digest tree now forks forkId targetPath workspaceRoot = .ok copied →
        (∀ location, location ≠ copied.destination →
          copied.after.node location = tree.node location) ∧
        ∃ root, tree.canonicalize links cwd workspaceRoot = .ok root ∧
          (root <+: copied.destination ↔ ¬DanglesOut links cwd tree root targetPath)) ∧
    ∀ config candidates basePath workspaceRoot copied forks',
      createFork links cwd digest tree now config forks candidates basePath workspaceRoot =
        .ok (copied, forks') →
      ∃ root, tree.canonicalize links cwd workspaceRoot = .ok root ∧ root <+: copied.source :=
  ⟨fun _ _ _ _ h => saveFork_ok h, fun _ _ _ _ _ _ h => createFork_ok h⟩

end Boundary

/-! ### A workspace with a link out of it -/

def baseContent : FileContent := ⟨[80, 75], 5⟩

/-- A base, its fork, and a link to a file that does not exist beside the workspace. -/
def linkedTree : Tree := FileTree.ofEntries
  [([], .directory), (["ws"], .directory), (["ws", "base.xlsx"], .file baseContent),
    (["ws", "out.xlsx"], .link ⟨true, ["etc", "out.xlsx"]⟩), (["etc"], .directory),
    (["forks"], .directory), (["forks", "f.xlsx"], .file baseContent)]
  (by decide) (by decide)

def workspace : FilePath := ⟨true, ["ws"]⟩

def openForks : Forks := [("f", ⟨⟨true, ["ws", "base.xlsx"]⟩, "h", 5, ⟨true, ["forks", "f.xlsx"]⟩⟩)]

def savedAs (name : String) : Result Copied :=
  saveFork 40 [] (fun _ => "h") linkedTree 9 openForks "f" ⟨true, ["ws", name]⟩ workspace

/-- A save to a new name stays in the workspace. -/
theorem fork_files_inside_workspace_new : ∃ copied, savedAs "new.xlsx" = .ok copied ∧
    ["ws"] <+: copied.destination := by
  have hsaved : (savedAs "new.xlsx").toOption.isSome = true := by decide +kernel
  cases hresult : savedAs "new.xlsx" with
  | error e =>
    rw [hresult] at hsaved
    contradiction
  | ok copied =>
    refine ⟨copied, rfl, ?_⟩
    obtain ⟨-, root, hroot, hinside⟩ :=
      (fork_files_inside_workspace 40 [] (fun _ => "h") linkedTree 9 openForks).1 _ _ _ _ hresult
    have hws : linkedTree.canonicalize 40 [] workspace = .ok ["ws"] := by decide +kernel
    rw [hws] at hroot
    injection hroot with hroot
    subst hroot
    apply hinside.mpr
    intro hout
    obtain ⟨parent, name, directory, target, missing, hparent, hname, hdirectory, hlink, -⟩ := hout
    have hparent' : FilePath.parent ⟨true, ["ws", "new.xlsx"]⟩ = some workspace := by decide +kernel
    have hname' : FilePath.fileName ⟨true, ["ws", "new.xlsx"]⟩ = some "new.xlsx" := by decide +kernel
    rw [hparent'] at hparent
    rw [hname'] at hname
    injection hparent with hparent
    injection hname with hname
    subst hparent
    subst hname
    rw [hws] at hdirectory
    injection hdirectory with hdirectory
    subst hdirectory
    have hnode : linkedTree.node (["ws"] ++ ["new.xlsx"]) = none := by decide +kernel
    rw [hnode] at hlink
    contradiction

/-- A save to the link makes the file beside the workspace. -/
theorem saveFork_writes_outside :
    (savedAs "out.xlsx").toOption.map Copied.destination = some ["etc", "out.xlsx"] ∧
      linkedTree.canonicalize 40 [] workspace = .ok ["ws"] ∧
      ¬["ws"] <+: ["etc", "out.xlsx"] := by
  decide +kernel

end AgentSpreadsheet.Workspace
