import Mathlib.Data.List.Basic
import Mathlib.Data.List.Induction

/-! A tree of directories, files and symbolic links, and how paths are followed through
it. A location is the list of names that leads to it from the root without a link. -/
namespace AgentSpreadsheet.Library

abbrev Location := List String

/-- A path cut at its slashes, the leading one apart. -/
structure FilePath where
  absolute : Bool
  segments : List String
  deriving DecidableEq, Repr

inductive FileNode (Data : Type) where
  | directory
  | file (data : Data)
  | link (target : FilePath)
  deriving DecidableEq, Repr

inductive FileError where
  | notFound
  | notDirectory
  | isDirectory
  | tooManyLinks
  deriving DecidableEq, Repr

/-- Segments that stay where they are. -/
def stays (segment : String) : Bool := segment = "" || segment = "."

def isName (segment : String) : Bool := !stays segment && !decide (segment = "..")

/-- Whatever has a node stands in a directory, under a name. -/
structure FileTree (Data : Type) where
  node : Location → Option (FileNode Data)
  root : node [] = some .directory
  parent : ∀ location name, node (location ++ [name]) ≠ none → node location = some .directory
  names : ∀ location name, node (location ++ [name]) ≠ none → isName name = true

def FilePath.start (path : FilePath) (cwd : Location) : Location :=
  if path.absolute then [] else cwd

namespace FileTree

theorem mem_of_lookup {β : Type} {location : Location} {value : β} {entries : List (Location × β)}
    (h : entries.lookup location = some value) : (location, value) ∈ entries := by
  obtain ⟨before, after, hentries, -⟩ := List.lookup_eq_some_iff.mp h
  rw [hentries]
  exact List.mem_append_right _ List.mem_cons_self

variable {Data : Type} (tree : FileTree Data)

/-- The segments are followed from a location; `follow` goes on at a link. -/
def walkFrom (follow : Location → List String → Except FileError Location) :
    Location → List String → Except FileError Location
  | location, [] => .ok location
  | location, segment :: rest =>
    match tree.node location with
    | none => .error .notFound
    | some .directory =>
      if stays segment then walkFrom follow location rest
      else if segment = ".." then walkFrom follow location.dropLast rest
      else
        match tree.node (location ++ [segment]) with
        | some (.link target) => follow (target.start location) (target.segments ++ rest)
        | _ => walkFrom follow (location ++ [segment]) rest
    | some _ => .error .notDirectory

/-- With so many links at most. The last segment may be missing. -/
def walk : Nat → Location → List String → Except FileError Location
  | 0 => tree.walkFrom fun _ _ => .error .tooManyLinks
  | links + 1 => tree.walkFrom (walk links)

variable (links : Nat) (cwd : Location) (path : FilePath)

def locate : Except FileError Location :=
  if path.absolute = false ∧ path.segments = [] then .error .notFound
  else tree.walk links (path.start cwd) path.segments

def pathExists : Bool :=
  match tree.locate links cwd path with
  | .ok location => (tree.node location).isSome
  | .error _ => false

def canonicalize : Except FileError Location := do
  let location ← tree.locate links cwd path
  if (tree.node location).isSome then .ok location else .error .notFound

/-- A file that is there, or a name that is free in a directory. -/
def canWrite (location : Location) : Bool :=
  match tree.node location with
  | some (.file _) => true
  | some _ => false
  | none =>
    match location.reverse with
    | [] => false
    | name :: before => tree.node before.reverse matches some .directory && isName name

theorem canWrite_append {location : Location} {name : String} (h : tree.node (location ++ [name]) = none) :
    tree.canWrite (location ++ [name]) = true ↔
      tree.node location = some .directory ∧ isName name = true := by
  unfold canWrite
  rw [h]
  simp only [List.reverse_append, List.reverse_cons, List.reverse_nil, List.nil_append,
    List.singleton_append, List.reverse_reverse, Bool.and_eq_true]
  cases tree.node location with
  | none => simp
  | some node => cases node <;> simp

theorem canWrite_ne_directory {location : Location} (h : tree.canWrite location = true) :
    tree.node location ≠ some .directory := by
  intro hnode
  unfold canWrite at h
  rw [hnode] at h
  exact nomatch h

theorem canWrite_parent {location : Location} {name : String}
    (h : tree.canWrite (location ++ [name]) = true) :
    tree.node location = some .directory ∧ isName name = true := by
  by_cases hnode : tree.node (location ++ [name]) = none
  · exact (tree.canWrite_append hnode).mp h
  · exact ⟨tree.parent location name hnode, tree.names location name hnode⟩

/-- The tree with the data in the file at the location. -/
def write (location : Location) (data : Data) (h : tree.canWrite location = true) :
    FileTree Data where
  node other := if other = location then some (.file data) else tree.node other
  root := by
    have hne : [] ≠ location := fun heq => tree.canWrite_ne_directory h (heq ▸ tree.root)
    rw [if_neg hne]
    exact tree.root
  parent other name hnode := by
    by_cases hother : other = location
    · have hne : other ++ [name] ≠ location := by
        rw [hother]
        simp
      rw [if_neg hne] at hnode
      have hdirectory := tree.parent other name hnode
      rw [hother] at hdirectory
      exact absurd hdirectory (tree.canWrite_ne_directory h)
    · rw [if_neg hother]
      by_cases hchild : other ++ [name] = location
      · rw [← hchild] at h
        exact (tree.canWrite_parent h).1
      · rw [if_neg hchild] at hnode
        exact tree.parent other name hnode
  names other name hnode := by
    by_cases hchild : other ++ [name] = location
    · rw [← hchild] at h
      exact (tree.canWrite_parent h).2
    · rw [if_neg hchild] at hnode
      exact tree.names other name hnode

def ofEntries {Data : Type} (entries : List (Location × FileNode Data))
    (hroot : entries.lookup [] = some .directory)
    (hentries : ∀ entry ∈ entries, entry.1 = [] ∨
      (entries.lookup entry.1.dropLast = some .directory ∧
        isName (entry.1.getLast?.getD "") = true)) : FileTree Data where
  node location := entries.lookup location
  root := hroot
  parent location name hnode := by
    obtain ⟨node, hnode⟩ := Option.ne_none_iff_exists'.mp hnode
    have hentry := hentries _ (mem_of_lookup hnode)
    simp at hentry
    exact hentry.1
  names location name hnode := by
    obtain ⟨node, hnode⟩ := Option.ne_none_iff_exists'.mp hnode
    have hentry := hentries _ (mem_of_lookup hnode)
    simp at hentry
    exact hentry.2

/-! ### The walk as a relation -/

/-- The segments lead from one location to another, whatever the number of links. -/
inductive Walks : Location → List String → Location → Prop where
  | done (location : Location) : Walks location [] location
  | stay {location last : Location} {segment : String} {rest : List String}
      (hdirectory : tree.node location = some .directory) (hstays : stays segment = true)
      (hrest : Walks location rest last) : Walks location (segment :: rest) last
  | up {location last : Location} {rest : List String}
      (hdirectory : tree.node location = some .directory)
      (hrest : Walks location.dropLast rest last) : Walks location (".." :: rest) last
  | enter {location last : Location} {segment : String} {rest : List String}
      (hdirectory : tree.node location = some .directory) (hname : isName segment = true)
      (hnode : ∀ target, tree.node (location ++ [segment]) ≠ some (.link target))
      (hrest : Walks (location ++ [segment]) rest last) : Walks location (segment :: rest) last
  | follow {location last : Location} {segment : String} {rest : List String} {target : FilePath}
      (hdirectory : tree.node location = some .directory) (hname : isName segment = true)
      (hnode : tree.node (location ++ [segment]) = some (.link target))
      (hrest : Walks (target.start location) (target.segments ++ rest) last) :
      Walks location (segment :: rest) last

theorem isName_iff {segment : String} :
    isName segment = true ↔ ¬stays segment = true ∧ segment ≠ ".." := by
  unfold isName
  simp

theorem walkFrom_walks {follow : Location → List String → Except FileError Location}
    (hfollow : ∀ location segments last, follow location segments = .ok last →
      tree.Walks location segments last) (segments : List String) :
    ∀ location last, tree.walkFrom follow location segments = .ok last →
      tree.Walks location segments last := by
  induction segments with
  | nil =>
    intro location last h
    injection h with h
    exact h ▸ .done location
  | cons segment rest ih =>
    intro location last h
    unfold walkFrom at h
    cases hnode : tree.node location with
    | none =>
      rw [hnode] at h
      contradiction
    | some node =>
      rw [hnode] at h
      cases node with
      | file data => contradiction
      | link target => contradiction
      | directory =>
        simp only at h
        by_cases hstays : stays segment = true
        · rw [if_pos hstays] at h
          exact .stay hnode hstays (ih location last h)
        · rw [if_neg hstays] at h
          by_cases hup : segment = ".."
          · rw [if_pos hup] at h
            subst hup
            exact .up hnode (ih _ last h)
          · rw [if_neg hup] at h
            have hname := isName_iff.mpr ⟨hstays, hup⟩
            split at h
            · rename_i target hlink
              exact .follow hnode hname hlink (hfollow _ _ last h)
            · rename_i hlink
              exact .enter hnode hname hlink (ih _ last h)

theorem walk_walks (links : Nat) : ∀ location segments last,
    tree.walk links location segments = .ok last → tree.Walks location segments last := by
  induction links with
  | zero =>
    intro location segments last h
    refine tree.walkFrom_walks ?_ segments location last h
    intro _ _ _ hstop
    contradiction
  | succ links ih =>
    exact fun location segments last h => tree.walkFrom_walks ih segments location last h

variable {tree}

theorem locate_walks {links : Nat} {cwd last : Location} {path : FilePath}
    (h : tree.locate links cwd path = .ok last) :
    tree.Walks (path.start cwd) path.segments last := by
  unfold locate at h
  split at h
  · contradiction
  · exact tree.walk_walks links _ _ last h

theorem not_stays_up : ¬stays ".." = true := by decide

theorem not_name_up : ¬isName ".." = true := by decide

theorem isName_not_stays {segment : String} (h : isName segment = true) : ¬stays segment = true :=
  (isName_iff.mp h).1

/-- A path leads to one location. -/
theorem Walks.unique {location first second : Location} {segments : List String}
    (h : tree.Walks location segments first) (h' : tree.Walks location segments second) :
    first = second := by
  induction h with
  | done location =>
    cases h' with
    | done => rfl
  | stay hdirectory hstays hrest ih =>
    cases h' with
    | stay _ _ hrest' => exact ih hrest'
    | up => exact absurd hstays not_stays_up
    | enter _ hname => exact absurd hstays (isName_not_stays hname)
    | follow _ hname => exact absurd hstays (isName_not_stays hname)
  | up hdirectory hrest ih =>
    cases h' with
    | stay _ hstays => exact absurd hstays not_stays_up
    | up _ hrest' => exact ih hrest'
    | enter _ hname => exact absurd hname not_name_up
    | follow _ hname => exact absurd hname not_name_up
  | enter hdirectory hname hnode hrest ih =>
    cases h' with
    | stay _ hstays => exact absurd hstays (isName_not_stays hname)
    | up => exact absurd hname not_name_up
    | enter _ _ _ hrest' => exact ih hrest'
    | follow _ _ hlink => exact absurd hlink (hnode _)
  | follow hdirectory hname hnode hrest ih =>
    cases h' with
    | stay _ hstays => exact absurd hstays (isName_not_stays hname)
    | up => exact absurd hname not_name_up
    | enter _ _ hlink => exact absurd hnode (hlink _)
    | follow _ _ hlink hrest' =>
      rw [hnode] at hlink
      injection hlink with hlink
      injection hlink with hlink
      subst hlink
      exact ih hrest'

theorem Walks.split {location last : Location} {segments : List String}
    (h : tree.Walks location segments last) : ∀ before after, segments = before ++ after →
      ∃ middle, tree.Walks location before middle ∧ tree.Walks middle after last := by
  induction h with
  | done location =>
    intro before after hsegments
    obtain ⟨hbefore, hafter⟩ := List.append_eq_nil_iff.mp hsegments.symm
    subst hbefore
    subst hafter
    exact ⟨location, .done location, .done location⟩
  | @stay location last segment rest hdirectory hstays hrest ih =>
    intro before after hsegments
    cases before with
    | nil =>
      rw [List.nil_append] at hsegments
      subst hsegments
      exact ⟨location, .done location, .stay hdirectory hstays hrest⟩
    | cons head before =>
      injection hsegments with hhead hsegments
      subst hhead
      obtain ⟨middle, hfirst, hsecond⟩ := ih before after hsegments
      exact ⟨middle, .stay hdirectory hstays hfirst, hsecond⟩
  | @up location last rest hdirectory hrest ih =>
    intro before after hsegments
    cases before with
    | nil =>
      rw [List.nil_append] at hsegments
      subst hsegments
      exact ⟨location, .done location, .up hdirectory hrest⟩
    | cons head before =>
      injection hsegments with hhead hsegments
      subst hhead
      obtain ⟨middle, hfirst, hsecond⟩ := ih before after hsegments
      exact ⟨middle, .up hdirectory hfirst, hsecond⟩
  | @enter location last segment rest hdirectory hname hnode hrest ih =>
    intro before after hsegments
    cases before with
    | nil =>
      rw [List.nil_append] at hsegments
      subst hsegments
      exact ⟨location, .done location, .enter hdirectory hname hnode hrest⟩
    | cons head before =>
      injection hsegments with hhead hsegments
      subst hhead
      obtain ⟨middle, hfirst, hsecond⟩ := ih before after hsegments
      exact ⟨middle, .enter hdirectory hname hnode hfirst, hsecond⟩
  | @follow location last segment rest target hdirectory hname hnode hrest ih =>
    intro before after hsegments
    cases before with
    | nil =>
      rw [List.nil_append] at hsegments
      subst hsegments
      exact ⟨location, .done location, .follow hdirectory hname hnode hrest⟩
    | cons head before =>
      injection hsegments with hhead hsegments
      subst hhead
      obtain ⟨middle, hfirst, hsecond⟩ := ih (target.segments ++ before) after
        (by rw [hsegments, List.append_assoc]; rfl)
      exact ⟨middle, .follow hdirectory hname hnode hfirst, hsecond⟩

theorem Walks.stays_eq {location last : Location} {segments : List String}
    (h : tree.Walks location segments last) (hstays : ∀ segment ∈ segments, stays segment = true) :
    last = location := by
  induction h with
  | done location => rfl
  | stay _ _ _ ih => exact ih fun segment hsegment => hstays segment (List.mem_cons_of_mem _ hsegment)
  | up => exact absurd (hstays _ List.mem_cons_self) not_stays_up
  | enter _ hname => exact absurd (hstays _ List.mem_cons_self) (isName_not_stays hname)
  | follow _ hname => exact absurd (hstays _ List.mem_cons_self) (isName_not_stays hname)

/-! ### Locations -/

theorem ancestor {location : Location} (rest : List String) (hne : rest ≠ [])
    (h : tree.node (location ++ rest) ≠ none) : tree.node location = some .directory := by
  induction rest using List.reverseRecOn with
  | nil => exact absurd rfl hne
  | append_singleton rest name ih =>
    rw [← List.append_assoc] at h
    have hparent := tree.parent _ name h
    cases rest with
    | nil =>
      rw [List.append_nil] at hparent
      exact hparent
    | cons head tail =>
      apply ih (List.cons_ne_nil head tail)
      rw [hparent]
      exact nofun

theorem walkFrom_location (follow : Location → List String → Except FileError Location)
    (rest : List String) : ∀ location, tree.node (location ++ rest) ≠ none →
      (∀ target, tree.node (location ++ rest) ≠ some (.link target)) →
      tree.walkFrom follow location rest = .ok (location ++ rest) := by
  induction rest with
  | nil =>
    intro location _ _
    rw [List.append_nil]
    rfl
  | cons name rest ih =>
    intro location hnode hlink
    have hdirectory := ancestor (name :: rest) (List.cons_ne_nil name rest) hnode
    have hassoc : location ++ name :: rest = location ++ [name] ++ rest := by simp
    rw [hassoc] at hnode hlink ⊢
    have hchild : tree.node (location ++ [name]) ≠ none ∧
        ∀ target, tree.node (location ++ [name]) ≠ some (.link target) := by
      cases rest with
      | nil =>
        rw [List.append_nil] at hnode hlink
        exact ⟨hnode, hlink⟩
      | cons head tail =>
        rw [ancestor (head :: tail) (List.cons_ne_nil head tail) hnode]
        exact ⟨nofun, nofun⟩
    have hname := isName_iff.mp (tree.names location name hchild.1)
    unfold walkFrom
    rw [hdirectory]
    simp only
    rw [if_neg hname.1, if_neg hname.2]
    split
    · rename_i target htarget
      exact absurd htarget (hchild.2 target)
    · exact ih (location ++ [name]) hnode hlink

theorem locate_location {location : Location} (links : Nat) (cwd : Location)
    (hnode : tree.node location ≠ none)
    (hlink : ∀ target, tree.node location ≠ some (.link target)) :
    tree.locate links cwd ⟨true, location⟩ = .ok location := by
  unfold locate
  rw [if_neg (fun h => nomatch h.1)]
  cases links with
  | zero => exact walkFrom_location _ location [] hnode hlink
  | succ links => exact walkFrom_location _ location [] hnode hlink

theorem dropLast_directory {location : Location} (h : tree.node location = some .directory) :
    tree.node location.dropLast = some .directory := by
  induction location using List.reverseRecOn with
  | nil => exact tree.root
  | append_singleton before name =>
    rw [List.dropLast_concat]
    apply tree.parent before name
    rw [h]
    exact nofun

/-- A path that starts in a directory does not end on a link. -/
theorem Walks.notLink {location last : Location} {segments : List String}
    (h : tree.Walks location segments last) (hstart : ∀ target, tree.node location ≠ some (.link target)) :
    ∀ target, tree.node last ≠ some (.link target) := by
  induction h with
  | done location => exact hstart
  | stay _ _ _ ih => exact ih hstart
  | up hdirectory _ ih =>
    apply ih
    rw [dropLast_directory hdirectory]
    exact nofun
  | enter _ _ hnode _ ih => exact ih hnode
  | follow hdirectory _ _ _ ih =>
    apply ih
    unfold FilePath.start
    split
    · rw [tree.root]
      exact nofun
    · exact hstart

end FileTree

end AgentSpreadsheet.Library
