import AgentSpreadsheet.Library.Guard
import AgentSpreadsheet.Library.Paging
import Mathlib.Data.List.ReduceOption

/-! Paging by offset over groups of candidates. An item is what a candidate delivers, if anything.
Items before the offset are skipped; a page ends in the group that still has an item after `cap`
deliveries of its own, and the next one starts after as many items as were delivered. -/
namespace AgentSpreadsheet.Library

section Scan
variable {β ν ε : Type} (cap : Nat)

/-- The scan of one group: what it delivers, how far it counted, and whether it stopped early. -/
def collect (offset : Nat) : List (Option β) → List β → Nat → List β × Nat × Bool
  | [], results, seen => (results, seen, false)
  | item :: items, results, seen =>
    if seen < offset then collect offset items results (seen + 1)
    else if cap ≤ results.length then (results, seen, true)
    else
      match item with
      | none => collect offset items results seen
      | some result => collect offset items (results ++ [result]) (seen + 1)

/-- The scan of the named groups in turn. -/
def collectGroups (group : ν → Except ε (List (Option β))) (offset : Nat) :
    List ν → List β → Nat → Except ε (List β × Bool)
  | [], results, _ => .ok (results, false)
  | name :: names, results, seen =>
    match group name with
    | .error e => .error e
    | .ok items =>
      let (found, seen', truncated) := collect cap offset items [] seen
      if truncated then .ok (results ++ found, true)
      else collectGroups group offset names (results ++ found) seen'

/-- What a page has from where it starts. -/
def scan : List (List (Option β)) → List β × Bool
  | [] => ([], false)
  | group :: groups =>
    if cap ≤ group.dropLast.reduceOption.length then (group.reduceOption.take cap, true)
    else (group.reduceOption ++ (scan groups).1, (scan groups).2)

/-- The groups less their first `n` items. -/
def dropItems {α : Type} : Nat → List (List α) → List (List α)
  | _, [] => []
  | n, group :: groups =>
    if group.length < n then dropItems (n - group.length) groups else group.drop n :: groups

@[simp] theorem dropItems_zero {α : Type} (groups : List (List α)) :
    dropItems 0 groups = groups := by
  cases groups <;> simp [dropItems]

variable {cap}

theorem collect_delivers {offset seen : Nat} (hseen : offset ≤ seen) (items : List (Option β))
    (results : List β) : ∃ seen', offset ≤ seen' ∧ collect cap offset items results seen =
      if items ≠ [] ∧ cap ≤ results.length + items.dropLast.reduceOption.length then
        (results ++ items.reduceOption.take (cap - results.length), seen', true)
      else (results ++ items.reduceOption, seen', false) := by
  induction items generalizing results seen with
  | nil => exact ⟨seen, hseen, by simp [collect]⟩
  | cons item items ih =>
    unfold collect
    rw [if_neg (by omega)]
    by_cases hfull : cap ≤ results.length
    · have hstop : item :: items ≠ [] ∧
          cap ≤ results.length + (item :: items).dropLast.reduceOption.length :=
        ⟨List.cons_ne_nil _ _, by omega⟩
      apply Exists.intro seen
      apply And.intro hseen
      rw [if_pos hfull, if_pos hstop, Nat.sub_eq_zero_of_le hfull]
      simp
    · rw [if_neg hfull]
      have hlast (h : items = []) : ¬ (item :: items ≠ [] ∧
          cap ≤ results.length + (item :: items).dropLast.reduceOption.length) := by
        subst h
        simpa using hfull
      cases item with
      | none =>
        obtain ⟨seen', hseen', heq⟩ := ih hseen results
        by_cases hitems : items = []
        · subst hitems
          exact ⟨seen, hseen, by rw [if_neg (hlast rfl)]; simp [collect]⟩
        · apply Exists.intro seen'
          apply And.intro hseen'
          simpa [List.dropLast_cons_of_ne_nil hitems, hitems, List.reduceOption_cons_of_none]
            using heq
      | some result =>
        obtain ⟨seen', hseen', heq⟩ := @ih (seen + 1) (by omega) (results ++ [result])
        by_cases hitems : items = []
        · subst hitems
          exact ⟨seen + 1, by omega, by rw [if_neg (hlast rfl)]; simp [collect]⟩
        · apply Exists.intro seen'
          apply And.intro hseen'
          have hcount : cap - results.length = cap - (results.length + 1) + 1 := by omega
          have hlength : (results ++ [result]).length + items.dropLast.reduceOption.length =
              results.length + (items.dropLast.reduceOption.length + 1) := by
            rw [List.length_append, List.length_singleton]
            omega
          rw [hlength] at heq
          rw [hcount, List.reduceOption_cons_of_some, List.take_succ_cons]
          simpa [List.dropLast_cons_of_ne_nil hitems, hitems, List.reduceOption_cons_of_some]
            using heq

theorem collect_skips {offset seen : Nat} (hseen : seen ≤ offset) (items : List (Option β)) :
    collect cap offset items [] seen =
      if seen + items.length ≤ offset then ([], seen + items.length, false)
      else collect cap offset (items.drop (offset - seen)) [] offset := by
  induction items generalizing seen with
  | nil => simp [collect, hseen]
  | cons item items ih =>
    by_cases hskip : seen < offset
    · have hcount : offset - seen = offset - (seen + 1) + 1 := by omega
      have hone : collect cap offset (item :: items) [] seen =
          collect cap offset items [] (seen + 1) := if_pos hskip
      rw [hone, @ih (seen + 1) (by omega), List.length_cons, hcount, List.drop_succ_cons,
        Nat.add_assoc, Nat.add_comm 1]
    · have heq : seen = offset := by omega
      subst heq
      rw [if_neg (by simp), Nat.sub_self, List.drop_zero]

theorem collect_counts {offset seen : Nat} (hseen : offset ≤ seen) (hcap : 0 < cap)
    (items : List (Option β)) : ∃ seen', offset ≤ seen' ∧ collect cap offset items [] seen =
      if cap ≤ items.dropLast.reduceOption.length then (items.reduceOption.take cap, seen', true)
      else (items.reduceOption, seen', false) := by
  obtain ⟨seen', hseen', heq⟩ := @collect_delivers _ cap _ _ hseen items []
  apply Exists.intro seen'
  apply And.intro hseen'
  rw [heq]
  by_cases hitems : items = []
  · subst hitems
    have hpos : cap ≠ 0 := by omega
    simp [hpos]
  · simp [hitems]

variable {group : ν → Except ε (List (Option β))} {names : List ν} {offset seen : Nat}

/-- Past the offset the scan is that of the groups. -/
theorem collectGroups_delivers (hcap : 0 < cap) {groups : List (List (Option β))}
    (hgroups : names.mapM group = .ok groups) (hseen : offset ≤ seen) (results : List β) :
    collectGroups cap group offset names results seen =
      .ok (results ++ (scan cap groups).1, (scan cap groups).2) := by
  induction names generalizing groups results seen with
  | nil =>
    obtain rfl : [] = groups := by simpa [pure, Except.pure] using hgroups
    simp [collectGroups, scan]
  | cons name names ih =>
    simp only [List.mapM_cons, bind_eq_ok, pure_eq_ok] at hgroups
    obtain ⟨items, hitems, rest, hrest, rfl⟩ := hgroups
    obtain ⟨seen', hseen', hcollect⟩ := collect_counts hseen hcap items
    unfold collectGroups scan
    rw [hitems]
    dsimp only
    rw [hcollect]
    by_cases hstop : cap ≤ items.dropLast.reduceOption.length
    · rw [if_pos hstop, if_pos hstop]
      rfl
    · rw [if_neg hstop, if_neg hstop]
      simpa using ih hrest hseen' (results ++ items.reduceOption)

theorem collectGroups_skips (hcap : 0 < cap) {groups : List (List (Option β))}
    (hgroups : names.mapM group = .ok groups) (hseen : seen ≤ offset) :
    collectGroups cap group offset names [] seen =
      .ok (scan cap (dropItems (offset - seen) groups)) := by
  induction names generalizing groups seen with
  | nil =>
    obtain rfl : [] = groups := by simpa [pure, Except.pure] using hgroups
    simp [collectGroups, scan, dropItems]
  | cons name names ih =>
    simp only [List.mapM_cons, bind_eq_ok, pure_eq_ok] at hgroups
    obtain ⟨items, hitems, rest, hrest, rfl⟩ := hgroups
    unfold collectGroups dropItems
    rw [hitems]
    dsimp only
    rw [collect_skips hseen items]
    by_cases hshort : seen + items.length ≤ offset
    · rw [if_pos hshort]
      dsimp only
      rw [if_neg (by decide), List.append_nil, ih hrest hshort]
      by_cases hdrop : items.length < offset - seen
      · rw [if_pos hdrop, Nat.sub_sub]
      · have hends : offset - (seen + items.length) = 0 := by omega
        rw [if_neg hdrop, hends, dropItems_zero, List.drop_eq_nil_of_le (by omega)]
        have hpos : cap ≠ 0 := by omega
        simp [scan, hpos]
    · have hdrop : ¬ items.length < offset - seen := by omega
      rw [if_neg hshort, if_neg hdrop]
      obtain ⟨seen', hseen', hcollect⟩ :=
        collect_counts (Nat.le_refl offset) hcap (items.drop (offset - seen))
      unfold scan
      rw [hcollect]
      by_cases hstop : cap ≤ (items.drop (offset - seen)).dropLast.reduceOption.length
      · rw [if_pos hstop, if_pos hstop]
        rfl
      · rw [if_neg hstop, if_neg hstop]
        exact collectGroups_delivers hcap hrest hseen' _

end Scan

section Pages
variable {β ν ε π : Type} {cap : Nat}

theorem dropItems_flatten (n : Nat) (groups : List (List (Option β))) :
    (dropItems n groups).flatten = groups.flatten.drop n := by
  induction groups generalizing n with
  | nil => simp [dropItems]
  | cons group groups ih =>
    unfold dropItems
    split
    · rename_i hlength
      rw [ih, List.flatten_cons, List.drop_append, List.drop_eq_nil_of_le (Nat.le_of_lt hlength),
        List.nil_append]
    · rename_i hlength
      rw [List.flatten_cons, List.flatten_cons, List.drop_append_of_le_length (by omega)]

theorem dropItems_add (n m : Nat) (groups : List (List (Option β))) :
    dropItems m (dropItems n groups) = dropItems (n + m) groups := by
  induction groups generalizing n with
  | nil => simp [dropItems]
  | cons group groups ih =>
    by_cases hlength : group.length < n
    · have hlong : group.length < n + m := by omega
      have hcount : n - group.length + m = n + m - group.length := by omega
      rw [dropItems, if_pos hlength, ih, dropItems, if_pos hlong, hcount]
    · rw [dropItems, if_neg hlength, dropItems, dropItems, List.length_drop]
      by_cases hlong : group.length < n + m
      · rw [if_pos (by omega), if_pos hlong]
        congr 1
        omega
      · rw [if_neg (by omega), if_neg hlong, List.drop_drop]

theorem take_reduceOption_le (n : Nat) (items : List (Option β)) :
    items.reduceOption.length ≤ n + (items.drop n).reduceOption.length := by
  have hsplit := congrArg List.length (congrArg List.reduceOption (List.take_append_drop n items))
  rw [List.reduceOption_append, List.length_append] at hsplit
  have htake := List.reduceOption_length_le (items.take n)
  rw [List.length_take] at htake
  omega

/-- Every item delivers. -/
def AllMatched (items : List (Option β)) : Prop := ∀ item ∈ items, item.isSome

theorem AllMatched.append {items items' : List (Option β)} :
    AllMatched (items ++ items') ↔ AllMatched items ∧ AllMatched items' :=
  List.forall_mem_append

theorem allMatched_iff {items : List (Option β)} :
    AllMatched items ↔ items.reduceOption.length = items.length :=
  List.reduceOption_length_eq_iff.symm

/-- As many items as are dropped matter only where all of them deliver. -/
theorem allMatched_take {n : Nat} {items : List (Option β)} (hn : n ≤ items.length)
    (h : n + (items.drop n).reduceOption.length ≤ items.reduceOption.length) :
    AllMatched (items.take n) := by
  have hsplit := congrArg List.length (congrArg List.reduceOption (List.take_append_drop n items))
  rw [List.reduceOption_append, List.length_append] at hsplit
  have htake := List.reduceOption_length_le (items.take n)
  rw [allMatched_iff]
  rw [List.length_take] at htake ⊢
  omega

/-- What a page has begins what there is, and is all of it unless the page stopped. -/
theorem scan_spec (cap : Nat) (groups : List (List (Option β))) :
    (scan cap groups).1 <+: groups.flatten.reduceOption ∧
      ((scan cap groups).2 = false → (scan cap groups).1 = groups.flatten.reduceOption) ∧
      ((scan cap groups).2 = true → cap ≤ (scan cap groups).1.length) := by
  induction groups with
  | nil => simp [scan]
  | cons group groups ih =>
    obtain ⟨hbegins, hall, hfull⟩ := ih
    unfold scan
    rw [List.flatten_cons, List.reduceOption_append]
    split
    · rename_i hstop
      have hlength : cap ≤ group.reduceOption.length :=
        Nat.le_trans hstop ((List.dropLast_sublist group).filterMap id).length_le
      refine ⟨(List.take_prefix _ _).trans (List.prefix_append _ _), by simp, fun _ => ?_⟩
      rw [List.length_take]
      omega
    · refine ⟨(List.prefix_append_right_inj _).mpr hbegins, fun h => ?_, fun h => ?_⟩
      · rw [hall h]
      · have := hfull h
        rw [List.length_append]
        omega

variable (cap)

/-- The pages from the start of the groups on. -/
def scanPages : Nat → List (List (Option β)) → Option (List (List β))
  | 0, _ => none
  | fuel + 1, groups =>
    if (scan cap groups).2 then
      (scanPages fuel (dropItems (scan cap groups).1.length groups)).map ((scan cap groups).1 :: ·)
    else some [(scan cap groups).1]

/-- Pages that end, hold at most `bound` each and have what there is. -/
def ScanExact (bound : Nat) (groups : List (List (Option β))) : Prop :=
  ∃ fuel pages, scanPages cap fuel groups = some pages ∧
    pages.flatten = groups.flatten.reduceOption ∧ ∀ page ∈ pages, page.length ≤ bound

variable {cap}

/-- Pages have each match at least once. -/
theorem scanPages_covers {fuel : Nat} {groups : List (List (Option β))}
    {pages : List (List β)} (h : scanPages cap fuel groups = some pages) :
    groups.flatten.reduceOption.length ≤ pages.flatten.length := by
  induction fuel generalizing groups pages with
  | zero => contradiction
  | succ fuel ih =>
    obtain ⟨_, hall, _⟩ := scan_spec cap groups
    unfold scanPages at h
    split at h
    · obtain ⟨later, hlater, rfl⟩ := Option.map_eq_some_iff.mp h
      have hrest := ih hlater
      have hdrop := take_reduceOption_le (scan cap groups).1.length groups.flatten
      rw [dropItems_flatten] at hrest
      rw [List.flatten_cons, List.length_append]
      omega
    · rename_i hstop
      obtain rfl := Option.some.inj h
      rw [← hall (by simpa using hstop)]
      simp

theorem scan_length_le (cap : Nat) (groups : List (List (Option β))) :
    (scan cap groups).1.length ≤ groups.flatten.length :=
  Nat.le_trans (scan_spec cap groups).1.length_le (List.reduceOption_length_le _)

theorem reduceOption_split (n : Nat) (items : List (Option β)) :
    items.reduceOption = (items.take n).reduceOption ++ (items.drop n).reduceOption := by
  rw [← List.reduceOption_append, List.take_append_drop]

/-- Where as many items as a page has all deliver, the page has what these deliver. -/
theorem scan_of_matched {groups : List (List (Option β))}
    (h : AllMatched (groups.flatten.take (scan cap groups).1.length)) :
    (scan cap groups).1 = (groups.flatten.take (scan cap groups).1.length).reduceOption := by
  have hfits := scan_length_le cap groups
  have hlength := allMatched_iff.mp h
  rw [List.length_take, Nat.min_eq_left hfits] at hlength
  have htake : (groups.flatten.take (scan cap groups).1.length).reduceOption <+:
      groups.flatten.reduceOption := by
    rw [reduceOption_split (scan cap groups).1.length groups.flatten]
    exact List.prefix_append _ _
  exact (List.prefix_of_prefix_length_le (scan_spec cap groups).1 htake
    (Nat.le_of_eq hlength.symm)).eq_of_length hlength.symm

/-- The first page decides, and then what is left after as many items as it has. -/
theorem scanExact_iff {bound : Nat} {groups : List (List (Option β))} :
    ScanExact cap bound groups ↔ (scan cap groups).1.length ≤ bound ∧
      ((scan cap groups).2 = true → AllMatched (groups.flatten.take (scan cap groups).1.length) ∧
        ScanExact cap bound (dropItems (scan cap groups).1.length groups)) := by
  constructor
  · intro h
    obtain ⟨fuel, pages, hpages, hexact, hbound⟩ := h
    cases fuel with
    | zero => contradiction
    | succ fuel =>
      unfold scanPages at hpages
      split at hpages
      · obtain ⟨later, hlater, rfl⟩ := Option.map_eq_some_iff.mp hpages
        apply And.intro (hbound _ List.mem_cons_self)
        intro _
        have hcovers := scanPages_covers hlater
        have hlength := congrArg List.length hexact
        rw [dropItems_flatten] at hcovers
        rw [List.flatten_cons, List.length_append] at hlength
        have hmatched := allMatched_take (scan_length_le cap groups) (by omega)
        apply And.intro hmatched
        refine ⟨fuel, later, hlater, ?_, fun page hpage => hbound page (List.mem_cons_of_mem _ hpage)⟩
        rw [List.flatten_cons, reduceOption_split (scan cap groups).1.length groups.flatten,
          ← scan_of_matched hmatched] at hexact
        rw [dropItems_flatten]
        exact List.append_cancel_left hexact
      · rename_i hstop
        obtain rfl := Option.some.inj hpages
        exact ⟨hbound _ List.mem_cons_self, fun h => absurd h hstop⟩
  · intro h
    obtain ⟨hbound, hrest⟩ := h
    by_cases hstop : (scan cap groups).2 = true
    · obtain ⟨hmatched, fuel, later, hlater, hexact, hlaterBound⟩ := hrest hstop
      rw [dropItems_flatten] at hexact
      refine ⟨fuel + 1, (scan cap groups).1 :: later, by simp [scanPages, hstop, hlater], ?_,
        List.forall_mem_cons.mpr ⟨hbound, hlaterBound⟩⟩
      rw [List.flatten_cons, hexact, reduceOption_split (scan cap groups).1.length groups.flatten,
        ← scan_of_matched hmatched]
    · refine ⟨1, [(scan cap groups).1], by simp [scanPages, hstop], ?_, by simpa using hbound⟩
      simpa using (scan_spec cap groups).2.1 (by simpa using hstop)

/-- A group that still has an item after `cap` deliveries. -/
def Overruns (cap : Nat) (group : List (Option β)) : Prop :=
  cap ≤ group.dropLast.reduceOption.length

/-- Groups that can be paged. `carry` is what is not yet on a page that stopped: a group that
does not overrun adds to it, any other begins with full pages and leaves the rest. -/
def Pageable (cap bound : Nat) : List (Option β) → List (List (Option β)) → Prop
  | carry, [] => carry.reduceOption.length ≤ bound
  | carry, group :: groups =>
    (¬ Overruns cap group ∧ Pageable cap bound (carry ++ group) groups) ∨
      (Overruns cap group ∧ AllMatched carry ∧ carry.length + cap ≤ bound ∧
        ∃ full, full * cap < group.length ∧ AllMatched (group.take (full * cap)) ∧
          ¬ Overruns cap (group.drop (full * cap)) ∧
          Pageable cap bound (group.drop (full * cap)) groups)

section Overruns
variable {bound : Nat} {group : List (Option β)}

theorem Overruns.delivered (h : Overruns cap group) : cap ≤ group.reduceOption.length :=
  Nat.le_trans h ((List.dropLast_sublist group).filterMap id).length_le

theorem Overruns.length (hcap : 0 < cap) (h : Overruns cap group) : cap < group.length := by
  have hlast := Nat.le_trans h (List.reduceOption_length_le _)
  rw [List.length_dropLast] at hlast
  omega

/-- A group with more than `cap` items overruns if the first `cap` deliver. -/
theorem overruns_of_matched (h : AllMatched (group.take cap)) (hlength : cap < group.length) :
    Overruns cap group := by
  have htake : (group.take cap).Sublist group.dropLast := by
    rw [List.dropLast_eq_take]
    exact (List.take_prefix_take_left (by omega)).sublist
  have hcount := (htake.filterMap id).length_le
  have hall := allMatched_iff.mp h
  rw [List.length_take, Nat.min_eq_left (by omega)] at hall
  exact hall ▸ hcount

theorem scan_passes {groups : List (List (Option β))} (h : ¬ Overruns cap group) :
    scan cap (group :: groups) =
      (group.reduceOption ++ (scan cap groups).1, (scan cap groups).2) := if_neg h

theorem scan_stops {groups : List (List (Option β))} (h : Overruns cap group) :
    scan cap (group :: groups) = (group.reduceOption.take cap, true) := if_pos h

theorem scan_append {before groups : List (List (Option β))}
    (h : ∀ group ∈ before, ¬ Overruns cap group) : scan cap (before ++ groups) =
      (before.flatten.reduceOption ++ (scan cap groups).1, (scan cap groups).2) := by
  induction before with
  | nil => rfl
  | cons group before ih =>
    have hhead := h group List.mem_cons_self
    have htail := ih fun group hgroup => h group (List.mem_cons_of_mem _ hgroup)
    rw [List.cons_append, scan_passes hhead, htail, List.flatten_cons, List.reduceOption_append,
      List.append_assoc]

/-- A page that stops in a group: all items it counts deliver exactly when all that are carried
do and the first of the group. -/
theorem allMatched_carried (hcap : 0 < cap) {carry rest : List (Option β)}
    (h : cap ≤ group.length) :
    AllMatched ((carry ++ (group ++ rest)).take (carry.reduceOption.length + cap)) ↔
      AllMatched carry ∧ AllMatched (group.take cap) := by
  have hmost := List.reduceOption_length_le carry
  constructor
  · intro hall
    have hcarry : AllMatched carry := by
      by_contra hnot
      have hless : carry.reduceOption.length < carry.length :=
        Nat.lt_of_le_of_ne hmost fun heq => hnot (allMatched_iff.mpr heq)
      have hfirst : AllMatched (carry.take (carry.reduceOption.length + 1)) := by
        intro item hitem
        apply hall item
        rw [List.take_append]
        apply List.mem_append_left
        exact (List.take_prefix_take_left (by omega)).subset hitem
      have hcount := allMatched_iff.mp hfirst
      have hpart := ((List.take_sublist (carry.reduceOption.length + 1) carry).filterMap id).length_le
      rw [List.length_take, Nat.min_eq_left (by omega)] at hcount
      exact absurd (hcount ▸ hpart) (by simp [List.reduceOption])
    have hsame := allMatched_iff.mp hcarry
    rw [hsame, List.take_length_add_append, AllMatched.append,
      List.take_append_of_le_length h] at hall
    exact hall
  · intro hall
    have hsame := allMatched_iff.mp hall.1
    rw [hsame, List.take_length_add_append, AllMatched.append, List.take_append_of_le_length h]
    exact hall

theorem dropItems_append {α : Type} {n : Nat} (hn : 0 < n) (before groups : List (List α)) :
    dropItems (before.flatten.length + n) (before ++ groups) = dropItems n groups := by
  induction before with
  | nil => simp
  | cons group before ih =>
    have hle : group.length < (group :: before).flatten.length + n := by
      rw [List.flatten_cons, List.length_append]
      omega
    have hcount : (group :: before).flatten.length + n - group.length =
        before.flatten.length + n := by
      rw [List.flatten_cons, List.length_append]
      omega
    rw [List.cons_append, dropItems, if_pos hle, hcount, ih]

theorem scanExact_stops (hcap : 0 < cap) {before groups : List (List (Option β))}
    (hbefore : ∀ group ∈ before, ¬ Overruns cap group) (h : Overruns cap group) :
    ScanExact cap bound (before ++ group :: groups) ↔ AllMatched before.flatten ∧
      before.flatten.length + cap ≤ bound ∧ AllMatched (group.take cap) ∧
      ScanExact cap bound (group.drop cap :: groups) := by
  have hlength := h.length hcap
  have hcount : (before.flatten.reduceOption ++ group.reduceOption.take cap).length =
      before.flatten.reduceOption.length + cap := by
    rw [List.length_append, List.length_take, Nat.min_eq_left h.delivered]
  rw [scanExact_iff, scan_append hbefore, scan_stops h, hcount, List.flatten_append,
    List.flatten_cons, allMatched_carried hcap (Nat.le_of_lt hlength)]
  have hdrop : dropItems cap (group :: groups) = group.drop cap :: groups :=
    if_neg (by omega)
  constructor
  · intro hall
    obtain ⟨hbound, hrest⟩ := hall
    obtain ⟨⟨hcarry, hgroup⟩, hexact⟩ := hrest rfl
    rw [allMatched_iff.mp hcarry] at hbound hexact
    rw [dropItems_append hcap, hdrop] at hexact
    exact ⟨hcarry, hbound, hgroup, hexact⟩
  · intro hall
    obtain ⟨hcarry, hbound, hgroup, hexact⟩ := hall
    rw [allMatched_iff.mp hcarry, dropItems_append hcap, hdrop]
    exact ⟨hbound, fun _ => ⟨⟨hcarry, hgroup⟩, hexact⟩⟩

/-- A group begins with full pages and leaves what does not overrun. -/
theorem scanExact_group (hcap : 0 < cap) (hbound : cap ≤ bound) {groups : List (List (Option β))}
    (hrest : ∀ before : List (List (Option β)), (∀ group ∈ before, ¬ Overruns cap group) →
      (ScanExact cap bound (before ++ groups) ↔ Pageable cap bound before.flatten groups))
    (hsome : 0 < group.length) : ScanExact cap bound (group :: groups) ↔
      ∃ full, full * cap < group.length ∧ AllMatched (group.take (full * cap)) ∧
        ¬ Overruns cap (group.drop (full * cap)) ∧
        Pageable cap bound (group.drop (full * cap)) groups := by
  induction hn : group.length using Nat.strongRecOn generalizing group with
  | ind n ih =>
    subst hn
    by_cases h : Overruns cap group
    · have hlength := h.length hcap
      have hstep := @scanExact_stops _ _ bound _ hcap [] groups (by simp) h
      have hleft : 0 < (group.drop cap).length := by
        rw [List.length_drop]
        omega
      rw [List.nil_append] at hstep
      rw [hstep, ih _ (by rw [List.length_drop]; omega) hleft rfl]
      constructor
      · intro hall
        obtain ⟨_, _, hfirst, full, hlast, hmatched, hends, hpageable⟩ := hall
        have hmul : (full + 1) * cap = cap + full * cap := by
          rw [Nat.succ_mul, Nat.add_comm]
        rw [List.length_drop] at hlast
        rw [List.drop_drop] at hends hpageable
        refine ⟨full + 1, by omega, ?_, hmul ▸ hends, hmul ▸ hpageable⟩
        rw [hmul, List.take_add]
        exact AllMatched.append.mpr ⟨hfirst, hmatched⟩
      · intro hall
        obtain ⟨full, hlast, hmatched, hends, hpageable⟩ := hall
        cases full with
        | zero => exact absurd h (by simpa using hends)
        | succ full =>
          have hmul : (full + 1) * cap = cap + full * cap := by
            rw [Nat.succ_mul, Nat.add_comm]
          rw [hmul] at hlast hmatched hends hpageable
          rw [List.take_add, AllMatched.append] at hmatched
          rw [← List.drop_drop] at hends hpageable
          refine ⟨by simp [AllMatched], by simpa using hbound, hmatched.1, full, ?_, hmatched.2,
            hends, hpageable⟩
          rw [List.length_drop]
          omega
    · have hone := hrest [group] (by simpa using h)
      rw [List.singleton_append] at hone
      rw [hone]
      constructor
      · intro hpageable
        exact ⟨0, by simpa using hsome, by simp [AllMatched], by simpa using h,
          by simpa using hpageable⟩
      · intro hall
        obtain ⟨full, hlast, hmatched, _, hpageable⟩ := hall
        cases full with
        | zero => simpa using hpageable
        | succ full =>
          have hmul : (full + 1) * cap = cap + full * cap := by
            rw [Nat.succ_mul, Nat.add_comm]
          rw [hmul] at hlast hmatched
          rw [List.take_add, AllMatched.append] at hmatched
          exact absurd (overruns_of_matched hmatched.1 (by omega)) h

/-- Paging is exact on groups that can be paged and on no others. -/
theorem scanExact_iff_pageable (hcap : 0 < cap) (groups : List (List (Option β))) :
    ∀ before : List (List (Option β)), (∀ group ∈ before, ¬ Overruns cap group) →
      (ScanExact cap bound (before ++ groups) ↔ Pageable cap bound before.flatten groups) := by
  induction groups with
  | nil =>
    intro before hbefore
    rw [scanExact_iff, scan_append hbefore]
    simp [scan, Pageable]
  | cons group groups ih =>
    intro before hbefore
    unfold Pageable
    by_cases h : Overruns cap group
    · rw [scanExact_stops hcap hbefore h]
      constructor
      · intro hall
        obtain ⟨hcarry, hbound, hgroup, hexact⟩ := hall
        have hwhole := (@scanExact_stops _ _ bound _ hcap [] groups (by simp) h).mpr
          ⟨by simp [AllMatched], by rw [List.flatten_nil, List.length_nil]; omega, hgroup, hexact⟩
        have hsome := Nat.lt_trans hcap (h.length hcap)
        exact Or.inr ⟨h, hcarry, hbound,
          (scanExact_group hcap (by omega) ih hsome).mp hwhole⟩
      · intro hall
        cases hall with
        | inl hnot => exact absurd h hnot.1
        | inr hall =>
          obtain ⟨_, hcarry, hbound, hfull⟩ := hall
          have hsome := Nat.lt_trans hcap (h.length hcap)
          have hwhole := (scanExact_group hcap (by omega) ih hsome).mpr hfull
          have hsplit := (@scanExact_stops _ _ bound _ hcap [] groups (by simp) h).mp hwhole
          exact ⟨hcarry, hbound, hsplit.2.2⟩
    · have hnext := ih (before ++ [group]) fun g hg => by
        cases List.mem_append.mp hg with
        | inl hg => exact hbefore g hg
        | inr hg => exact List.mem_singleton.mp hg ▸ h
      rw [List.append_assoc, List.singleton_append, List.flatten_append, List.flatten_singleton]
        at hnext
      rw [hnext]
      simp [h]

end Overruns

/-- Pages that end and have as many matches as there are have them in order. -/
theorem scanPages_tight {fuel : Nat} {groups : List (List (Option β))} {pages : List (List β)}
    (h : scanPages cap fuel groups = some pages)
    (htight : pages.flatten.length ≤ groups.flatten.reduceOption.length) :
    pages.flatten = groups.flatten.reduceOption := by
  induction fuel generalizing groups pages with
  | zero => contradiction
  | succ fuel ih =>
    unfold scanPages at h
    split at h
    · obtain ⟨later, hlater, rfl⟩ := Option.map_eq_some_iff.mp h
      have hcovers := scanPages_covers hlater
      rw [dropItems_flatten] at hcovers
      rw [List.flatten_cons, List.length_append] at htight
      have hmatched := allMatched_take (scan_length_le cap groups) (by omega)
      have hsplit := reduceOption_split (scan cap groups).1.length groups.flatten
      rw [← scan_of_matched hmatched] at hsplit
      have hcount := congrArg List.length hsplit
      rw [List.length_append] at hcount
      have hrest := ih hlater (by rw [dropItems_flatten]; omega)
      rw [List.flatten_cons, hrest, dropItems_flatten, hsplit]
    · rename_i hstop
      obtain rfl := Option.some.inj h
      simpa using (scan_spec cap groups).2.1 (by simpa using hstop)

/-- Following the offsets of the pages ends, no page has more than `bound` matches, and together
they have each match once, in the order of `before`. -/
def PagedExactly (step : Nat → Except ε π) (next : π → Option Nat) (found : π → List β)
    (bound : Nat) (delivered : List β) (before : β → β → Prop) : Prop :=
  ∃ fuel pages, follow step next fuel 0 = some (pages, none) ∧
    (pages.flatMap found).Perm delivered ∧ (pages.flatMap found).Pairwise before ∧
    ∀ page ∈ pages, (found page).length ≤ bound

section Following
variable {step : Nat → Except ε π} {next : π → Option Nat} {found : π → List β}
  {groups : List (List (Option β))} {bound : Nat}

theorem follow_scanPages (hstep : ∀ offset, ∃ page, step offset = .ok page ∧
      found page = (scan cap (dropItems offset groups)).1 ∧
      next page = if (scan cap (dropItems offset groups)).2 then
        some (offset + (found page).length) else none) (fuel offset : Nat) :
    (follow step next fuel offset).map (fun run => (run.1.map found, run.2)) =
      (scanPages cap fuel (dropItems offset groups)).map fun pages => (pages, none) := by
  induction fuel generalizing offset with
  | zero => rfl
  | succ fuel ih =>
    obtain ⟨page, hpage, hfound, hnext⟩ := hstep offset
    unfold follow scanPages
    rw [hpage]
    dsimp only
    by_cases hstop : (scan cap (dropItems offset groups)).2 = true
    · rw [if_pos hstop] at hnext ⊢
      have hrest := ih (offset + (found page).length)
      rw [hnext, dropItems_add, ← hfound]
      simp only [Option.map_map, Function.comp_def, List.map_cons] at hrest ⊢
      have hcons := congrArg (Option.map fun run : List (List β) × Option ε =>
        (found page :: run.1, run.2)) hrest
      simpa [Function.comp_def] using hcons
    · rw [if_neg hstop] at hnext ⊢
      rw [hnext]
      simp [hfound]

/-- Paging is exact where the groups can be paged and are in order. -/
theorem pagedExactly_iff (hcap : 0 < cap) (hstep : ∀ offset, ∃ page, step offset = .ok page ∧
      found page = (scan cap (dropItems offset groups)).1 ∧
      next page = if (scan cap (dropItems offset groups)).2 then
        some (offset + (found page).length) else none) (before : β → β → Prop) :
    PagedExactly step next found bound groups.flatten.reduceOption before ↔
      Pageable cap bound [] groups ∧ groups.flatten.reduceOption.Pairwise before := by
  have hruns := follow_scanPages hstep
  have hexact := @scanExact_iff_pageable _ cap bound hcap groups [] (by simp)
  rw [List.nil_append, List.flatten_nil] at hexact
  rw [← hexact]
  constructor
  · intro h
    obtain ⟨fuel, pages, hfollow, hall, hordered, hbound⟩ := h
    have hrun := hruns fuel 0
    rw [hfollow, dropItems_zero] at hrun
    obtain ⟨scanned, hscanned, heq⟩ := Option.map_eq_some_iff.mp hrun.symm
    obtain rfl : scanned = pages.map found := congrArg Prod.fst heq
    have hlength := Nat.le_of_eq hall.length_eq
    rw [List.flatMap_def] at hordered hlength
    have hsame := scanPages_tight hscanned hlength
    rw [hsame] at hordered
    exact ⟨⟨fuel, pages.map found, hscanned, hsame, List.forall_mem_map.mpr hbound⟩, hordered⟩
  · intro h
    obtain ⟨⟨fuel, scanned, hscanned, hall, hbound⟩, hordered⟩ := h
    have hrun := hruns fuel 0
    rw [dropItems_zero, hscanned] at hrun
    obtain ⟨⟨pages, failure⟩, hfollow, heq⟩ := Option.map_eq_some_iff.mp hrun
    obtain rfl : failure = none := congrArg Prod.snd heq
    obtain rfl : pages.map found = scanned := congrArg Prod.fst heq
    have hsame : pages.flatMap found = groups.flatten.reduceOption := by
      rw [← hall, List.flatMap_def]
    exact ⟨fuel, pages, hfollow, by rw [hsame], by rwa [hsame], List.forall_mem_map.mp hbound⟩

end Following

theorem scan_fits (hcap : 0 < cap) {groups : List (List (Option β))}
    (h : ∀ group ∈ groups, group.length ≤ cap) :
    scan cap groups = (groups.flatten.reduceOption, false) := by
  have hpass : ∀ group ∈ groups, ¬ Overruns cap group := fun group hgroup hover =>
    absurd (hover.length hcap) (Nat.not_lt.mpr (h group hgroup))
  have hscan : scan cap (groups ++ []) =
      (groups.flatten.reduceOption ++ (scan cap []).1, (scan cap []).2) := scan_append hpass
  rw [List.append_nil] at hscan
  simpa [scan] using hscan

end Pages

end AgentSpreadsheet.Library
