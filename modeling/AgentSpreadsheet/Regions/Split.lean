import AgentSpreadsheet.Regions.Detect

/-! What a detection of regions returns for what it split. The cap on the leaves is one flag for the
splits and for the regions: the split that meets it leaves no region behind. -/
namespace AgentSpreadsheet.Regions
open Library

/-! ### Rectangles -/

structure Rect.Valid (rect : Rect) : Prop where
  rows : rect.startRow ≤ rect.endRow
  cols : rect.startCol ≤ rect.endCol

structure Rect.Within (inner outer : Rect) : Prop where
  rows : outer.startRow ≤ inner.startRow ∧ inner.endRow ≤ outer.endRow
  cols : outer.startCol ≤ inner.startCol ∧ inner.endCol ≤ outer.endCol

def Rect.Apart (a b : Rect) : Prop :=
  (a.endRow < b.startRow ∨ b.endRow < a.startRow) ∨ a.endCol < b.startCol ∨ b.endCol < a.startCol

theorem Rect.Within.refl (rect : Rect) : rect.Within rect :=
  ⟨⟨Nat.le_refl _, Nat.le_refl _⟩, Nat.le_refl _, Nat.le_refl _⟩

theorem Rect.Within.trans {a b c : Rect} (h : a.Within b) (h' : b.Within c) : a.Within c where
  rows := ⟨Nat.le_trans h'.rows.1 h.rows.1, Nat.le_trans h.rows.2 h'.rows.2⟩
  cols := ⟨Nat.le_trans h'.cols.1 h.cols.1, Nat.le_trans h.cols.2 h'.cols.2⟩

theorem Rect.Apart.mono {a a' b b' : Rect} (h : a.Apart b) (ha : a'.Within a) (hb : b'.Within b) :
    a'.Apart b' := by
  have := ha.rows
  have := ha.cols
  have := hb.rows
  have := hb.cols
  unfold Rect.Apart at *
  omega

theorem Rect.Valid.not_apart {a b c : Rect} (hc : c.Valid) (ha : c.Within a) (hb : c.Within b) :
    ¬a.Apart b := by
  have := hc.rows
  have := hc.cols
  have := ha.rows
  have := ha.cols
  have := hb.rows
  have := hb.cols
  unfold Rect.Apart
  omega

section Split
variable {occupancy : Occupancy} {rect : Rect}

/-! ### No subtraction goes below zero -/

theorem checkedSub_ok {a b : Nat} (h : b ≤ a) : checkedSub a b = .ok (a - b) := if_pos h

theorem lines_ok {first last : Nat} (h : first ≤ last) : lines first last = .ok (last - first + 1) := by
  unfold lines
  rw [checkedSub_ok h]
  rfl

theorem rowColCounts_ok (h : rect.Valid) : ∃ counts, rowColCounts occupancy rect = .ok counts ∧
    counts.1.length = rect.endRow - rect.startRow + 1 ∧
    counts.2.length = rect.endCol - rect.startCol + 1 := by
  unfold rowColCounts
  rw [lines_ok h.rows, lines_ok h.cols]
  exact ⟨_, rfl, by simp, by simp⟩

/-- A run with a line before it and a line after it, if it is one at all. -/
def BlankRun.Inner (total : Nat) (run : BlankRun) : Prop :=
  run.len = 0 ∨ 0 < run.start ∧ run.start ≤ run.stop ∧ run.stop + 1 < total

theorem endRun_ok {total start stop : Nat} {best : BlankRun} (h : start ≤ stop)
    (hbest : best.Inner total) :
    ∃ best', endRun total start stop best = .ok best' ∧ best'.Inner total := by
  unfold endRun
  rw [lines_ok h]
  refine ⟨_, rfl, ?_⟩
  split
  · next hnew => exact .inr ⟨hnew.2.1, h, hnew.2.2⟩
  · exact hbest

theorem blankRunsFrom_ok {total span : Nat} (counts : List Nat) {idx : Nat} {runs : BlankRuns}
    (hstart : ∀ start ∈ runs.currentStart, start < idx) (hbest : runs.best.Inner total) :
    ∃ runs', blankRunsFrom total span idx counts runs = .ok runs' ∧
      (∀ start ∈ runs'.currentStart, start < idx + counts.length) ∧ runs'.best.Inner total := by
  induction counts generalizing idx runs with
  | nil => exact ⟨runs, rfl, hstart, hbest⟩
  | cons count counts ih =>
    have hstep : ∃ runs', blankRunStep total span idx count runs = .ok runs' ∧
        (∀ start ∈ runs'.currentStart, start < idx + 1) ∧ runs'.best.Inner total := by
      unfold blankRunStep
      split
      · refine ⟨_, rfl, ?_, hbest⟩
        intro start h
        obtain rfl := Option.some.inj h
        cases hcurrent : runs.currentStart with
        | none => exact Nat.lt_succ_self idx
        | some start => exact Nat.lt_succ_of_lt (hstart start hcurrent)
      · cases hcurrent : runs.currentStart with
        | none => exact ⟨runs, rfl, by simp [hcurrent], hbest⟩
        | some start =>
          have hlt := hstart start hcurrent
          obtain ⟨best, hend, hinner⟩ := @endRun_ok total start (idx - 1) runs.best (by omega) hbest
          dsimp only
          rw [checkedSub_ok (by omega)]
          change ∃ runs', (endRun total start (idx - 1) runs.best >>= _) = .ok runs' ∧ _
          rw [hend]
          exact ⟨_, rfl, by simp, hinner⟩
    obtain ⟨runs', hrun, hstart', hbest'⟩ := hstep
    obtain ⟨runs'', hrest, hstart'', hbest''⟩ := ih hstart' hbest'
    refine ⟨runs'', ?_, ?_, hbest''⟩
    · unfold blankRunsFrom
      rw [hrun]
      exact hrest
    · intro start h
      have := hstart'' start h
      rw [List.length_cons]
      omega

theorem findBlankRuns_ok {counts : List Nat} (span : Nat) :
    ∃ run, findBlankRuns counts span = .ok run ∧ ∀ best ∈ run,
      0 < best.start ∧ best.start ≤ best.stop ∧ best.stop + 1 < counts.length := by
  obtain ⟨runs, hruns, hstart, hbest⟩ := @blankRunsFrom_ok counts.length span counts 0 {} (by simp)
    (.inl rfl)
  have hlast : ∃ best, lastRun counts.length runs = .ok best ∧ best.Inner counts.length := by
    unfold lastRun
    cases hcurrent : runs.currentStart with
    | none => exact ⟨_, rfl, hbest⟩
    | some start =>
      have hlt := hstart start hcurrent
      dsimp only
      rw [checkedSub_ok (by omega)]
      exact endRun_ok (by omega) hbest
  obtain ⟨best, hlast, hinner⟩ := hlast
  unfold findBlankRuns
  rw [hruns]
  change ∃ run, (lastRun counts.length runs >>= _) = .ok run ∧ _
  rw [hlast]
  refine ⟨_, rfl, ?_⟩
  intro best' h
  split at h
  · obtain rfl := Option.some.inj h
    exact hinner.resolve_left (by omega)
  · contradiction

def Gutter.Inner (rect : Rect) : Gutter → Prop
  | .row start stop => rect.startRow < start ∧ start ≤ stop ∧ stop < rect.endRow
  | .col start stop => rect.startCol < start ∧ start ≤ stop ∧ stop < rect.endCol

theorem bestGutter_ok (h : rect.Valid) :
    ∃ gutter, bestGutter occupancy rect = .ok gutter ∧ ∀ best ∈ gutter, best.Inner rect := by
  obtain ⟨counts, hcounts, hheight, hwidth⟩ := @rowColCounts_ok occupancy rect h
  obtain ⟨rowRun, hrow, hrowInner⟩ :=
    @findBlankRuns_ok counts.1 (rect.endCol - rect.startCol + 1)
  obtain ⟨colRun, hcol, hcolInner⟩ :=
    @findBlankRuns_ok counts.2 (rect.endRow - rect.startRow + 1)
  have hrows := h.rows
  have hcols := h.cols
  unfold bestGutter
  rw [hcounts, lines_ok h.cols, lines_ok h.rows]
  refine ⟨bestOf rect rowRun colRun, ?_, ?_⟩
  · change (findBlankRuns counts.1 (rect.endCol - rect.startCol + 1) >>= _) = _
    rw [hrow]
    change (findBlankRuns counts.2 (rect.endRow - rect.startRow + 1) >>= _) = _
    rw [hcol]
    rfl
  · have hrowGutter (run : BlankRun) (hrun : run ∈ rowRun) :
        (Gutter.row (rect.startRow + run.start) (rect.startRow + run.stop)).Inner rect := by
      have := hrowInner run hrun
      unfold Gutter.Inner
      dsimp only
      omega
    have hcolGutter (run : BlankRun) (hrun : run ∈ colRun) :
        (Gutter.col (rect.startCol + run.start) (rect.startCol + run.stop)).Inner rect := by
      have := hcolInner run hrun
      unfold Gutter.Inner
      dsimp only
      omega
    intro best hbest
    unfold bestOf at hbest
    split at hbest
    · contradiction
    · obtain rfl := Option.some.inj hbest
      exact hrowGutter _ rfl
    · obtain rfl := Option.some.inj hbest
      exact hcolGutter _ rfl
    · split at hbest
      · obtain rfl := Option.some.inj hbest
        exact hcolGutter _ rfl
      · obtain rfl := Option.some.inj hbest
        exact hrowGutter _ rfl

/-! ### Leaves -/

def Rect.above (rect : Rect) (start : Nat) : Rect := { rect with endRow := start - 1 }
def Rect.below (rect : Rect) (stop : Nat) : Rect := { rect with startRow := stop + 1 }
def Rect.leftOf (rect : Rect) (start : Nat) : Rect := { rect with endCol := start - 1 }
def Rect.rightOf (rect : Rect) (stop : Nat) : Rect := { rect with startCol := stop + 1 }

def Rect.IsCell (rect : Rect) : Prop := rect.endRow ≤ rect.startRow ∧ rect.endCol ≤ rect.startCol

/-- The rectangles that cuts at the best gutters make of one, `n` cuts deep at most and however
many they are. -/
inductive Splits (occupancy : Occupancy) : Nat → Rect → List Rect → Prop where
  | deep (rect : Rect) : Splits occupancy 0 rect [rect]
  | cell {n : Nat} {rect : Rect} : rect.IsCell → Splits occupancy (n + 1) rect [rect]
  | whole {n : Nat} {rect : Rect} : ¬rect.IsCell → bestGutter occupancy rect = .ok none →
    Splits occupancy (n + 1) rect [rect]
  | row {n : Nat} {rect : Rect} {start stop : Nat} {upper lower : List Rect} : ¬rect.IsCell →
    bestGutter occupancy rect = .ok (some (.row start stop)) →
    Splits occupancy n (rect.above start) upper → Splits occupancy n (rect.below stop) lower →
    Splits occupancy (n + 1) rect (upper ++ lower)
  | col {n : Nat} {rect : Rect} {start stop : Nat} {left right : List Rect} : ¬rect.IsCell →
    bestGutter occupancy rect = .ok (some (.col start stop)) →
    Splits occupancy n (rect.leftOf start) left → Splits occupancy n (rect.rightOf stop) right →
    Splits occupancy (n + 1) rect (left ++ right)

/-- Rectangles inside another and apart from one another. -/
structure Parts (rect : Rect) (leaves : List Rect) : Prop where
  valid : ∀ leaf ∈ leaves, leaf.Valid
  within : ∀ leaf ∈ leaves, leaf.Within rect
  apart : leaves.Pairwise Rect.Apart

theorem Parts.single (h : rect.Valid) : Parts rect [rect] where
  valid _ hleaf := List.mem_singleton.mp hleaf ▸ h
  within _ hleaf := List.mem_singleton.mp hleaf ▸ Rect.Within.refl _
  apart := List.pairwise_singleton _ _

theorem Parts.append {first last : Rect} {leaves leaves' : List Rect} (h : Parts first leaves)
    (h' : Parts last leaves') (hfirst : first.Within rect) (hlast : last.Within rect)
    (hapart : first.Apart last) : Parts rect (leaves ++ leaves') where
  valid leaf hleaf := (List.mem_append.mp hleaf).elim (h.valid leaf) (h'.valid leaf)
  within leaf hleaf := (List.mem_append.mp hleaf).elim
    (fun hleaf => (h.within leaf hleaf).trans hfirst)
    fun hleaf => (h'.within leaf hleaf).trans hlast
  apart := List.pairwise_append.mpr ⟨h.apart, h'.apart, fun leaf hleaf leaf' hleaf' =>
    hapart.mono (h.within leaf hleaf) (h'.within leaf' hleaf')⟩

structure Sides (rect first last : Rect) : Prop where
  first_valid : first.Valid
  last_valid : last.Valid
  first_within : first.Within rect
  last_within : last.Within rect
  apart : first.Apart last

theorem row_sides (h : rect.Valid) {start stop : Nat} (hinner : (Gutter.row start stop).Inner rect) :
    Sides rect (rect.above start) (rect.below stop) := by
  have hrows := h.rows
  have hcols := h.cols
  unfold Gutter.Inner at hinner
  dsimp only at hinner
  unfold Rect.above Rect.below
  refine ⟨⟨?_, hcols⟩, ⟨?_, hcols⟩, ⟨?_, Nat.le_refl _, Nat.le_refl _⟩,
    ⟨?_, Nat.le_refl _, Nat.le_refl _⟩, .inl ?_⟩
  all_goals dsimp only; omega

theorem col_sides (h : rect.Valid) {start stop : Nat} (hinner : (Gutter.col start stop).Inner rect) :
    Sides rect (rect.leftOf start) (rect.rightOf stop) := by
  have hrows := h.rows
  have hcols := h.cols
  unfold Gutter.Inner at hinner
  dsimp only at hinner
  unfold Rect.leftOf Rect.rightOf
  refine ⟨⟨hrows, ?_⟩, ⟨hrows, ?_⟩, ⟨⟨Nat.le_refl _, Nat.le_refl _⟩, ?_⟩,
    ⟨⟨Nat.le_refl _, Nat.le_refl _⟩, ?_⟩, .inr ?_⟩
  all_goals dsimp only; omega

theorem Sides.parts {first last : Rect} {leaves leaves' : List Rect} (h : Sides rect first last)
    (hfirst : Parts first leaves) (hlast : Parts last leaves') : Parts rect (leaves ++ leaves') :=
  hfirst.append hlast h.first_within h.last_within h.apart

theorem inner_of_bestGutter (h : rect.Valid) {gutter : Gutter}
    (hgutter : bestGutter occupancy rect = .ok (some gutter)) : gutter.Inner rect := by
  obtain ⟨gutter', hgutter', hinner⟩ := @bestGutter_ok occupancy rect h
  obtain rfl := Except.ok.inj (hgutter.symm.trans hgutter')
  exact hinner gutter rfl

theorem exists_splits (n : Nat) {rect : Rect} (h : rect.Valid) :
    ∃ leaves, Splits occupancy n rect leaves := by
  induction n generalizing rect with
  | zero => exact ⟨_, .deep rect⟩
  | succ n ih =>
    by_cases hcell : rect.IsCell
    · exact ⟨_, .cell hcell⟩
    · obtain ⟨gutter, hgutter, hinner⟩ := @bestGutter_ok occupancy rect h
      cases gutter with
      | none => exact ⟨_, .whole hcell hgutter⟩
      | some gutter =>
        cases gutter with
        | row start stop =>
          have hsides := row_sides h (hinner _ rfl)
          obtain ⟨upper, hupper⟩ := ih hsides.first_valid
          obtain ⟨lower, hlower⟩ := ih hsides.last_valid
          exact ⟨_, .row hcell hgutter hupper hlower⟩
        | col start stop =>
          have hsides := col_sides h (hinner _ rfl)
          obtain ⟨left, hleft⟩ := ih hsides.first_valid
          obtain ⟨right, hright⟩ := ih hsides.last_valid
          exact ⟨_, .col hcell hgutter hleft hright⟩

theorem Splits.ne_nil {n : Nat} {leaves : List Rect} (h : Splits occupancy n rect leaves) :
    leaves ≠ [] := by
  induction h with
  | row _ _ _ _ ih _ => exact fun h => ih (List.append_eq_nil_iff.mp h).1
  | col _ _ _ _ ih _ => exact fun h => ih (List.append_eq_nil_iff.mp h).1
  | _ => exact List.cons_ne_nil _ _

structure Splitting.Tallied (splitting : Splitting) : Prop where
  count : splitting.limits.leaves = splitting.leaves.length
  exceeded : splitting.limits.exceededLeaves = decide (detectMaxLeaves ≤ splitting.leaves.length)

theorem Splitting.Tallied.stops {splitting : Splitting} (h : splitting.Tallied)
    (hstop : splitting.limits.shouldStop = true) : detectMaxLeaves ≤ splitting.leaves.length := by
  unfold DetectLimits.shouldStop at hstop
  rw [h.exceeded] at hstop
  exact of_decide_eq_true hstop

/-- What a split of a rectangle adds: all leaves while there is room for them, and otherwise
as many as it takes to exceed the limit. -/
structure SplitFrom (rect : Rect) (leaves : List Rect) (before after : Splitting) : Prop where
  tallied : after.Tallied
  added : ∃ more, after.leaves = before.leaves ++ more ∧ Parts rect more
  room : before.leaves.length + leaves.length < detectMaxLeaves →
    after.leaves = before.leaves ++ leaves
  full : detectMaxLeaves ≤ before.leaves.length + leaves.length →
    detectMaxLeaves ≤ after.leaves.length

theorem SplitFrom.leaf {before : Splitting} (h : rect.Valid) (htallied : before.Tallied)
    {leaves : List Rect} (hleaves : leaves = [rect] ∨ detectMaxLeaves ≤ before.leaves.length) :
    SplitFrom rect leaves before (before.leaf rect) where
  tallied := by
    have hcount := htallied.count
    refine ⟨?_, ?_⟩
    · simp [Splitting.leaf, DetectLimits.noteLeaf, hcount]
    · have hexceeded := htallied.exceeded
      simp only [Splitting.leaf, DetectLimits.noteLeaf, hexceeded, hcount, List.length_append,
        List.length_singleton]
      rw [← Bool.decide_or]
      apply decide_eq_decide.mpr
      omega
  added := ⟨[rect], rfl, Parts.single h⟩
  room hroom := by
    cases hleaves with
    | inl hleaves => rw [hleaves]; rfl
    | inr hfull => omega
  full hfull := by
    simp only [Splitting.leaf, List.length_append, List.length_singleton]
    cases hleaves with
    | inl hleaves =>
      rw [hleaves, List.length_singleton] at hfull
      exact hfull
    | inr hfull => omega

theorem SplitFrom.append {first last : Rect} {leaves leaves' : List Rect}
    {before between after : Splitting} (hsides : Sides rect first last)
    (h : SplitFrom first leaves before between) (h' : SplitFrom last leaves' between after) :
    SplitFrom rect (leaves ++ leaves') before after where
  tallied := h'.tallied
  added := by
    obtain ⟨more, hmore, hparts⟩ := h.added
    obtain ⟨more', hmore', hparts'⟩ := h'.added
    exact ⟨more ++ more', by rw [hmore', hmore, List.append_assoc], hsides.parts hparts hparts'⟩
  room hroom := by
    rw [List.length_append] at hroom
    have hbetween := h.room (by omega)
    rw [h'.room (by rw [hbetween, List.length_append]; omega), hbetween, List.append_assoc]
  full hfull := by
    rw [List.length_append] at hfull
    by_cases hroom : before.leaves.length + leaves.length < detectMaxLeaves
    · apply h'.full
      rw [h.room hroom, List.length_append]
      omega
    · have hbetween := h.full (by omega)
      obtain ⟨more, hmore, _⟩ := h'.added
      rw [hmore, List.length_append]
      omega

theorem splitRect_ok {n : Nat} {leaves : List Rect} (hsplits : Splits occupancy n rect leaves)
    (h : rect.Valid) {before : Splitting} (htallied : before.Tallied) :
    ∃ after, splitRect occupancy n rect before = .ok after ∧
      SplitFrom rect leaves before after := by
  induction hsplits generalizing before with
  | deep rect => exact ⟨_, rfl, .leaf h htallied (.inl rfl)⟩
  | cell hcell =>
    unfold splitRect
    split
    · next hstop => exact ⟨_, rfl, .leaf h htallied (.inl rfl)⟩
    · exact ⟨_, if_pos hcell, .leaf h htallied (.inl rfl)⟩
  | whole hcell hgutter =>
    unfold splitRect
    split
    · exact ⟨_, rfl, .leaf h htallied (.inl rfl)⟩
    · next hgo =>
      unfold Rect.IsCell at hcell
      rw [if_neg hcell]
      unfold findBestGutter
      rw [if_neg hgo, hgutter]
      exact ⟨_, rfl, .leaf h htallied (.inl rfl)⟩
  | row hcell hgutter _ _ ihupper ihlower =>
    unfold splitRect
    split
    · next hstop => exact ⟨_, rfl, .leaf h htallied (.inr (htallied.stops hstop))⟩
    · next hgo =>
      have hinner := inner_of_bestGutter h hgutter
      have hsides := row_sides h hinner
      obtain ⟨between, hfirst, hupper⟩ := ihupper hsides.first_valid htallied
      obtain ⟨after, hlast, hlower⟩ := ihlower hsides.last_valid hupper.tallied
      refine ⟨after, ?_, hupper.append hsides hlower⟩
      unfold Gutter.Inner at hinner
      dsimp only at hinner
      unfold Rect.IsCell at hcell
      unfold findBestGutter
      rw [if_neg hcell, if_neg hgo, hgutter]
      dsimp only [bind, Except.bind]
      unfold Rect.above at hfirst
      unfold Rect.below at hlast
      rw [if_pos hinner.1, checkedSub_ok (by omega)]
      dsimp only
      rw [hfirst]
      dsimp only
      rw [if_pos hinner.2.2]
      exact hlast
  | col hcell hgutter _ _ ihleft ihright =>
    unfold splitRect
    split
    · next hstop => exact ⟨_, rfl, .leaf h htallied (.inr (htallied.stops hstop))⟩
    · next hgo =>
      have hinner := inner_of_bestGutter h hgutter
      have hsides := col_sides h hinner
      obtain ⟨between, hfirst, hleft⟩ := ihleft hsides.first_valid htallied
      obtain ⟨after, hlast, hright⟩ := ihright hsides.last_valid hleft.tallied
      refine ⟨after, ?_, hleft.append hsides hright⟩
      unfold Gutter.Inner at hinner
      dsimp only at hinner
      unfold Rect.IsCell at hcell
      unfold findBestGutter
      rw [if_neg hcell, if_neg hgo, hgutter]
      dsimp only [bind, Except.bind]
      unfold Rect.leftOf at hfirst
      unfold Rect.rightOf at hlast
      rw [if_pos hinner.1, checkedSub_ok (by omega)]
      dsimp only
      rw [hfirst]
      dsimp only
      rw [if_pos hinner.2.2]
      exact hlast

/-! ### Trimming -/

theorem trimSides_within (top bottom left right : Bool) (h : rect.Valid) :
    (trimSides top bottom left right rect).Valid ∧
      (trimSides top bottom left right rect).Within rect := by
  have hrows := h.rows
  have hcols := h.cols
  unfold trimSides
  dsimp only
  split_ifs <;> refine ⟨⟨?_, ?_⟩, ?_, ?_⟩ <;> first | omega | (dsimp only at *; omega)

theorem trimStep_ok (h : rect.Valid) : ∃ trimmed, trimStep occupancy rect = .ok trimmed ∧
    trimmed.Valid ∧ trimmed.Within rect := by
  obtain ⟨counts, hcounts, _⟩ := @rowColCounts_ok occupancy rect h
  unfold trimStep
  rw [hcounts, lines_ok h.cols, lines_ok h.rows]
  exact ⟨_, rfl, trimSides_within _ _ _ _ h⟩

/-- Trimming ends, and something is left. -/
theorem trimRect_ok (limits : DetectLimits) (h : rect.Valid) :
    ∃ trimmed, trimRect occupancy limits rect = .ok (some trimmed) ∧
      trimmed.Valid ∧ trimmed.Within rect := by
  obtain ⟨extent, hextent⟩ : ∃ extent, extent = rect.extent := ⟨_, rfl⟩
  induction extent using Nat.strong_induction_on generalizing rect with
  | _ extent ih =>
    obtain ⟨trimmed, hstep, hvalid, hwithin⟩ := @trimStep_ok occupancy rect h
    rw [trimRect]
    by_cases hstop : limits.shouldStop = true
    · exact ⟨rect, if_pos hstop, h, Rect.Within.refl rect⟩
    · rw [if_neg hstop]
      split
      · next error herror =>
        rw [hstep] at herror
        contradiction
      · next trimmed' hstep' =>
        obtain rfl := Except.ok.inj (hstep.symm.trans hstep')
        by_cases hsame : trimmed = rect
        · exact ⟨rect, dif_pos hsame, h, Rect.Within.refl rect⟩
        · have hrows := hvalid.rows
          have hcols := hvalid.cols
          rw [dif_neg hsame, if_neg (by omega)]
          obtain ⟨last, hlast, hlastValid, hlastWithin⟩ := ih trimmed.extent
            (hextent ▸ trimStep_extent occupancy hstep hsame) hvalid rfl
          exact ⟨last, hlast, hlastValid, hlastWithin.trans hwithin⟩

/-! ### Regions -/

theorem buildRegion_ok (h : rect.Valid) (id : Nat) :
    ∃ region, buildRegion rect id = .ok region ∧ region.rect = rect ∧ region.id = id := by
  unfold buildRegion
  rw [lines_ok h.cols, lines_ok h.rows]
  exact ⟨_, rfl, rfl, rfl⟩

theorem collectRegions_ok {limits : DetectLimits} (hgo : limits.shouldStop = false)
    {leaves : List Rect} (hvalid : ∀ leaf ∈ leaves, leaf.Valid) (idx : Nat) :
    ∃ regions, collectRegions occupancy limits idx leaves = .ok regions ∧
      List.Forall₂ (fun leaf region => region.rect.Valid ∧ region.rect.Within leaf)
        leaves regions ∧
      regions.map DetectedRegion.id = List.range' idx leaves.length := by
  induction leaves generalizing idx with
  | nil => exact ⟨[], rfl, .nil, rfl⟩
  | cons leaf leaves ih =>
    obtain ⟨trimmed, htrim, hleaf, hwithin⟩ := @trimRect_ok occupancy leaf limits
      (hvalid leaf List.mem_cons_self)
    obtain ⟨region, hregion, hrect, hid⟩ := buildRegion_ok hleaf idx
    obtain ⟨regions, hregions, hall, hids⟩ := ih
      (fun other hother => hvalid other (List.mem_cons_of_mem _ hother)) (idx + 1)
    refine ⟨region :: regions, ?_, .cons ?_ hall, ?_⟩
    · unfold collectRegions
      rw [hgo, htrim, hregions]
      dsimp only [bind, Except.bind, Option.mapM]
      rw [hregion]
      rfl
    · rw [hrect]
      exact ⟨hleaf, hwithin⟩
    · rw [List.map_cons, hid, hids]
      rfl

theorem sum_map_eq_zero {xs : List Nat} {f : Nat → Nat} (h : ∀ x ∈ xs, f x = 0) :
    (xs.map f).sum = 0 := by
  apply List.sum_eq_zero
  intro y hy
  obtain ⟨x, hx, rfl⟩ := List.mem_map.mp hy
  exact h x hx

theorem bounds_valid (h : occupancy.cellCount ≠ 0) : occupancy.bounds.Valid := by
  by_contra hinvalid
  apply h
  apply sum_map_eq_zero
  intro row _
  unfold rowCount
  rw [List.countP_eq_zero]
  intro i _ hoccupied
  have hplaced := occupancy.placed row (0 + i) hoccupied
  unfold Rect.Has at hplaced
  exact hinvalid ⟨by omega, by omega⟩

theorem fallbackRegions_ok : ∃ regions, fallbackRegions occupancy = .ok regions ∧
    regions.length ≤ 1 ∧ ∀ region ∈ regions, region.rect.Valid := by
  have hdense : ∀ bounds ∈ denseBounds occupancy, bounds.Valid := by
    intro bounds hbounds
    unfold denseBounds at hbounds
    dsimp only at hbounds
    split at hbounds
    · contradiction
    · next hsome =>
      split at hbounds
      · obtain rfl := Option.some.inj hbounds
        exact bounds_valid hsome
      · split at hbounds
        · obtain rfl := Option.some.inj hbounds
          exact bounds_valid hsome
        · next hvalid =>
          obtain rfl := Option.some.inj hbounds
          exact ⟨by dsimp only; omega, by dsimp only; omega⟩
  unfold fallbackRegions
  cases hbounds : denseBounds occupancy with
  | none => exact ⟨[], rfl, by simp, by simp⟩
  | some bounds =>
    obtain ⟨region, hregion, hrect, _⟩ := buildRegion_ok (hdense bounds hbounds) 0
    unfold buildFallbackRegion
    dsimp only
    rw [hregion]
    refine ⟨[region], rfl, Nat.le_refl 1, fun other hother => ?_⟩
    rw [List.mem_singleton.mp hother, hrect]
    exact hdense bounds hbounds

/-! ### What a detection returns -/

/-- The regions are apart, inside the occupied bounds and numbered differently, and there is
exactly one in each leaf. -/
structure Detected (bounds : Rect) (leaves : List Rect) (regions : List DetectedRegion) : Prop where
  apart : regions.Pairwise fun a b => a.rect.Apart b.rect
  inside : ∀ region ∈ regions, region.rect.Valid ∧ region.rect.Within bounds
  ids : (regions.map DetectedRegion.id).Nodup
  one : ∀ leaf ∈ leaves, ∃! region, region ∈ regions ∧ region.rect.Within leaf

/-- The sheet is neither blank nor past the caps on its size. -/
structure InsideCaps (occupancy : Occupancy) (metrics : SheetMetrics) : Prop where
  rows : metrics.rowCount ≠ 0
  columns : metrics.columnCount ≠ 0
  cells : occupancy.cellCount ≠ 0
  caps : exceedsCaps occupancy metrics = false

/-- The split and the detection come to an end without an underflow, and the regions are those
of the leaves. -/
def ReturnsSplit (occupancy : Occupancy) (metrics : SheetMetrics) : Prop :=
  ∃ splitting result, splitBounds occupancy = .ok splitting ∧
    detectRegions occupancy metrics = .ok result ∧
    Detected occupancy.bounds splitting.leaves result.regions

theorem detected_of_forall {leaves : List Rect} {regions : List DetectedRegion}
    (hparts : Parts rect leaves)
    (hall : List.Forall₂ (fun leaf region => region.rect.Valid ∧ region.rect.Within leaf)
      leaves regions)
    (hids : (regions.map DetectedRegion.id).Nodup) : Detected rect leaves regions := by
  obtain ⟨hlength, hregion⟩ := List.forall₂_iff_get.mp hall
  have hapart (i j : Nat) (hi : i < leaves.length) (hj : j < leaves.length) (hij : i < j) :
      (leaves[i]).Apart leaves[j] := List.pairwise_iff_getElem.mp hparts.apart i j hi hj hij
  refine ⟨?_, ?_, hids, ?_⟩
  · rw [List.pairwise_iff_getElem]
    intro i j hi hj hij
    rw [← hlength] at hi hj
    exact (hapart i j hi hj hij).mono (hregion i hi (hlength ▸ hi)).2 (hregion j hj (hlength ▸ hj)).2
  · intro region hmem
    obtain ⟨i, hi, rfl⟩ := List.getElem_of_mem hmem
    have hi' : i < leaves.length := hlength ▸ hi
    have hleaf := hregion i hi' hi
    exact ⟨hleaf.1, hleaf.2.trans (hparts.within _ (List.getElem_mem hi'))⟩
  · intro leaf hmem
    obtain ⟨i, hi, rfl⟩ := List.getElem_of_mem hmem
    have hi' : i < regions.length := hlength ▸ hi
    refine ⟨regions[i], ⟨List.getElem_mem hi', (hregion i hi hi').2⟩, fun other hother => ?_⟩
    obtain ⟨j, hj, rfl⟩ := List.getElem_of_mem hother.1
    have hj' : j < leaves.length := hlength ▸ hj
    -- A region in two leaves would be in two that are apart.
    have hvalid := (hregion j hj' hj).1
    cases Nat.lt_trichotomy i j with
    | inl hlt =>
      exact absurd (hapart i j hi hj' hlt) (hvalid.not_apart hother.2 (hregion j hj' hj).2)
    | inr h =>
      cases h with
      | inl heq => subst heq; rfl
      | inr hgt =>
        exact absurd (hapart j i hj' hi hgt) (hvalid.not_apart (hregion j hj' hj).2 hother.2)

theorem tallied_start : Splitting.Tallied {} := ⟨rfl, rfl⟩

theorem detectRegions_eq {metrics : SheetMetrics} (h : InsideCaps occupancy metrics) :
    detectRegions occupancy metrics = splitBounds occupancy >>= fun splitting =>
      collectRegions occupancy splitting.limits 0 splitting.leaves >>=
        withFallback occupancy splitting.limits := by
  have hsome : ¬(metrics.rowCount = 0 ∨ metrics.columnCount = 0 ∨ occupancy.cellCount = 0) :=
    fun hnone => hnone.elim h.rows fun hnone => hnone.elim h.columns h.cells
  unfold detectRegions
  rw [if_neg hsome, h.caps]
  rfl

theorem returns_of_room {metrics : SheetMetrics} (h : InsideCaps occupancy metrics)
    {leaves : List Rect} (hsplits : Splits occupancy detectMaxDepth occupancy.bounds leaves)
    (hroom : leaves.length < detectMaxLeaves) : ReturnsSplit occupancy metrics := by
  obtain ⟨splitting, hsplit, hfrom⟩ := splitRect_ok hsplits (bounds_valid h.cells) tallied_start
  have hleaves : splitting.leaves = leaves := hfrom.room (by simpa using hroom)
  obtain ⟨more, hmore, hparts⟩ := hfrom.added
  obtain rfl : leaves = more := hleaves.symm.trans hmore
  have hgo : splitting.limits.shouldStop = false := by
    unfold DetectLimits.shouldStop
    rw [hfrom.tallied.exceeded, hleaves]
    exact decide_eq_false (by omega)
  obtain ⟨regions, hregions, hall, hids⟩ :=
    @collectRegions_ok occupancy splitting.limits hgo leaves hparts.valid 0
  have hne : regions ≠ [] := by
    rintro rfl
    exact hsplits.ne_nil (List.forall₂_nil_right_iff.mp hall)
  refine ⟨splitting, ⟨regions, detectionNotes splitting.limits⟩, hsplit, ?_, ?_⟩
  · rw [detectRegions_eq h]
    unfold splitBounds
    rw [hsplit]
    change (collectRegions occupancy splitting.limits 0 splitting.leaves >>= _) = _
    rw [hleaves, hregions]
    exact if_neg hne
  · rw [hleaves]
    refine detected_of_forall hparts hall ?_
    rw [hids]
    exact List.nodup_range'

theorem not_returns_of_exceeded {metrics : SheetMetrics} (h : InsideCaps occupancy metrics)
    {splitting : Splitting} (hsplit : splitBounds occupancy = .ok splitting)
    (hexceeded : splitting.limits.exceededLeaves = true) : ¬ReturnsSplit occupancy metrics := by
  obtain ⟨leaves, hsplits⟩ := @exists_splits occupancy detectMaxDepth _ (bounds_valid h.cells)
  obtain ⟨after, hafter, hfrom⟩ := splitRect_ok hsplits (bounds_valid h.cells) tallied_start
  obtain rfl := Except.ok.inj (hsplit.symm.trans hafter)
  obtain ⟨more, hmore, hparts⟩ := hfrom.added
  obtain ⟨regions, hfallback, hone, hvalid⟩ := @fallbackRegions_ok occupancy
  have hcount : detectMaxLeaves ≤ splitting.leaves.length := hfrom.tallied.stops hexceeded
  have hcollect : collectRegions occupancy splitting.limits 0 splitting.leaves = .ok [] := by
    cases splitting.leaves with
    | nil => rfl
    | cons leaf leaves => exact if_pos hexceeded
  intro hreturns
  obtain ⟨splitting', result, hsplit', hdetect, hdetected⟩ := hreturns
  obtain rfl := Except.ok.inj (hsplit.symm.trans hsplit')
  rw [detectRegions_eq h, hsplit'] at hdetect
  change (collectRegions occupancy splitting.limits 0 splitting.leaves >>= _) = _ at hdetect
  rw [hcollect] at hdetect
  change (fallbackRegions occupancy >>= _) = _ at hdetect
  rw [hfallback] at hdetect
  obtain rfl := Except.ok.inj hdetect
  have hmore' : splitting.leaves = more := by simpa using hmore
  unfold detectMaxLeaves at hcount
  have hfirst : 0 < splitting.leaves.length := by omega
  have hsecond : 1 < splitting.leaves.length := by omega
  obtain ⟨region, ⟨hmem, hwithin⟩, _⟩ := hdetected.one _ (List.getElem_mem hfirst)
  obtain ⟨region', ⟨hmem', hwithin'⟩, _⟩ := hdetected.one _ (List.getElem_mem hsecond)
  have hsame : region = region' := by
    cases regions with
    | nil => contradiction
    | cons first rest =>
      obtain rfl : rest = [] := List.eq_nil_of_length_eq_zero (by
        rw [List.length_cons] at hone
        omega)
      exact (List.mem_singleton.mp hmem).trans (List.mem_singleton.mp hmem').symm
  subst hsame
  have hapart : splitting.leaves.Pairwise Rect.Apart := hmore' ▸ hparts.apart
  exact (hvalid region hmem).not_apart hwithin hwithin'
    (List.pairwise_iff_getElem.mp hapart 0 1 hfirst hsecond Nat.zero_lt_one)

theorem detects_what_it_split_iff {metrics : SheetMetrics} (h : InsideCaps occupancy metrics) :
    ReturnsSplit occupancy metrics ↔ ∃ leaves,
      Splits occupancy detectMaxDepth occupancy.bounds leaves ∧
        leaves.length < detectMaxLeaves := by
  constructor
  · intro hreturns
    obtain ⟨leaves, hsplits⟩ := @exists_splits occupancy detectMaxDepth _ (bounds_valid h.cells)
    refine ⟨leaves, hsplits, ?_⟩
    by_contra hfull
    obtain ⟨splitting, hsplit, hfrom⟩ :=
      splitRect_ok hsplits (bounds_valid h.cells) tallied_start
    have hcount : detectMaxLeaves ≤ splitting.leaves.length :=
      hfrom.full (by rw [List.length_nil]; omega)
    refine not_returns_of_exceeded h hsplit ?_ hreturns
    rw [hfrom.tallied.exceeded]
    exact decide_eq_true hcount
  · intro hroom
    obtain ⟨leaves, hsplits, hlength⟩ := hroom
    exact returns_of_room h hsplits hlength

end Split

/-! ### One cell, and a column of many -/

def oneCell : Occupancy where
  occupied row col := row == 1 && col == 1
  bounds := ⟨1, 1, 1, 1⟩
  placed row col h := by
    simp only [Bool.and_eq_true, beq_iff_eq] at h
    unfold Rect.Has
    dsimp only
    omega

theorem oneCell_returned : ReturnsSplit oneCell ⟨1, 1⟩ := by
  have hcaps : InsideCaps oneCell ⟨1, 1⟩ := ⟨by decide, by decide, by decide, by decide⟩
  exact (detects_what_it_split_iff hcaps).mpr ⟨_, .cell (by exact ⟨Nat.le_refl 1, Nat.le_refl 1⟩),
    by decide⟩

def rulerLength : Nat → Nat
  | 0 => 1
  | k + 1 => 2 * rulerLength k + (k + 2)

/-- Two rulers of half the cells with a longer gap between them. -/
def ruler : Nat → Nat → Bool
  | 0, offset => offset == 0
  | k + 1, offset =>
    if offset < rulerLength k then ruler k offset
    else if offset < rulerLength k + (k + 2) then false
    else ruler k (offset - (rulerLength k + (k + 2)))

theorem ruler_lt {k offset : Nat} (h : ruler k offset = true) : offset < rulerLength k := by
  induction k generalizing offset with
  | zero =>
    unfold ruler at h
    unfold rulerLength
    simp only [beq_iff_eq] at h
    omega
  | succ k ih =>
    unfold ruler at h
    unfold rulerLength
    split at h
    · omega
    · split at h
      · contradiction
      · have := ih h
        omega

/-- 256 cells in column A, cut in halves eight times. -/
def rulerColumn : Occupancy where
  occupied row col := col == 1 && decide (1 ≤ row) && ruler 8 (row - 1)
  bounds := ⟨1, rulerLength 8, 1, 1⟩
  placed row col h := by
    simp only [Bool.and_eq_true, beq_iff_eq, decide_eq_true_eq] at h
    have := ruler_lt h.2
    unfold Rect.Has
    dsimp only
    omega

theorem rulerColumn_not_returned : ¬ReturnsSplit rulerColumn ⟨1013, 1⟩ := by
  have hcaps : InsideCaps rulerColumn ⟨1013, 1⟩ :=
    ⟨by decide, by decide, by decide +kernel, by decide +kernel⟩
  have hany : (splitBounds rulerColumn).toOption.any (fun splitting =>
      splitting.limits.exceededLeaves) = true := by decide +kernel
  obtain ⟨splitting, hsplit, hexceeded⟩ := exists_ok_of_any hany
  exact not_returns_of_exceeded hcaps hsplit hexceeded

end AgentSpreadsheet.Regions
