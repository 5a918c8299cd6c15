import Mathlib.Data.List.SplitOn
import Mathlib.Data.List.TakeDrop

/-! Line-oriented append-only files. A file is a run of terminated lines and a
tail that a torn write may have left; the tail is no line. -/
namespace AgentSpreadsheet.Library
variable {β : Type}

/-- A file of terminated lines. -/
def terminated (sep : β) (lines : List (List β)) : List β :=
  lines.flatMap (· ++ [sep])

@[simp] theorem terminated_nil (sep : β) : terminated sep [] = [] := rfl

@[simp] theorem terminated_cons (sep : β) (line : List β) (lines : List (List β)) :
    terminated sep (line :: lines) = line ++ sep :: terminated sep lines := by
  simp [terminated]

@[simp] theorem terminated_append (sep : β) (lines more : List (List β)) :
    terminated sep (lines ++ more) = terminated sep lines ++ terminated sep more := by
  simp [terminated]

theorem terminated_ends (sep : β) (lines : List (List β)) :
    terminated sep lines = [] ∨ ∃ body, terminated sep lines = body ++ [sep] := by
  rcases List.eq_nil_or_concat lines with rfl | ⟨inner, last, rfl⟩
  · exact .inl rfl
  · exact .inr ⟨terminated sep inner ++ last, by simp⟩

variable [DecidableEq β]

/-- The length up to and with the last separator. -/
def completeLength (sep : β) (raw : List β) : Nat :=
  match raw.reverse.findIdx? (· == sep) with
  | some i => raw.length - i
  | none => 0

/-- The lines of the complete part, without their separators. -/
def linesOf (sep : β) (raw : List β) : List (List β) :=
  ((raw.take (completeLength sep raw)).splitOn sep).dropLast

theorem completeLength_append_tail (sep : β) (lines : List (List β)) {tail : List β}
    (htail : sep ∉ tail) :
    completeLength sep (terminated sep lines ++ tail) = (terminated sep lines).length := by
  have hskip : ∀ b ∈ tail.reverse, (b == sep) = false := by
    intro b hb
    exact beq_false_of_ne fun h => htail (h ▸ List.mem_reverse.mp hb)
  unfold completeLength
  rw [List.reverse_append, List.findIdx?_append, List.findIdx?_eq_none_iff.mpr hskip]
  rcases terminated_ends sep lines with hnil | ⟨body, hbody⟩
  · simp [hnil]
  · rw [hbody]
    simp [List.findIdx?_cons]
    omega

theorem linesOf_append_tail (sep : β) {lines : List (List β)} (hlines : ∀ line ∈ lines, sep ∉ line)
    {tail : List β} (htail : sep ∉ tail) : linesOf sep (terminated sep lines ++ tail) = lines := by
  unfold linesOf
  rw [completeLength_append_tail sep lines htail, List.take_left]
  induction lines with
  | nil => rfl
  | cons line rest ih =>
    have hline : ∀ b ∈ line, (b == sep) = false := by
      intro b hb
      exact beq_false_of_ne fun h => hlines line List.mem_cons_self (h ▸ hb)
    rw [terminated_cons, List.splitOn,
      List.splitOnP_append_cons_of_forall_mem hline sep (beq_self_eq_true sep)]
    have hrest := ih fun l hl => hlines l (List.mem_cons_of_mem _ hl)
    rw [List.splitOn] at hrest
    rw [List.dropLast_cons_of_ne_nil (List.splitOnP_ne_nil _ _), hrest]

theorem count_terminated (sep : β) {lines : List (List β)} (hlines : ∀ line ∈ lines, sep ∉ line)
    {tail : List β} (htail : sep ∉ tail) :
    (terminated sep lines ++ tail).count sep = lines.length := by
  induction lines with
  | nil => exact List.count_eq_zero.mpr htail
  | cons line rest ih =>
    have hline : line.count sep = 0 := List.count_eq_zero.mpr (hlines line List.mem_cons_self)
    have hrest := ih fun l hl => hlines l (List.mem_cons_of_mem _ hl)
    rw [List.count_append] at hrest
    simp only [terminated_cons, List.append_assoc, List.cons_append, List.count_append,
      List.count_cons_self, hline, List.length_cons]
    omega

/-- A cut at any place leaves the lines that end before it and a torn tail. -/
theorem take_terminated (sep : β) {lines : List (List β)} (hlines : ∀ line ∈ lines, sep ∉ line)
    {tail : List β} (htail : sep ∉ tail) (n : Nat) :
    ∃ torn, sep ∉ torn ∧ (terminated sep lines ++ tail).take n =
      terminated sep (lines.take (((terminated sep lines ++ tail).take n).count sep)) ++ torn := by
  suffices hcut : ∃ k torn, sep ∉ torn ∧ k ≤ lines.length ∧
      (terminated sep lines ++ tail).take n = terminated sep (lines.take k) ++ torn by
    obtain ⟨k, torn, htorn, hk, htake⟩ := hcut
    have hcount := count_terminated sep
      (fun line hline => hlines line (List.mem_of_mem_take (i := k) hline)) htorn
    rw [← htake, List.length_take_of_le hk] at hcount
    exact ⟨torn, htorn, by rw [hcount, htake]⟩
  induction lines generalizing n with
  | nil => exact ⟨0, tail.take n, fun h => htail (List.mem_of_mem_take h), by simp, by simp⟩
  | cons line rest ih =>
    have hline : sep ∉ line := hlines line List.mem_cons_self
    by_cases hn : n ≤ line.length
    · refine ⟨0, line.take n, fun h => hline (List.mem_of_mem_take h), by simp, ?_⟩
      simp [List.take_append_of_le_length hn]
    · obtain ⟨k, torn, htorn, hk, htake⟩ :=
        ih (fun l hl => hlines l (List.mem_cons_of_mem _ hl)) (n - line.length - 1)
      refine ⟨k + 1, torn, htorn, by simpa using hk, ?_⟩
      have hsplit : n = line.length + (n - line.length - 1 + 1) := by omega
      rw [terminated_cons, hsplit, List.append_assoc, List.cons_append,
        List.take_length_add_append, List.take_succ_cons, htake]
      simp

/-! ### Pieces of a text -/

/-- The pieces of a text, each with the separator that ends it. -/
def splitInclusive (sep : β) : List β → List (List β)
  | [] => []
  | b :: rest =>
    if b = sep then [sep] :: splitInclusive sep rest
    else
      match splitInclusive sep rest with
      | [] => [[b]]
      | piece :: pieces => (b :: piece) :: pieces

/-- A separator stands at the end of a piece, if anywhere. -/
theorem mem_splitInclusive {sep : β} {text piece : List β} (h : piece ∈ splitInclusive sep text) :
    ∃ body, sep ∉ body ∧ (piece = body ∨ piece = body ++ [sep]) := by
  induction text generalizing piece with
  | nil => contradiction
  | cons b rest ih =>
    unfold splitInclusive at h
    split at h
    · cases h with
      | head => exact ⟨[], List.not_mem_nil, .inr rfl⟩
      | tail _ h => exact ih h
    · rename_i hb
      have hfirst {body : List β} (hbody : sep ∉ body) : sep ∉ b :: body := by
        intro hmem
        cases hmem with
        | head => exact hb rfl
        | tail _ hmem => exact hbody hmem
      split at h
      · rw [List.mem_singleton.mp h]
        exact ⟨[b], hfirst List.not_mem_nil, .inl rfl⟩
      · rename_i first pieces hpieces
        rw [hpieces] at ih
        cases h with
        | head =>
          obtain ⟨body, hbody, hpiece⟩ := ih List.mem_cons_self
          apply Exists.intro (b :: body)
          apply And.intro (hfirst hbody)
          cases hpiece with
          | inl hpiece => exact .inl (by rw [hpiece])
          | inr hpiece => exact .inr (by rw [hpiece]; rfl)
        | tail _ h => exact ih (List.mem_cons_of_mem _ h)

theorem splitInclusive_append_cons (sep : β) {line : List β} (hline : sep ∉ line) (rest : List β) :
    splitInclusive sep (line ++ sep :: rest) = (line ++ [sep]) :: splitInclusive sep rest := by
  induction line with
  | nil =>
    rw [List.nil_append, splitInclusive, if_pos rfl]
    rfl
  | cons b line ih =>
    have hb : b ≠ sep := fun h => hline (h ▸ List.mem_cons_self)
    rw [List.cons_append, splitInclusive, if_neg hb,
      ih fun hmem => hline (List.mem_cons_of_mem _ hmem)]
    rfl

theorem splitInclusive_terminated (sep : β) {lines : List (List β)}
    (hlines : ∀ line ∈ lines, sep ∉ line) :
    splitInclusive sep (terminated sep lines) = lines.map (· ++ [sep]) := by
  induction lines with
  | nil => rfl
  | cons line rest ih =>
    rw [terminated_cons, splitInclusive_append_cons sep (hlines line List.mem_cons_self),
      ih fun l hl => hlines l (List.mem_cons_of_mem _ hl), List.map_cons]

omit [DecidableEq β] in
theorem append_cons_inj {sep : β} {front front' back back' : List β} (hback : sep ∉ back)
    (hback' : sep ∉ back') (h : front ++ sep :: back = front' ++ sep :: back') :
    front = front' ∧ back = back' := by
  rw [List.append_eq_append_iff] at h
  rcases h with ⟨between, hfront, hrest⟩ | ⟨between, hfront, hrest⟩
  · cases between with
    | nil =>
      rw [List.nil_append, List.cons.injEq] at hrest
      exact ⟨by rw [hfront, List.append_nil], hrest.2⟩
    | cons b between =>
      rw [List.cons_append, List.cons.injEq] at hrest
      rw [hrest.2] at hback
      exact absurd (List.mem_append_right between List.mem_cons_self) hback
  · cases between with
    | nil =>
      rw [List.nil_append, List.cons.injEq] at hrest
      exact ⟨by rw [hfront, List.append_nil], hrest.2.symm⟩
    | cons b between =>
      rw [List.cons_append, List.cons.injEq] at hrest
      rw [hrest.2] at hback'
      exact absurd (List.mem_append_right between List.mem_cons_self) hback'

end AgentSpreadsheet.Library
