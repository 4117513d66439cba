import PegTemplate.Text.Lines

/-!
# Lines that are put together and cut again

* `SolidLine` : a line without line ends that starts with no indentation and ends with no blank;
* `splitLines_append_feed`, `splitLines_flatMap_feed` : a text is cut at its line feeds;
* `splitLines_joinLines` : **joined lines are cut where they were joined**;
* `trimLines_nil_cons`, `stripEnd_joinLines` : of solid lines, nothing is taken away at the ends;
* `dedent_map_append` : **of solid lines with one margin, dedenting takes just the margin away.**
-/

namespace PegTemplate
open Unicode

/-! ## Cutting -/

/-- A character that ends no line is the first of its line. -/
theorem splitLines_cons {c : Char} (h : isLineEnd c = false) (cs : List Char) :
    splitLines (c :: cs) = consLine c (splitLines cs) := by
  have hne : c ≠ '\r' := fun e => by rw [e] at h; cases h
  rw [splitLines.eq_def]
  split
  · rename_i heq
    cases heq
  · rename_i heq
    cases heq
    exact absurd rfl hne
  · rename_i heq
    cases heq
    rw [h, if_neg Bool.false_ne_true]

/-- A character that ends a line leaves an empty one, unless it is the first half of a line end. -/
theorem splitLines_end {c : Char} {cs : List Char} (h : isLineEnd c = true) (hne : ∀ r, c = '\r' → cs ≠ '\n' :: r) :
    splitLines (c :: cs) = [] :: splitLines cs := by
  rw [splitLines.eq_def]
  split
  · rename_i heq
    cases heq
  · rename_i heq
    cases heq
    exact absurd rfl (hne _ rfl)
  · rename_i heq
    cases heq
    rw [if_pos h]

/-- Up to a line feed there is one line. -/
theorem splitLines_append_feed {l : List Char} (h : ∀ c ∈ l, isLineEnd c = false) (cs : List Char) :
    splitLines (l ++ '\n' :: cs) = l :: splitLines cs := by
  induction l with
  | nil => rfl
  | cons a l ih =>
    rw [List.cons_append, splitLines_cons (h a List.mem_cons_self) (l ++ '\n' :: cs),
      ih fun c hc => h c (List.mem_cons_of_mem a hc), consLine]

/-- A text without line ends is one line. -/
theorem splitLines_unbroken {l : List Char} (h : ∀ c ∈ l, isLineEnd c = false) (hne : l ≠ []) : splitLines l = [l] := by
  induction l with
  | nil => exact absurd rfl hne
  | cons a l ih =>
    rw [splitLines_cons (h a List.mem_cons_self) l]
    cases l with
    | nil => rfl
    | cons b l => rw [ih (fun c hc => h c (List.mem_cons_of_mem a hc)) (List.cons_ne_nil b l), consLine]

theorem splitLines_flatMap_feed {ls : List (List Char)} (h : ∀ l ∈ ls, ∀ c ∈ l, isLineEnd c = false) :
    splitLines (ls.flatMap (· ++ ['\n'])) = ls := by
  induction ls with
  | nil => rfl
  | cons l ls ih =>
    rw [List.flatMap_cons, List.append_assoc, List.singleton_append, splitLines_append_feed (h l List.mem_cons_self),
      ih fun k hk => h k (List.mem_cons_of_mem l hk)]

/-! ## Solid lines -/

/-- A line that layout leaves as it is, apart from its margin. -/
structure SolidLine (l : List Char) : Prop where
  unbroken : ∀ c ∈ l, isLineEnd c = false
  noNul : '\x00' ∉ l
  starts : ∃ a as, l = a :: as ∧ isIndent a = false
  ends : ∃ as a, l = as ++ [a] ∧ isBlank a = false

namespace SolidLine

variable {l : List Char}

theorem ne_nil (h : SolidLine l) : l ≠ [] := by
  obtain ⟨a, as, rfl, -⟩ := h.starts
  exact List.cons_ne_nil a as

theorem isBlankLine_append (h : SolidLine l) (margin : List Char) : isBlankLine (margin ++ l) = false := by
  obtain ⟨as, a, rfl, ha⟩ := h.ends
  simp [isBlankLine, ha]

theorem stripEnd_append (h : SolidLine l) (before : List Char) : stripEnd (before ++ l) = before ++ l := by
  obtain ⟨as, a, rfl, ha⟩ := h.ends
  simp [stripEnd, ha]

theorem all_isIndent_append (h : SolidLine l) (margin : List Char) : (margin ++ l).all isIndent = false := by
  obtain ⟨a, as, rfl, ha⟩ := h.starts
  simp [ha]

/-- The indentation of a line is the margin before it. -/
theorem margin?_append (h : SolidLine l) {margin : List Char} (hm : ∀ c ∈ margin, isIndent c = true) :
    margin? (margin ++ l) = some margin := by
  rw [margin?, h.all_isIndent_append, if_neg Bool.false_ne_true, List.takeWhile_append_of_pos hm]
  obtain ⟨a, as, rfl, ha⟩ := h.starts
  simp [ha]

end SolidLine

/-! ## Joining -/

theorem joinLines_cons_cons (l k : List Char) (ls : List (List Char)) :
    joinLines (l :: k :: ls) = l ++ '\n' :: joinLines (k :: ls) := by
  rw [joinLines]
  exact List.cons_ne_nil k ls

/-- Lines that are joined are cut where they were. -/
theorem splitLines_joinLines {ls : List (List Char)} (h : ∀ l ∈ ls, SolidLine l) (margin : List Char)
    (hm : ∀ c ∈ margin, isLineEnd c = false) :
    splitLines (joinLines (ls.map (margin ++ ·))) = ls.map (margin ++ ·) := by
  induction ls with
  | nil => rfl
  | cons l ls ih =>
    have hl := h l List.mem_cons_self
    have hunbroken : ∀ c ∈ margin ++ l, isLineEnd c = false := by
      intro c hc
      exact (List.mem_append.mp hc).elim (hm c) (hl.unbroken c)
    cases ls with
    | nil =>
      rw [List.map_singleton, joinLines]
      exact splitLines_unbroken hunbroken (by simp [hl.ne_nil])
    | cons k ls =>
      rw [List.map_cons, List.map_cons, joinLines_cons_cons, splitLines_append_feed hunbroken, ← List.map_cons,
        ih fun m hm => h m (List.mem_cons_of_mem l hm)]

theorem flatMap_feed_eq {ls : List (List Char)} (hne : ls ≠ []) : ls.flatMap (· ++ ['\n']) = joinLines ls ++ ['\n'] := by
  induction ls with
  | nil => exact absurd rfl hne
  | cons l ls ih =>
    cases ls with
    | nil => simp [joinLines]
    | cons k ls =>
      rw [List.flatMap_cons, ih (List.cons_ne_nil k ls), joinLines_cons_cons]
      simp

/-- Lines that are joined end as the last of them does. -/
theorem stripEnd_joinLines {ls : List (List Char)} (h : ∀ l ∈ ls, SolidLine l) (before : List Char) (hne : ls ≠ []) :
    stripEnd (before ++ joinLines ls) = before ++ joinLines ls := by
  induction ls generalizing before with
  | nil => exact absurd rfl hne
  | cons l ls ih =>
    cases ls with
    | nil => exact (h l List.mem_cons_self).stripEnd_append before
    | cons k ls =>
      have hrest := ih (fun m hm => h m (List.mem_cons_of_mem l hm)) (before ++ (l ++ ['\n'])) (List.cons_ne_nil k ls)
      have hjoin : before ++ joinLines (l :: k :: ls) = before ++ (l ++ ['\n']) ++ joinLines (k :: ls) := by
        simp [joinLines_cons_cons]
      rw [hjoin, hrest]

/-! ## Blank lines and margins -/

theorem dropWhile_eq_self {α : Type} {p : α → Bool} {xs : List α} (h : ∀ x ∈ xs, p x = false) : xs.dropWhile p = xs := by
  cases xs with
  | nil => rfl
  | cons x xs => rw [List.dropWhile_cons_of_neg (by simp [h x List.mem_cons_self])]

/-- Of blank lines around others, only the blank ones are taken away. -/
theorem trimLines_nil_cons {ls : List (List Char)} (h : ∀ l ∈ ls, isBlankLine l = false) : trimLines ([] :: ls) = ls := by
  have hfirst : ([] :: ls).dropWhile isBlankLine = ls := by
    rw [List.dropWhile_cons_of_pos rfl, dropWhile_eq_self h]
  rw [trimLines, hfirst, dropWhile_eq_self fun l hl => h l (List.mem_reverse.mp hl), List.reverse_reverse]

/-- A margin that all lines have is taken away. -/
theorem dedent_map_append {ls : List (List Char)} (h : ∀ l ∈ ls, SolidLine l) {margin : List Char}
    (hm : ∀ c ∈ margin, isIndent c = true) : dedent (ls.map (margin ++ ·)) = ls := by
  cases ls with
  | nil => rfl
  | cons k ls =>
    have hmargins : ∀ ms : List (List Char), (∀ l ∈ ms, SolidLine l) →
        (ms.map (margin ++ ·)).filterMap margin? = ms.map fun _ => margin := by
      intro ms hms
      induction ms with
      | nil => rfl
      | cons m ms ih =>
        rw [List.map_cons, List.filterMap_cons_some ((hms m List.mem_cons_self).margin?_append hm),
          ih fun l hl => hms l (List.mem_cons_of_mem m hl), List.map_cons]
    have hcommon : (ls.map fun _ => margin).foldl commonStart margin = margin := by
      clear hmargins h
      induction ls with
      | nil => rfl
      | cons l ls ih => rw [List.map_cons, List.foldl_cons, commonStart_self, ih]
    have hshared : sharedMargin ((k :: ls).map (margin ++ ·)) = margin := by
      rw [sharedMargin, hmargins _ h]
      exact hcommon
    simp only [dedent, hshared, List.map_map]
    refine (List.map_congr_left fun l hl => ?_).trans (List.map_id _)
    simp only [Function.comp_apply, (h l hl).all_isIndent_append, if_neg Bool.false_ne_true, List.drop_left, id]

end PegTemplate
