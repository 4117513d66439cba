import Mathlib.Data.List.Forall2
import PegTemplate.Proofs.Block.Lines

/-!
# Lines that are indented deeper

* `lineParts` : the lines of a text with their ends;
* `deepen` : puts a margin before each line of a text that holds more than indentation. The ends of lines stay as they
  are (`splitLines_deepen`);
* `Deeper` : a line is the other one behind a margin, or both are indentation alone;
* `trimLines_deeper`, `dedent_deeper` : the same lines are taken away at the ends, and dedenting makes no difference
  between lines and deeper ones;
* `deeper_dedent` : lines are what dedenting leaves of them, deeper by what they share;
* `dedent_dedent` : **dedented lines stay as they are.**
-/

namespace PegTemplate
open Unicode

/-! ## Lines and their ends -/

/-- Puts a character before the first line. -/
def consPart (c : Char) : List (List Char × List Char) → List (List Char × List Char)
  | [] => [([c], [])]
  | (l, e) :: ps => (c :: l, e) :: ps

/-- The lines of a text, each with the line end that it has there. The last one may have none. -/
def lineParts : List Char → List (List Char × List Char)
  | [] => []
  | '\r' :: '\n' :: cs => ([], ['\r', '\n']) :: lineParts cs
  | c :: cs => if isLineEnd c then ([], [c]) :: lineParts cs else consPart c (lineParts cs)

/-- The line with a margin, if it holds more than indentation. -/
def deepenLine (margin l : List Char) : List Char := if l.all isIndent then l else margin ++ l

/-- Puts a margin before each line that holds more than indentation. -/
def deepen (margin code : List Char) : List Char := (lineParts code).flatMap fun p => deepenLine margin p.1 ++ p.2

/-- What ends a line that `cs` follows. -/
def EndsLine (e cs : List Char) : Prop :=
  e = ['\r', '\n'] ∨ ∃ c, e = [c] ∧ isLineEnd c = true ∧ (c = '\r' → cs.head? ≠ some '\n')

/-- A text and its lines with their ends. -/
inductive InLines : List Char → List (List Char × List Char) → Prop
  | nil : InLines [] []
  | last {l : List Char} (hl : ∀ c ∈ l, isLineEnd c = false) (hne : l ≠ []) : InLines l [(l, [])]
  | line {l e cs : List Char} {ps : List (List Char × List Char)} (hl : ∀ c ∈ l, isLineEnd c = false)
    (he : EndsLine e cs) (h : InLines cs ps) : InLines (l ++ (e ++ cs)) ((l, e) :: ps)

/-- A character that ends no line belongs to the first line. -/
theorem InLines.cons {c : Char} {cs : List Char} {ps : List (List Char × List Char)} (hc : isLineEnd c = false)
    (h : InLines cs ps) : InLines (c :: cs) (consPart c ps) := by
  cases h with
  | nil => exact .last (by simpa using hc) (List.cons_ne_nil c [])
  | last hl hne => exact .last (List.forall_mem_cons.mpr ⟨hc, hl⟩) (List.cons_ne_nil _ _)
  | line hl he h => exact .line (List.forall_mem_cons.mpr ⟨hc, hl⟩) he h

theorem inLines_lineParts (cs : List Char) : InLines cs (lineParts cs) := by
  fun_induction lineParts cs with
  | case1 => exact .nil
  | case2 cs ih => exact .line (l := []) nofun (.inl rfl) ih
  | case3 c cs hne hend ih =>
    refine .line (l := []) nofun (.inr ⟨c, rfl, hend, ?_⟩) ih
    rintro rfl hfeed
    obtain ⟨r, rfl⟩ := List.head?_eq_some_iff.mp hfeed
    exact hne r rfl rfl
  | case4 c cs hne hend ih => exact ih.cons (by simpa using hend)

theorem splitLines_append_end {l e cs : List Char} (hl : ∀ c ∈ l, isLineEnd c = false) (he : EndsLine e cs) :
    splitLines (l ++ (e ++ cs)) = l :: splitLines cs := by
  induction l with
  | nil =>
    rcases he with rfl | ⟨c, rfl, hend, hfeed⟩
    · rfl
    · refine splitLines_end hend ?_
      rintro r rfl rfl
      exact hfeed rfl rfl
  | cons a l ih =>
    obtain ⟨ha, hl⟩ := List.forall_mem_cons.mp hl
    rw [List.cons_append, splitLines_cons ha, ih hl, consLine]

theorem InLines.splitLines_eq {cs : List Char} {ps : List (List Char × List Char)} (h : InLines cs ps) :
    splitLines cs = ps.map (·.1) := by
  induction h with
  | nil => rfl
  | last hl hne => exact splitLines_unbroken hl hne
  | line hl he _ ih => rw [splitLines_append_end hl he, ih, List.map_cons]

theorem head?_append_feed {l cs : List Char} (hl : ∀ c ∈ l, isLineEnd c = false) (h : (l ++ cs).head? = some '\n') :
    l = [] ∧ cs.head? = some '\n' := by
  cases l with
  | nil => exact ⟨rfl, h⟩
  | cons a l =>
    obtain rfl : a = '\n' := by simpa using h
    exact absurd (hl '\n' List.mem_cons_self) (by decide)

/-- No line holds a line end. -/
theorem isLineEnd_of_mem_splitLines {cs l : List Char} (hl : l ∈ splitLines cs) : ∀ c ∈ l, isLineEnd c = false := by
  have h := inLines_lineParts cs
  rw [h.splitLines_eq] at hl
  generalize lineParts cs = ps at h hl
  induction h with
  | nil => cases hl
  | last hk _ =>
    rw [List.map_singleton, List.mem_singleton] at hl
    exact hl ▸ hk
  | line hk _ _ ih =>
    rw [List.map_cons, List.mem_cons] at hl
    rcases hl with rfl | hl
    · exact hk
    · exact ih hl

/-! ## Deeper texts -/

theorem deepenLine_eq_nil {margin l : List Char} (h : deepenLine margin l = []) : l = [] := by
  rw [deepenLine] at h
  split at h
  · exact h
  · exact (List.append_eq_nil_iff.mp h).2

theorem isLineEnd_of_isIndent {c : Char} (h : isIndent c = true) : isLineEnd c = false := by
  rcases eq_of_isIndent h with rfl | rfl
  · decide
  · decide

section
variable {margin : List Char} (hm : ∀ c ∈ margin, isIndent c = true)
include hm

theorem isLineEnd_of_mem_deepenLine {l : List Char} (hl : ∀ c ∈ l, isLineEnd c = false) :
    ∀ c ∈ deepenLine margin l, isLineEnd c = false := by
  intro c hc
  rw [deepenLine] at hc
  split at hc
  · exact hl c hc
  · exact (List.mem_append.mp hc).elim (fun h => isLineEnd_of_isIndent (hm c h)) (hl c)

/-- A line feed at the start of the deeper text was there before, so that no carriage return gets one behind it. -/
theorem InLines.head?_deepened {cs : List Char} {ps : List (List Char × List Char)} (h : InLines cs ps)
    (hfeed : (ps.flatMap fun p => deepenLine margin p.1 ++ p.2).head? = some '\n') : cs.head? = some '\n' := by
  cases h with
  | nil => cases hfeed
  | last hl _ =>
    have hunbroken := isLineEnd_of_mem_deepenLine hm hl
    have hfeed' : (deepenLine margin cs ++ []).head? = some '\n' := by simpa using hfeed
    obtain ⟨-, hnone⟩ := head?_append_feed hunbroken hfeed'
    cases hnone
  | @line l e cs ps hl he h =>
    have hunbroken := isLineEnd_of_mem_deepenLine hm hl
    rw [List.flatMap_cons, List.append_assoc] at hfeed
    obtain ⟨hnil, hfeed⟩ := head?_append_feed hunbroken hfeed
    rw [deepenLine_eq_nil hnil]
    rcases he with rfl | ⟨c, rfl, -⟩
    · exact hfeed
    · exact hfeed

/-- The lines of a deeper text have the same ends. -/
theorem InLines.deepened {cs : List Char} {ps : List (List Char × List Char)} (h : InLines cs ps) :
    InLines (ps.flatMap fun p => deepenLine margin p.1 ++ p.2) (ps.map fun p => (deepenLine margin p.1, p.2)) := by
  induction h with
  | nil => exact .nil
  | @last l hl hne =>
    have hlast := InLines.last (isLineEnd_of_mem_deepenLine hm hl) (hne ∘ deepenLine_eq_nil)
    simpa using hlast
  | @line l e cs ps hl he h ih =>
    rw [List.flatMap_cons, List.append_assoc, List.map_cons]
    refine .line (isLineEnd_of_mem_deepenLine hm hl) (he.imp_right ?_) ih
    rintro ⟨c, rfl, hend, hfeed⟩
    exact ⟨c, rfl, hend, fun hc hhead => hfeed hc (h.head?_deepened hm hhead)⟩

/-- A deeper text has the lines of the text, deeper. -/
theorem splitLines_deepen (code : List Char) : splitLines (deepen margin code) = (splitLines code).map (deepenLine margin) := by
  have h := inLines_lineParts code
  rw [deepen, (h.deepened hm).splitLines_eq, h.splitLines_eq, List.map_map, List.map_map]
  rfl

end

/-! ## Deeper lines -/

/-- The line `k` is `l` behind a margin, or both are indentation alone. -/
def Deeper (margin l k : List Char) : Prop := k = margin ++ l ∨ l.all isIndent = true ∧ k.all isIndent = true

theorem deeper_deepenLine (margin l : List Char) : Deeper margin l (deepenLine margin l) := by
  rw [deepenLine]
  split
  · rename_i h
    exact .inr ⟨h, h⟩
  · exact .inl rfl

theorem isBlankLine_of_all_isIndent {l : List Char} (h : l.all isIndent = true) : isBlankLine l = true :=
  List.all_eq_true.mpr fun c hc => isBlank_of_isIndent (List.all_eq_true.mp h c hc)

/-- Lists of lines that are blank in the same places are trimmed in the same places. -/
theorem forall₂_trimLines {R : List Char → List Char → Prop} (hR : ∀ l k, R l k → isBlankLine k = isBlankLine l)
    {ls ks : List (List Char)} (h : List.Forall₂ R ls ks) : List.Forall₂ R (trimLines ls) (trimLines ks) := by
  have hdrop : ∀ {ls ks : List (List Char)}, List.Forall₂ R ls ks →
      List.Forall₂ R (ls.dropWhile isBlankLine) (ks.dropWhile isBlankLine) := by
    intro ls ks h
    induction h with
    | nil => exact .nil
    | @cons l k ls ks hlk hrest ih =>
      by_cases hl : isBlankLine l = true
      · rwa [List.dropWhile_cons_of_pos hl, List.dropWhile_cons_of_pos ((hR l k hlk).trans hl)]
      · have hk : ¬isBlankLine k = true := by rwa [hR l k hlk]
        rw [List.dropWhile_cons_of_neg hl, List.dropWhile_cons_of_neg hk]
        exact .cons hlk hrest
  exact List.forall₂_reverse_iff.mpr (hdrop (List.forall₂_reverse_iff.mpr (hdrop h)))

theorem commonStart_append (p as bs : List Char) : commonStart (p ++ as) (p ++ bs) = p ++ commonStart as bs := by
  induction p with
  | nil => rfl
  | cons c p ih => rw [List.cons_append, List.cons_append, commonStart, if_pos rfl, ih, List.cons_append]

theorem foldl_commonStart_append (p m : List Char) (ms : List (List Char)) :
    (ms.map (p ++ ·)).foldl commonStart (p ++ m) = p ++ ms.foldl commonStart m := by
  induction ms generalizing m with
  | nil => rfl
  | cons k ms ih => rw [List.map_cons, List.foldl_cons, commonStart_append, ih, List.foldl_cons]

theorem all_isIndent_of_margin?_eq_none {l : List Char} (h : margin? l = none) : l.all isIndent = true := by
  rw [margin?] at h
  split at h
  · assumption
  · cases h

/-- Nothing is left of lines of indentation alone. -/
theorem dedent_of_filterMap_eq_nil {ls : List (List Char)} (h : ls.filterMap margin? = []) :
    dedent ls = List.replicate ls.length [] := by
  refine List.map_eq_replicate_iff.mpr fun l hl => ?_
  rw [if_pos (all_isIndent_of_margin?_eq_none (List.filterMap_eq_nil_iff.mp h l hl))]

/-- What lines share is indentation. -/
theorem isIndent_of_mem_sharedMargin {ls : List (List Char)} : ∀ c ∈ sharedMargin ls, isIndent c = true := by
  intro c hc
  by_cases hall : ∃ l ∈ ls, l.all isIndent = false
  · obtain ⟨l, hl, hmore⟩ := hall
    exact List.all_eq_true.mp List.all_takeWhile c ((sharedMargin_isPrefix hl hmore).mem hc)
  · have hnone : ls.filterMap margin? = [] := by
      refine List.filterMap_eq_nil_iff.mpr fun l hl => ?_
      rw [margin?, if_pos]
      exact Bool.not_eq_false _ ▸ fun h => hall ⟨l, hl, h⟩
    rw [sharedMargin, hnone] at hc
    cases hc

section
variable {margin : List Char} (hm : ∀ c ∈ margin, isIndent c = true)
include hm

theorem Deeper.all_isIndent {l k : List Char} (h : Deeper margin l k) : k.all isIndent = l.all isIndent := by
  rcases h with rfl | ⟨hl, hk⟩
  · rw [List.all_append, List.all_eq_true.mpr hm, Bool.true_and]
  · rw [hl, hk]

theorem Deeper.isBlankLine_eq {l k : List Char} (h : Deeper margin l k) : isBlankLine k = isBlankLine l := by
  rcases h with rfl | ⟨hl, hk⟩
  · rw [isBlankLine, List.all_append, List.all_eq_true.mpr fun c hc => isBlank_of_isIndent (hm c hc), Bool.true_and,
      isBlankLine]
  · rw [isBlankLine_of_all_isIndent hl, isBlankLine_of_all_isIndent hk]

theorem trimLines_deeper {ls ks : List (List Char)} (h : List.Forall₂ (Deeper margin) ls ks) :
    List.Forall₂ (Deeper margin) (trimLines ls) (trimLines ks) :=
  forall₂_trimLines (fun _ _ h => h.isBlankLine_eq hm) h

/-- The indentation of a deeper line has the margin in front. -/
theorem Deeper.margin?_eq {l k : List Char} (h : Deeper margin l k) : margin? k = (margin? l).map (margin ++ ·) := by
  rw [margin?, margin?, h.all_isIndent hm]
  rcases h with rfl | ⟨hl, -⟩
  · split
    · rfl
    · rw [List.takeWhile_append_of_pos hm, Option.map_some]
  · rw [if_pos hl, if_pos hl, Option.map_none]

theorem filterMap_margin?_deeper {ls ks : List (List Char)} (h : List.Forall₂ (Deeper margin) ls ks) :
    ks.filterMap margin? = (ls.filterMap margin?).map (margin ++ ·) := by
  induction h with
  | nil => rfl
  | @cons l k ls ks hlk _ ih =>
    rw [List.filterMap_cons, List.filterMap_cons, hlk.margin?_eq hm, ih]
    cases margin? l with
    | none => rfl
    | some m => rfl

/-- If some line holds more than indentation, deeper lines share the margin and what the lines share. -/
theorem sharedMargin_deeper {ls ks : List (List Char)} (h : List.Forall₂ (Deeper margin) ls ks)
    (hmore : ls.filterMap margin? ≠ []) : sharedMargin ks = margin ++ sharedMargin ls := by
  rw [sharedMargin, sharedMargin, filterMap_margin?_deeper hm h]
  cases hms : ls.filterMap margin? with
  | nil => exact absurd hms hmore
  | cons m ms => exact foldl_commonStart_append margin m ms

/-- With the margin, as many more characters are taken away. -/
theorem Deeper.dedented_eq {l k : List Char} (h : Deeper margin l k) (n : Nat) :
    dedented (margin.length + n) k = dedented n l := by
  rw [dedented, dedented, h.all_isIndent hm]
  rcases h with rfl | ⟨hl, -⟩
  · rw [List.drop_length_add_append]
  · rw [if_pos hl, if_pos hl]

/-- **Dedenting makes no difference between lines and deeper ones.** -/
theorem dedent_deeper {ls ks : List (List Char)} (h : List.Forall₂ (Deeper margin) ls ks) : dedent ks = dedent ls := by
  by_cases hmore : ls.filterMap margin? = []
  · -- all lines are indentation alone, and nothing is left of any of them
    have hmore' : ks.filterMap margin? = [] := by rw [filterMap_margin?_deeper hm h, hmore, List.map_nil]
    rw [dedent_of_filterMap_eq_nil hmore, dedent_of_filterMap_eq_nil hmore', h.length_eq]
  · have hshared : (sharedMargin ks).length = margin.length + (sharedMargin ls).length := by
      rw [sharedMargin_deeper hm h hmore, List.length_append]
    have hlines : List.Forall₂ (· = ·) (ls.map (dedented (sharedMargin ls).length))
        (ks.map (dedented (sharedMargin ks).length)) := by
      rw [List.forall₂_map_left_iff, List.forall₂_map_right_iff, hshared]
      exact h.imp fun l k hlk => (hlk.dedented_eq hm _).symm
    rw [List.forall₂_eq_eq_eq] at hlines
    exact hlines.symm

end

/-- Lines are what dedenting leaves of them, deeper by what they share. -/
theorem deeper_dedent (ls : List (List Char)) : List.Forall₂ (Deeper (sharedMargin ls)) (dedent ls) ls := by
  refine List.forall₂_map_left_iff.mpr (List.forall₂_same.mpr fun l hl => ?_)
  by_cases hall : l.all isIndent = true
  · rw [if_pos hall]
    exact .inr ⟨rfl, hall⟩
  · have hprefix := (sharedMargin_isPrefix hl (by simpa using hall)).trans (List.takeWhile_prefix isIndent)
    rw [if_neg hall]
    exact .inl (List.prefix_iff_eq_append.mp hprefix).symm

/-- **Dedented lines stay as they are.** -/
theorem dedent_dedent (ls : List (List Char)) : dedent (dedent ls) = dedent ls :=
  (dedent_deeper isIndent_of_mem_sharedMargin (deeper_dedent ls)).symm

end PegTemplate
