import Mathlib.Data.List.DropRight
import PegTemplate.Parser
import PegTemplate.Proofs.Block.Deeper
import PegTemplate.Proofs.Grammar.Indented

/-!
# Normal code

* `NormalLines` : lines without blank ones at the ends, as far left as they go and without blanks behind the last;
* `exists_normalLines`, `NormalLines.normalCode_joinLines` : normal code is made of such lines, and such lines stay as
  they are;
* `normalCode_deeper` : the depth of lines makes no difference to normal code;
* `Block.indented` : a block with a margin before its lines;
* `Block.normalCode_canonical` : **normal code stays as it is, and it is the same for a block however deep its lines are,
  so that they make one function.**
-/

namespace PegTemplate
open Unicode

/-! ## Normal lines -/

/-- Lines of normal code. -/
structure NormalLines (ls : List (List Char)) : Prop where
  unbroken : ∀ l ∈ ls, ∀ c ∈ l, isLineEnd c = false
  trimmed : trimLines ls = ls
  leftmost : dedent ls = ls
  solid : ∃ ks as a, ls = ks ++ [as ++ [a]] ∧ isBlank a = false

/-- Normal lines are cut where they are joined, and nothing is taken away from them. -/
theorem NormalLines.normalCode_joinLines {ls : List (List Char)} (h : NormalLines ls) :
    normalCode (joinLines ls) = joinLines ls := by
  obtain ⟨ks, as, a, rfl, ha⟩ := h.solid
  have hsplit : splitLines (joinLines (ks ++ [as ++ [a]])) = ks ++ [as ++ [a]] :=
    splitLines_joinLines_concat (by simp) h.unbroken
  have hlines : trimLines (splitLines (joinLines (ks ++ [as ++ [a]]))) = ks ++ [as ++ a :: []] := by
    rw [hsplit, h.trimmed]
  rw [normalCode_eq ha (List.forall_mem_nil _) hlines, h.leftmost]

theorem trimLines_eq_nil {ls : List (List Char)} (h : ∀ l ∈ ls, isBlankLine l = true) : trimLines ls = [] := by
  rw [trimLines, List.dropWhile_eq_nil_iff.mpr h]
  rfl

theorem trimLines_sublist (ls : List (List Char)) : (trimLines ls).Sublist ls := by
  have hlast := (List.dropWhile_sublist isBlankLine (l := (ls.dropWhile isBlankLine).reverse)).reverse
  rw [List.reverse_reverse] at hlast
  exact hlast.trans (List.dropWhile_sublist _)

/-- Dedenting leaves no blank lines at the ends. -/
theorem trimLines_dedent {ls : List (List Char)} (h : trimLines ls = ls) : trimLines (dedent ls) = dedent ls := by
  have hlength := (trimLines_deeper isIndent_of_mem_sharedMargin (deeper_dedent ls)).length_eq
  rw [h, ← (deeper_dedent ls).length_eq] at hlength
  exact (trimLines_sublist (dedent ls)).eq_of_length hlength

/-- Lines that are trimmed and the last of which is stripped are normal when they are dedented. -/
theorem normalLines_dedent {ls : List (List Char)} {as : List Char} {a : Char} (ha : isBlank a = false)
    (hfirst : ls.dropWhile isBlankLine = ls) (hends : ∀ l ∈ ls ++ [as ++ [a]], ∀ c ∈ l, isLineEnd c = false) :
    NormalLines (dedent (ls ++ [as ++ [a]])) where
  unbroken l hl c hc := by
    obtain ⟨k, hk, rfl⟩ := List.mem_map.mp hl
    exact hends k hk c (mem_of_mem_dedented hc)
  trimmed := by
    have htrim : trimLines (ls ++ [as ++ [a]]) = ls.dropWhile isBlankLine ++ [as ++ [a]] :=
      trimLines_eq (by simp [isBlankLine, ha]) (List.forall_mem_nil _)
    exact trimLines_dedent (htrim.trans (by rw [hfirst]))
  leftmost := dedent_dedent _
  solid := ⟨_, _, a, dedent_concat [] (isIndent_of_isBlank ha), ha⟩

/-- Normal code is made of normal lines. -/
theorem exists_normalLines (code : List Char) : ∃ ls, NormalLines ls ∧ normalCode code = joinLines ls := by
  by_cases h : ∃ l ∈ splitLines code, isBlankLine l = false
  · obtain ⟨ls, k, tail, hsplit, hk, htail⟩ := exists_last h
    have hsolid : ∃ c ∈ k, isBlank c = false := by simpa [isBlankLine] using hk
    obtain ⟨as, a, ws, rfl, ha, hws⟩ := exists_last hsolid
    have hlines : trimLines (splitLines code) = ls.dropWhile isBlankLine ++ [as ++ a :: ws] := by
      rw [hsplit]
      exact trimLines_eq hk htail
    have hends : ∀ l ∈ ls.dropWhile isBlankLine ++ [as ++ [a]], ∀ c ∈ l, isLineEnd c = false := by
      intro l hl c hc
      rcases List.mem_append.mp hl with hl | hl
      · have hmem : l ∈ splitLines code := hsplit ▸ List.mem_append_left _ ((List.dropWhile_sublist _).mem hl)
        exact isLineEnd_of_mem_splitLines hmem c hc
      · have hmem : as ++ a :: ws ∈ splitLines code := hsplit ▸ List.mem_append_right _ List.mem_cons_self
        rw [List.mem_singleton.mp hl] at hc
        exact isLineEnd_of_mem_splitLines hmem c (mem_append_cons hc)
    exact ⟨_, normalLines_dedent ha (List.dropWhile_idempotent _ ls) hends, normalCode_eq ha hws hlines⟩
  · have hblank : ∀ l ∈ splitLines code, isBlankLine l = true := by simpa using h
    refine ⟨[['p', 'a', 's', 's']], ⟨by simp [isLineEnd], rfl, rfl, [], ['p', 'a', 's'], 's', rfl, by decide⟩, ?_⟩
    rw [normalCode, trimLines_eq_nil hblank]
    rfl

/-! ## Normal code -/

/-- **Normal code stays as it is.** -/
theorem normalCode_normalCode (code : List Char) : normalCode (normalCode code) = normalCode code := by
  obtain ⟨ls, h, hcode⟩ := exists_normalLines code
  rw [hcode, h.normalCode_joinLines]

/-- The depth of lines makes no difference to normal code, and neither do blank lines at the ends, nor what indentation
there is in lines that hold nothing else. -/
theorem normalCode_deeper {margin code code' : List Char} (hm : ∀ c ∈ margin, isIndent c = true)
    (h : List.Forall₂ (Deeper margin) (trimLines (splitLines code)) (trimLines (splitLines code'))) :
    normalCode code' = normalCode code := by
  have hdedent := dedent_deeper hm h
  unfold normalCode
  cases hl : trimLines (splitLines code) with
  | nil =>
    rw [hl, List.forall₂_nil_left_iff] at h
    rw [h]
  | cons l ls =>
    rw [hl] at h hdedent
    obtain ⟨k, ks, -, -, hk⟩ := List.forall₂_cons_left_iff.mp h
    rw [hk] at hdedent ⊢
    exact congrArg (fun ls => stripEnd (joinLines ls)) hdedent

theorem trimLines_deepen {margin : List Char} (hm : ∀ c ∈ margin, isIndent c = true) (code : List Char) :
    List.Forall₂ (Deeper margin) (trimLines (splitLines code)) (trimLines (splitLines (deepen margin code))) := by
  refine trimLines_deeper hm ?_
  rw [splitLines_deepen hm, List.forall₂_map_right_iff, List.forall₂_same]
  exact fun l _ => deeper_deepenLine margin l

/-! ## Functions -/

/-- The block with a margin before each of its lines that holds more than indentation. -/
def Block.indented (margin : List Char) (b : Block) : Block :=
  { b with code := String.ofList (deepen margin b.code.toList) }

/-- The block `c` stands for the function of `b`: its text is the same, and so is what it compiles to. -/
structure Block.SameFunction (b c : Block) : Prop where
  source : c.source = b.source
  compiled : ∀ context, BlockAction.compile context c = (BlockAction.compile context b).map ({ · with block := c })

theorem Block.sameFunction_of_normalCode {b c : Block} (hindex : c.index = b.index) (hlabels : c.labels = b.labels)
    (hcode : normalCode c.code.toList = normalCode b.code.toList) : b.SameFunction c := by
  have hbody : c.body = b.body := congrArg (fun code => joinLines (indent bodyMargin (splitLines code))) hcode
  have hparameters : c.parameters = b.parameters := congrArg (contextParameters ++ ·) hlabels
  have hsource : c.source = b.source := by rw [source, source, header, header, hparameters, hindex, hbody]
  have hfunction : c.code? = b.code? := by rw [code?, code?, hparameters, hbody]
  have hfault : c.fault = b.fault := by rw [fault, fault, parametersCause, parametersCause, hparameters, hbody]
  refine ⟨hsource, fun context => ?_⟩
  rw [BlockAction.compile, BlockAction.compile, hfunction]
  cases b.code? with
  | none => rw [hindex, hfault, hsource]; rfl
  | some code => rw [hlabels]; rfl

/-- Normal code of a block, and what a margin before its lines makes no difference to. -/
structure Block.Canonical (b : Block) (margin : List Char) : Prop where
  /-- Normal code stays as it is. -/
  idempotent : normalCode (normalCode b.code.toList) = normalCode b.code.toList
  /-- It is the same with a margin before each line that holds more than indentation. -/
  deeper : normalCode (deepen margin b.code.toList) = normalCode b.code.toList
  /-- Between the braces of a grammar, the deeper code is read as it is. -/
  read : ReadExactly b.code.toList → ReadExactly (b.indented margin).code.toList
  function : b.SameFunction (b.indented margin)
  /-- The function is also the same if there are other blank lines around the code, or other indentation in lines that
  hold nothing else. -/
  layout : ∀ c : Block, c.index = b.index → c.labels = b.labels →
    List.Forall₂ (Deeper margin) (trimLines (splitLines b.code.toList)) (trimLines (splitLines c.code.toList)) →
    b.SameFunction c

/-- **Normal code is canonical.** It stays as it is when it is normalised again, and it does not depend on how deep the
lines of a block are; so neither does the function that the block stands for. -/
theorem Block.normalCode_canonical (b : Block) {margin : List Char} (hm : ∀ c ∈ margin, isIndent c = true) :
    b.Canonical margin := by
  have hdeeper := normalCode_deeper hm (trimLines_deepen hm b.code.toList)
  have hcode : (b.indented margin).code.toList = deepen margin b.code.toList := String.toList_ofList
  refine ⟨normalCode_normalCode _, hdeeper, fun h => ?_, ?_, fun c hindex hlabels h => ?_⟩
  · rw [hcode]
    exact readExactly_deepen hm h
  · exact sameFunction_of_normalCode rfl rfl (by rw [hcode, hdeeper])
  · exact sameFunction_of_normalCode hindex hlabels (normalCode_deeper hm h)

/-- Two lines of code that are two spaces deep. Between them are a line of a tab, which no other line has, and one of a
no-break space, which is blank but no indentation; behind them are further line ends. -/
def spacedBlock : Block := ⟨"\r\n  n = 1 \n\t\r  \u00a0\n  return n \x85 \x0c", [], 0⟩

theorem spacedBlock_canonical : (∀ c ∈ ['\t', ' '], isIndent c = true) ∧ spacedBlock.Canonical ['\t', ' '] ∧
    (spacedBlock.indented ['\t', ' ']).source =
      "def _peg_action_0(text, location, options):\n    n = 1 \n\n\u00a0\n    return n\n" := by
  have hm : ∀ c ∈ ['\t', ' '], isIndent c = true := by simp [isIndent]
  have h : spacedBlock.Canonical ['\t', ' '] := spacedBlock.normalCode_canonical hm
  exact ⟨hm, h, h.function.source.trans (by decide +kernel)⟩

end PegTemplate
