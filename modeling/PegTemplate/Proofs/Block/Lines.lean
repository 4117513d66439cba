import PegTemplate.Block.Source
import PegTemplate.Command.Run
import PegTemplate.Proofs.Text.Lines

/-!
# The lines of a block and of its function

* `Block.written` : the text of a block with one kind of line end, up to its last character that is no blank;
* `Block.shift`, `relay` : how far the lines are moved to the left, and what becomes of a line of code in the function;
* `EndsIn` : a text up to its last line that is not blank, and blank lines;
* `length_sharedMargin_le` : the lines are moved by no more than they are indented;
* `Block.lines_eq` : **the written text and the body of the function have the same lines, those of the body relaid.**
-/

namespace PegTemplate
open Unicode

/-- A block as it is written, with line feeds only. The blanks behind its code count for nothing. -/
def Block.written (b : Block) : List Char := stripEnd (unifyLineEnds b.code.toList) ++ ['\n']

/-- How many characters are taken away in front of each line. -/
def Block.shift (b : Block) : Nat := (sharedMargin (trimLines (splitLines b.code.toList))).length

/-- A line without `n` characters in front, or an empty one if there is only indentation. -/
def dedented (n : Nat) (l : List Char) : List Char := if l.all isIndent then [] else l.drop n

/-- What the function makes of a line: `n` characters fewer in front, and the margin of a body, unless the line is
blank. -/
def relay (n : Nat) (l : List Char) : List Char :=
  if isBlankLine (dedented n l) then dedented n l else bodyMargin ++ dedented n l

/-- No line ends but line feeds and carriage returns occur in the text. -/
def PlainEnds (cs : List Char) : Prop := ∀ c ∈ cs, isLineEnd c = true → c = '\n' ∨ c = '\r'

/-! ## Line ends -/

/-- A text has the same lines with line feeds only. -/
theorem splitLines_unifyLineEnds {cs : List Char} (h : PlainEnds cs) : splitLines (unifyLineEnds cs) = splitLines cs := by
  fun_induction unifyLineEnds cs with
  | case1 => rfl
  | case2 cs ih =>
    have ih := ih fun c hc => h c (List.mem_cons_of_mem _ (List.mem_cons_of_mem _ hc))
    exact congrArg ([] :: ·) ih
  | case3 cs hne ih =>
    have ih := ih fun c hc => h c (List.mem_cons_of_mem _ hc)
    change [] :: splitLines (unifyLineEnds cs) = _
    rw [splitLines_end (by decide) fun r _ => hne r, ih]
  | case4 c cs hne1 hne2 ih =>
    have ih := ih fun c hc => h c (List.mem_cons_of_mem _ hc)
    by_cases hc : isLineEnd c = true
    · rcases h c List.mem_cons_self hc with rfl | rfl
      · rw [splitLines_end (c := '\n') rfl nofun, splitLines_end (c := '\n') rfl nofun, ih]
      · exact absurd rfl (hne2 ·)
    · rw [splitLines_cons (by simpa using hc), splitLines_cons (by simpa using hc), ih]

/-- With line feeds only, they are the only line ends. -/
theorem eq_feed_of_mem_unifyLineEnds {cs : List Char} (h : PlainEnds cs) :
    ∀ c ∈ unifyLineEnds cs, isLineEnd c = true → c = '\n' := by
  fun_induction unifyLineEnds cs with
  | case1 => exact nofun
  | case2 cs ih =>
    intro c hc hend
    rcases List.mem_cons.mp hc with rfl | hc
    · rfl
    · exact ih (fun d hd => h d (List.mem_cons_of_mem _ (List.mem_cons_of_mem _ hd))) c hc hend
  | case3 cs hne ih =>
    intro c hc hend
    rcases List.mem_cons.mp hc with rfl | hc
    · rfl
    · exact ih (fun d hd => h d (List.mem_cons_of_mem _ hd)) c hc hend
  | case4 d cs hne1 hne2 ih =>
    intro c hc hend
    rcases List.mem_cons.mp hc with rfl | hc
    · exact (h c List.mem_cons_self hend).resolve_right (hne2 ·)
    · exact ih (fun d hd => h d (List.mem_cons_of_mem _ hd)) c hc hend

/-! ## Blanks at the end -/

theorem stripEnd_append_blanks (s : List Char) {ws : List Char} (h : ∀ c ∈ ws, isBlank c = true) :
    stripEnd (s ++ ws) = stripEnd s := by
  rw [stripEnd, stripEnd, List.reverse_append, List.dropWhile_append_of_pos fun c hc => h c (List.mem_reverse.mp hc)]

theorem stripEnd_concat (s : List Char) {c : Char} (hc : isBlank c = false) : stripEnd (s ++ [c]) = s ++ [c] := by
  simp [stripEnd, hc]

/-- What holds of some members of a list holds of a last one. -/
theorem exists_last {α : Type} {p : α → Bool} {s : List α} (h : ∃ c ∈ s, p c = false) :
    ∃ as a ws, s = as ++ a :: ws ∧ p a = false ∧ ∀ c ∈ ws, p c = true := by
  induction s with
  | nil => simp at h
  | cons c s ih =>
    by_cases hs : ∃ c ∈ s, p c = false
    · obtain ⟨as, a, ws, rfl, ha, hws⟩ := ih hs
      exact ⟨c :: as, a, ws, rfl, ha, hws⟩
    · have hrest : ∀ d ∈ s, p d = true := by simpa using hs
      obtain ⟨d, hd, hne⟩ := h
      rcases List.mem_cons.mp hd with rfl | hd
      · exact ⟨[], d, s, rfl, hne, hrest⟩
      · rw [hrest d hd] at hne
        cases hne

theorem stripEnd_eq {s as ws : List Char} {a : Char} (hs : s = as ++ a :: ws) (ha : isBlank a = false)
    (hws : ∀ c ∈ ws, isBlank c = true) : stripEnd s = as ++ [a] := by
  rw [hs, ← List.singleton_append, ← List.append_assoc, stripEnd_append_blanks _ hws, stripEnd_concat _ ha]

/-- A line has no other characters than the text. -/
theorem mem_of_mem_splitLines {cs l : List Char} (hl : l ∈ splitLines cs) {c : Char} (hc : c ∈ l) : c ∈ cs := by
  fun_induction splitLines cs generalizing l with
  | case1 => cases hl
  | case2 cs ih =>
    rcases List.mem_cons.mp hl with rfl | hl
    · cases hc
    · exact List.mem_cons_of_mem _ (List.mem_cons_of_mem _ (ih hl hc))
  | case3 d cs hne hend ih =>
    rcases List.mem_cons.mp hl with rfl | hl
    · cases hc
    · exact List.mem_cons_of_mem _ (ih hl hc)
  | case4 d cs hne hend ih =>
    cases hs : splitLines cs with
    | nil =>
      rw [hs, consLine, List.mem_singleton] at hl
      rw [hl, List.mem_singleton] at hc
      exact hc ▸ List.mem_cons_self
    | cons k ks =>
      rw [hs] at hl ih
      rcases List.mem_cons.mp hl with rfl | hl
      · rcases List.mem_cons.mp hc with rfl | hc
        · exact List.mem_cons_self
        · exact List.mem_cons_of_mem _ (ih List.mem_cons_self hc)
      · exact List.mem_cons_of_mem _ (ih (List.mem_cons_of_mem _ hl) hc)

/-- Where line feeds are the only line ends, a text without them is not broken. -/
theorem unbroken_of_notMem {l : List Char} (hends : ∀ c ∈ l, isLineEnd c = true → c = '\n') (h : '\n' ∉ l) :
    ∀ c ∈ l, isLineEnd c = false := by
  intro c hc
  cases hend : isLineEnd c with
  | false => rfl
  | true => exact absurd (hends c hc hend ▸ hc) h

/-- The lines of a text: `ls`, the last one that is not blank, which ends with `a` and the blanks `ws`, and blank ones; and
the text up to there. -/
structure EndsIn (cs : List Char) (ls : List (List Char)) (as : List Char) (a : Char) (ws : List Char)
    (tail : List (List Char)) : Prop where
  lines : splitLines cs = ls ++ (as ++ a :: ws) :: tail
  stripped : stripEnd cs ++ ['\n'] = (ls ++ [as ++ [a]]).flatMap (· ++ ['\n'])
  unbroken : ∀ l ∈ ls ++ [as ++ a :: ws], ∀ c ∈ l, isLineEnd c = false
  solid : isBlank a = false
  blanks : ∀ c ∈ ws, isBlank c = true
  blankTail : ∀ l ∈ tail, isBlankLine l = true

namespace EndsIn

variable {l cs as ws : List Char} {a : Char} {ls tail : List (List Char)}

/-- A text of one line. -/
theorem of_line (hunbroken : ∀ c ∈ as ++ a :: ws, isLineEnd c = false) (ha : isBlank a = false)
    (hws : ∀ c ∈ ws, isBlank c = true) : EndsIn (as ++ a :: ws) [] as a ws [] where
  lines := splitLines_unbroken hunbroken (by simp)
  stripped := by
    rw [stripEnd_eq rfl ha hws]
    simp
  unbroken := by simpa using hunbroken
  solid := ha
  blanks := hws
  blankTail := nofun

/-- A line with nothing but blanks behind it. -/
theorem of_blanks (hunbroken : ∀ c ∈ as ++ a :: ws, isLineEnd c = false) (ha : isBlank a = false)
    (hws : ∀ c ∈ ws, isBlank c = true) (hblank : ∀ c ∈ cs, isBlank c = true) :
    EndsIn (as ++ a :: ws ++ '\n' :: cs) [] as a ws (splitLines cs) where
  lines := splitLines_append_feed hunbroken cs
  stripped := by
    have hall : as ++ a :: ws ++ '\n' :: cs = as ++ a :: (ws ++ '\n' :: cs) := by simp
    rw [stripEnd_eq hall ha]
    · simp
    · intro c hc
      rcases List.mem_append.mp hc with hc | hc
      · exact hws c hc
      · rcases List.mem_cons.mp hc with rfl | hc
        · decide
        · exact hblank c hc
  unbroken := by simpa using hunbroken
  solid := ha
  blanks := hws
  blankTail := fun k hk => List.all_eq_true.mpr fun c hc => hblank c (mem_of_mem_splitLines hk hc)

/-- Another line in front. -/
theorem cons (h : EndsIn cs ls as a ws tail) (hunbroken : ∀ c ∈ l, isLineEnd c = false)
    (hcs : ∃ c ∈ cs, isBlank c = false) : EndsIn (l ++ '\n' :: cs) (l :: ls) as a ws tail where
  lines := by rw [splitLines_append_feed hunbroken, h.lines, List.cons_append]
  stripped := by
    obtain ⟨bs, b, vs, hs, hb, hblank⟩ := exists_last hcs
    have hall : l ++ '\n' :: cs = l ++ '\n' :: bs ++ b :: vs := by simp [hs]
    rw [List.cons_append, List.flatMap_cons, ← h.stripped, stripEnd_eq hs hb hblank, stripEnd_eq hall hb hblank]
    simp
  unbroken := by
    intro k hk
    rcases List.mem_cons.mp hk with rfl | hk
    · exact hunbroken
    · exact h.unbroken k hk
  solid := h.solid
  blanks := h.blanks
  blankTail := h.blankTail

end EndsIn

/-- A text that is not blank has a last line that is not blank. -/
theorem exists_endsIn {cs : List Char} (hends : ∀ c ∈ cs, isLineEnd c = true → c = '\n')
    (h : ∃ c ∈ cs, isBlank c = false) : ∃ ls as a ws tail, EndsIn cs ls as a ws tail := by
  induction hn : cs.length using Nat.strongRecOn generalizing cs with
  | ind n ih =>
    by_cases hfeed : '\n' ∈ cs
    · obtain ⟨l, rest, rfl, hl⟩ := List.eq_append_cons_of_mem hfeed
      have hunbroken := unbroken_of_notMem (fun c hc => hends c (List.mem_append_left _ hc)) hl
      by_cases hrest : ∃ c ∈ rest, isBlank c = false
      · obtain ⟨ls, as, a, ws, tail, hendsIn⟩ := ih rest.length
          (by rw [← hn, List.length_append, List.length_cons]; omega)
          (fun c hc => hends c (List.mem_append_right _ (List.mem_cons_of_mem _ hc))) hrest rfl
        exact ⟨_, _, _, _, _, hendsIn.cons hunbroken hrest⟩
      · have hblank : ∀ c ∈ rest, isBlank c = true := by simpa using hrest
        have hsome : ∃ c ∈ l, isBlank c = false := by
          obtain ⟨c, hc, hne⟩ := h
          rcases List.mem_append.mp hc with hc | hc
          · exact ⟨c, hc, hne⟩
          · rcases List.mem_cons.mp hc with rfl | hc
            · exact absurd hne (by decide)
            · rw [hblank c hc] at hne
              cases hne
        obtain ⟨as, a, ws, rfl, ha, hws⟩ := exists_last hsome
        exact ⟨_, _, _, _, _, .of_blanks hunbroken ha hws hblank⟩
    · have hunbroken := unbroken_of_notMem hends hfeed
      obtain ⟨as, a, ws, rfl, ha, hws⟩ := exists_last h
      exact ⟨_, _, _, _, _, .of_line hunbroken ha hws⟩

/-! ## Indentation -/

theorem commonStart_isPrefix (as bs : List Char) : commonStart as bs <+: as ∧ commonStart as bs <+: bs := by
  fun_induction commonStart as bs with
  | case1 a as bs ih => exact ⟨List.cons_prefix_cons.2 ⟨rfl, ih.1⟩, List.cons_prefix_cons.2 ⟨rfl, ih.2⟩⟩
  | case2 => exact ⟨List.nil_prefix, List.nil_prefix⟩
  | case3 => exact ⟨List.nil_prefix, List.nil_prefix⟩

theorem foldl_commonStart_isPrefix (m : List Char) (ms : List (List Char)) :
    ∀ k ∈ m :: ms, ms.foldl commonStart m <+: k := by
  induction ms generalizing m with
  | nil =>
    intro k hk
    rw [List.mem_singleton.mp hk]
    exact List.prefix_rfl
  | cons l ms ih =>
    obtain ⟨hm, hl⟩ := commonStart_isPrefix m l
    have hfirst := ih (commonStart m l) (commonStart m l) List.mem_cons_self
    intro k hk
    rcases List.mem_cons.mp hk with rfl | hk
    · exact hfirst.trans hm
    · rcases List.mem_cons.mp hk with rfl | hk
      · exact hfirst.trans hl
      · exact ih (commonStart m l) k (List.mem_cons_of_mem _ hk)

/-- The indentation that lines share is the start of that of any of them. -/
theorem sharedMargin_isPrefix {ls : List (List Char)} {l : List Char} (hl : l ∈ ls) (h : l.all isIndent = false) :
    sharedMargin ls <+: l.takeWhile isIndent := by
  have hmem : l.takeWhile isIndent ∈ ls.filterMap margin? :=
    List.mem_filterMap.mpr ⟨l, hl, by rw [margin?, h, if_neg Bool.false_ne_true]⟩
  rw [sharedMargin]
  split
  · rename_i hnil
    rw [hnil] at hmem
    cases hmem
  · rename_i hcons
    rw [hcons] at hmem
    exact foldl_commonStart_isPrefix _ _ _ hmem

/-- The indentation that lines share is not longer than that of any of them. -/
theorem length_sharedMargin_le {ls : List (List Char)} {l : List Char} (hl : l ∈ ls) (h : l.all isIndent = false) :
    (sharedMargin ls).length ≤ (l.takeWhile isIndent).length :=
  (sharedMargin_isPrefix hl h).length_le

/-- Of lines, some blank ones at the start and all blank ones behind a line that is not blank are taken away. -/
theorem trimLines_eq {ls tail : List (List Char)} {k : List Char} (hk : isBlankLine k = false)
    (htail : ∀ l ∈ tail, isBlankLine l = true) :
    trimLines (ls ++ k :: tail) = ls.dropWhile isBlankLine ++ [k] := by
  have hfirst : (ls ++ k :: tail).dropWhile isBlankLine = ls.dropWhile isBlankLine ++ k :: tail := by
    induction ls with
    | nil => rw [List.nil_append, List.dropWhile_cons_of_neg (by simp [hk])]; rfl
    | cons l ls ih =>
      by_cases hl : isBlankLine l = true
      · rw [List.cons_append, List.dropWhile_cons_of_pos hl, List.dropWhile_cons_of_pos hl, ih]
      · rw [List.cons_append, List.dropWhile_cons_of_neg hl, List.dropWhile_cons_of_neg hl, List.cons_append]
  have hlast : (ls.dropWhile isBlankLine ++ k :: tail).reverse =
      tail.reverse ++ k :: (ls.dropWhile isBlankLine).reverse := by
    simp
  rw [trimLines, hfirst, hlast, List.dropWhile_append_of_pos fun l hl => htail l (List.mem_reverse.mp hl),
    List.dropWhile_cons_of_neg (by simp [hk])]
  simp

/-! ## Joining -/

theorem joinLines_cons (l : List Char) {ls : List (List Char)} (h : ls ≠ []) :
    joinLines (l :: ls) = l ++ '\n' :: joinLines ls := by
  cases ls with
  | nil => exact absurd rfl h
  | cons k ls => exact joinLines_cons_cons l k ls

theorem joinLines_concat_append (ls : List (List Char)) (k ws : List Char) :
    joinLines (ls ++ [k ++ ws]) = joinLines (ls ++ [k]) ++ ws := by
  induction ls with
  | nil => rfl
  | cons l ls ih =>
    rw [List.cons_append, List.cons_append, joinLines_cons l (by simp), joinLines_cons l (by simp), ih]
    simp

/-- Joined lines are cut where they were joined, unless the last one is empty. -/
theorem splitLines_joinLines_concat {ls : List (List Char)} {k : List Char} (hk : k ≠ [])
    (h : ∀ l ∈ ls ++ [k], ∀ c ∈ l, isLineEnd c = false) : splitLines (joinLines (ls ++ [k])) = ls ++ [k] := by
  induction ls with
  | nil => exact splitLines_unbroken (h k List.mem_cons_self) hk
  | cons l ls ih =>
    rw [List.cons_append, joinLines_cons l (by simp), splitLines_append_feed (h l List.mem_cons_self),
      ih fun m hm => h m (List.mem_cons_of_mem l hm)]

/-! ## The body -/

theorem mem_of_mem_dedented {n : Nat} {l : List Char} {c : Char} (h : c ∈ dedented n l) : c ∈ l := by
  rw [dedented] at h
  split at h
  · cases h
  · exact List.mem_of_mem_drop h

theorem eq_of_isIndent {c : Char} (h : isIndent c = true) : c = ' ' ∨ c = '\t' := by simpa [isIndent] using h

theorem isBlank_of_isIndent {c : Char} (h : isIndent c = true) : isBlank c = true := by
  rcases eq_of_isIndent h with rfl | rfl
  · decide
  · decide

theorem isIndent_of_isBlank {c : Char} (h : isBlank c = false) : isIndent c = false := by
  cases hc : isIndent c with
  | false => rfl
  | true =>
    rw [isBlank_of_isIndent hc] at h
    cases h

/-- Characters that are not blank stay when line ends are unified. -/
theorem mem_unifyLineEnds {cs : List Char} {c : Char} (hc : c ∈ cs) (h : isBlank c = false) : c ∈ unifyLineEnds cs := by
  fun_induction unifyLineEnds cs with
  | case1 => cases hc
  | case2 cs ih =>
    rcases List.mem_cons.mp hc with rfl | hc
    · exact absurd h (by decide)
    · rcases List.mem_cons.mp hc with rfl | hc
      · exact absurd h (by decide)
      · exact List.mem_cons_of_mem _ (ih hc)
  | case3 cs hne ih =>
    rcases List.mem_cons.mp hc with rfl | hc
    · exact absurd h (by decide)
    · exact List.mem_cons_of_mem _ (ih hc)
  | case4 d cs hne1 hne2 ih =>
    rcases List.mem_cons.mp hc with rfl | hc
    · exact List.mem_cons_self
    · exact List.mem_cons_of_mem _ (ih hc)

theorem takeWhile_append_cons {α : Type} {p : α → Bool} {a : α} (ha : p a = false) (as bs : List α) :
    (as ++ a :: bs).takeWhile p = as.takeWhile p := by
  induction as with
  | nil => rw [List.nil_append, List.takeWhile_cons_of_neg (by simp [ha]), List.takeWhile_nil]
  | cons b as ih =>
    by_cases hb : p b = true
    · rw [List.cons_append, List.takeWhile_cons_of_pos hb, List.takeWhile_cons_of_pos hb, ih]
    · rw [List.cons_append, List.takeWhile_cons_of_neg hb, List.takeWhile_cons_of_neg hb]

/-- A line that goes on behind its indentation, without characters of its indentation. -/
theorem dedented_append {n : Nat} {as bs : List Char} {a : Char} (ha : isIndent a = false)
    (hn : n ≤ (as.takeWhile isIndent).length) : dedented n (as ++ a :: bs) = as.drop n ++ a :: bs := by
  have hlength : n ≤ as.length := Nat.le_trans hn (List.takeWhile_sublist _).length_le
  rw [dedented, if_neg (by simp [ha]), List.drop_append_of_le_length hlength]

theorem mem_append_cons {α : Type} {as bs : List α} {a c : α} (h : c ∈ as ++ [a]) : c ∈ as ++ a :: bs := by
  rcases List.mem_append.mp h with h | h
  · exact List.mem_append_left _ h
  · rw [List.mem_singleton.mp h]
    exact List.mem_append_right _ List.mem_cons_self

/-- The indentation of a line is told by what is before its first other character. -/
theorem margin?_append_cons {as bs : List Char} {a : Char} (ha : isIndent a = false) :
    margin? (as ++ a :: bs) = some (as.takeWhile isIndent) := by
  rw [margin?, if_neg (by simp [ha]), takeWhile_append_cons ha]

/-- Blanks at the end of the last line make no difference to what lines share. -/
theorem sharedMargin_concat {ls : List (List Char)} {as bs : List Char} {a : Char} (ha : isIndent a = false) :
    sharedMargin (ls ++ [as ++ a :: bs]) = sharedMargin (ls ++ [as ++ [a]]) := by
  have hlast : [as ++ a :: bs].filterMap margin? = [as ++ [a]].filterMap margin? := by
    rw [List.filterMap_cons_some (margin?_append_cons ha), List.filterMap_cons_some (margin?_append_cons ha)]
  rw [sharedMargin, sharedMargin, List.filterMap_append, List.filterMap_append, hlast]

theorem length_sharedMargin_concat_le {ls : List (List Char)} {as : List Char} {a : Char} (ha : isIndent a = false) :
    (sharedMargin (ls ++ [as ++ [a]])).length ≤ (as.takeWhile isIndent).length := by
  rw [← takeWhile_append_cons ha as []]
  exact length_sharedMargin_le (List.mem_append_right _ List.mem_cons_self) (by simp [ha])

/-- Of lines the last of which is not blank, dedenting leaves such lines. -/
theorem dedent_concat {ls : List (List Char)} {as : List Char} (bs : List Char) {a : Char} (ha : isIndent a = false) :
    dedent (ls ++ [as ++ a :: bs]) =
      ls.map (dedented (sharedMargin (ls ++ [as ++ [a]])).length) ++
        [as.drop (sharedMargin (ls ++ [as ++ [a]])).length ++ a :: bs] := by
  change (ls ++ [as ++ a :: bs]).map (dedented (sharedMargin (ls ++ [as ++ a :: bs])).length) = _
  rw [sharedMargin_concat ha, List.map_append, List.map_singleton,
    dedented_append ha (length_sharedMargin_concat_le ha)]

theorem stripEnd_joinLines_concat (ls : List (List Char)) (as : List Char) {ws : List Char} {a : Char}
    (ha : isBlank a = false) (hws : ∀ c ∈ ws, isBlank c = true) :
    stripEnd (joinLines (ls ++ [as ++ a :: ws])) = joinLines (ls ++ [as ++ [a]]) := by
  have hlast : as ++ a :: ws = as ++ [a] ++ ws := by simp
  rw [hlast, joinLines_concat_append ls (as ++ [a]) ws, stripEnd_append_blanks _ hws, joinLines_concat_append ls as [a],
    stripEnd_concat _ ha]

/-- Normal code, from lines of which the last one is not blank. -/
theorem normalCode_eq {code : List Char} {ls : List (List Char)} {as ws : List Char} {a : Char} (ha : isBlank a = false)
    (hws : ∀ c ∈ ws, isBlank c = true) (hlines : trimLines (splitLines code) = ls ++ [as ++ a :: ws]) :
    normalCode code = joinLines (dedent (ls ++ [as ++ [a]])) := by
  have hindent := isIndent_of_isBlank ha
  rw [normalCode, hlines]
  split
  · rename_i hnil
    simp at hnil
  · rw [dedent_concat ws hindent, dedent_concat [] hindent]
    exact stripEnd_joinLines_concat _ _ ha hws

/-- Dedented lines are cut where they are joined. -/
theorem splitLines_joinLines_dedent {ls : List (List Char)} {as : List Char} {a : Char} (ha : isIndent a = false)
    (hends : ∀ l ∈ ls ++ [as ++ [a]], ∀ c ∈ l, isLineEnd c = false) :
    splitLines (joinLines (dedent (ls ++ [as ++ [a]]))) = dedent (ls ++ [as ++ [a]]) := by
  have hmem : ∀ l ∈ dedent (ls ++ [as ++ [a]]), ∀ c ∈ l, isLineEnd c = false := by
    intro l hl c hc
    obtain ⟨k, hk, rfl⟩ := List.mem_map.mp hl
    exact hends k hk c (mem_of_mem_dedented hc)
  rw [dedent_concat [] ha] at hmem ⊢
  exact splitLines_joinLines_concat (by simp) hmem

/-- The code of a block, from lines of which the last one is not blank. -/
theorem Block.body_eq {b : Block} {ls : List (List Char)} {as ws : List Char} {a : Char} (ha : isBlank a = false)
    (hws : ∀ c ∈ ws, isBlank c = true) (hends : ∀ l ∈ ls ++ [as ++ [a]], ∀ c ∈ l, isLineEnd c = false)
    (hlines : trimLines (splitLines b.code.toList) = ls ++ [as ++ a :: ws]) :
    b.body = joinLines ((ls ++ [as ++ [a]]).map (relay b.shift)) := by
  have hindent := isIndent_of_isBlank ha
  have hsplit : splitLines (normalCode b.code.toList) = (ls ++ [as ++ [a]]).map (dedented b.shift) := by
    rw [normalCode_eq ha hws hlines, splitLines_joinLines_dedent hindent hends, Block.shift, hlines,
      sharedMargin_concat hindent]
    rfl
  rw [Block.body, hsplit, indent, List.map_map]
  rfl

/-- **The written text and the body of the function have the same lines, those of the body relaid.** Only blank lines at
the start are left out. -/
theorem Block.lines_eq {b : Block} (hends : PlainEnds b.code.toList) (h : ∃ c ∈ b.code.toList, isBlank c = false) :
    ∃ blanks lines : List (List Char), b.written = (blanks ++ lines).flatMap (· ++ ['\n']) ∧
      b.body ++ ['\n'] = (lines.map (relay b.shift)).flatMap (· ++ ['\n']) ∧
      (∀ l ∈ blanks, isBlankLine l = true) ∧ (∀ l ∈ blanks ++ lines, ∀ c ∈ l, isLineEnd c = false) ∧
      ∀ l ∈ lines, l.all isIndent = false → b.shift ≤ (l.takeWhile isIndent).length := by
  have hsome : ∃ c ∈ unifyLineEnds b.code.toList, isBlank c = false := by
    obtain ⟨c, hc, hne⟩ := h
    exact ⟨c, mem_unifyLineEnds hc hne, hne⟩
  obtain ⟨ls, as, a, ws, tail, hsplit, hstrip, hlines, ha, hws, htail⟩ :=
    exists_endsIn (eq_feed_of_mem_unifyLineEnds hends) hsome
  rw [splitLines_unifyLineEnds hends] at hsplit
  have hindent := isIndent_of_isBlank ha
  have htrim : trimLines (splitLines b.code.toList) = ls.dropWhile isBlankLine ++ [as ++ a :: ws] := by
    rw [hsplit]
    exact trimLines_eq (by simp [isBlankLine, ha]) htail
  have hle : ∀ l ∈ ls.dropWhile isBlankLine ++ [as ++ a :: ws], l.all isIndent = false →
      b.shift ≤ (l.takeWhile isIndent).length := by
    intro l hl hne
    rw [Block.shift, htrim]
    exact length_sharedMargin_le hl hne
  have hlast : b.shift ≤ (as.takeWhile isIndent).length := by
    rw [← takeWhile_append_cons hindent as ws]
    exact hle _ (List.mem_append_right _ List.mem_cons_self) (by simp [hindent])
  have hends' : ∀ l ∈ ls ++ [as ++ [a]], ∀ c ∈ l, isLineEnd c = false := by
    intro l hl c hc
    rcases List.mem_append.mp hl with hl | hl
    · exact hlines l (List.mem_append_left _ hl) c hc
    · rw [List.mem_singleton.mp hl] at hc
      exact hlines _ (List.mem_append_right _ List.mem_cons_self) c (mem_append_cons hc)
  refine ⟨ls.takeWhile isBlankLine, ls.dropWhile isBlankLine ++ [as ++ [a]], ?_, ?_, ?_, ?_, ?_⟩
  · rw [← List.append_assoc, List.takeWhile_append_dropWhile, Block.written, hstrip]
  · have hrest : ∀ l ∈ ls.dropWhile isBlankLine ++ [as ++ [a]], ∀ c ∈ l, isLineEnd c = false := fun l hl =>
      hends' l (List.mem_append.mpr ((List.mem_append.mp hl).imp_left (List.dropWhile_sublist _).mem))
    rw [Block.body_eq ha hws hrest htrim, flatMap_feed_eq (by simp)]
  · exact List.all_eq_true.mp List.all_takeWhile
  · intro l hl
    rw [← List.append_assoc, List.takeWhile_append_dropWhile] at hl
    exact hends' l hl
  · intro l hl hne
    rcases List.mem_append.mp hl with hl | hl
    · exact hle l (List.mem_append_left _ hl) hne
    · rw [List.mem_singleton.mp hl, takeWhile_append_cons hindent]
      exact hlast

end PegTemplate
