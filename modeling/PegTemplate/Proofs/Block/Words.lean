import Mathlib.Data.Bool.AllAny
import PegTemplate.Block.Reader
import PegTemplate.Proofs.Text.Lines

/-!
# Code that is laid out in words

* `isNameChar_of_isNamePart`, `isLineEnd_of_isNamePart` : what the characters of a name are and are not;
* `Word`, `Word.isPlain` : a name, a mark or a space, and the words that are scanned as they stand;
* `PlainLine` : a line that starts with a name, keeps its names apart and closes its brackets;
* `laidOut` : lines with the margin of a body before each and a line feed after each;
* `normalCode_spaced` : normalising takes the spaces around a line away;
* `Block.body_of_normalCode` : normal code of plain lines is laid out as the body of a function;
* `lexemes?_laidOut` : **plain lines are scanned into the tokens of their words**.
-/

namespace PegTemplate
open Unicode

/-! ## The characters of names -/

/-- Where the characters that a name starts with are. -/
theorem toNat_of_isNameStart {c : Char} (h : isNameStart c = true) :
    65 ≤ c.toNat ∧ c.toNat ≤ 90 ∨ c.toNat = 95 ∨ 97 ≤ c.toNat ∧ c.toNat ≤ 122 ∨ 128 ≤ c.toNat := by
  have hranges : ∀ r ∈ identifierStart, 65 ≤ r.1 ∧ r.2 ≤ 90 ∨ 97 ≤ r.1 ∧ r.2 ≤ 122 ∨ 128 ≤ r.1 := by decide +kernel
  rcases Bool.or_eq_true_iff.mp h with hc | hc
  · rw [eq_of_beq hc]
    decide
  · obtain ⟨r, hr, h1, h2⟩ := Ranges.has_iff.mp hc
    have hr := hranges r hr
    simp only [CodePoint] at hr h1 h2
    omega

/-- Where the characters of names are. -/
theorem toNat_of_isNamePart {c : Char} (h : isNamePart c = true) :
    48 ≤ c.toNat ∧ c.toNat ≤ 57 ∨ 65 ≤ c.toNat ∧ c.toNat ≤ 90 ∨ c.toNat = 95 ∨ 97 ≤ c.toNat ∧ c.toNat ≤ 122 ∨
      128 ≤ c.toNat := by
  have hranges : ∀ r ∈ identifierExtra, 48 ≤ r.1 ∧ r.2 ≤ 57 ∨ r.1 = 95 ∧ r.2 = 95 ∨ 128 ≤ r.1 := by decide +kernel
  rcases Bool.or_eq_true_iff.mp h with hc | hc
  · have hstart := toNat_of_isNameStart (Bool.or_eq_true_iff.mpr (.inr hc) : isNameStart c = true)
    omega
  · obtain ⟨r, hr, h1, h2⟩ := Ranges.has_iff.mp hc
    have hr := hranges r hr
    simp only [CodePoint] at hr h1 h2
    omega

/-- The characters that are digits. -/
theorem isDigit_iff {c : Char} : c.isDigit = true ↔ 48 ≤ c.toNat ∧ c.toNat ≤ 57 := by
  rw [Char.isDigit, Bool.and_eq_true, decide_eq_true_eq, decide_eq_true_eq]
  exact Iff.rfl

theorem isNamePart_of_isNameStart {c : Char} (h : isNameStart c = true) : isNamePart c = true := by
  rcases Bool.or_eq_true_iff.mp h with hc | hc
  · rw [eq_of_beq hc]
    decide +kernel
  · exact Bool.or_eq_true_iff.mpr (.inl hc)

theorem isNameChar_of_isNamePart {c : Char} (h : isNamePart c = true) : isNameChar c = true := by
  have hupper : c.isUpper = true ↔ 65 ≤ c.toNat ∧ c.toNat ≤ 90 := decide_eq_true_iff
  have hlower : c.isLower = true ↔ 97 ≤ c.toNat ∧ c.toNat ≤ 122 :=
    Bool.and_eq_true_iff.trans (and_congr decide_eq_true_iff decide_eq_true_iff)
  have halpha : c.isAlpha = (c.isUpper || c.isLower) := rfl
  have hscore : c = '_' ↔ c.toNat = 95 := Char.toNat_inj.symm
  simp only [isNameChar, Char.isAlphanum, halpha, Bool.or_eq_true, hupper, hlower, isDigit_iff, beq_iff_eq, hscore,
    decide_eq_true_eq]
  have hc := toNat_of_isNamePart h
  omega

theorem isNameChar_of_isNameStart {c : Char} (h : isNameStart c = true) : isNameChar c = true :=
  isNameChar_of_isNamePart (isNamePart_of_isNameStart h)

/-- Another character is none of those of names. -/
theorem ne_of_isNameChar {c : Char} (hc : isNameChar c = true) (d : Char) (hd : isNameChar d = false) : c ≠ d := by
  rintro rfl
  rw [hc] at hd
  cases hd

theorem isDigit_of_isNameStart {c : Char} (h : isNameStart c = true) : c.isDigit = false := by
  rw [← Bool.not_eq_true, isDigit_iff]
  have hc := toNat_of_isNameStart h
  omega

/-- No name holds a character that ends a line. -/
theorem isLineEnd_of_isNamePart {c : Char} (h : isNamePart c = true) : isLineEnd c = false := by
  rw [← Bool.not_eq_true]
  intro hend
  simp only [isLineEnd, Bool.or_eq_true, beq_iff_eq, or_assoc] at hend
  rcases hend with rfl | rfl | rfl | rfl | rfl | rfl | rfl | rfl | rfl | rfl <;>
    exact absurd h (by decide +kernel)

/-- A name is a start and parts. -/
theorem isName_iff_cons {cs : List Char} :
    isName cs = true ↔ ∃ a as, cs = a :: as ∧ isNameStart a = true ∧ ∀ c ∈ as, isNamePart c = true := by
  cases cs with
  | nil => simp [isName]
  | cons a as =>
    simp only [isName, Bool.and_eq_true, List.all_eq_true, List.cons.injEq]
    constructor
    · exact fun h => ⟨a, as, ⟨rfl, rfl⟩, h⟩
    · rintro ⟨_, _, ⟨rfl, rfl⟩, h⟩
      exact h

theorem isNamePart_of_mem {cs : List Char} (h : isName cs = true) {c : Char} (hc : c ∈ cs) : isNamePart c = true := by
  obtain ⟨a, as, rfl, ha, has⟩ := isName_iff_cons.mp h
  rcases List.mem_cons.mp hc with rfl | hc
  · exact isNamePart_of_isNameStart ha
  · exact has c hc

/-! ## Words -/

/-- What a line is put together from. -/
inductive Word where
  | name (n : String)
  | mark (c : Char)
  | space

namespace Word

/-- The text of a word. -/
def chars : Word → List Char
  | name n => n.toList
  | mark c => [c]
  | space => [' ']

/-- The token of a word, if it is more than a space. -/
def lexeme? : Word → Option Lexeme
  | name n => some (.name n.toList)
  | mark c => some (.mark c)
  | space => none

/-- How many brackets are open after a word. -/
def depthAfter (depth : Nat) : Word → Nat
  | mark c => if isOpening c then depth + 1 else if isClosing c then depth - 1 else depth
  | name _ | space => depth

/-- The brackets and the other marks of code. -/
def marks : List Char := ['(', '[', '{', ')', ']', '}', ',', ':', '.', '+', '=', '*', ';']

/-- The character is scanned as a mark. -/
def isMark (c : Char) : Bool := isOpening c || isClosing c || isCodeMark c

/-- Names are names, and marks are marks. -/
def isPlain : Word → Bool
  | name n => isName n.toList
  | mark c => isMark c
  | space => true

/-- It is a name. -/
def isWord : Word → Bool
  | name _ => true
  | mark _ | space => false

theorem mem_marks {c : Char} (h : isMark c = true) : c ∈ marks := by
  simp only [isMark, isOpening, isClosing, isCodeMark, Bool.or_eq_true, beq_iff_eq, or_assoc] at h
  simpa only [marks, List.mem_cons, List.not_mem_nil, or_false] using h

/-- No mark is part of a name, blank, the end of a line or the character that no code may hold. -/
theorem apart_of_isMark {c : Char} (h : isMark c = true) :
    isNameChar c = false ∧ isBlank c = false ∧ isLineEnd c = false ∧ c ≠ '\x00' := by
  have hmarks : ∀ d ∈ marks, isNameChar d = false ∧ isBlank d = false ∧ isLineEnd d = false ∧ d ≠ '\x00' :=
    List.all_iff_forall_prop.mp (by decide)
  exact hmarks c (mem_marks h)

end Word

/-- The text of words. -/
def lineChars (ws : List Word) : List Char := ws.flatMap Word.chars

/-- The tokens of words. -/
def lineLexemes (ws : List Word) : List Lexeme := ws.filterMap Word.lexeme?

@[simp] theorem lineChars_nil : lineChars [] = [] := rfl

@[simp] theorem lineChars_cons (w : Word) (ws : List Word) : lineChars (w :: ws) = w.chars ++ lineChars ws := rfl

@[simp] theorem lineLexemes_nil : lineLexemes [] = [] := rfl

@[simp] theorem lineLexemes_name (n : String) (ws : List Word) :
    lineLexemes (.name n :: ws) = .name n.toList :: lineLexemes ws := rfl

@[simp] theorem lineLexemes_mark (c : Char) (ws : List Word) :
    lineLexemes (.mark c :: ws) = .mark c :: lineLexemes ws := rfl

@[simp] theorem lineLexemes_space (ws : List Word) : lineLexemes (.space :: ws) = lineLexemes ws := rfl

/-- No two names are side by side. -/
def namesApart : List Word → Bool
  | v :: w :: ws => !(v.isWord && w.isWord) && namesApart (w :: ws)
  | _ => true

/-- A line that can be scanned word by word. -/
structure PlainLine (ws : List Word) : Prop where
  plain : ∀ w ∈ ws, w.isPlain = true
  starts : ∃ n, ws.head? = some (.name n)
  ends : ∃ c, ws.getLast? = some (.mark c)
  apart : namesApart ws = true
  closed : ws.foldl Word.depthAfter 0 = 0

/-- A plain line starts with a character of a name. -/
theorem PlainLine.lineChars_eq {ws : List Word} (h : PlainLine ws) :
    ∃ a as, lineChars ws = a :: as ∧ isNameChar a = true := by
  obtain ⟨n, hn⟩ := h.starts
  obtain ⟨ws', rfl⟩ := List.head?_eq_some_iff.mp hn
  obtain ⟨a, as, hchars, ha, -⟩ := isName_iff_cons.mp (h.plain _ List.mem_cons_self : isName n.toList = true)
  exact ⟨a, as ++ lineChars ws', by rw [lineChars_cons, Word.chars, hchars, List.cons_append],
    isNameChar_of_isNameStart ha⟩

/-- Lines as the body of a function has them. -/
def laidOut (lines : List (List Word)) : List Char :=
  lines.flatMap fun ws => bodyMargin ++ lineChars ws ++ ['\n']

/-! ## Scanning -/

namespace Scan

/-- A mark is a token of its own. -/
theorem step_mark {c : Char} (h : Word.isMark c = true) (depth : Nat) (ls : List Lexeme) :
    step ⟨.between, depth, ls⟩ c = some ⟨.between, (Word.mark c).depthAfter depth, .mark c :: ls⟩ := by
  have hc := Word.mem_marks h
  simp only [Word.marks, List.mem_cons, List.not_mem_nil, or_false] at hc
  rcases hc with rfl | rfl | rfl | rfl | rfl | rfl | rfl | rfl | rfl | rfl | rfl | rfl | rfl <;> rfl

theorem step_space (depth : Nat) (ls : List Lexeme) :
    step ⟨.between, depth, ls⟩ ' ' = some ⟨.between, depth, ls⟩ := rfl

/-- A name starts with its first character. -/
theorem step_nameStart {c : Char} (h : isNameStart c = true) (depth : Nat) (ls : List Lexeme) :
    step ⟨.between, depth, ls⟩ c = some ⟨.name [c], depth, ls⟩ := by
  have hc := isNameChar_of_isNameStart h
  have hne := ne_of_isNameChar hc
  have hq : isQuote c = false := by
    simp [isQuote, hne '\'' (by decide), hne '"' (by decide)]
  simp [step, enter, hne ' ' (by decide), hne '\t' (by decide), hne '\n' (by decide), hne '#' (by decide),
    hne '\\' (by decide), hq, isDigit_of_isNameStart h, hc]

/-- A name goes on with its other characters. -/
theorem steps_nameParts {cs : List Char} (h : ∀ c ∈ cs, isNamePart c = true) (before : List Char) (depth : Nat)
    (ls : List Lexeme) :
    steps ⟨.name before, depth, ls⟩ cs = some ⟨.name (cs.reverse ++ before), depth, ls⟩ := by
  induction cs generalizing before with
  | nil => rfl
  | cons c cs ih =>
    have hc : step ⟨.name before, depth, ls⟩ c = some ⟨.name (c :: before), depth, ls⟩ := by
      simp [step, isNameChar_of_isNamePart (h c List.mem_cons_self)]
    have hcs := ih (fun d hd => h d (List.mem_cons_of_mem c hd)) (c :: before)
    simp only [steps, List.foldlM_cons, hc, Option.bind_eq_bind, Option.bind_some] at hcs ⊢
    simpa using hcs

/-- A name ends before a character that it can't go on with. -/
theorem steps_name {n : List Char} (hn : isName n = true) {c : Char} (hc : isNameChar c = false) (cs : List Char)
    (depth : Nat) (ls : List Lexeme) :
    steps ⟨.between, depth, ls⟩ (n ++ c :: cs) = steps ⟨.between, depth, .name n :: ls⟩ (c :: cs) := by
  obtain ⟨a, as, rfl, ha, has⟩ := isName_iff_cons.mp hn
  have hstart : steps ⟨.between, depth, ls⟩ (a :: as) = some ⟨.name ((a :: as).reverse), depth, ls⟩ := by
    have h := steps_nameParts has [a] depth ls
    simp only [steps, List.foldlM_cons, step_nameStart ha, Option.bind_eq_bind, Option.bind_some] at h ⊢
    simpa using h
  have hleave : step ⟨.name ((a :: as).reverse), depth, ls⟩ c = step ⟨.between, depth, .name (a :: as) :: ls⟩ c := by
    simp only [step, hc, endWord, List.reverse_reverse, hn, put]
    rfl
  rw [steps_append, hstart, Option.bind_some]
  simp only [steps, List.foldlM_cons, hleave]

/-- **Words are scanned into their tokens.** -/
theorem steps_words {ws : List Word} (hplain : ∀ w ∈ ws, w.isPlain = true) (hapart : namesApart ws = true) (depth : Nat)
    (ls : List Lexeme) (cs : List Char) :
    steps ⟨.between, depth, ls⟩ (lineChars ws ++ '\n' :: cs) =
      steps ⟨.between, ws.foldl Word.depthAfter depth, (lineLexemes ws).reverse ++ ls⟩ ('\n' :: cs) := by
  induction ws generalizing depth ls with
  | nil => rfl
  | cons w ws ih =>
    have hplain' : ∀ v ∈ ws, v.isPlain = true := fun v hv => hplain v (List.mem_cons_of_mem w hv)
    have hapart' : namesApart ws = true := by
      cases ws with
      | nil => rfl
      | cons v ws => exact (Bool.and_eq_true_iff.mp hapart).2
    cases w with
    | space =>
      have h := ih hplain' hapart' depth ls
      simpa [Word.chars, Word.depthAfter, steps, step_space] using h
    | mark c =>
      have hc : Word.isMark c = true := hplain _ List.mem_cons_self
      have h := ih hplain' hapart' ((Word.mark c).depthAfter depth) (.mark c :: ls)
      simpa [Word.chars, steps, step_mark hc] using h
    | name n =>
      have hn : isName n.toList = true := hplain _ List.mem_cons_self
      -- what comes next is no part of a name: a mark, a space or the end of the line
      obtain ⟨c, rest, hrest, hc⟩ : ∃ c rest, lineChars ws ++ '\n' :: cs = c :: rest ∧ isNameChar c = false := by
        cases ws with
        | nil => exact ⟨'\n', cs, rfl, by decide⟩
        | cons v ws =>
          cases v with
          | name m => simp [namesApart, Word.isWord] at hapart
          | space => exact ⟨' ', lineChars ws ++ '\n' :: cs, rfl, by decide⟩
          | mark c =>
            have hc : Word.isMark c = true := hplain' _ List.mem_cons_self
            exact ⟨c, lineChars ws ++ '\n' :: cs, rfl, (Word.apart_of_isMark hc).1⟩
      have h := ih hplain' hapart' depth (.name n.toList :: ls)
      rw [lineChars_cons, List.append_assoc, Word.chars, hrest, steps_name hn hc rest depth ls, ← hrest, h]
      simp [Word.depthAfter]

/-- A line that starts with a name starts at its margin. -/
theorem steps_margin {ws : List Word} (h : PlainLine ws) (ls : List Lexeme) (cs : List Char) :
    steps ⟨.margin 0 0, 0, ls⟩ (bodyMargin ++ lineChars ws ++ '\n' :: cs) =
      steps ⟨.between, 0, .line 4 4 :: ls⟩ (lineChars ws ++ '\n' :: cs) := by
  obtain ⟨a, as, hchars, ha⟩ := h.lineChars_eq
  have hne := ne_of_isNameChar ha
  have hmargin : steps ⟨.margin 0 0, 0, ls⟩ bodyMargin = some ⟨.margin 4 4, 0, ls⟩ := rfl
  have hfirst : step ⟨.margin 4 4, 0, ls⟩ a = step ⟨.between, 0, .line 4 4 :: ls⟩ a := by
    simp only [step, hne ' ' (by decide), hne '\t' (by decide), hne '\n' (by decide), hne '#' (by decide), if_false,
      put]
  rw [List.append_assoc, steps_append, hmargin, Option.bind_some]
  simp only [hchars, List.cons_append, steps, List.foldlM_cons, hfirst]

/-- **Plain lines are scanned into the tokens of their words.** -/
theorem steps_laidOut {lines : List (List Word)} (h : ∀ ws ∈ lines, PlainLine ws) (ls : List Lexeme) :
    steps ⟨.margin 0 0, 0, ls⟩ (laidOut lines) =
      some ⟨.margin 0 0, 0, (lines.flatMap fun ws => .line 4 4 :: lineLexemes ws).reverse ++ ls⟩ := by
  induction lines generalizing ls with
  | nil => rfl
  | cons ws lines ih =>
    have hws := h ws List.mem_cons_self
    have hline : laidOut (ws :: lines) = bodyMargin ++ lineChars ws ++ '\n' :: laidOut lines := by
      simp [laidOut]
    have hfeed : step ⟨.between, 0, (lineLexemes ws).reverse ++ .line 4 4 :: ls⟩ '\n' =
        some ⟨.margin 0 0, 0, (lineLexemes ws).reverse ++ .line 4 4 :: ls⟩ := rfl
    rw [hline, steps_margin hws, steps_words hws.plain hws.apart, hws.closed]
    have hrest := ih (fun v hv => h v (List.mem_cons_of_mem ws hv)) ((lineLexemes ws).reverse ++ .line 4 4 :: ls)
    simp only [steps, List.foldlM_cons, hfeed, Option.bind_eq_bind, Option.bind_some] at hrest ⊢
    rw [hrest]
    simp

end Scan

/-- **The tokens of plain lines are those of their words.** -/
theorem lexemes?_laidOut {lines : List (List Word)} (h : ∀ ws ∈ lines, PlainLine ws) :
    lexemes? (laidOut lines) = some (lines.flatMap fun ws => .line 4 4 :: lineLexemes ws) := by
  rw [lexemes?, Scan.start, Scan.steps_laidOut h, Option.bind_some, Scan.finish?]
  simp

/-! ## The body of a block -/

/-- No word holds a character that ends a line, or the one that no code may hold. -/
theorem Word.chars_of_isPlain {w : Word} (h : w.isPlain = true) {c : Char} (hc : c ∈ w.chars) :
    isLineEnd c = false ∧ c ≠ '\x00' := by
  cases w with
  | name n =>
    have hpart := isNamePart_of_mem h hc
    exact ⟨isLineEnd_of_isNamePart hpart, fun e => absurd (e ▸ hpart) (by decide +kernel)⟩
  | space =>
    rw [List.mem_singleton.mp hc]
    decide
  | mark d =>
    rw [List.mem_singleton.mp hc]
    exact (Word.apart_of_isMark h).2.2

/-- The text of a plain line is solid: it starts with a name and ends with a mark. -/
theorem PlainLine.solid {ws : List Word} (h : PlainLine ws) : SolidLine (lineChars ws) where
  unbroken := by
    intro c hc
    obtain ⟨w, hw, hcw⟩ := List.mem_flatMap.mp hc
    exact (Word.chars_of_isPlain (h.plain w hw) hcw).1
  noNul := by
    intro hc
    obtain ⟨w, hw, hcw⟩ := List.mem_flatMap.mp hc
    exact (Word.chars_of_isPlain (h.plain w hw) hcw).2 rfl
  starts := by
    obtain ⟨a, as, hchars, ha⟩ := h.lineChars_eq
    have hne := ne_of_isNameChar ha
    exact ⟨a, as, hchars, by simp [isIndent, hne ' ' (by decide), hne '\t' (by decide)]⟩
  ends := by
    obtain ⟨c, hc⟩ := h.ends
    obtain ⟨ws', rfl⟩ := List.getLast?_eq_some_iff.mp hc
    have hc : Word.isMark c = true := h.plain (.mark c) (by simp)
    exact ⟨lineChars ws', c, by simp [lineChars, Word.chars], (Word.apart_of_isMark hc).2.1⟩

theorem laidOut_eq (lines : List (List Word)) :
    laidOut lines = ((lines.map lineChars).map (bodyMargin ++ ·)).flatMap (· ++ ['\n']) := by
  simp [laidOut, List.flatMap_map]

theorem isLineEnd_of_mem_bodyMargin : ∀ c ∈ bodyMargin, isLineEnd c = false :=
  List.all_iff_forall_prop.mp (by decide)

section
variable {lines : List (List Word)}

theorem solidLine_of_mem (h : ∀ ws ∈ lines, PlainLine ws) : ∀ l ∈ lines.map lineChars, SolidLine l := by
  intro l hl
  obtain ⟨ws, hws, rfl⟩ := List.mem_map.mp hl
  exact (h ws hws).solid

/-- Normalising takes the margin of plain lines away. -/
theorem normalCode_laidOut (h : ∀ ws ∈ lines, PlainLine ws) (hne : lines ≠ []) :
    normalCode ('\n' :: laidOut lines) = joinLines (lines.map lineChars) := by
  have hsolid := solidLine_of_mem h
  have hsplit : splitLines ('\n' :: laidOut lines) = [] :: (lines.map lineChars).map (bodyMargin ++ ·) := by
    rw [← List.nil_append ('\n' :: laidOut lines), splitLines_append_feed (by simp), laidOut_eq, splitLines_flatMap_feed]
    intro l hl c hc
    obtain ⟨k, hk, rfl⟩ := List.mem_map.mp hl
    exact (List.mem_append.mp hc).elim (isLineEnd_of_mem_bodyMargin c) ((hsolid k hk).unbroken c)
  have htrim : trimLines ([] :: (lines.map lineChars).map (bodyMargin ++ ·)) =
      (lines.map lineChars).map (bodyMargin ++ ·) := by
    refine trimLines_nil_cons fun l hl => ?_
    obtain ⟨k, hk, rfl⟩ := List.mem_map.mp hl
    exact (hsolid k hk).isBlankLine_append bodyMargin
  have hdedent : dedent ((lines.map lineChars).map (bodyMargin ++ ·)) = lines.map lineChars :=
    dedent_map_append hsolid (List.all_iff_forall_prop.mp (by decide))
  have hend : stripEnd (joinLines (lines.map lineChars)) = joinLines (lines.map lineChars) :=
    stripEnd_joinLines hsolid [] (by simpa using hne)
  rw [normalCode, hsplit, htrim]
  split
  · rename_i hnil
    simp [hne] at hnil
  · rw [hdedent, hend]

/-- Normalising takes the spaces around a plain line away. -/
theorem normalCode_spaced {ws : List Word} (h : PlainLine ws) :
    normalCode (' ' :: lineChars ws ++ [' ']) = joinLines ([ws].map lineChars) := by
  have hsplit : splitLines (' ' :: lineChars ws ++ [' ']) = [' ' :: lineChars ws ++ [' ']] := by
    refine splitLines_unbroken (fun c hc => ?_) (List.cons_ne_nil _ _)
    rw [List.mem_append, List.mem_cons, List.mem_singleton] at hc
    rcases hc with (rfl | hc) | rfl
    · rfl
    · exact h.solid.unbroken c hc
    · rfl
  obtain ⟨a, as, hstart, ha⟩ := h.solid.starts
  have hblank : isBlankLine (' ' :: lineChars ws ++ [' ']) = false := by
    have hline := h.solid.isBlankLine_append []
    rw [List.nil_append, isBlankLine] at hline
    simp only [isBlankLine, List.cons_append, List.all_cons, List.all_append, hline, Bool.false_and, Bool.and_false]
  have htrim : trimLines [' ' :: lineChars ws ++ [' ']] = [' ' :: lineChars ws ++ [' ']] := by
    rw [trimLines, List.dropWhile_cons_of_neg (by rw [hblank]; exact Bool.false_ne_true), List.reverse_singleton,
      List.dropWhile_cons_of_neg (by rw [hblank]; exact Bool.false_ne_true), List.reverse_singleton]
  have hdedent : dedent [' ' :: lineChars ws ++ [' ']] = [lineChars ws ++ [' ']] := by
    have hindent : (' ' :: lineChars ws ++ [' ']).all isIndent = false := by
      simp only [List.cons_append, List.all_cons, hstart, ha, Bool.false_and, Bool.and_false]
    have htake : (' ' :: lineChars ws ++ [' ']).takeWhile isIndent = [' '] := by
      rw [hstart, List.cons_append, List.takeWhile_cons_of_pos (by decide), List.cons_append,
        List.takeWhile_cons_of_neg (by rw [ha]; exact Bool.false_ne_true)]
    have hmargin : sharedMargin [' ' :: lineChars ws ++ [' ']] = [' '] := by
      rw [sharedMargin, List.filterMap_cons, margin?, hindent, if_neg Bool.false_ne_true, htake]
      rfl
    simp only [dedent, hmargin, List.map_cons, List.map_nil, hindent, if_neg Bool.false_ne_true]
    rfl
  have hend : stripEnd (lineChars ws ++ [' ']) = lineChars ws := by
    have hline := h.solid.stripEnd_append []
    rw [List.nil_append] at hline
    rw [stripEnd, List.reverse_append, List.reverse_singleton, List.singleton_append, List.dropWhile_cons_of_pos rfl]
    exact hline
  rw [normalCode, hsplit, htrim]
  dsimp only
  rw [hdedent]
  exact hend

/-- Normal code of plain lines is laid out as the body of a function. -/
theorem Block.body_of_normalCode {b : Block} (hcode : normalCode b.code.toList = joinLines (lines.map lineChars))
    (h : ∀ ws ∈ lines, PlainLine ws) (hne : lines ≠ []) : b.body ++ ['\n'] = laidOut lines := by
  have hsolid := solidLine_of_mem h
  have hsplit : splitLines (joinLines (lines.map lineChars)) = lines.map lineChars := by
    have hcut := splitLines_joinLines hsolid [] (by simp)
    rwa [show ([] ++ · : List Char → List Char) = id from rfl, List.map_id] at hcut
  have hindent : indent bodyMargin (lines.map lineChars) = (lines.map lineChars).map (bodyMargin ++ ·) := by
    refine List.map_congr_left fun l hl => ?_
    rw [← List.nil_append l, (hsolid l hl).isBlankLine_append [], if_neg Bool.false_ne_true]
  rw [Block.body, hcode, hsplit, hindent, laidOut_eq, flatMap_feed_eq]
  simpa using hne

/-- **Laying out the code of a block again changes nothing but the first line feed.** -/
theorem Block.body_laidOut {b : Block} (hcode : b.code.toList = '\n' :: laidOut lines)
    (h : ∀ ws ∈ lines, PlainLine ws) (hne : lines ≠ []) : b.body ++ ['\n'] = laidOut lines :=
  Block.body_of_normalCode (hcode ▸ normalCode_laidOut h hne) h hne

/-- The lines of code are the laid out ones. -/
theorem codeLines_laidOut (lines : List (List Word)) :
    codeLines (lines.flatMap fun ws => .line 4 4 :: lineLexemes ws) = lines.map fun ws => ⟨4, 4, lineLexemes ws⟩ := by
  have hskip : ∀ (ws : List Word) (ls : List Lexeme), codeLines (lineLexemes ws ++ ls) = codeLines ls := by
    intro ws ls
    induction ws with
    | nil => rfl
    | cons w ws ih => cases w <;> simpa [codeLines] using ih
  have htake : ∀ (ws : List Word) (ls : List Lexeme), ls.head?.all Lexeme.startsLine = true →
      (lineLexemes ws ++ ls).takeWhile (!·.startsLine) = lineLexemes ws := by
    intro ws ls hls
    induction ws with
    | nil => cases ls <;> simp_all
    | cons w ws ih => cases w <;> simpa [Lexeme.startsLine] using ih
  induction lines with
  | nil => rfl
  | cons ws lines ih =>
    rw [List.flatMap_cons, List.cons_append, codeLines, htake, hskip, ih, List.map_cons]
    cases lines <;> rfl

/-- **The body of a laid out function has the statements of its lines.** -/
theorem body?_laidOut (h : ∀ ws ∈ lines, PlainLine ws) (hne : lines ≠ []) :
    body? (laidOut lines) = (lines.mapM fun ws => lineStatements? (lineLexemes ws)).map List.flatten := by
  have hmargin : sameMargin (lines.map fun ws => ⟨4, 4, lineLexemes ws⟩) = true := by
    cases lines <;> simp [sameMargin]
  have hnul : (laidOut lines).contains '\x00' = false := by
    rw [← Bool.not_eq_true, List.contains_iff_mem, laidOut_eq]
    simp only [List.mem_flatMap, List.mem_map, List.mem_append]
    rintro ⟨_, ⟨_, ⟨ws, hws, rfl⟩, rfl⟩, hc⟩
    simp [bodyMargin, (h ws hws).solid.noNul] at hc
  have hempty : (lines.map fun ws => (⟨4, 4, lineLexemes ws⟩ : CodeLine)).isEmpty = false := by
    cases lines <;> simp_all
  simp only [body?, lexemes?_laidOut h, Option.bind_eq_bind, Option.bind_some, codeLines_laidOut, hempty, hmargin, hnul,
    Bool.not_true, Bool.or_false, Bool.false_eq_true, if_false, List.mapM_map, Function.comp_def]
  cases (lines.mapM fun ws => lineStatements? (lineLexemes ws)) <;> rfl

end

end PegTemplate
