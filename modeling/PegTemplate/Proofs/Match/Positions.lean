import Mathlib.Data.List.Induction
import Mathlib.Data.Prod.Lex
import PegTemplate.Match.Report

/-!
# Positions and the lines of a text

* `startOfLine` : where a line of a text begins, told from the lines before it;
* `LineOf`, `exists_lineOf` : the line that holds an offset, with the lines before it and what is behind it. Past the end
  of the text it is the last line;
* `LineOf.positionAt_eq`, `LineOf.lineAt_eq` : line, column and snippet are told from there;
* `InputError.ShowsPlace` : a report has the number of a line, a column, that line, and a caret under that column;
* `positions_faithful` : **positions are in the order of their offsets and lead back to them, and reports point there.**
-/

namespace PegTemplate

/-! ## Lines of a text -/

/-- The offset at which line `n` begins, counted from 1: the lines before it are passed, each with its line feed. -/
def startOfLine (text : List Char) (n : Nat) : Nat :=
  (((text.splitOn '\n').take (n - 1)).flatMap (· ++ ['\n'])).length

/-- The text is the lines `before`, the `line` that holds the offset, and the `rest` from the end of that line on. -/
structure LineOf (text : List Char) (offset : Nat) (before : List (List Char)) (line rest : List Char) : Prop where
  text_eq : text = before.flatMap (· ++ ['\n']) ++ (line ++ rest)
  unbroken : ∀ l ∈ before, '\n' ∉ l
  lineUnbroken : '\n' ∉ line
  rest_eq : rest = [] ∨ ∃ cs, rest = '\n' :: cs
  starts : (before.flatMap (· ++ ['\n'])).length ≤ offset
  /-- Only the last line holds offsets behind its end. -/
  inside : offset ≤ (before.flatMap (· ++ ['\n'])).length + line.length ∨ rest = []

/-- Some line holds the offset. -/
theorem exists_lineOf (text : List Char) (offset : Nat) : ∃ before line rest, LineOf text offset before line rest := by
  induction hn : text.length using Nat.strongRecOn generalizing text offset with
  | ind n ih =>
    by_cases hfeed : '\n' ∈ text
    · obtain ⟨l, cs, rfl, hl⟩ := List.eq_append_cons_of_mem hfeed
      by_cases hle : offset ≤ l.length
      · exact ⟨[], l, '\n' :: cs, rfl, nofun, hl, .inr ⟨cs, rfl⟩, Nat.zero_le offset, .inl (by simpa using hle)⟩
      · -- the offset is behind the first line feed, so the lines of the rest are looked at from there
        obtain ⟨before, line, rest, h⟩ := ih cs.length (by simp [← hn]; omega) cs (offset - (l.length + 1)) rfl
        have hstarts := h.starts
        refine ⟨l :: before, line, rest, ?_, List.forall_mem_cons.2 ⟨hl, h.unbroken⟩, h.lineUnbroken, h.rest_eq, ?_, ?_⟩
        · rw [List.flatMap_cons, h.text_eq]
          simp
        · simp only [List.flatMap_cons, List.length_append, List.length_singleton]
          omega
        · refine h.inside.imp_left fun hinside => ?_
          simp only [List.flatMap_cons, List.length_append, List.length_singleton]
          omega
    · exact ⟨[], text, [], by simp, nofun, hfeed, .inl rfl, Nat.zero_le offset, .inr rfl⟩

theorem splitOn_flatMap_feed {ls : List (List Char)} (h : ∀ l ∈ ls, '\n' ∉ l) (cs : List Char) :
    (ls.flatMap (· ++ ['\n']) ++ cs).splitOn '\n' = ls ++ cs.splitOn '\n' := by
  induction ls with
  | nil => rfl
  | cons l ls ih =>
    obtain ⟨hl, hls⟩ := List.forall_mem_cons.1 h
    have hfirst : (l :: ls).flatMap (· ++ ['\n']) ++ cs = l ++ '\n' :: (ls.flatMap (· ++ ['\n']) ++ cs) := by simp
    rw [hfirst, List.splitOn_append_cons_self_of_not_mem hl, ih hls, List.cons_append]

theorem count_flatMap_feed {ls : List (List Char)} (h : ∀ l ∈ ls, '\n' ∉ l) :
    (ls.flatMap (· ++ ['\n'])).count '\n' = ls.length := by
  induction ls with
  | nil => rfl
  | cons l ls ih =>
    obtain ⟨hl, hls⟩ := List.forall_mem_cons.1 h
    rw [List.flatMap_cons, List.count_append, ih hls, List.count_append, List.count_eq_zero_of_not_mem hl,
      List.count_singleton_self, List.length_cons, Nat.zero_add, Nat.add_comm]

/-- Going back over whole lines, a line feed is met at once. -/
theorem takeWhile_reverse_flatMap_feed (ls : List (List Char)) :
    (ls.flatMap (· ++ ['\n'])).reverse.takeWhile (· != '\n') = [] := by
  induction ls using List.reverseRecOn with
  | nil => rfl
  | append_singleton ls l => simp

theorem bne_feed_of_not_mem {l : List Char} (h : '\n' ∉ l) : ∀ c ∈ l, (c != '\n') = true := by
  intro c hc
  rw [bne_iff_ne]
  rintro rfl
  exact h hc

namespace LineOf

variable {text line rest : List Char} {offset : Nat} {before : List (List Char)}

/-- Before the offset are the lines before, and a part of its own line. -/
theorem take_eq (h : LineOf text offset before line rest) :
    text.take offset =
      before.flatMap (· ++ ['\n']) ++ line.take (offset - (before.flatMap (· ++ ['\n'])).length) := by
  rw [h.text_eq, List.take_append, List.take_of_length_le h.starts, List.take_append]
  rcases h.inside with hinside | rfl
  · rw [Nat.sub_eq_zero_of_le (by omega : _ ≤ line.length), List.take_zero, List.append_nil]
  · rw [List.take_nil, List.append_nil]

/-- The line is the one behind the lines before it. -/
theorem splitOn_eq (h : LineOf text offset before line rest) : ∃ after, text.splitOn '\n' = before ++ line :: after := by
  rw [h.text_eq, splitOn_flatMap_feed h.unbroken]
  rcases h.rest_eq with rfl | ⟨cs, rfl⟩
  · rw [List.append_nil, List.splitOn_eq_singleton h.lineUnbroken]
    exact ⟨[], rfl⟩
  · rw [List.splitOn_append_cons_self_of_not_mem h.lineUnbroken]
    exact ⟨cs.splitOn '\n', rfl⟩

theorem startOfLine_eq (h : LineOf text offset before line rest) :
    startOfLine text (before.length + 1) = (before.flatMap (· ++ ['\n'])).length := by
  obtain ⟨after, hsplit⟩ := h.splitOn_eq
  rw [startOfLine, Nat.add_sub_cancel, hsplit, List.take_left]

/-- There is no line feed between the start of the line and the offset. -/
theorem not_mem_part (h : LineOf text offset before line rest) :
    '\n' ∉ line.take (offset - (before.flatMap (· ++ ['\n'])).length) :=
  fun hc => h.lineUnbroken (List.mem_of_mem_take hc)

/-- The line starts where going back from the offset meets a line feed. -/
theorem lineStart_eq (h : LineOf text offset before line rest) :
    lineStart text offset = (before.flatMap (· ++ ['\n'])).length := by
  have hpart := bne_feed_of_not_mem (mt List.mem_reverse.1 h.not_mem_part)
  simp only [lineStart, h.take_eq]
  rw [List.reverse_append, List.takeWhile_append_of_pos hpart, takeWhile_reverse_flatMap_feed, List.append_nil,
    List.length_reverse, List.length_append, Nat.add_sub_cancel]

theorem lineAt_eq (h : LineOf text offset before line rest) : lineAt text offset = line := by
  rw [lineAt, h.lineStart_eq, h.text_eq, List.drop_left,
    List.takeWhile_append_of_pos (bne_feed_of_not_mem h.lineUnbroken)]
  rcases h.rest_eq with rfl | ⟨cs, rfl⟩
  · rw [List.takeWhile_nil, List.append_nil]
  · rw [List.takeWhile_cons_of_neg (by simp), List.append_nil]

/-- The number of the line counts the lines before it, and the column what is before the offset in the line. -/
theorem positionAt_eq (h : LineOf text offset before line rest) :
    positionAt text offset =
      ⟨offset, before.length + 1, offset - (before.flatMap (· ++ ['\n'])).length + 1⟩ := by
  rw [positionAt, h.lineStart_eq, h.take_eq, List.count_append, count_flatMap_feed h.unbroken,
    List.count_eq_zero_of_not_mem h.not_mem_part, Nat.add_zero]

/-- The line is the one that has the number of the position. -/
theorem getElem?_splitOn (h : LineOf text offset before line rest) :
    (text.splitOn '\n')[(positionAt text offset).line - 1]? = some line := by
  obtain ⟨after, hsplit⟩ := h.splitOn_eq
  rw [h.positionAt_eq, hsplit]
  dsimp only
  rw [Nat.add_sub_cancel, List.getElem?_append_right (Nat.le_refl _), Nat.sub_self, List.getElem?_cons_zero]

/-- The column of an offset in the text is one of its line, or right behind it. -/
theorem column_le (h : LineOf text offset before line rest) (hle : offset ≤ text.length) :
    (positionAt text offset).column ≤ line.length + 1 := by
  have hinside : offset ≤ (before.flatMap (· ++ ['\n'])).length + line.length := by
    rcases h.inside with hinside | rfl
    · exact hinside
    · rwa [h.text_eq, List.append_nil, List.length_append] at hle
  rw [h.positionAt_eq]
  dsimp only
  omega

end LineOf

/-! ## Positions -/

/-- An offset is where its line begins, and then as many characters as its column says. -/
theorem eq_startOfLine_add (text : List Char) (offset : Nat) :
    offset = startOfLine text (positionAt text offset).line + ((positionAt text offset).column - 1) := by
  obtain ⟨before, line, rest, h⟩ := exists_lineOf text offset
  have hstarts := h.starts
  rw [h.positionAt_eq, h.startOfLine_eq]
  dsimp only
  omega

/-- Further on in the text, lines have no smaller numbers. -/
theorem positionAt_line_mono (text : List Char) {a b : Nat} (h : a ≤ b) : (positionAt text a).line ≤ (positionAt text b).line :=
  Nat.succ_le_succ (List.Sublist.count_le '\n' (List.take_sublist_take_left h))

/-- Positions are in the order of their offsets: on one line by their columns, since these are counted from one start. -/
theorem positionAt_lt (text : List Char) {a b : Nat} (h : a < b) :
    toLex ((positionAt text a).line, (positionAt text a).column) <
      toLex ((positionAt text b).line, (positionAt text b).column) := by
  rw [Prod.Lex.toLex_lt_toLex]
  rcases Nat.lt_or_eq_of_le (positionAt_line_mono text (Nat.le_of_lt h)) with hline | hline
  · exact .inl hline
  · have ha := eq_startOfLine_add text a
    have hb := eq_startOfLine_add text b
    rw [hline] at ha
    exact .inr ⟨hline, by dsimp only; omega⟩

/-- A snippet is the line with the number of the position, and a caret under its column. -/
theorem snippetAt_eq (text : List Char) (offset : Nat) :
    ∃ line, (text.splitOn '\n')[(positionAt text offset).line - 1]? = some line ∧ '\n' ∉ line ∧
      snippetAt text offset =
        line ++ '\n' :: (List.replicate ((positionAt text offset).column - 1) ' ' ++ ['^']) := by
  obtain ⟨before, line, rest, h⟩ := exists_lineOf text offset
  refine ⟨line, h.getElem?_splitOn, h.lineUnbroken, ?_⟩
  rw [snippetAt, h.lineAt_eq, h.lineStart_eq, h.positionAt_eq]
  simp

/-! ## Reports -/

/-- A report shows its place: the line and the column of where its location starts, the line of the text that has this
number, and below it a caret under that column. -/
structure InputError.ShowsPlace (e : InputError) (text : List Char) : Prop where
  placed : e.location.start = positionAt text e.location.start.offset
  shown : ∃ line, (text.splitOn '\n')[e.location.start.line - 1]? = some line ∧
    e.message = "Expected " ++ joinAlternatives e.expected ++ " but " ++ foundText e.found ++ " found (line "
      ++ toString e.location.start.line ++ ", column " ++ toString e.location.start.column ++ ")\n"
      ++ String.ofList (line ++ '\n' :: (List.replicate (e.location.start.column - 1) ' ' ++ ['^']))

theorem InputError.showsPlace_of_snippet {e : InputError} {text line : List Char}
    (hplaced : e.location.start = positionAt text e.location.start.offset)
    (hline : (text.splitOn '\n')[e.location.start.line - 1]? = some line)
    (hsnippet : e.snippet =
      String.ofList (line ++ '\n' :: (List.replicate (e.location.start.column - 1) ' ' ++ ['^']))) :
    e.ShowsPlace text := by
  refine ⟨hplaced, line, hline, ?_⟩
  rw [← hsnippet]
  rfl

theorem inputErrorAt_showsPlace (text : List Char) (position : Nat) (expected : List String) :
    (inputErrorAt text position expected).ShowsPlace text := by
  obtain ⟨line, hline, -, hsnippet⟩ := snippetAt_eq text position
  exact InputError.showsPlace_of_snippet rfl hline (congrArg String.ofList hsnippet)

section
variable {σ ε : Type}

/-- A text that does not match is reported as an error at some position. -/
theorem Matcher.eq_inputErrorAt {m : Matcher σ ε} {name : String} {s t : State σ} {e : InputError}
    (h : m.parseAll name s = .error (.mismatch e) t) : ∃ position expected, e = inputErrorAt m.text position expected := by
  unfold parseAll at h
  split at h
  · cases h
  · cases h
    exact ⟨_, _, rfl⟩
  · split_ifs at h
    cases h
    exact ⟨_, _, rfl⟩

end

/-- Positions tell where offsets are in the text, and snippets and reports show it. -/
structure PositionsFaithful (text : List Char) : Prop where
  /-- Positions are in the order of their offsets, by lines and then by columns. -/
  ordered : ∀ a b, a < b → toLex ((positionAt text a).line, (positionAt text a).column) <
    toLex ((positionAt text b).line, (positionAt text b).column)
  /-- A position leads back to its offset. -/
  offset : ∀ a, (positionAt text a).offset = a ∧ 1 ≤ (positionAt text a).column ∧
    a = startOfLine text (positionAt text a).line + ((positionAt text a).column - 1)
  /-- Up to the end of the text, the column is one of the line, or right behind it. -/
  inside : ∀ a ≤ text.length, ∃ line, (text.splitOn '\n')[(positionAt text a).line - 1]? = some line ∧
    (positionAt text a).column ≤ line.length + 1
  /-- A snippet is two lines: the line with the number of the position, and a caret under its column. -/
  snippet : ∀ a, ∃ line, (text.splitOn '\n')[(positionAt text a).line - 1]? = some line ∧
    (snippetAt text a).splitOn '\n' = [line, List.replicate ((positionAt text a).column - 1) ' ' ++ ['^']]
  report : ∀ {σ ε : Type} (m : Matcher σ ε) (name : String) (s t : State σ) (e : InputError), m.text = text →
    m.parseAll name s = .error (.mismatch e) t → e.ShowsPlace text

/-- **Positions are faithful.** They are in the order of their offsets and lead back to them, also past the end of the
text; and the line and the column of a report are those of its snippet, whose first line is the line with this number and
whose caret is under this column. -/
theorem positions_faithful (text : List Char) : PositionsFaithful text where
  ordered _ _ h := positionAt_lt text h
  offset a := ⟨rfl, Nat.succ_le_succ (Nat.zero_le _), eq_startOfLine_add text a⟩
  inside a ha := by
    obtain ⟨before, line, rest, h⟩ := exists_lineOf text a
    exact ⟨line, h.getElem?_splitOn, h.column_le ha⟩
  snippet a := by
    obtain ⟨line, hline, hfeed, hsnippet⟩ := snippetAt_eq text a
    have hcaret : '\n' ∉ List.replicate ((positionAt text a).column - 1) ' ' ++ ['^'] := by simp
    refine ⟨line, hline, ?_⟩
    rw [hsnippet, List.splitOn_append_cons_self_of_not_mem hfeed, List.splitOn_eq_singleton hcaret]
  report m name s t e htext h := by
    subst htext
    obtain ⟨position, expected, rfl⟩ := Matcher.eq_inputErrorAt h
    exact inputErrorAt_showsPlace m.text position expected

/-- A text of two lines, and a grammar that matches all of it but the last character. -/
def secondLine : Matcher Unit Unit where
  grammar := ⟨[⟨"start", none, .sequence [.literal [0x78] false, .any, .literal [0x78] false]⟩], "start", []⟩
  actions := []
  cached := true
  text := ['x', '\n', 'x', 'y']

theorem secondLine_faithful : ∃ e t, secondLine.parseAll "start" (State.initial ()) = .error (.mismatch e) t ∧
    e.ShowsPlace secondLine.text ∧ e.message = "Expected end of input but 'y' found (line 2, column 2)\nxy\n ^" := by
  have hparse : ∃ t, secondLine.parseAll "start" (State.initial ()) =
      .error (.mismatch (inputErrorAt secondLine.text 3 ["end of input"])) t := ⟨_, rfl⟩
  obtain ⟨t, ht⟩ := hparse
  exact ⟨_, t, ht, (positions_faithful secondLine.text).report secondLine "start" _ t _ rfl ht, by decide +kernel⟩

end PegTemplate
