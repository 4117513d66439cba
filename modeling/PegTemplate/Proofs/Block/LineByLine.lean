import PegTemplate.Proofs.Block.Relaid

/-!
# Scanning relaid lines one by one

* `Scan.indent_of_blank` : outside of literals, blank lines hold nothing but indentation;
* `Scan.lead_alike`, `Scan.blank_alike` : what the indentation of a line keeps, and what a blank line does;
* `Scan.line_alike`, `Scan.lines_alike` : **what a line keeps, and what all lines do**;
* `Scan.value_of_mem_literals` : each literal of code that is scanned denotes something.
-/

namespace PegTemplate
open Unicode

variable {n column narrow : Nat}

/-! ## Blanks -/

/-- A blank is indentation, a line feed or a character that code has nowhere but in comments and literals. -/
theorem blank_cases {c : Char} (h : isBlank c = true) : isIndent c = true ∨ c = '\n' ∨
    (c ≠ '#' ∧ c ≠ '\\' ∧ isQuote c = false ∧ c.isDigit = false) ∧
      isOpening c = false ∧ isClosing c = false ∧ isCodeMark c = false ∧ isNamePart c = false := by
  have hall : ∀ r ∈ blanks, ∀ k ∈ List.range' r.1 (r.2 + 1 - r.1), isIndent (Char.ofNat k) = true ∨ Char.ofNat k = '\n' ∨
      (Char.ofNat k ≠ '#' ∧ Char.ofNat k ≠ '\\' ∧ isQuote (Char.ofNat k) = false ∧ (Char.ofNat k).isDigit = false) ∧
        isOpening (Char.ofNat k) = false ∧ isClosing (Char.ofNat k) = false ∧ isCodeMark (Char.ofNat k) = false ∧
        isNamePart (Char.ofNat k) = false := by
    decide +kernel
  obtain ⟨r, hr, h1, h2⟩ := Ranges.has_iff.mp h
  have hc := hall r hr c.toNat (List.mem_range'_1.mpr ⟨h1, by simp only [CodePoint] at *; omega⟩)
  rwa [Char.ofNat_toNat] at hc

theorem ne_of_isBlank {c d : Char} (h : isBlank c = true) (hd : isBlank d = false) : c ≠ d := by
  rintro rfl
  rw [h] at hd
  cases hd

theorem isBlank_of_isQuote {q : Char} (hq : isQuote q = true) : isBlank q = false := by
  rcases Bool.or_eq_true_iff.mp hq with hq | hq
  · rw [eq_of_beq hq]
    decide
  · rw [eq_of_beq hq]
    decide

namespace Scan

variable {rest : List Char} {raws : List (List Char)} {s s' t : Scan}

/-- Characters that are put down one by one, while no literal ends. -/
theorem steps_putDown {f : List Char → Scan} {xs : List Char}
    (h : ∀ c ∈ xs, ∀ chars, (f chars).step c = some (f (c :: chars)) ∧ (f chars).literal? c = none) (chars : List Char) :
    (f chars).steps xs = some (f (xs.reverse ++ chars)) ∧ (f chars).literals xs = [] := by
  induction xs generalizing chars with
  | nil => exact ⟨rfl, rfl⟩
  | cons c xs ih =>
    obtain ⟨hstep, hnone⟩ := h c List.mem_cons_self chars
    obtain ⟨hsteps, hliterals⟩ := ih (fun d hd => h d (List.mem_cons_of_mem _ hd)) (c :: chars)
    rw [steps_cons, literals, hstep, Option.bind_some, hnone, hsteps]
    exact ⟨by simp, hliterals⟩

/-- Blanks between threefold quotes are read as they are. -/
theorem steps_blanks_long {q : Char} (hq : isQuote q = true) {xs : List Char} (h : ∀ c ∈ xs, isBlank c = true)
    (chars : List Char) (depth : Nat) (ls : List Lexeme) :
    steps ⟨.long q 0 chars, depth, ls⟩ xs = some ⟨.long q 0 (xs.reverse ++ chars), depth, ls⟩ ∧
      literals ⟨.long q 0 chars, depth, ls⟩ xs = [] := by
  refine steps_putDown (f := fun chars => ⟨.long q 0 chars, depth, ls⟩) (fun c hc chars => ⟨?_, ?_⟩) chars
  · dsimp only [step]
    rw [if_neg (ne_of_isBlank (h c hc) (isBlank_of_isQuote hq)), if_neg (ne_of_isBlank (h c hc) (by decide))]
  · exact if_neg fun heq => ne_of_isBlank (h c hc) (isBlank_of_isQuote hq) heq.1

/-- Blanks between single quotes are read as they are. -/
theorem steps_blanks_short {q : Char} (hq : isQuote q = true) {xs : List Char} (h : ∀ c ∈ xs, isBlank c = true)
    (hfeed : '\n' ∉ xs) (chars : List Char) (depth : Nat) (ls : List Lexeme) :
    steps ⟨.short q chars, depth, ls⟩ xs = some ⟨.short q (xs.reverse ++ chars), depth, ls⟩ ∧
      literals ⟨.short q chars, depth, ls⟩ xs = [] := by
  refine steps_putDown (f := fun chars => ⟨.short q chars, depth, ls⟩) (fun c hc chars => ⟨?_, ?_⟩) chars
  · have hne : c ≠ '\n' := fun heq => hfeed (heq ▸ hc)
    dsimp only [step]
    rw [if_neg (ne_of_isBlank (h c hc) (isBlank_of_isQuote hq)), if_neg (ne_of_isBlank (h c hc) (by decide)), if_neg hne]
  · exact if_neg (ne_of_isBlank (h c hc) (isBlank_of_isQuote hq))

/-- Indentation between tokens is passed over. -/
theorem steps_indent_between {is : List Char} (h : ∀ i ∈ is, isIndent i = true) (depth : Nat) (ls : List Lexeme) :
    steps ⟨.between, depth, ls⟩ is = some ⟨.between, depth, ls⟩ ∧ literals ⟨.between, depth, ls⟩ is = [] := by
  refine steps_putDown (f := fun _ => ⟨.between, depth, ls⟩) (fun i hi _ => ⟨?_, rfl⟩) []
  rcases Bool.or_eq_true_iff.mp (h i hi) with hi | hi
  · rw [eq_of_beq hi]
    rfl
  · rw [eq_of_beq hi]
    rfl

/-- Indentation at the start of a line moves the column. -/
theorem steps_indent_margin {is : List Char} (h : ∀ i ∈ is, isIndent i = true) (c k depth : Nat) (ls : List Lexeme) :
    steps ⟨.margin c k, depth, ls⟩ is = some ⟨.margin (columnsAfter c k is).1 (columnsAfter c k is).2, depth, ls⟩ ∧
      literals ⟨.margin c k, depth, ls⟩ is = [] := by
  induction is generalizing c k with
  | nil => exact ⟨rfl, rfl⟩
  | cons i is ih =>
    have ih := ih fun j hj => h j (List.mem_cons_of_mem _ hj)
    rw [steps_cons, literals]
    rcases Bool.or_eq_true_iff.mp (h i List.mem_cons_self) with hi | hi
    · rw [eq_of_beq hi]
      exact ih (c + 1) (k + 1)
    · rw [eq_of_beq hi]
      exact ih ((c / 8 + 1) * 8) (k + 1)

/-- No name holds a blank. -/
theorem steps_blankName {chars : List Char} (h : ∃ d ∈ chars, isNamePart d = false) {xs : List Char}
    (hxs : ∀ c ∈ xs, isBlank c = true) (depth : Nat) (ls : List Lexeme) (ys : List Char) :
    steps ⟨.name chars, depth, ls⟩ (xs ++ '\n' :: ys) = none := by
  have hword : ∀ chars : List Char, (∃ d ∈ chars, isNamePart d = false) → endWord ⟨.name chars, depth, ls⟩ = none := by
    rintro chars ⟨d, hd, hpart⟩
    refine if_neg fun hname => ?_
    rw [isNamePart_of_mem hname (List.mem_reverse.mpr hd)] at hpart
    cases hpart
  induction xs generalizing chars with
  | nil =>
    have hstep : step ⟨.name chars, depth, ls⟩ '\n' = none := by
      change (endWord ⟨.name chars, depth, ls⟩).bind (·.enter '\n') = none
      rw [hword chars h]
      rfl
    rw [List.nil_append, steps_cons, hstep]
    rfl
  | cons c xs ih =>
    rw [List.cons_append, steps_cons]
    dsimp only [step]
    split_ifs
    · obtain ⟨d, hd, hpart⟩ := h
      exact ih ⟨d, List.mem_cons_of_mem _ hd, hpart⟩ fun e he => hxs e (List.mem_cons_of_mem _ he)
    · rw [hword chars h]
      rfl

/-- Of the other blanks, some are taken for the start of a name. -/
theorem enter_blank {c : Char} (h : isBlank c = true) (hindent : isIndent c = false) (hne : c ≠ '\n')
    (ht : s.enter c = some t) :
    t.mode = .name [c] ∧ isNamePart c = false := by
  obtain ⟨hspace, htab⟩ : c ≠ ' ' ∧ c ≠ '\t' := by simpa [isIndent] using hindent
  rcases blank_cases h with hc | hc | ⟨⟨h1, h2, h3, h4⟩, h5, h6, h7, hpart⟩
  · rw [hindent] at hc
    cases hc
  · exact absurd hc hne
  · rw [enter, if_neg (by simp [hspace, htab]), if_neg hne, if_neg h1, if_neg h2, if_neg (by simp [h3]),
      if_neg (by simp [h4])] at ht
    split_ifs at ht with hname hopen hclose hmark
    · cases ht
      exact ⟨rfl, hpart⟩
    · rw [h5] at hopen
      cases hopen
    · rw [h6] at hclose
      cases hclose
    · rw [h7] at hmark
      cases hmark

/-- No token has been begun. -/
def Idle (s : Scan) : Prop := s.mode = .between ∨ ∃ c k, s.mode = .margin c k

theorem Idle.step_indent (h : s.Idle) {c : Char} (hindent : isIndent c = true) (hstep : s.step c = some t) : t.Idle := by
  obtain ⟨mode, depth, ls⟩ := s
  rcases h with h | ⟨a, k, h⟩
  · dsimp only at h
    subst h
    rcases Bool.or_eq_true_iff.mp hindent with hc | hc
    all_goals
      rw [eq_of_beq hc] at hstep
      cases hstep
      exact Or.inl rfl
  · dsimp only at h
    subst h
    rcases Bool.or_eq_true_iff.mp hindent with hc | hc
    all_goals
      rw [eq_of_beq hc] at hstep
      cases hstep
      exact Or.inr ⟨_, _, rfl⟩

/-- A blank that is no indentation can only start a name. -/
theorem Idle.step_blank (h : s.Idle) {c : Char} (hblank : isBlank c = true) (hindent : isIndent c = false) (hne : c ≠ '\n')
    (hstep : s.step c = some t) : t.mode = .name [c] ∧ isNamePart c = false := by
  obtain ⟨mode, depth, ls⟩ := s
  rcases h with h | ⟨a, k, h⟩
  · dsimp only at h
    subst h
    exact enter_blank hblank hindent hne hstep
  · dsimp only at h
    subst h
    obtain ⟨hspace, htab⟩ : c ≠ ' ' ∧ c ≠ '\t' := by simpa [isIndent] using hindent
    dsimp only [step] at hstep
    rw [if_neg hspace, if_neg htab, if_neg hne, if_neg (ne_of_isBlank hblank (by decide))] at hstep
    exact enter_blank hblank hindent hne hstep

/-- Between tokens, a line of blanks is one of indentation. -/
theorem indent_of_blank {l : List Char} (h : ∀ c ∈ l, isBlank c = true) (hfeed : '\n' ∉ l) {ys : List Char}
    (hidle : s.Idle) (hsteps : s.steps (l ++ '\n' :: ys) = some t) : ∀ c ∈ l, isIndent c = true := by
  induction l generalizing s with
  | nil => exact nofun
  | cons c l ih =>
    have hrest := fun d hd => h d (List.mem_cons_of_mem c hd)
    have hne : c ≠ '\n' := fun e => hfeed (e ▸ List.mem_cons_self)
    have htail : '\n' ∉ l := fun hmem => hfeed (List.mem_cons_of_mem _ hmem)
    rw [List.cons_append, steps_cons] at hsteps
    obtain ⟨u, hu, hsteps⟩ := Option.bind_eq_some_iff.mp hsteps
    cases hindent : isIndent c with
    | true =>
      intro d hd
      rcases List.mem_cons.mp hd with rfl | hd
      · exact hindent
      · exact ih hrest htail (hidle.step_indent hindent hu) hsteps d hd
    | false =>
      -- the name that the character starts is none, and the line holds nothing else
      obtain ⟨hmode, hpart⟩ := hidle.step_blank (h c List.mem_cons_self) hindent hne hu
      have hnone : u.steps (l ++ '\n' :: ys) = none := by
        obtain ⟨mode, depth, ls⟩ := u
        dsimp only at hmode
        subst hmode
        exact steps_blankName ⟨c, List.mem_cons_self, hpart⟩ hrest depth ls ys
      rw [hnone] at hsteps
      cases hsteps

/-! ## Lines -/

/-- What the indentation of a line keeps that is not blank. -/
theorem lead_alike (h : LinesAlike n column narrow raws s s') {lead : List Char} (hindent : ∀ c ∈ lead, isIndent c = true)
    (hlength : lead.length = n) (hrest : '\n' ∉ rest) (hrelay : relay n (lead ++ rest) = bodyMargin ++ rest)
    (hmargin : s.mode = .margin 0 0 → ∀ m, codeMargin? (lead ++ rest) = some m →
      columnsAfter 0 0 (bodyMargin ++ m.drop n) = (column, narrow)) :
    ∃ u u', s.steps lead = some u ∧ s.literals lead = [] ∧ s'.steps bodyMargin = some u' ∧
      Alike n column narrow rest raws u u' := by
  have hblank : ∀ c ∈ lead, isBlank c = true := fun c hc => isBlank_of_isIndent (hindent c hc)
  have hlead : '\n' ∉ lead := fun hmem => absurd (hindent _ hmem) (by decide)
  have hbody : ∀ c ∈ bodyMargin, isBlank c = true := List.all_eq_true.mp (by decide)
  have hinside : ∀ {q : Char} {chars chars' : List Char}, Lined n chars.reverse chars'.reverse →
      Inside n q 0 rest (lead.reverse ++ chars) (bodyMargin.reverse ++ chars') := by
    intro q chars chars' h
    refine ⟨chars.reverse ++ lead, chars'.reverse ++ bodyMargin, [], by simp, by simp, fun x y hxy => ?_, ?_⟩
    · have hx : '\n' ∉ lead ++ x := by
        intro hmem
        rcases List.mem_append.mp hmem with hmem | hmem
        · exact hlead hmem
        · exact hrest (by rw [show rest = x ++ y from hxy]; exact List.mem_append_left _ hmem)
      rw [List.append_assoc, h.relaid_append hx, List.drop_left' hlength, List.append_assoc]
    · have hnext := h.next (l := lead ++ rest) (by simp [hlead, hrest])
      rw [hrelay] at hnext
      simpa using hnext
  obtain ⟨hmode, hdepth, hlexemes⟩ := h
  obtain ⟨mode, depth, ls⟩ := s
  obtain ⟨mode', depth', ls'⟩ := s'
  dsimp only at hmode hdepth hlexemes
  cases hmode with
  | margin =>
    obtain ⟨hsteps, hliterals⟩ := steps_indent_margin hindent 0 0 depth ls
    refine ⟨_, _, hsteps, hliterals, rfl, .margin fun m hm => ?_, hdepth, hlexemes⟩
    have hcolumns := hmargin rfl (lead ++ m) (by rw [codeMargin?_indent_append hindent, hm]; rfl)
    rwa [List.drop_left' hlength] at hcolumns
  | between =>
    obtain ⟨hsteps, hliterals⟩ := steps_indent_between hindent depth ls
    exact ⟨_, _, hsteps, hliterals, rfl, .between, hdepth, hlexemes⟩
  | short hq h =>
    obtain ⟨hsteps, hliterals⟩ := steps_blanks_short hq hblank hlead _ depth ls
    exact ⟨_, _, hsteps, hliterals, (steps_blanks_short hq hbody (by decide) _ depth' ls').1, .short hq (hinside h),
      hdepth, hlexemes⟩
  | long hq h =>
    obtain ⟨hsteps, hliterals⟩ := steps_blanks_long hq hblank _ depth ls
    exact ⟨_, _, hsteps, hliterals, (steps_blanks_long hq hbody _ depth' ls').1, .long hq (hinside h), hdepth, hlexemes⟩

theorem steps_singleton (s : Scan) (c : Char) : s.steps [c] = s.step c := by
  rw [steps_cons]
  exact Option.bind_fun_some _

theorem steps_concat (hsteps : s.steps rest = some t) (c : Char) : s.steps (rest ++ [c]) = t.step c := by
  rw [steps_append, hsteps, Option.bind_some, steps_singleton]

theorem literals_concat (hsteps : s.steps rest = some t) (c : Char) :
    s.literals (rest ++ [c]) = s.literals rest ++ (t.literal? c).toList := by
  rw [literals_append hsteps, literals]
  cases t.step c with
  | none => simp
  | some u => simp [literals]

/-- What a line of blanks keeps. -/
theorem blank_alike (h : LinesAlike n column narrow raws s s') {l : List Char} (hblank : ∀ c ∈ l, isBlank c = true)
    (hfeed : '\n' ∉ l) (hsteps : s.steps (l ++ ['\n']) = some t) :
    Told n raws (s.literals (l ++ ['\n'])) (fun raws t' => LinesAlike n column narrow raws t t')
      (s'.steps (relay n l ++ ['\n'])) := by
  have hdedented : ∀ c ∈ dedented n l, isBlank c = true := fun c hc => hblank c (mem_of_mem_dedented hc)
  have hrelay : relay n l = dedented n l := if_pos (List.all_eq_true.mpr hdedented)
  have hempty : (∀ c ∈ l, isIndent c = true) → relay n l = [] := fun hindent =>
    hrelay.trans (if_pos (List.all_eq_true.mpr hindent))
  obtain ⟨hmode, hdepth, hlexemes⟩ := h
  obtain ⟨mode, depth, ls⟩ := s
  obtain ⟨mode', depth', ls'⟩ := s'
  dsimp only at hmode hdepth hlexemes
  cases hmode with
  | margin =>
    have hindent := indent_of_blank hblank hfeed (Or.inr ⟨0, 0, rfl⟩) hsteps
    obtain ⟨hline, hliterals⟩ := steps_indent_margin hindent 0 0 depth ls
    rw [steps_concat hline] at hsteps
    cases hsteps
    rw [literals_concat hline, hliterals, hempty hindent]
    exact .of_some ⟨.margin, hdepth, hlexemes⟩
  | between =>
    have hindent := indent_of_blank hblank hfeed (Or.inl rfl) hsteps
    obtain ⟨hline, hliterals⟩ := steps_indent_between hindent depth ls
    rw [steps_concat hline] at hsteps
    rw [literals_concat hline, hliterals, hempty hindent, List.nil_append, List.nil_append, steps_singleton]
    exact enter_feed_alike raws _ _ hdepth hlexemes hsteps
  | short hq h =>
    obtain ⟨hline, -⟩ := steps_blanks_short hq hblank hfeed _ depth ls
    rw [steps_concat hline] at hsteps
    dsimp only [step] at hsteps
    rw [if_neg (ne_of_isQuote hq rfl).symm, if_neg (by decide), if_pos rfl] at hsteps
    cases hsteps
  | @long q chars chars' hq h =>
    obtain ⟨hline, hliterals⟩ := steps_blanks_long hq hblank chars depth ls
    obtain ⟨hline', -⟩ := steps_blanks_long hq hdedented chars' depth' ls'
    have hquote : '\n' ≠ q := (ne_of_isQuote hq rfl).symm
    have hescape : '\n' ≠ '\\' := by decide
    have hstep : ∀ (chars : List Char) (depth : Nat) (ls : List Lexeme),
        step ⟨.long q 0 chars, depth, ls⟩ '\n' = some ⟨.long q 0 ('\n' :: chars), depth, ls⟩ := by
      intro chars depth ls
      dsimp only [step]
      rw [if_neg hquote, if_neg hescape]
    rw [steps_concat hline, hstep] at hsteps
    cases hsteps
    have hnone : literal? ⟨.long q 0 (l.reverse ++ chars), depth, ls⟩ '\n' = none := if_neg fun h => hquote h.1
    have hnext := h.next hfeed
    rw [literals_concat hline, hliterals, hnone, hrelay, steps_concat hline', hstep]
    rw [hrelay] at hnext
    exact .of_some ⟨.long hq (by simpa using hnext), hdepth, hlexemes⟩

/-- What a line keeps that is not blank, from what its indentation keeps on. -/
theorem solid_alike (h : LinesAlike n column narrow raws s s') {lead : List Char} (hindent : ∀ c ∈ lead, isIndent c = true)
    (hlength : lead.length = n) (hrest : '\n' ∉ rest) (hrelay : relay n (lead ++ rest) = bodyMargin ++ rest)
    (hmargin : s.mode = .margin 0 0 → ∀ m, codeMargin? (lead ++ rest) = some m →
      columnsAfter 0 0 (bodyMargin ++ m.drop n) = (column, narrow)) (hsteps : s.steps (lead ++ rest ++ ['\n']) = some t) :
    Told n raws (s.literals (lead ++ rest ++ ['\n'])) (fun raws t' => LinesAlike n column narrow raws t t')
      (s'.steps (bodyMargin ++ rest ++ ['\n'])) := by
  obtain ⟨u, u', hu, hliterals, hu', halike⟩ := lead_alike h hindent hlength hrest hrelay hmargin
  rw [List.append_assoc, steps_append, hu, Option.bind_some, steps_append] at hsteps
  obtain ⟨v, hv, hfeed⟩ := Option.bind_eq_some_iff.mp hsteps
  rw [steps_singleton] at hfeed
  rw [List.append_assoc, List.append_assoc, literals_append hu, hliterals, List.nil_append, literals_concat hv,
    steps_append, hu', Option.bind_some, steps_append]
  refine (steps_alike halike hrest hv).bind fun raws v' halike => ?_
  rw [steps_singleton]
  exact step_feed_alike halike hfeed

/-- A line that is not blank has a margin of `n` characters, in whose place the rest gets the margin of the body. -/
theorem exists_lead {l : List Char} (hblank : ¬∀ c ∈ l, isBlank c = true)
    (hindent : l.all isIndent = false → n ≤ (l.takeWhile isIndent).length) :
    ∃ lead rest, l = lead ++ rest ∧ lead.length = n ∧ (∀ c ∈ lead, isIndent c = true) ∧
      relay n l = bodyMargin ++ rest := by
  obtain ⟨c, hc, hne⟩ : ∃ c ∈ l, isBlank c = false := by simpa using hblank
  have hcode : l.all isIndent = false := List.all_eq_false.mpr ⟨c, hc, by simp [isIndent_of_isBlank hne]⟩
  have hn := hindent hcode
  have hlead : ∀ c ∈ l.take n, isIndent c = true := by
    intro d hd
    have htake : l.take n = (l.takeWhile isIndent).take n := by
      conv => lhs; rw [← List.takeWhile_append_dropWhile (p := isIndent) (l := l)]
      exact List.take_append_of_le_length hn
    rw [htake] at hd
    exact List.all_eq_true.mp List.all_takeWhile d (List.mem_of_mem_take hd)
  have hrest : c ∈ l.drop n := by
    rw [← List.take_append_drop n l] at hc
    refine (List.mem_append.mp hc).resolve_left fun hmem => ?_
    have hc := isBlank_of_isIndent (hlead c hmem)
    rw [hne] at hc
    cases hc
  refine ⟨l.take n, l.drop n, (List.take_append_drop n l).symm,
    List.length_take_of_le (Nat.le_trans hn (List.takeWhile_sublist _).length_le), hlead, ?_⟩
  have hdedented : dedented n l = l.drop n := if_neg (by simp [hcode])
  rw [relay, hdedented, if_neg]
  rw [isBlankLine, List.all_eq_false.mpr ⟨c, hrest, by simp [hne]⟩]
  exact Bool.false_ne_true

/-- **What a line keeps.** It is indented by `n` characters at least, unless there is nothing else in it. -/
theorem line_alike (h : LinesAlike n column narrow raws s s') {l : List Char} (hfeed : '\n' ∉ l)
    (hindent : l.all isIndent = false → n ≤ (l.takeWhile isIndent).length)
    (hmargin : s.mode = .margin 0 0 → ∀ m, codeMargin? l = some m →
      columnsAfter 0 0 (bodyMargin ++ m.drop n) = (column, narrow))
    (hsteps : s.steps (l ++ ['\n']) = some t) :
    Told n raws (s.literals (l ++ ['\n'])) (fun raws t' => LinesAlike n column narrow raws t t')
      (s'.steps (relay n l ++ ['\n'])) := by
  by_cases hblank : ∀ c ∈ l, isBlank c = true
  · exact blank_alike h hblank hfeed hsteps
  · obtain ⟨lead, rest, rfl, hlength, hlead, hrelay⟩ := exists_lead hblank hindent
    have hrest : '\n' ∉ rest := fun hmem => hfeed (List.mem_append_right _ hmem)
    rw [hrelay]
    exact solid_alike h hlead hlength hrest hrelay hmargin hsteps

/-- The margins of a text are those of its parts. -/
theorem margins_append {xs : List Char} (h : s.steps xs = some t) (ys : List Char) :
    ∀ m ∈ t.margins ys, m ∈ s.margins (xs ++ ys) := by
  induction xs generalizing s with
  | nil =>
    cases h
    exact fun m hm => hm
  | cons c xs ih =>
    rw [steps_cons] at h
    obtain ⟨u, hu, h⟩ := Option.bind_eq_some_iff.mp h
    intro m hm
    rw [List.cons_append, margins, hu]
    exact List.mem_append_right _ (ih h m hm)

/-- The margin of a line of code is among those of the text that starts with the line. -/
theorem codeMargin_mem_margins (hmode : s.mode = .margin 0 0) {l m : List Char} (hm : codeMargin? l = some m)
    (ys : List Char) : m ∈ s.margins (l ++ ys) := by
  have hall := codeMargin?_append hm ys
  cases l with
  | nil => cases hm
  | cons c l =>
    rw [List.cons_append] at hall ⊢
    rw [margins, if_pos hmode, hall]
    exact List.mem_append_left _ List.mem_cons_self

/-- **What lines keep.** -/
theorem lines_alike (h : LinesAlike n column narrow raws s s') {ls : List (List Char)} (hfeed : ∀ l ∈ ls, '\n' ∉ l)
    (hindent : ∀ l ∈ ls, l.all isIndent = false → n ≤ (l.takeWhile isIndent).length)
    (hmargins : ∀ m ∈ s.margins (ls.flatMap (· ++ ['\n'])), columnsAfter 0 0 (bodyMargin ++ m.drop n) = (column, narrow))
    (hsteps : s.steps (ls.flatMap (· ++ ['\n'])) = some t) :
    Told n raws (s.literals (ls.flatMap (· ++ ['\n']))) (fun raws t' => LinesAlike n column narrow raws t t')
      (s'.steps ((ls.map (relay n)).flatMap (· ++ ['\n']))) := by
  induction ls generalizing s s' raws with
  | nil =>
    cases hsteps
    exact .of_some h
  | cons l ls ih =>
    rw [List.flatMap_cons] at hmargins hsteps ⊢
    rw [List.map_cons, List.flatMap_cons, steps_append]
    rw [steps_append] at hsteps
    obtain ⟨u, hu, hrest⟩ := Option.bind_eq_some_iff.mp hsteps
    have hmargin : s.mode = .margin 0 0 → ∀ m, codeMargin? l = some m →
        columnsAfter 0 0 (bodyMargin ++ m.drop n) = (column, narrow) := by
      intro hmode m hm
      refine hmargins m ?_
      rw [List.append_assoc]
      exact codeMargin_mem_margins hmode hm _
    rw [literals_append hu]
    have hline := line_alike h (hfeed l List.mem_cons_self) (hindent l List.mem_cons_self) hmargin hu
    refine hline.bind fun raws u' halike => ?_
    exact ih halike (fun k hk => hfeed k (List.mem_cons_of_mem _ hk)) (fun k hk => hindent k (List.mem_cons_of_mem _ hk))
      (fun m hm => hmargins m (margins_append hu _ m hm)) hrest

/-- Blank lines at the start are passed over. -/
theorem steps_blankLines {ls : List (List Char)} (hblank : ∀ l ∈ ls, isBlankLine l = true) (hfeed : ∀ l ∈ ls, '\n' ∉ l)
    {ys : List Char} (hsteps : Scan.start.steps (ls.flatMap (· ++ ['\n']) ++ ys) = some t) :
    Scan.start.steps (ls.flatMap (· ++ ['\n'])) = some Scan.start ∧
      Scan.start.literals (ls.flatMap (· ++ ['\n'])) = [] := by
  induction ls with
  | nil => exact ⟨rfl, rfl⟩
  | cons l ls ih =>
    rw [List.flatMap_cons] at hsteps ⊢
    have hline := List.all_eq_true.mp (hblank l List.mem_cons_self)
    have hfirst : Scan.start.steps (l ++ '\n' :: (ls.flatMap (· ++ ['\n']) ++ ys)) = some t := by simpa using hsteps
    have hindent := indent_of_blank hline (hfeed l List.mem_cons_self) (Or.inr ⟨0, 0, rfl⟩) hfirst
    obtain ⟨hsteps', hliterals⟩ := steps_indent_margin hindent 0 0 0 []
    have hstart : Scan.start.steps (l ++ ['\n']) = some Scan.start := steps_concat hsteps' '\n'
    have hnone : Scan.start.literals (l ++ ['\n']) = [] := by
      rw [Scan.start, literals_concat hsteps', hliterals]
      rfl
    rw [List.append_assoc, steps_append, hstart, Option.bind_some] at hsteps
    rw [steps_append, hstart, Option.bind_some, literals_append hstart, hnone, List.nil_append]
    exact ih (fun k hk => hblank k (List.mem_cons_of_mem _ hk)) (fun k hk => hfeed k (List.mem_cons_of_mem _ hk)) hsteps

/-- A literal that is read denotes something. -/
theorem value_of_literal {c : Char} (hstep : s.step c = some t) {raw : List Char} (hraw : raw ∈ (s.literal? c).toList) :
    ∃ v, literalValue? raw = some v := by
  have hput : ∀ {u v : Scan} {chars : List Char}, u.putText chars = some v → raw ∈ [chars.reverse] →
      ∃ v, literalValue? raw = some v := by
    intro u v chars h hraw
    obtain ⟨cs, hcs, -⟩ := Option.map_eq_some_iff.mp h
    rw [List.mem_singleton.mp hraw, literalValue?, hcs]
    exact ⟨_, rfl⟩
  obtain ⟨mode, depth, ls⟩ := s
  cases mode with
  | opening2 q =>
    dsimp only [step, literal?] at hstep hraw
    split_ifs at hstep hraw
    · cases hraw
    · obtain ⟨u, hu, -⟩ := Option.bind_eq_some_iff.mp hstep
      exact hput hu hraw
  | short q chars =>
    dsimp only [step, literal?] at hstep hraw
    by_cases hquote : c = q
    · rw [if_pos hquote] at hstep hraw
      exact hput hstep hraw
    · rw [if_neg hquote] at hraw
      cases hraw
  | long q k chars =>
    dsimp only [step, literal?] at hstep hraw
    by_cases hquote : c = q ∧ k = 2
    · rw [if_pos hquote.1, if_pos hquote.2] at hstep
      rw [if_pos hquote] at hraw
      exact hput hstep hraw
    · rw [if_neg hquote] at hraw
      cases hraw
  | _ => cases hraw

theorem value_of_mem_literals {cs : List Char} (hsteps : s.steps cs = some t) {raw : List Char}
    (hraw : raw ∈ s.literals cs) : ∃ v, literalValue? raw = some v := by
  induction cs generalizing s with
  | nil => cases hraw
  | cons c cs ih =>
    rw [steps_cons] at hsteps
    obtain ⟨u, hu, hsteps⟩ := Option.bind_eq_some_iff.mp hsteps
    rw [literals, hu] at hraw
    rcases List.mem_append.mp hraw with hraw | hraw
    · exact value_of_literal hu hraw
    · exact ih hsteps hraw

end Scan

end PegTemplate
