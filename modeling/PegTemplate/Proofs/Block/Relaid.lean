import Mathlib.Tactic.SplitIfs
import PegTemplate.Proofs.Block.Literals
import PegTemplate.Proofs.Grammar.Code

/-!
# Scanning relaid lines

* `Retold` : the tokens of two scans that differ in margins, and in literals the text of which was relaid;
* `Inside`, `ModeAlike`, `Alike` : two scans in the middle of a line, the rest of which is the same for both;
* `Told` : the second scan goes on like the first one, or a relaid literal denotes nothing;
* `Scan.EntersAlike` : what both scans keep when they take a character between tokens;
* `step_alike`, `steps_alike` : what a character and what the rest of a line keeps.
-/

namespace PegTemplate
open Unicode

variable {n column narrow : Nat}

/-! ## Tokens -/

/-- The tokens of a text and those of its relaid lines, newest first, and what stands between the quotes of the text. All
lines of code start at one place. -/
inductive Retold (n column narrow : Nat) : List (List Char) → List Lexeme → List Lexeme → Prop
  | nil : Retold n column narrow [] [] []
  | line {raws : List (List Char)} {ls ls' : List Lexeme} (c k : Nat) (h : Retold n column narrow raws ls ls') :
    Retold n column narrow raws (.line c k :: ls) (.line column narrow :: ls')
  | name {raws : List (List Char)} {ls ls' : List Lexeme} (x : List Char) (h : Retold n column narrow raws ls ls') :
    Retold n column narrow raws (.name x :: ls) (.name x :: ls')
  | number {raws : List (List Char)} {ls ls' : List Lexeme} (x : Nat) (h : Retold n column narrow raws ls ls') :
    Retold n column narrow raws (.number x :: ls) (.number x :: ls')
  | mark {raws : List (List Char)} {ls ls' : List Lexeme} (c : Char) (h : Retold n column narrow raws ls ls') :
    Retold n column narrow raws (.mark c :: ls) (.mark c :: ls')
  | text {raws : List (List Char)} {ls ls' : List Lexeme} {raw : List Char} {v v' : String}
    (hv : literalValue? raw = some v) (hv' : literalValue? (relaid n raw) = some v')
    (h : Retold n column narrow raws ls ls') :
    Retold n column narrow (raw :: raws) (.text v :: ls) (.text v' :: ls')

/-! ## Between quotes -/

/-- Text between quotes that may be closed in the rest of its line: up to there it is relaid as it should be, and so it
is if the line ends before. -/
structure Resumed (n : Nat) (a b line : List Char) : Prop where
  closed : ∀ x y, line = x ++ y → relaid n (a ++ x) = b ++ x
  feeds : Lined n (a ++ (line ++ ['\n'])) (b ++ (line ++ ['\n']))

/-- What two scans have read between quotes, newest first, the last `k` characters being the quote; `rest` is what is
left of the line. -/
def Inside (n : Nat) (q : Char) (k : Nat) (rest chars chars' : List Char) : Prop :=
  ∃ a b x, chars = (a ++ (x ++ List.replicate k q)).reverse ∧ chars' = (b ++ (x ++ List.replicate k q)).reverse ∧
    Resumed n a b (x ++ List.replicate k q ++ rest)

namespace Inside

variable {q c : Char} {k : Nat} {rest chars chars' : List Char}

theorem start (h : '\n' ∉ rest) : Inside n q 0 rest [] [] := by
  refine ⟨[], [], [], rfl, rfl, fun x y hxy => ?_, .first h⟩
  have hx : '\n' ∉ x := fun hmem => h (by rw [show rest = x ++ y from hxy]; exact List.mem_append_left _ hmem)
  exact relaid_unbroken hx n

theorem push (h : Inside n q k (c :: rest) chars chars') : Inside n q 0 rest (c :: chars) (c :: chars') := by
  obtain ⟨a, b, x, rfl, rfl, hresumed⟩ := h
  refine ⟨a, b, x ++ List.replicate k q ++ [c], by simp, by simp, ?_⟩
  simpa using hresumed

theorem quote (h : Inside n q k (q :: rest) chars chars') : Inside n q (k + 1) rest (q :: chars) (q :: chars') := by
  obtain ⟨a, b, x, rfl, rfl, hresumed⟩ := h
  refine ⟨a, b, x, by simp [List.replicate_succ'], by simp [List.replicate_succ'], ?_⟩
  simpa [List.replicate_succ'] using hresumed

theorem close (h : Inside n q k rest chars chars') :
    relaid n (chars.drop k).reverse = (chars'.drop k).reverse := by
  obtain ⟨a, b, x, rfl, rfl, hresumed⟩ := h
  have hdrop : ∀ a : List Char, (a ++ (x ++ List.replicate k q)).reverse.drop k = (a ++ x).reverse := by
    intro a
    rw [← List.append_assoc, List.reverse_append, List.reverse_replicate, List.drop_left' (List.length_replicate ..)]
  rw [hdrop, hdrop, List.reverse_reverse, List.reverse_reverse]
  exact hresumed.closed x _ (by rw [List.append_assoc])

theorem feed (h : Inside n q k [] chars chars') : Lined n ('\n' :: chars).reverse ('\n' :: chars').reverse := by
  obtain ⟨a, b, x, rfl, rfl, hresumed⟩ := h
  simpa using hresumed.feeds

end Inside

/-! ## In the middle of a line -/

/-- How far some indentation goes, counted from a column and a number of characters. -/
def columnsAfter : (column narrow : Nat) → List Char → Nat × Nat
  | c, k, [] => (c, k)
  | c, k, i :: is => columnsAfter (if i = '\t' then (c / 8 + 1) * 8 else c + 1) (k + 1) is

/-- The modes of two scans, with the same `rest` of a line before them. A line of code that starts in the rest starts at
the common column of the relaid lines. -/
inductive ModeAlike (n column narrow : Nat) (rest : List Char) : Scan.Mode → Scan.Mode → Prop
  | margin {c k c' k' : Nat} (h : ∀ m, codeMargin? rest = some m → columnsAfter c' k' m = (column, narrow)) :
    ModeAlike n column narrow rest (.margin c k) (.margin c' k')
  | between : ModeAlike n column narrow rest .between .between
  | name (chars : List Char) : ModeAlike n column narrow rest (.name chars) (.name chars)
  | number (chars : List Char) : ModeAlike n column narrow rest (.number chars) (.number chars)
  | comment : ModeAlike n column narrow rest .comment .comment
  | backslash : ModeAlike n column narrow rest .backslash .backslash
  | opening (q : Char) (hq : isQuote q = true) : ModeAlike n column narrow rest (.opening q) (.opening q)
  | opening2 (q : Char) (hq : isQuote q = true) : ModeAlike n column narrow rest (.opening2 q) (.opening2 q)
  | short {q : Char} {chars chars' : List Char} (hq : isQuote q = true) (h : Inside n q 0 rest chars chars') :
    ModeAlike n column narrow rest (.short q chars) (.short q chars')
  | shortEscape {q : Char} {chars chars' : List Char} (hq : isQuote q = true) (h : Inside n q 0 rest chars chars') :
    ModeAlike n column narrow rest (.shortEscape q chars) (.shortEscape q chars')
  | long {q : Char} {k : Nat} {chars chars' : List Char} (hq : isQuote q = true) (h : Inside n q k rest chars chars') :
    ModeAlike n column narrow rest (.long q k chars) (.long q k chars')
  | longEscape {q : Char} {chars chars' : List Char} (hq : isQuote q = true) (h : Inside n q 0 rest chars chars') :
    ModeAlike n column narrow rest (.longEscape q chars) (.longEscape q chars')

/-- Two scans with the same rest of a line before them. -/
structure Alike (n column narrow : Nat) (rest : List Char) (raws : List (List Char)) (s s' : Scan) : Prop where
  mode : ModeAlike n column narrow rest s.mode s'.mode
  depth : s.depth = s'.depth
  lexemes : Retold n column narrow raws s.lexemes s'.lexemes

/-- The second scan goes on to what `rel` says, after the literals `lits`; or one of them, relaid, denotes nothing. -/
def Told (n : Nat) (raws lits : List (List Char)) (rel : List (List Char) → Scan → Prop) (x : Option Scan) : Prop :=
  (∃ t, x = some t ∧ rel (lits.reverse ++ raws) t) ∨ x = none ∧ ∃ raw ∈ lits, literalValue? (relaid n raw) = none

namespace Told

variable {raws lits more : List (List Char)} {rel rel' : List (List Char) → Scan → Prop} {x : Option Scan}

theorem of_some {t : Scan} (h : rel raws t) : Told n raws [] rel (some t) := Or.inl ⟨t, rfl, h⟩

theorem bind {f : Scan → Option Scan} (h : Told n raws lits rel x)
    (hf : ∀ raws t, rel raws t → Told n raws more rel' (f t)) : Told n raws (lits ++ more) rel' (x.bind f) := by
  rcases h with ⟨t, rfl, h⟩ | ⟨rfl, raw, hraw, hnone⟩
  · rcases hf _ t h with ⟨u, hu, hrel⟩ | ⟨hu, raw, hraw, hnone⟩
    · refine Or.inl ⟨u, hu, ?_⟩
      rwa [List.reverse_append, List.append_assoc]
    · exact Or.inr ⟨hu, raw, List.mem_append_right _ hraw, hnone⟩
  · exact Or.inr ⟨rfl, raw, List.mem_append_left _ hraw, hnone⟩

end Told

namespace Scan

variable {rest : List Char} {raws : List (List Char)} {s s' t : Scan} {c : Char} {rel : List (List Char) → Scan → Prop}

/-- Of two scans between tokens one takes the character to `t`; then the other one goes on to what `rel` says. -/
def EntersAlike (n column narrow : Nat) (c : Char) (t : Scan) (rel : List (List Char) → Scan → Prop) : Prop :=
  ∀ (raws : List (List Char)) (s s' : Scan), s.depth = s'.depth → Retold n column narrow raws s.lexemes s'.lexemes →
    s.enter c = some t → Told n raws [] rel (s'.enter c)

/-- A character between tokens is taken alike, unless it ends the line. -/
theorem enter_alike (hc : c ≠ '\n') :
    EntersAlike n column narrow c t fun raws t' => Alike n column narrow rest raws t t' := by
  intro raws s s' hdepth hlexemes h
  unfold enter at h ⊢
  rw [if_neg hc] at h ⊢
  split_ifs at h ⊢ with h1 h2 h3 h4 h5 h6 h7 h8 h9
  · cases h
    exact .of_some ⟨.between, hdepth, hlexemes⟩
  · cases h
    exact .of_some ⟨.comment, hdepth, hlexemes⟩
  · cases h
    exact .of_some ⟨.backslash, hdepth, hlexemes⟩
  · cases h
    exact .of_some ⟨.opening c h4, hdepth, hlexemes⟩
  · cases h
    exact .of_some ⟨.number [c], hdepth, hlexemes⟩
  · cases h
    exact .of_some ⟨.name [c], hdepth, hlexemes⟩
  · cases h
    exact .of_some ⟨.between, congrArg (· + 1) hdepth, .mark c hlexemes⟩
  · cases h
    exact .of_some ⟨.between, congrArg (· - 1) hdepth, .mark c hlexemes⟩
  · cases h
    exact .of_some ⟨.between, hdepth, .mark c hlexemes⟩

/-- A literal that is closed denotes what its relaid text denotes, if that denotes anything. -/
theorem putText_alike (hdepth : s.depth = s'.depth) (hlexemes : Retold n column narrow raws s.lexemes s'.lexemes)
    {chars chars' : List Char} (hrelaid : relaid n chars.reverse = chars'.reverse) (h : s.putText chars = some t) :
    Told n raws [chars.reverse] (fun raws t' => Alike n column narrow rest raws t t') (s'.putText chars') := by
  rw [putText] at h ⊢
  cases hv : unescape chars.reverse with
  | none =>
    rw [hv] at h
    cases h
  | some v =>
    rw [hv] at h
    cases h
    have hvalue : literalValue? chars.reverse = some (textOf v) := by rw [literalValue?, hv]; rfl
    cases hv' : unescape chars'.reverse with
    | none =>
      refine Or.inr ⟨rfl, _, List.mem_singleton_self _, ?_⟩
      rw [hrelaid, literalValue?, hv']
      rfl
    | some v' =>
      have hvalue' : literalValue? (relaid n chars.reverse) = some (textOf v') := by
        rw [hrelaid, literalValue?, hv']
        rfl
      exact Or.inl ⟨_, rfl, .between, hdepth, .text hvalue hvalue' hlexemes⟩

/-- After an empty literal both go on as they do with the next character. -/
theorem putText_enter_alike (hdepth : s.depth = s'.depth) (hlexemes : Retold n column narrow raws s.lexemes s'.lexemes)
    (hnext : EntersAlike n column narrow c t rel) (ht : (s.putText []).bind (·.enter c) = some t) :
    Told n raws [[]] rel ((s'.putText []).bind (·.enter c)) := by
  obtain ⟨u, hu, ht⟩ := Option.bind_eq_some_iff.mp ht
  have hput : Told n raws [[]] (fun raws u' => Alike n column narrow [] raws u u') (s'.putText []) :=
    putText_alike hdepth hlexemes rfl hu
  exact hput.bind fun raws u' halike => hnext raws u u' halike.depth halike.lexemes ht

/-- The end of a word is taken alike. -/
theorem endWord_alike (h : Alike n column narrow rest raws s s') (hword : s.mode = s'.mode) (ht : s.endWord = some t) :
    ∃ t', s'.endWord = some t' ∧ t.depth = t'.depth ∧ Retold n column narrow raws t.lexemes t'.lexemes := by
  rw [endWord] at ht ⊢
  rw [← hword]
  cases hmode : s.mode with
  | name chars =>
    rw [hmode] at ht
    dsimp only at ht ⊢
    split_ifs at ht ⊢
    cases ht
    exact ⟨_, rfl, h.depth, .name _ h.lexemes⟩
  | number chars =>
    rw [hmode] at ht
    dsimp only at ht ⊢
    cases hnumeral : numeral? chars.reverse with
    | none =>
      rw [hnumeral] at ht
      cases ht
    | some m =>
      rw [hnumeral] at ht
      cases ht
      exact ⟨_, rfl, h.depth, .number _ h.lexemes⟩
  | _ =>
    rw [hmode] at ht
    cases ht
    exact ⟨_, rfl, h.depth, h.lexemes⟩

/-- After a word both go on as they do with the next character. -/
theorem endWord_enter_alike (h : Alike n column narrow rest raws s s') (hword : s.mode = s'.mode)
    (hnext : EntersAlike n column narrow c t rel) (ht : s.endWord.bind (·.enter c) = some t) :
    Told n raws [] rel (s'.endWord.bind (·.enter c)) := by
  obtain ⟨u, hu, ht⟩ := Option.bind_eq_some_iff.mp ht
  obtain ⟨u', hu', hdepth, hlexemes⟩ := endWord_alike h hword hu
  rw [hu', Option.bind_some]
  exact hnext _ u u' hdepth hlexemes ht

/-- In the margin a character moves the column, or starts a comment or a line of code. -/
theorem step_margin_alike {a k a' k' depth depth' : Nat} {ls ls' : List Lexeme} (hdepth : depth = depth')
    (hlexemes : Retold n column narrow raws ls ls')
    (hmargin : ∀ m, codeMargin? (c :: rest) = some m → columnsAfter a' k' m = (column, narrow)) (hc : c ≠ '\n')
    (hstep : step ⟨.margin a k, depth, ls⟩ c = some t) :
    Told n raws [] (fun raws t' => Alike n column narrow rest raws t t') (step ⟨.margin a' k', depth', ls'⟩ c) := by
  have hindent : ∀ {i : Char} {d : Nat}, c = i → isIndent i = true →
      (if i = '\t' then (a' / 8 + 1) * 8 else a' + 1) = d →
      ∀ m, codeMargin? rest = some m → columnsAfter d (k' + 1) m = (column, narrow) := by
    rintro i d rfl hi rfl m hm
    exact hmargin (c :: m) (by rw [codeMargin?_cons hi, hm]; rfl)
  dsimp only [step] at hstep ⊢
  rw [if_neg hc] at hstep ⊢
  split_ifs at hstep ⊢ with hspace htab hcomment
  · cases hstep
    exact .of_some ⟨.margin (hindent hspace rfl rfl), hdepth, hlexemes⟩
  · cases hstep
    exact .of_some ⟨.margin (hindent htab rfl rfl), hdepth, hlexemes⟩
  · cases hstep
    exact .of_some ⟨.comment, hdepth, hlexemes⟩
  · have hstart := hmargin [] (codeMargin?_code (by simp [isIndent, hspace, htab]) hcomment hc rest)
    cases hstart
    exact enter_alike hc raws _ _ hdepth (.line a k hlexemes) hstep

/-- Between single quotes a character is put down, or it closes the literal. -/
theorem step_short_alike {q : Char} {chars chars' : List Char} {depth depth' : Nat} {ls ls' : List Lexeme}
    (hq : isQuote q = true) (hdepth : depth = depth') (hlexemes : Retold n column narrow raws ls ls')
    (h : Inside n q 0 (c :: rest) chars chars') (hc : c ≠ '\n') (hstep : step ⟨.short q chars, depth, ls⟩ c = some t) :
    Told n raws (literal? ⟨.short q chars, depth, ls⟩ c).toList (fun raws t' => Alike n column narrow rest raws t t')
      (step ⟨.short q chars', depth', ls'⟩ c) := by
  dsimp only [step, literal?] at hstep ⊢
  rw [if_neg hc] at hstep ⊢
  split_ifs at hstep ⊢ with hquote
  · exact putText_alike (s := ⟨.short q chars, depth, ls⟩) hdepth hlexemes h.close hstep
  · cases hstep
    exact .of_some ⟨.shortEscape hq h.push, hdepth, hlexemes⟩
  · cases hstep
    exact .of_some ⟨.short hq h.push, hdepth, hlexemes⟩

/-- Between threefold quotes a character is put down, or it is the third quote and closes the literal. -/
theorem step_long_alike {q : Char} {k : Nat} {chars chars' : List Char} {depth depth' : Nat} {ls ls' : List Lexeme}
    (hq : isQuote q = true) (hdepth : depth = depth') (hlexemes : Retold n column narrow raws ls ls')
    (h : Inside n q k (c :: rest) chars chars') (hstep : step ⟨.long q k chars, depth, ls⟩ c = some t) :
    Told n raws (literal? ⟨.long q k chars, depth, ls⟩ c).toList (fun raws t' => Alike n column narrow rest raws t t')
      (step ⟨.long q k chars', depth', ls'⟩ c) := by
  dsimp only [step, literal?] at hstep ⊢
  by_cases hquote : c = q
  · subst hquote
    rw [if_pos rfl] at hstep ⊢
    by_cases hk : k = 2
    · subst hk
      rw [if_pos rfl] at hstep ⊢
      rw [if_pos ⟨rfl, rfl⟩]
      exact putText_alike (s := ⟨.long c 2 chars, depth, ls⟩) hdepth hlexemes h.close hstep
    · rw [if_neg hk] at hstep ⊢
      rw [if_neg fun h => hk h.2]
      cases hstep
      exact .of_some ⟨.long hq h.quote, hdepth, hlexemes⟩
  · rw [if_neg hquote] at hstep ⊢
    rw [if_neg fun h => hquote h.1]
    split_ifs at hstep ⊢
    · cases hstep
      exact .of_some ⟨.longEscape hq h.push, hdepth, hlexemes⟩
    · cases hstep
      exact .of_some ⟨.long hq h.push, hdepth, hlexemes⟩

/-- **What a character in the middle of a line keeps.** -/
theorem step_alike (h : Alike n column narrow (c :: rest) raws s s') (hc : c ≠ '\n') (hrest : '\n' ∉ rest)
    (hstep : s.step c = some t) :
    Told n raws (s.literal? c).toList (fun raws t' => Alike n column narrow rest raws t t') (s'.step c) := by
  have hall := h
  obtain ⟨hmode, hdepth, hlexemes⟩ := h
  obtain ⟨mode, depth, ls⟩ := s
  obtain ⟨mode', depth', ls'⟩ := s'
  dsimp only at hmode hdepth hlexemes
  cases hmode with
  | margin hmargin => exact step_margin_alike hdepth hlexemes hmargin hc hstep
  | between => exact enter_alike hc raws _ _ hdepth hlexemes hstep
  | name chars =>
    change Told n raws [] _ _
    dsimp only [step] at hstep ⊢
    split_ifs at hstep ⊢
    · cases hstep
      exact .of_some ⟨.name (c :: chars), hdepth, hlexemes⟩
    · exact endWord_enter_alike hall rfl (enter_alike hc) hstep
  | number chars =>
    change Told n raws [] _ _
    dsimp only [step] at hstep ⊢
    split_ifs at hstep ⊢
    · cases hstep
      exact .of_some ⟨.number (c :: chars), hdepth, hlexemes⟩
    · exact endWord_enter_alike hall rfl (enter_alike hc) hstep
  | comment =>
    change Told n raws [] _ _
    dsimp only [step] at hstep ⊢
    rw [if_neg hc] at hstep ⊢
    cases hstep
    exact .of_some ⟨.comment, hdepth, hlexemes⟩
  | backslash =>
    dsimp only [step] at hstep
    rw [if_neg hc] at hstep
    cases hstep
  | opening q hq =>
    change Told n raws [] _ _
    dsimp only [step] at hstep ⊢
    rw [if_neg hc] at hstep ⊢
    have hinside : Inside n q 0 rest [c] [c] := (Inside.start (by simp [hrest, hc.symm])).push
    split_ifs at hstep ⊢
    · cases hstep
      exact .of_some ⟨.opening2 q hq, hdepth, hlexemes⟩
    · cases hstep
      exact .of_some ⟨.shortEscape hq hinside, hdepth, hlexemes⟩
    · cases hstep
      exact .of_some ⟨.short hq hinside, hdepth, hlexemes⟩
  | opening2 q hq =>
    dsimp only [step, literal?] at hstep ⊢
    split_ifs at hstep ⊢ with hquote
    · cases hstep
      exact .of_some ⟨.long hq (.start hrest), hdepth, hlexemes⟩
    · exact putText_enter_alike (s := ⟨.opening2 q, depth, ls⟩) hdepth hlexemes (enter_alike hc) hstep
  | short hq h => exact step_short_alike hq hdepth hlexemes h hc hstep
  | shortEscape hq h =>
    change Told n raws [] _ _
    cases hstep
    exact .of_some ⟨.short hq h.push, hdepth, hlexemes⟩
  | long hq h => exact step_long_alike hq hdepth hlexemes h hstep
  | longEscape hq h =>
    change Told n raws [] _ _
    cases hstep
    exact .of_some ⟨.long hq h.push, hdepth, hlexemes⟩

theorem steps_cons (s : Scan) (c : Char) (cs : List Char) : s.steps (c :: cs) = (s.step c).bind (·.steps cs) := by
  rw [steps, List.foldlM_cons]
  rfl

/-- The literals of a text are those of its parts. -/
theorem literals_append {xs : List Char} (h : s.steps xs = some t) (ys : List Char) :
    s.literals (xs ++ ys) = s.literals xs ++ t.literals ys := by
  induction xs generalizing s with
  | nil =>
    cases h
    rfl
  | cons c xs ih =>
    rw [steps_cons] at h
    obtain ⟨u, hu, h⟩ := Option.bind_eq_some_iff.mp h
    rw [List.cons_append, literals, literals, hu]
    dsimp only
    rw [ih h, List.append_assoc]

/-- **What the rest of a line keeps.** -/
theorem steps_alike (h : Alike n column narrow rest raws s s') (hrest : '\n' ∉ rest) (hsteps : s.steps rest = some t) :
    Told n raws (s.literals rest) (fun raws t' => Alike n column narrow [] raws t t') (s'.steps rest) := by
  induction rest generalizing s s' raws with
  | nil =>
    cases hsteps
    exact .of_some h
  | cons c rest ih =>
    have hc : c ≠ '\n' := fun hc => hrest (hc ▸ List.mem_cons_self)
    have htail : '\n' ∉ rest := fun hmem => hrest (List.mem_cons_of_mem _ hmem)
    rw [steps_cons] at hsteps
    obtain ⟨u, hu, hsteps⟩ := Option.bind_eq_some_iff.mp hsteps
    rw [steps_cons, literals, hu]
    exact (step_alike h hc htail hu).bind fun raws u' halike => ih halike htail hsteps

end Scan

/-! ## At the start of a line -/

/-- The modes of two scans at the start of a line. -/
inductive StartAlike (n : Nat) : Scan.Mode → Scan.Mode → Prop
  | margin : StartAlike n (.margin 0 0) (.margin 0 0)
  | between : StartAlike n .between .between
  | short {q : Char} {chars chars' : List Char} (hq : isQuote q = true) (h : Lined n chars.reverse chars'.reverse) :
    StartAlike n (.short q chars) (.short q chars')
  | long {q : Char} {chars chars' : List Char} (hq : isQuote q = true) (h : Lined n chars.reverse chars'.reverse) :
    StartAlike n (.long q 0 chars) (.long q 0 chars')

/-- Two scans at the start of a line. -/
structure LinesAlike (n column narrow : Nat) (raws : List (List Char)) (s s' : Scan) : Prop where
  mode : StartAlike n s.mode s'.mode
  depth : s.depth = s'.depth
  lexemes : Retold n column narrow raws s.lexemes s'.lexemes

namespace Scan

variable {raws : List (List Char)} {s s' t : Scan}

/-- Between tokens, a line feed starts a line of code or is a blank. -/
theorem enter_feed_alike :
    EntersAlike n column narrow '\n' t fun raws t' => LinesAlike n column narrow raws t t' := by
  intro raws s s' hdepth hlexemes h
  cases h
  refine .of_some ⟨?_, hdepth, hlexemes⟩
  dsimp only
  rw [hdepth]
  split_ifs
  · exact .margin
  · exact .between

/-- **What the end of a line keeps.** -/
theorem step_feed_alike (h : Alike n column narrow [] raws s s') (hstep : s.step '\n' = some t) :
    Told n raws (s.literal? '\n').toList (fun raws t' => LinesAlike n column narrow raws t t') (s'.step '\n') := by
  have hfeed : ∀ {q : Char}, isQuote q = true → '\n' ≠ q := fun hq => (ne_of_isQuote hq rfl).symm
  have hall := h
  obtain ⟨hmode, hdepth, hlexemes⟩ := h
  obtain ⟨mode, depth, lexemes⟩ := s
  obtain ⟨mode', depth', lexemes'⟩ := s'
  dsimp only at hmode hdepth hlexemes
  cases hmode with
  | margin =>
    cases hstep
    exact .of_some ⟨.margin, hdepth, hlexemes⟩
  | between => exact enter_feed_alike raws _ _ hdepth hlexemes hstep
  | name chars => exact endWord_enter_alike hall rfl enter_feed_alike hstep
  | number chars => exact endWord_enter_alike hall rfl enter_feed_alike hstep
  | comment => exact enter_feed_alike raws _ _ hdepth hlexemes hstep
  | backslash =>
    cases hstep
    exact .of_some ⟨.between, hdepth, hlexemes⟩
  | opening q hq =>
    dsimp only [step] at hstep
    rw [if_neg (hfeed hq), if_neg (by decide), if_pos rfl] at hstep
    cases hstep
  | opening2 q hq =>
    dsimp only [step, literal?] at hstep ⊢
    rw [if_neg (hfeed hq)] at hstep ⊢
    rw [if_neg (hfeed hq)]
    exact putText_enter_alike (s := ⟨.opening2 q, depth, lexemes⟩) hdepth hlexemes enter_feed_alike hstep
  | short hq h =>
    dsimp only [step] at hstep
    rw [if_neg (hfeed hq), if_neg (by decide), if_pos rfl] at hstep
    cases hstep
  | shortEscape hq h =>
    cases hstep
    exact .of_some ⟨.short hq h.feed, hdepth, hlexemes⟩
  | long hq h =>
    dsimp only [step, literal?] at hstep ⊢
    have hescape : '\n' ≠ '\\' := by decide
    rw [if_neg (hfeed hq), if_neg hescape] at hstep ⊢
    rw [if_neg fun h => hfeed hq h.1]
    cases hstep
    exact .of_some ⟨.long hq h.feed, hdepth, hlexemes⟩
  | longEscape hq h =>
    cases hstep
    exact .of_some ⟨.long hq h.feed, hdepth, hlexemes⟩

end Scan

end PegTemplate
