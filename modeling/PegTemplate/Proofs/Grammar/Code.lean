import Mathlib.Tactic.SplitIfs
import PegTemplate.Grammar.Token

/-!
# The code of a block

* `ShortText`, `LongText` : what stands in strings of one line and between threefold quotes;
* `CodeText` : characters, comments, strings and braces that pair, for given kinds of strings;
* `WrittenCode` : code as it is written. A threefold quote closes unless a backslash escapes it;
* `ScannedCode` : code as it is scanned. A threefold quote closes unless a backslash stands right before it;
* `CodeMode.Closes` : the modes in which a block may end (`closes_iff`);
* `readExactly_of_unescaped` : **a block is read as it is written, unless an escaped backslash stands right before a
  closing threefold quote.**
-/

namespace PegTemplate

/-! ## Strings -/

/-- What follows the first quote of a string in one line, with the character that ends it. A backslash takes the
character after it along. -/
inductive ShortText (q : Char) (ends : List Char) : List Char → Prop
  | stop {c : Char} (h : c ∈ ends) : ShortText q ends [c]
  | escape (c : Char) {t : List Char} (h : ShortText q ends t) : ShortText q ends ('\\' :: c :: t)
  | char {c : Char} {t : List Char} (hq : c ≠ q) (hb : c ≠ '\\') (hn : c ≠ '\n') (h : ShortText q ends t) :
    ShortText q ends (c :: t)

/-- What stands between threefold quotes, where the first one that is not escaped closes. -/
inductive LongText (q : Char) : List Char → Prop
  | nil : LongText q []
  | escape (c : Char) {t : List Char} (h : LongText q t) : LongText q ('\\' :: c :: t)
  | char {c : Char} {t : List Char} (hb : c ≠ '\\') (hq : ¬(c = q ∧ startsPair q (t ++ [q, q, q]) = true))
    (h : LongText q t) : LongText q (c :: t)

/-- What stands between threefold quotes after the character `previous`, where the first one without a backslash right
before it closes. -/
inductive ScannedLongText (q : Char) : (previous : Char) → List Char → Prop
  | nil {previous : Char} (h : previous ≠ '\\') : ScannedLongText q previous []
  | char {previous c : Char} {t : List Char}
    (hq : ¬(c = q ∧ startsPair q (t ++ [q, q, q]) = true ∧ previous ≠ '\\')) (h : ScannedLongText q c t) :
    ScannedLongText q previous (c :: t)

/-! ## Code -/

/-- A character that begins no string and no comment, and is no brace. -/
def isOrdinary (c : Char) : Bool := !isQuote c && c != '#' && c != '{' && c != '}'

/-- Characters, comments, strings and braces that pair. Two quotes are an empty string only if a third one does not
follow. -/
inductive CodeText (short long : Char → List Char → Prop) : List Char → Prop
  | nil : CodeText short long []
  | ordinary {c : Char} {cs : List Char} (hc : isOrdinary c = true) (h : CodeText short long cs) :
    CodeText short long (c :: cs)
  | comment {l cs : List Char} (hl : '\n' ∉ l) (h : CodeText short long cs) :
    CodeText short long ('#' :: (l ++ '\n' :: cs))
  | short {q : Char} {t cs : List Char} (hq : isQuote q = true) (ht : short q t) (hp : startsPair q (t ++ cs) = false)
    (h : CodeText short long cs) : CodeText short long (q :: (t ++ cs))
  | long {q : Char} {t cs : List Char} (hq : isQuote q = true) (ht : long q t) (h : CodeText short long cs) :
    CodeText short long (q :: q :: q :: (t ++ q :: q :: q :: cs))
  | braces {b cs : List Char} (hb : CodeText short long b) (h : CodeText short long cs) :
    CodeText short long ('{' :: (b ++ '}' :: cs))

theorem CodeText.mono {short short' long long' : Char → List Char → Prop} {cs : List Char}
    (hs : ∀ q t, isQuote q = true → short q t → short' q t) (hl : ∀ q t, isQuote q = true → long q t → long' q t)
    (h : CodeText short long cs) : CodeText short' long' cs := by
  induction h with
  | nil => exact .nil
  | ordinary hc _ ih => exact .ordinary hc ih
  | comment hl _ ih => exact .comment hl ih
  | short hq ht hp _ ih => exact .short hq (hs _ _ hq ht) hp ih
  | long hq ht _ ih => exact .long hq (hl _ _ hq ht) ih
  | braces _ _ ihb ih => exact .braces ihb ih

/-- Code as it is written. -/
def WrittenCode : List Char → Prop := CodeText (fun q => ShortText q [q]) LongText

/-- Code as it is written, in which no backslash stands right before a closing threefold quote. -/
def UnescapedCode : List Char → Prop :=
  CodeText (fun q => ShortText q [q]) fun q t => LongText q t ∧ t.getLast? ≠ some '\\'

/-- Code as it is scanned: the end of the line also ends a string of one line, and a threefold quote closes unless a
backslash stands right before it. -/
def ScannedCode : List Char → Prop := CodeText (fun q => ShortText q [q, '\n']) fun q => ScannedLongText q q

namespace ScannedCode

variable {cs : List Char}

theorem comment {l : List Char} (hl : '\n' ∉ l) (h : ScannedCode cs) : ScannedCode ('#' :: (l ++ '\n' :: cs)) :=
  CodeText.comment hl h

theorem long {q : Char} {t : List Char} (hq : isQuote q = true) (ht : ScannedLongText q q t) (h : ScannedCode cs) :
    ScannedCode (q :: q :: q :: (t ++ q :: q :: q :: cs)) :=
  CodeText.long hq ht h

theorem braces {b : List Char} (hb : ScannedCode b) (h : ScannedCode cs) : ScannedCode ('{' :: (b ++ '}' :: cs)) :=
  CodeText.braces hb h

end ScannedCode

/-- Whatever precedes it and follows it, the block with this code is read as that. -/
def ReadExactly (body : List Char) : Prop :=
  ∀ pos rest, readToken pos '{' (body ++ '}' :: rest) =
    .ok (.block (String.ofList body), pos + body.length + 2, rest)

theorem ne_of_isQuote {q c : Char} (hq : isQuote q = true) (hc : isQuote c = false) : q ≠ c := by
  rintro rfl
  rw [hq] at hc
  cases hc

theorem startsPair_self (q : Char) (cs : List Char) : startsPair q (q :: q :: cs) = true := by
  simp [startsPair]

theorem eq_of_startsPair {q : Char} {cs : List Char} (h : startsPair q cs = true) : ∃ r, cs = q :: q :: r := by
  match cs, h with
  | a :: b :: r, h =>
    simp only [startsPair, Bool.and_eq_true, beq_iff_eq] at h
    exact ⟨r, by rw [h.1, h.2]⟩

/-- A brace is no quote, so two quotes are found before it or not at all. -/
theorem startsPair_append {q : Char} (hq : isQuote q = true) (cs rest : List Char) :
    startsPair q (cs ++ '}' :: rest) = startsPair q cs := by
  have hb : ('}' == q) = false := beq_false_of_ne (ne_of_isQuote hq rfl).symm
  match cs with
  | [] => cases rest <;> simp [startsPair, hb]
  | [a] => simp [startsPair, hb]
  | a :: b :: cs => rfl

/-- Three more quotes are enough to look for two. -/
theorem startsPair_append_quotes (q : Char) (t r : List Char) :
    startsPair q (t ++ q :: q :: q :: r) = startsPair q (t ++ [q, q, q]) := by
  match t with
  | [] => rfl
  | [a] => rfl
  | a :: b :: t => rfl

/-! ## Modes -/

namespace CodeMode

/-- What the mode waits for is a quote. -/
def Quoted : CodeMode → Prop
  | plain | comment => True
  | string q | triple q _ _ => isQuote q = true
  | pass _ m => m.Quoted

/-- The block may end after this code, and not before: from the mode and with as many braces open. -/
def Closes : CodeMode → (depth pos : Nat) → List Char → Prop
  | mode, depth, _, [] => mode = plain ∧ depth = 0
  | mode, depth, pos, c :: cs => ¬(mode = plain ∧ c = '}' ∧ depth = 0) ∧
    Closes (mode.next pos c cs) (mode.depthAfter depth c) (pos + 1) cs

/-- The end of the code is not needed to find the next mode. -/
theorem next_append {mode : CodeMode} (h : mode.Quoted) (pos : Nat) (c : Char) (cs rest : List Char) :
    mode.next pos c (cs ++ '}' :: rest) = mode.next pos c cs ∧ (mode.next pos c cs).Quoted := by
  cases mode with
  | plain =>
    simp only [next]
    by_cases hc : isQuote c = true
    · simp only [startsPair_append hc, if_pos hc]
      refine ⟨trivial, ?_⟩
      split_ifs
      · exact hc
      · exact hc
    · simp only [if_neg hc, true_and]
      split_ifs
      · trivial
      · trivial
  | comment =>
    simp only [next, true_and]
    split_ifs
    · trivial
    · trivial
  | string q =>
    simp only [next, true_and]
    split_ifs
    · exact h
    · trivial
    · exact h
  | triple q start previous =>
    simp only [next, startsPair_append (show isQuote q = true from h), true_and]
    split_ifs
    · trivial
    · exact h
  | pass n m =>
    simp only [next, true_and]
    split_ifs
    · exact h
    · exact h

/-- A block is read up to where its code may end. -/
theorem closes_iff (start : Nat) (rest : List Char) {m : CodeMode} (h : m.Quoted) (depth pos : Nat)
    (body : List Char) :
    readCode start m depth pos (body ++ '}' :: rest) = .ok (body, pos + body.length + 1, rest) ↔
      m.Closes depth pos body := by
  induction body generalizing m depth pos with
  | nil =>
    rw [List.nil_append, readCode, Closes]
    by_cases hc : m = .plain ∧ depth = 0
    · rw [if_pos ⟨hc.1, rfl, hc.2⟩]
      exact iff_of_true rfl hc
    · rw [if_neg fun h => hc ⟨h.1, h.2.2⟩]
      refine iff_of_false (fun he => ?_) hc
      obtain ⟨code, hcode, -⟩ := Lexed.consCode_eq_ok he
      cases hcode
  | cons c cs ih =>
    obtain ⟨hnext, hquoted⟩ := next_append h pos c cs rest
    rw [List.cons_append, readCode, Closes]
    by_cases hc : m = .plain ∧ c = '}' ∧ depth = 0
    · rw [if_pos hc]
      exact iff_of_false (fun he => by cases he) fun h => h.1 hc
    · have hpos : pos + (c :: cs).length + 1 = pos + 1 + cs.length + 1 := by
        rw [List.length_cons]
        omega
      rw [if_neg hc, hnext, ← ih hquoted, hpos]
      constructor
      · intro he
        obtain ⟨code, hcode, hx⟩ := Lexed.consCode_eq_ok he
        cases hcode
        exact ⟨hc, hx⟩
      · intro he
        rw [he.2]
        rfl

/-! ## Leaving a mode -/

theorem closes_cons {m : CodeMode} (h : m ≠ plain) (depth pos : Nat) (c : Char) (cs : List Char) :
    m.Closes depth pos (c :: cs) ↔ (m.next pos c cs).Closes depth (pos + 1) cs := by
  have hd : m.depthAfter depth c = depth := by
    cases m with
    | plain => exact absurd rfl h
    | _ => rfl
  rw [Closes, hd]
  exact and_iff_right fun hp => h hp.1

theorem closes_pass (m : CodeMode) (depth pos : Nat) (c : Char) (cs : List Char) :
    (pass 1 m).Closes depth pos (c :: cs) ↔ m.Closes depth (pos + 1) cs :=
  closes_cons (m := pass 1 m) nofun depth pos c cs

theorem closes_pass_two (m : CodeMode) (depth pos : Nat) (c d : Char) (cs : List Char) :
    (pass 2 m).Closes depth pos (c :: d :: cs) ↔ m.Closes depth (pos + 2) cs := by
  rw [closes_cons (m := pass 2 m) nofun]
  exact closes_pass m depth (pos + 1) d cs

theorem exists_of_closes_comment {depth pos : Nat} {cs : List Char} (h : comment.Closes depth pos cs) :
    ∃ l r pos', cs = l ++ '\n' :: r ∧ '\n' ∉ l ∧ plain.Closes depth pos' r := by
  induction cs generalizing pos with
  | nil => exact nomatch h.1
  | cons c cs ih =>
    rw [closes_cons (m := comment) nofun, next] at h
    by_cases hc : c = '\n'
    · rw [if_pos hc] at h
      exact ⟨[], cs, _, by rw [hc]; rfl, List.not_mem_nil, h⟩
    · rw [if_neg hc] at h
      obtain ⟨l, r, pos', rfl, hl, hr⟩ := ih h
      exact ⟨c :: l, r, pos', rfl, fun hm => (List.mem_cons.1 hm).elim (fun he => hc he.symm) hl, hr⟩

theorem closes_comment {depth : Nat} {l r : List Char} (hl : '\n' ∉ l) (hr : ∀ pos, plain.Closes depth pos r)
    (pos : Nat) : comment.Closes depth pos (l ++ '\n' :: r) := by
  induction l generalizing pos with
  | nil => exact (closes_cons (m := comment) nofun ..).2 (hr _)
  | cons c l ih =>
    rw [List.cons_append, closes_cons (m := comment) nofun, next, if_neg (List.ne_of_not_mem_cons hl).symm]
    exact ih (fun h => hl (List.mem_cons_of_mem _ h)) _

theorem exists_of_closes_string {q : Char} {depth pos : Nat} {cs : List Char} (h : (string q).Closes depth pos cs) :
    ∃ t r pos', cs = t ++ r ∧ ShortText q [q, '\n'] t ∧ plain.Closes depth pos' r := by
  induction hn : cs.length using Nat.strongRecOn generalizing pos cs with
  | ind n ih =>
    subst hn
    match cs, h with
    | [], h => exact nomatch h.1
    | c :: cs, h =>
      rw [closes_cons (m := string q) nofun, next] at h
      by_cases hb : c = '\\'
      · rw [if_pos hb] at h
        match cs, h with
        | [], h => exact nomatch h.1
        | d :: cs, h =>
          have hlt : cs.length < (c :: d :: cs).length := by
            rw [List.length_cons, List.length_cons]
            omega
          obtain ⟨t, r, pos', rfl, ht, hr⟩ := ih cs.length hlt ((closes_pass ..).1 h) rfl
          exact ⟨c :: d :: t, r, pos', rfl, hb ▸ .escape d ht, hr⟩
      · rw [if_neg hb] at h
        by_cases hc : c = q ∨ c = '\n'
        · rw [if_pos (by simpa using hc)] at h
          exact ⟨[c], cs, _, rfl, .stop (by simpa using hc), h⟩
        · rw [if_neg (by simpa using hc)] at h
          obtain ⟨t, r, pos', rfl, ht, hr⟩ := ih cs.length (by simp) h rfl
          exact ⟨c :: t, r, pos', rfl, .char (fun h => hc (Or.inl h)) hb (fun h => hc (Or.inr h)) ht, hr⟩

theorem closes_string {q : Char} (hq : isQuote q = true) {depth : Nat} {t r : List Char}
    (ht : ShortText q [q, '\n'] t) (hr : ∀ pos, plain.Closes depth pos r) (pos : Nat) :
    (string q).Closes depth pos (t ++ r) := by
  induction ht generalizing pos with
  | @stop c hc =>
    have hb : c ≠ '\\' := by
      rintro rfl
      rcases List.mem_cons.1 hc with h | h
      · exact ne_of_isQuote hq rfl h.symm
      · cases List.mem_singleton.1 h
    rw [List.cons_append, closes_cons (m := string q) nofun, next, if_neg hb, if_pos (by simpa using hc)]
    exact hr _
  | escape c _ ih =>
    rw [List.cons_append, closes_cons (m := string q) nofun, next, if_pos rfl]
    exact (closes_pass ..).2 (ih _)
  | char hc hb hn _ ih =>
    rw [List.cons_append, closes_cons (m := string q) nofun, next, if_neg hb, if_neg (by simp [hc, hn])]
    exact ih _

theorem exists_of_closes_triple {q previous : Char} {start depth pos : Nat} {cs : List Char}
    (h : (triple q start previous).Closes depth pos cs) :
    ∃ t r pos', cs = t ++ q :: q :: q :: r ∧ ScannedLongText q previous t ∧ plain.Closes depth pos' r := by
  induction cs generalizing pos previous with
  | nil => exact nomatch h.1
  | cons c cs ih =>
    rw [closes_cons (m := triple q start previous) nofun, next] at h
    by_cases hc : c = q ∧ startsPair q cs = true ∧ previous ≠ '\\'
    · rw [if_pos (by simpa [and_assoc] using hc)] at h
      obtain ⟨rfl, hp, hb⟩ := hc
      obtain ⟨r, rfl⟩ := eq_of_startsPair hp
      exact ⟨[], r, _, rfl, .nil hb, (closes_pass_two ..).1 h⟩
    · rw [if_neg (by simpa [and_assoc] using hc)] at h
      obtain ⟨t, r, pos', rfl, ht, hr⟩ := ih h
      rw [startsPair_append_quotes] at hc
      exact ⟨c :: t, r, pos', rfl, .char hc ht, hr⟩

theorem closes_triple {q previous : Char} {start depth : Nat} {t r : List Char} (ht : ScannedLongText q previous t)
    (hr : ∀ pos, plain.Closes depth pos r) (pos : Nat) :
    (triple q start previous).Closes depth pos (t ++ q :: q :: q :: r) := by
  induction ht generalizing pos with
  | nil hb =>
    rw [List.nil_append, closes_cons (m := triple q start _) nofun, next, if_pos (by simp [startsPair_self, hb])]
    exact (closes_pass_two ..).2 (hr _)
  | char hc _ ih =>
    rw [List.cons_append, closes_cons (m := triple q start _) nofun, next, startsPair_append_quotes,
      if_neg (by simpa [and_assoc] using hc)]
    exact ih _

/-! ## Plain code -/

theorem closes_plain_ordinary {c : Char} (hc : isOrdinary c = true) (depth pos : Nat) (cs : List Char) :
    plain.Closes depth pos (c :: cs) ↔ plain.Closes depth (pos + 1) cs := by
  simp only [isOrdinary, Bool.and_eq_true, Bool.not_eq_true', bne_iff_ne] at hc
  obtain ⟨⟨⟨hq, hh⟩, ho⟩, hb⟩ := hc
  rw [Closes, next, depthAfter, if_neg (by simp [hq]), if_neg hh, if_neg ho, if_neg hb]
  exact and_iff_right fun h => hb h.2.1

theorem closes_plain_comment (depth pos : Nat) (cs : List Char) :
    plain.Closes depth pos ('#' :: cs) ↔ comment.Closes depth (pos + 1) cs :=
  and_iff_right fun h => nomatch h.2.1

theorem closes_plain_open (depth pos : Nat) (cs : List Char) :
    plain.Closes depth pos ('{' :: cs) ↔ plain.Closes (depth + 1) (pos + 1) cs :=
  and_iff_right fun h => nomatch h.2.1

theorem closes_plain_close (depth pos : Nat) (cs : List Char) :
    plain.Closes (depth + 1) pos ('}' :: cs) ↔ plain.Closes depth (pos + 1) cs :=
  and_iff_right fun h => nomatch h.2.2

theorem closes_plain_quote {q : Char} (hq : isQuote q = true) (depth pos : Nat) (cs : List Char) :
    plain.Closes depth pos (q :: cs) ↔
      (if startsPair q cs then pass 2 (triple q pos q) else string q).Closes depth (pos + 1) cs := by
  rw [Closes, next, depthAfter, if_pos hq, if_neg (ne_of_isQuote hq rfl), if_neg (ne_of_isQuote hq rfl)]
  exact and_iff_right fun h => ne_of_isQuote hq rfl h.2.1

end CodeMode

/-! ## From modes to code -/

/-- Code with more closing braces than opening ones: as many more as there are braces open around it. -/
def OpenCode : (depth : Nat) → List Char → Prop
  | 0, cs => ScannedCode cs
  | depth + 1, cs => ∃ b r, cs = b ++ '}' :: r ∧ ScannedCode b ∧ OpenCode depth r

/-- Something may be put in front of the code, if it may be put in front of the part up to the first closing brace. -/
theorem OpenCode.prepend {x r : List Char} {depth : Nat}
    (hx : ∀ b, (b = r ∨ ∃ s, r = b ++ '}' :: s) → ScannedCode b → ScannedCode (x ++ b)) (h : OpenCode depth r) :
    OpenCode depth (x ++ r) := by
  cases depth with
  | zero => exact hx r (Or.inl rfl) h
  | succ depth =>
    obtain ⟨b, s, rfl, hb, hs⟩ := h
    exact ⟨x ++ b, s, (List.append_assoc ..).symm, hx b (Or.inr ⟨s, rfl⟩) hb, hs⟩

open CodeMode in
/-- Where the modes let the block end, its code is scanned code. -/
theorem openCode_of_closes {depth pos : Nat} {cs : List Char} (h : plain.Closes depth pos cs) : OpenCode depth cs := by
  induction hn : cs.length using Nat.strongRecOn generalizing depth pos cs with
  | ind n ih =>
    subst hn
    match cs, h with
    | [], h => exact h.2 ▸ .nil
    | c :: cs, h =>
      have hlt : ∀ {t r : List Char}, cs = t ++ r → r.length < (c :: cs).length := by
        rintro t r rfl
        rw [List.length_cons, List.length_append]
        omega
      by_cases hq : isQuote c = true
      · rw [closes_plain_quote hq] at h
        split_ifs at h with hp
        · obtain ⟨r, rfl⟩ := eq_of_startsPair hp
          obtain ⟨t, s, pos', rfl, ht, hs⟩ := exists_of_closes_triple ((closes_pass_two ..).1 h)
          have hopen := ih s.length (hlt (t := c :: c :: t ++ [c, c, c]) (by simp)) hs rfl
          simpa using hopen.prepend (x := c :: c :: c :: t ++ [c, c, c]) fun b _ hb => by
            simpa using hb.long hq ht
        · obtain ⟨t, s, pos', rfl, ht, hs⟩ := exists_of_closes_string h
          have hopen := ih s.length (hlt rfl) hs rfl
          refine hopen.prepend (x := c :: t) fun b hb => ?_
          rw [Bool.not_eq_true] at hp
          refine CodeText.short hq ht ?_
          rcases hb with rfl | ⟨r, rfl⟩
          · exact hp
          · rwa [← List.append_assoc, startsPair_append hq] at hp
      · by_cases hh : c = '#'
        · subst hh
          obtain ⟨l, r, pos', rfl, hl, hr⟩ := exists_of_closes_comment ((closes_plain_comment ..).1 h)
          have hopen := ih r.length (hlt (t := l ++ ['\n']) (by simp)) hr rfl
          simpa using hopen.prepend (x := '#' :: l ++ ['\n']) fun b _ hb => by
            simpa using hb.comment hl
        · by_cases ho : c = '{'
          · subst ho
            obtain ⟨b, r, rfl, hb, hr⟩ := ih cs.length (hlt (t := []) rfl) ((closes_plain_open ..).1 h) rfl
            simpa using hr.prepend (x := '{' :: b ++ ['}']) fun b' _ hb' => by
              simpa using hb.braces hb'
          · by_cases hc : c = '}'
            · subst hc
              cases depth with
              | zero => exact absurd ⟨rfl, rfl, rfl⟩ h.1
              | succ depth =>
                exact ⟨[], cs, rfl, .nil, ih cs.length (hlt (t := []) rfl) ((closes_plain_close ..).1 h) rfl⟩
            · have ho' : isOrdinary c = true := by simp [isOrdinary, hq, hh, ho, hc]
              have hopen := ih cs.length (hlt (t := []) rfl) ((closes_plain_ordinary ho' ..).1 h) rfl
              exact hopen.prepend (x := [c]) fun b _ hb => .ordinary ho' hb

open CodeMode in
/-- Scanned code is passed over; `tail` is what the block goes on with. -/
theorem closes_append {depth : Nat} {cs tail : List Char} (h : ScannedCode cs)
    (ht : tail = [] ∨ ∃ r, tail = '}' :: r) (htail : ∀ pos, plain.Closes depth pos tail) (pos : Nat) :
    plain.Closes depth pos (cs ++ tail) := by
  induction h generalizing depth tail pos with
  | nil => exact htail pos
  | ordinary hc _ ih => exact (closes_plain_ordinary hc ..).2 (ih ht htail _)
  | comment hl _ ih =>
    rw [List.cons_append, List.append_assoc, closes_plain_comment]
    exact closes_comment hl (ih ht htail) _
  | @short q t cs hq hs hp _ ih =>
    have hp' : startsPair q (t ++ (cs ++ tail)) = false := by
      rcases ht with rfl | ⟨r, rfl⟩
      · rwa [List.append_nil]
      · rwa [← List.append_assoc, startsPair_append hq]
    rw [List.cons_append, List.append_assoc, closes_plain_quote hq, hp', if_neg Bool.false_ne_true]
    exact closes_string hq hs (ih ht htail) _
  | @long q t cs hq hl _ ih =>
    rw [List.cons_append, closes_plain_quote hq, List.cons_append, List.cons_append, startsPair_self, if_pos rfl,
      closes_pass_two, List.append_assoc]
    exact closes_triple hl (ih ht htail) _
  | @braces b cs _ _ ihb ih =>
    rw [List.cons_append, List.append_assoc, closes_plain_open]
    exact ihb (Or.inr ⟨_, rfl⟩) (fun pos => (closes_plain_close ..).2 (ih ht htail _)) _

/-! ## Blocks -/

/-- Between threefold quotes the two ways to close agree, if no backslash comes last. -/
theorem LongText.scanned {q : Char} (hq : isQuote q = true) {t : List Char} (h : LongText q t) {previous : Char}
    (hp : t = [] → previous ≠ '\\') (hl : t.getLast? ≠ some '\\') : ScannedLongText q previous t := by
  induction h generalizing previous with
  | nil => exact .nil (hp rfl)
  | @escape c t _ ih =>
    refine .char (fun h => ne_of_isQuote hq rfl h.1.symm) (.char (fun h => h.2.2 rfl) (ih ?_ ?_))
    · rintro rfl rfl
      exact hl rfl
    · intro he
      rw [List.getLast?_cons, List.getLast?_cons, he] at hl
      exact hl rfl
  | @char c t hb hc _ ih =>
    refine .char (fun h => hc ⟨h.1, h.2.1⟩) (ih (fun _ => hb) fun he => ?_)
    rw [List.getLast?_cons, he] at hl
    exact hl rfl

theorem scannedCode_of_unescaped {body : List Char} (h : UnescapedCode body) : ScannedCode body := by
  refine h.mono (fun q t _ ht => ?_) fun q t hq ht => ht.1.scanned hq (fun _ => ne_of_isQuote hq rfl) ht.2
  induction ht with
  | stop h => exact .stop (List.mem_cons.2 (Or.inl (List.mem_singleton.1 h)))
  | escape c _ ih => exact .escape c ih
  | char hq hb hn _ ih => exact .char hq hb hn ih

theorem readToken_block (pos : Nat) (cs : List Char) : readToken pos '{' cs =
    match readCode pos .plain 0 (pos + 1) cs with
    | .error e => .error e
    | .ok (code, p, r) => .ok (.block (String.ofList code), p, r) := rfl

theorem readExactly_iff_scanned (body : List Char) : ReadExactly body ↔ ScannedCode body := by
  have hpos : ∀ pos, pos + body.length + 2 = pos + 1 + body.length + 1 := fun pos => by omega
  constructor
  · intro h
    have h0 := h 0 []
    rw [readToken_block] at h0
    cases hx : readCode 0 .plain 0 1 (body ++ ['}']) with
    | error e =>
      rw [hx] at h0
      cases h0
    | ok r =>
      rw [hx] at h0
      obtain ⟨code, p, r⟩ := r
      injection h0 with h0
      injection h0 with hcode h0
      injection h0 with hp hr
      injection hcode with hcode
      obtain rfl := String.ofList_injective hcode
      subst hp hr
      rw [hpos] at hx
      exact openCode_of_closes ((CodeMode.closes_iff 0 [] (m := .plain) trivial 0 1 code).1 hx)
  · intro h pos rest
    have hc : CodeMode.Closes .plain 0 (pos + 1) body := by
      simpa using closes_append h (Or.inl rfl) (fun _ => ⟨rfl, rfl⟩) (pos + 1)
    rw [readToken_block, (CodeMode.closes_iff pos rest (m := .plain) trivial 0 (pos + 1) body).2 hc, hpos]

/-- **A block is read as it is written, if no backslash stands right before a closing threefold quote**; and just those
blocks are read exactly whose threefold quotes close where no backslash stands right before. -/
theorem readExactly_of_unescaped (body : List Char) :
    (UnescapedCode body → ReadExactly body) ∧ (ReadExactly body ↔ ScannedCode body) :=
  ⟨fun h => (readExactly_iff_scanned body).2 (scannedCode_of_unescaped h), readExactly_iff_scanned body⟩

/-- Braces in both kinds of strings, one of them after an escaped quote, and in a comment. -/
def quotedBraces : List Char :=
  '\'' :: (['}', '\''] ++ '"' :: '"' :: '"' :: (['\\', '"', '}'] ++ '"' :: '"' :: '"' ::
    ('{' :: ('#' :: (['}'] ++ '\n' :: [])) ++ '}' :: [])))

theorem quotedBraces_read : UnescapedCode quotedBraces ∧ ReadExactly quotedBraces := by
  have hshort : ShortText '\'' ['\''] ['}', '\''] :=
    .char (by decide) (by decide) (by decide) (.stop (by decide))
  have hlong : LongText '"' ['\\', '"', '}'] := .escape '"' (.char (by decide) (by decide) .nil)
  have h : UnescapedCode quotedBraces :=
    .short rfl hshort rfl <| .long rfl ⟨hlong, by decide⟩ <| .braces (.comment (by decide) .nil) .nil
  exact ⟨h, (readExactly_of_unescaped quotedBraces).1 h⟩

/-- An escaped backslash between threefold quotes. -/
def escapedBackslash : List Char := ['\'', '\'', '\'', '\\', '\\', '\'', '\'', '\'']

theorem escapedBackslash_unread : WrittenCode escapedBackslash ∧ ¬ReadExactly escapedBackslash := by
  refine ⟨CodeText.long (q := '\'') (t := ['\\', '\\']) rfl (.escape '\\' .nil) .nil, fun h => ?_⟩
  have h0 := h 0 []
  rw [readToken_block] at h0
  cases h0

end PegTemplate
