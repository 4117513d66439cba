import PegTemplate.Proofs.Grammar.Layout

/-!
# Texts around blocks

* `readToken_apart` : a token that is no block is the same one if a block follows the text that it was read from;
* `Whole` : a text of whole tokens that are no blocks, with blanks and closed comments between them;
* `Whole.codes` : **the blocks behind a whole text are all the blocks that there are.**
-/

namespace PegTemplate
open Unicode

/-! ## One token -/

theorem head?_append_apart {x : List Char} (hx : Apart x) (cs : List Char) {d : Char}
    (hd : d = '=' ∨ d = '-' ∨ d = '/' ∨ d = '*') : (cs ++ x).head? = some d ↔ cs.head? = some d := by
  cases cs with
  | cons c cs => rfl
  | nil =>
    cases x with
    | nil => rfl
    | cons c x =>
      obtain ⟨-, -, -, hequals, hhyphen, hslash, hstar⟩ := hx.first
      rw [List.nil_append, List.head?_cons, Option.some_inj]
      refine ⟨fun h => ?_, nofun⟩
      subst h
      rcases hd with rfl | rfl | rfl | rfl
      · exact absurd rfl hequals
      · exact absurd rfl hhyphen
      · exact absurd rfl hslash
      · exact absurd rfl hstar

theorem takeWhile_append_apart {x : List Char} (hx : Apart x) (cs : List Char) :
    (cs ++ x).takeWhile isNamePart = cs.takeWhile isNamePart ∧
      (cs ++ x).dropWhile isNamePart = cs.dropWhile isNamePart ++ x := by
  induction cs with
  | nil =>
    cases x with
    | nil => exact ⟨rfl, rfl⟩
    | cons c x => simp [hx.first.1]
  | cons c cs ih =>
    rw [List.cons_append, List.takeWhile_cons, List.takeWhile_cons, List.dropWhile_cons, List.dropWhile_cons, ih.1, ih.2]
    split_ifs
    · exact ⟨rfl, rfl⟩
    · exact ⟨rfl, rfl⟩

/-- A token that is no block depends neither on where it stands nor on a blank or a block behind it. -/
theorem readToken_apart {pos p : Nat} {c : Char} {cs r : List Char} {t : Token}
    (h : readToken pos c cs = .ok (t, p, r)) (ht : ∀ code, t ≠ .block code) (pos' : Nat) {x : List Char} (hx : Apart x) :
    ∃ p', readToken pos' c (cs ++ x) = .ok (t, p', r ++ x) := by
  have hhyphen : decide ((cs ++ x).head? = some '-') = decide (cs.head? = some '-') :=
    decide_eq_decide.mpr (head?_append_apart hx cs (.inr (.inl rfl)))
  have hdoubled : decide ((cs ++ x).head? = some '=') = decide (cs.head? = some '=') :=
    decide_eq_decide.mpr (head?_append_apart hx cs (.inl rfl))
  obtain ⟨htake, hdrop⟩ := takeWhile_append_apart hx cs
  unfold readToken at h
  unfold readToken
  rw [hhyphen, hdoubled, htake, hdrop]
  split_ifs at h with hquote hclass hblock harrow hequal hname
  · split at h
    · cases h
    · rename_i text flag p' r' hl
      cases h
      obtain ⟨p', hp'⟩ := readLiteral_apart hquote hl (pos' + 1) hx
      exact ⟨p', by rw [if_pos hquote, hp']⟩
  · split at h
    · cases h
    · rename_i m p' r' hm
      cases h
      obtain ⟨p', hp'⟩ := readClass_apart hm pos' hx
      exact ⟨p', by rw [if_neg hquote, if_pos hclass, hp']⟩
  · split at h
    · cases h
    · cases h
      exact absurd rfl (ht _)
  · cases h
    rw [Bool.and_eq_true, decide_eq_true_iff, decide_eq_true_iff] at harrow
    obtain ⟨cs', rfl⟩ := List.head?_eq_some_iff.mp harrow.2
    exact ⟨pos' + 2, by rw [if_neg hquote, if_neg hclass, if_neg hblock, if_pos (by simp [harrow.1])]; rfl⟩
  · cases h
    exact ⟨pos' + 1, by rw [if_neg hquote, if_neg hclass, if_neg hblock, if_neg harrow, if_pos hequal]⟩
  · cases h
    exact ⟨_, by rw [if_neg hquote, if_neg hclass, if_neg hblock, if_neg harrow, if_neg hequal, if_pos hname]⟩
  · cases h
    exact ⟨pos' + 1, by rw [if_neg hquote, if_neg hclass, if_neg hblock, if_neg harrow, if_neg hequal, if_neg hname]⟩

/-! ## Whole texts -/

/-- What is left behind the token that starts with `c`, unless that is a block. -/
def afterToken? (c : Char) (cs : List Char) : Option (List Char) :=
  match readToken 0 c cs with
  | .ok (.block _, _, _) => none
  | .ok (_, _, r) => some r
  | .error _ => none

/-- Neither a blank nor a comment starts here. -/
def startsToken (c : Char) (cs : List Char) : Bool :=
  !isLayout c && c != '#' && !(c == '/' && (cs.head? == some '/' || cs.head? == some '*'))

/-- A text of whole tokens that are no blocks, with blanks and closed comments. At the end of the last text, a comment may
go on to the end. -/
inductive Whole (last : Bool) : List Char → Prop
  | filler {f : List Char} (hf : Filler f) : Whole last f
  | comment {f m l : List Char} (hlast : last = true) (hf : Filler f) (hm : m = ['#'] ∨ m = ['/', '/']) (hl : '\n' ∉ l) :
    Whole last (f ++ (m ++ l))
  | token {f r cs : List Char} {c : Char} (hf : Filler f) (hc : startsToken c cs = true) (hr : afterToken? c cs = some r)
    (h : Whole last r) : Whole last (f ++ c :: cs)

theorem eq_of_afterToken? {c : Char} {cs r : List Char} (h : afterToken? c cs = some r) :
    ∃ t p, readToken 0 c cs = .ok (t, p, r) ∧ ∀ code, t ≠ .block code := by
  unfold afterToken? at h
  split at h
  · cases h
  · rename_i t p r' hblock hread
    cases h
    exact ⟨t, p, hread, hblock⟩
  · cases h

theorem skipLayout_of_startsToken {c : Char} {cs x : List Char} (h : startsToken c cs = true) (hx : Apart x) (pos : Nat) :
    skipLayout pos (c :: (cs ++ x)) = .ok (pos, c :: (cs ++ x)) := by
  have hslash := head?_append_apart hx cs (.inr (.inr (.inl rfl)))
  have hstar := head?_append_apart hx cs (.inr (.inr (.inr rfl)))
  simp only [startsToken, Bool.and_eq_true, Bool.not_eq_true', bne_iff_ne, Bool.and_eq_false_iff, beq_eq_false_iff_ne,
    Bool.or_eq_false_iff, ne_eq] at h
  obtain ⟨⟨hlayout, hhash⟩, hcomment⟩ := h
  have hnone : ∀ d r, d = '/' ∨ d = '*' → c = '/' → cs ++ x ≠ d :: r := by
    intro d r hd hc hcs
    have hhead : (cs ++ x).head? = some d := by rw [hcs, List.head?_cons]
    obtain ⟨h1, h2⟩ := hcomment.resolve_left (absurd hc)
    rcases hd with rfl | rfl
    · exact h1 (hslash.mp hhead)
    · exact h2 (hstar.mp hhead)
  rw [skipLayout, skipFrom, if_neg (by simp [hlayout])]
  · exact fun r => hnone '*' r (.inr rfl)
  · exact fun r => hnone '/' r (.inl rfl)
  · exact hhash

/-- What is passed over first makes no difference. -/
theorem tokensFrom_filler {f : List Char} (hf : Filler f) (pos : Nat) (cs : List Char) :
    tokensFrom pos (f ++ cs) = tokensFrom (pos + f.length) cs := tokensFrom_congr (skipLayout_filler hf pos cs)

theorem Tokens.codes_cons {t : Token} (ht : ∀ code, t ≠ .block code) (p : Nat) (ts : Tokens) :
    (Tokens.cons p t ts).codes = ts.codes := by
  cases t with
  | block code => exact absurd rfl (ht code)
  | _ => rfl

/-- A comment that goes on to the end. -/
theorem skipFrom_line_end {l : List Char} (hl : '\n' ∉ l) (pos : Nat) :
    skipFrom .line pos l = .ok (pos + l.length, []) := by
  induction l generalizing pos with
  | nil => rfl
  | cons c l ih =>
    rw [List.mem_cons, not_or] at hl
    rw [skipFrom, if_neg fun h => hl.1 h.symm, ih hl.2, List.length_cons, Nat.add_assoc, Nat.add_comm 1]

/-- A block that is read exactly is the first token where it starts. -/
theorem ReadExactly.tokensFrom {code : List Char} (h : ReadExactly code) (pos : Nat) (rest : List Char) :
    PegTemplate.tokensFrom pos ('{' :: (code ++ '}' :: rest)) =
      .cons pos (.block (String.ofList code)) (PegTemplate.tokensFrom (pos + code.length + 2) rest) :=
  tokensFrom_cons (skipLayout_of_ne rfl (by decide) (.inl (by decide)) pos) (h pos rest)

/-- **The blocks behind a whole text are all the blocks that there are.** -/
theorem Whole.codes {last : Bool} {cs : List Char} (h : Whole last cs) {x : List Char} (hx : Apart x)
    (hlast : last = true → x = []) (pos : Nat) :
    ∃ p, (tokensFrom pos (cs ++ x)).codes.map (·.2) = (tokensFrom p x).codes.map (·.2) := by
  induction h generalizing pos with
  | @filler f hf => exact ⟨pos + f.length, by rw [tokensFrom_filler hf]⟩
  | @comment f m l hlast' hf hm hl =>
    obtain rfl := hlast hlast'
    have hskip : ∃ p, skipLayout (pos + f.length) (m ++ l) = .ok (p, []) := by
      rcases hm with rfl | rfl
      · exact ⟨_, skipFrom_line_end hl _⟩
      · exact ⟨_, skipFrom_line_end hl _⟩
    obtain ⟨p, hp⟩ := hskip
    exact ⟨0, by rw [List.append_nil, tokensFrom_filler hf, tokensFrom_done hp, tokensFrom_done rfl]; rfl⟩
  | @token f r cs c hf hc hr _ ih =>
    obtain ⟨t, p, hread, ht⟩ := eq_of_afterToken? hr
    obtain ⟨p', hp'⟩ := readToken_apart hread ht (pos + f.length) hx
    obtain ⟨q, hq⟩ := ih p'
    refine ⟨q, ?_⟩
    rw [List.append_assoc, List.cons_append, tokensFrom_filler hf,
      tokensFrom_cons (skipLayout_of_startsToken hc hx _) hp', Tokens.codes_cons ht, hq]

end PegTemplate
