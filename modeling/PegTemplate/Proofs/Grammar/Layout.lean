import PegTemplate.Proofs.Grammar.Offsets
import PegTemplate.Proofs.Grammar.Spelling

/-!
# Layout

* `Filler` : blanks, and comments that are closed;
* `skipLayout_filler` : a filler is passed over, whatever comes after it;
* `tokenOf?` : the token that a text is by itself. It is the same in front of a blank (`readToken_of_tokenOf?`);
* `LaidOut` : words with fillers around them, such as `layOut` makes of both;
* `tokensFrom_laidOut` : **the tokens of a text are those of its words, however they are laid out.**
-/

namespace PegTemplate
open Unicode

/-! ## Fillers -/

/-- Blanks, comments up to the end of their line, and comments up to the first `*/`. -/
inductive Filler : List Char → Prop
  | nil : Filler []
  | blank {c : Char} {cs : List Char} (hc : isLayout c = true) (h : Filler cs) : Filler (c :: cs)
  | hash {l cs : List Char} (hl : '\n' ∉ l) (h : Filler cs) : Filler ('#' :: (l ++ '\n' :: cs))
  | slashes {l cs : List Char} (hl : '\n' ∉ l) (h : Filler cs) : Filler ('/' :: '/' :: (l ++ '\n' :: cs))
  | enclosed {b cs : List Char} (hb : ¬['*', '/'] <:+: b) (h : Filler cs) :
    Filler ('/' :: '*' :: (b ++ '*' :: '/' :: cs))

/-- Blanks only. -/
theorem Filler.of_blanks {cs : List Char} (h : ∀ c ∈ cs, isLayout c = true) : Filler cs := by
  induction cs with
  | nil => exact .nil
  | cons c cs ih => exact .blank (h c (List.mem_cons_self ..)) (ih fun d hd => h d (List.mem_cons_of_mem _ hd))

theorem skipFrom_line {l : List Char} (hl : '\n' ∉ l) (pos : Nat) (cs : List Char) :
    skipFrom .line pos (l ++ '\n' :: cs) = skipLayout (pos + l.length + 1) cs := by
  induction l generalizing pos with
  | nil => rfl
  | cons c l ih =>
    rw [List.mem_cons, not_or] at hl
    rw [List.cons_append, skipFrom, if_neg fun h => hl.1 h.symm, ih hl.2, List.length_cons, Nat.add_right_comm pos 1,
      Nat.add_assoc pos]

theorem skipFrom_enclosed {b : List Char} (hb : ¬['*', '/'] <:+: b) (start pos : Nat) (cs : List Char) :
    skipFrom (.comment start) pos (b ++ '*' :: '/' :: cs) = skipLayout (pos + b.length + 2) cs := by
  induction b generalizing pos with
  | nil => rfl
  | cons c b ih =>
    rw [List.infix_cons_iff, not_or] at hb
    have hclose : ∀ r, c = '*' → b ++ '*' :: '/' :: cs ≠ '/' :: r := by
      rintro r rfl hr
      cases b with
      | nil => cases hr
      | cons d b =>
        injection hr with hd
        subst hd
        exact hb.1 ⟨b, rfl⟩
    rw [List.cons_append, skipFrom, ih hb.2, List.length_cons, Nat.add_right_comm pos 1, Nat.add_assoc pos]
    exact hclose

/-- What is passed over first makes no difference. -/
theorem skipLayout_filler {f : List Char} (hf : Filler f) (pos : Nat) (cs : List Char) :
    skipLayout pos (f ++ cs) = skipLayout (pos + f.length) cs := by
  induction hf generalizing pos with
  | nil => rfl
  | blank hc _ ih => rw [List.cons_append, skipLayout_blank hc, ih, List.length_cons, Nat.add_right_comm, Nat.add_assoc]
  | @hash l f hl _ ih =>
    have hskip := skipFrom_line hl (pos + 1) (f ++ cs)
    have hlength : pos + 1 + l.length + 1 + f.length = pos + ('#' :: (l ++ '\n' :: f)).length := by simp; omega
    rw [List.cons_append, List.append_assoc, ← hlength, ← ih, ← hskip]
    rfl
  | @slashes l f hl _ ih =>
    have hskip := skipFrom_line hl (pos + 2) (f ++ cs)
    have hlength : pos + 2 + l.length + 1 + f.length = pos + ('/' :: '/' :: (l ++ '\n' :: f)).length := by simp; omega
    rw [List.cons_append, List.cons_append, List.append_assoc, ← hlength, ← ih, ← hskip]
    rfl
  | @enclosed b f hb _ ih =>
    have hskip := skipFrom_enclosed hb (pos + 2) (pos + 2) (f ++ cs)
    have hlength : pos + 2 + b.length + 2 + f.length = pos + ('/' :: '*' :: (b ++ '*' :: '/' :: f)).length := by
      simp; omega
    rw [List.cons_append, List.cons_append, List.append_assoc, ← hlength, ← ih, ← hskip]
    rfl

/-! ## Words -/

/-- The token that a text is by itself. A character without a meaning of its own makes no token. -/
def tokenOf? : List Char → Option Token
  | [] => none
  | c :: cs => match readToken 0 c cs with
    | .ok (.mark d, _, []) => if d ∈ marks then some (.mark d) else none
    | .ok (t, _, []) => some t
    | _ => none

theorem eq_of_tokenOf? {w : List Char} {t : Token} (h : tokenOf? w = some t) :
    ∃ c cs p, w = c :: cs ∧ readToken 0 c cs = .ok (t, p, []) ∧ ∀ d, t = .mark d → d ∈ marks := by
  unfold tokenOf? at h
  split at h
  · cases h
  · rename_i c cs
    split at h
    · rename_i p hread
      split_ifs at h with hd
      cases h
      exact ⟨c, cs, p, rfl, hread, by rintro _ ⟨⟩; exact hd⟩
    · rename_i t' p hmark hread
      cases h
      exact ⟨c, cs, p, rfl, hread, fun d hd => absurd hd (hmark d)⟩
    · cases h

/-- What is between quotes depends neither on where it stands nor on what follows it. -/
theorem readQuoted_append {q : Char} (hq : isQuote q = true) {pos p : Nat} {cs r : List Char} {text : List CodePoint}
    (h : readQuoted q pos cs = .ok (text, p, r)) (pos' : Nat) (x : List Char) :
    ∃ p', readQuoted q pos' (cs ++ x) = .ok (text, p', r ++ x) := by
  induction hn : cs.length using Nat.strongRecOn generalizing pos cs text p r pos' with
  | ind n ih =>
    subst hn
    unfold readQuoted at h
    split at h
    · cases h
    · rename_i c cs
      split_ifs at h with hclose hback
      · cases h
        exact ⟨pos' + 1, by rw [List.cons_append, readQuoted, if_pos hclose]⟩
      · split at h
        · cases h
        · rename_i d p₁ r₁ he
          split at h
          · cases h
          · rename_i hrest
            cases h
            obtain ⟨p₂, hp₂⟩ := readEscape_append he (pos' + 1) x
            obtain ⟨p₃, hp₃⟩ := ih _ (by have := readEscape_length he; rw [List.length_cons]; omega) hrest p₂ rfl
            exact ⟨p₃, hback ▸ readQuoted_escape hq hp₂ hp₃⟩
      · split at h
        · cases h
        · rename_i hrest
          cases h
          obtain ⟨p₁, hp₁⟩ := ih _ (by rw [List.length_cons]; omega) hrest (pos' + 1) rfl
          exact ⟨p₁, readQuoted_char hclose hback hp₁⟩

theorem readLiteral_apart {q : Char} (hq : isQuote q = true) {pos p : Nat} {cs r : List Char}
    {v : List CodePoint × Bool} (h : readLiteral q pos cs = .ok (v, p, r)) (pos' : Nat) {x : List Char} (hx : Apart x) :
    ∃ p', readLiteral q pos' (cs ++ x) = .ok (v, p', r ++ x) := by
  unfold readLiteral at h
  split at h
  · cases h
  · rename_i text p₁ r₁ hquoted
    obtain ⟨p₂, hp₂⟩ := readQuoted_append hq hquoted pos' x
    obtain ⟨p₃, hp₃⟩ := readFlag_apart hx p₁ p₂ r₁
    injection h with h
    obtain ⟨rfl, hafter⟩ := Prod.mk.inj h
    obtain rfl : (readFlag p₁ r₁).2.2 = r := congrArg Prod.snd hafter
    exact ⟨p₃, by rw [readLiteral, hp₂]; simp only [hp₃]⟩

theorem readLiteral_append {q : Char} (hq : isQuote q = true) {pos p : Nat} {cs : List Char}
    {x : List CodePoint × Bool} (h : readLiteral q pos cs = .ok (x, p, [])) (pos' : Nat) {rest : List Char}
    (hr : Bounded rest) : ∃ p', readLiteral q pos' (cs ++ rest) = .ok (x, p', rest) :=
  readLiteral_apart hq h pos' hr.apart

/-- A block that ends with the text is read as the same block before any other text. -/
theorem readToken_block_append {code : List Char} {p : Nat}
    (h : readCode 0 .plain 0 1 (code ++ ['}']) = .ok (code, p, [])) (pos : Nat) (rest : List Char) :
    readToken pos '{' (code ++ '}' :: rest) = .ok (.block (String.ofList code), pos + code.length + 2, rest) := by
  have hp : p = 1 + code.length + 1 := readCode_offset h
  have hcode : ScannedCode code := by
    rw [hp] at h
    exact openCode_of_closes ((CodeMode.closes_iff 0 [] (m := .plain) trivial 0 1 code).1 h)
  exact (readExactly_iff_scanned code).2 hcode pos rest

/-- What is one token by itself starts neither a blank nor a comment, and is the same token in front of a blank. -/
theorem readToken_of_tokenOf? {w : List Char} {t : Token} (h : tokenOf? w = some t) (pos : Nat) {rest : List Char}
    (hr : Bounded rest) : ∃ c cs p, w ++ rest = c :: cs ∧ skipLayout pos (c :: cs) = .ok (pos, c :: cs) ∧
      readToken pos c cs = .ok (t, p, rest) := by
  obtain ⟨c, cs, p, rfl, hread, hmark⟩ := eq_of_tokenOf? h
  suffices hs : isLayout c = false ∧ c ≠ '#' ∧ (c ≠ '/' ∨ Bounded (cs ++ rest)) ∧
      ∃ p, readToken pos c (cs ++ rest) = .ok (t, p, rest) by
    obtain ⟨hl, hc, hslash, p', hp'⟩ := hs
    exact ⟨c, cs ++ rest, p', rfl, skipLayout_of_ne hl hc hslash pos, hp'⟩
  unfold readToken at hread
  split_ifs at hread with hquote hclass hblock harrow hequals hname
  · split at hread
    · cases hread
    · rename_i text flag p' r hl
      cases hread
      obtain ⟨p', hp'⟩ := readLiteral_append hquote hl (pos + 1) hr
      refine ⟨?_, ne_of_isQuote hquote rfl, Or.inl (ne_of_isQuote hquote rfl), p', ?_⟩
      · rcases (by simpa [isQuote] using hquote : c = '\'' ∨ c = '"') with rfl | rfl
        · rfl
        · rfl
      · rw [readToken, if_pos hquote, hp']
  · subst hclass
    split at hread
    · cases hread
    · rename_i hc
      cases hread
      exact ⟨rfl, by decide, Or.inl (by decide), readToken_charClass hc pos hr⟩
  · subst hblock
    split at hread
    · cases hread
    · rename_i code p' r hcode
      cases hread
      obtain rfl := readCode_append hcode
      refine ⟨rfl, by decide, Or.inl (by decide), pos + code.length + 2, ?_⟩
      rw [List.append_assoc]
      exact readToken_block_append hcode pos rest
  · obtain ⟨rfl, hhead⟩ : c = '<' ∧ cs.head? = some '-' := by simpa using harrow
    obtain ⟨cs, rfl⟩ := List.head?_eq_some_iff.1 hhead
    cases hread
    exact ⟨rfl, by decide, Or.inl (by decide), _, rfl⟩
  · subst hequals
    cases hread
    have hne : rest.head? ≠ some '=' := by
      intro hh
      obtain ⟨r, rfl⟩ := List.head?_eq_some_iff.1 hh
      cases hr _ _ rfl
    refine ⟨rfl, by decide, Or.inl (by decide), pos + 1, ?_⟩
    rw [readToken, if_neg (by decide), if_neg (by decide), if_neg (by decide), if_neg (by simp), if_pos rfl,
      List.nil_append, decide_eq_false hne]
    rfl
  · obtain ⟨-, -, -, -, -, hhash, hslash, hl⟩ := ne_of_isNameStart hname
    injection hread with hread
    injection hread with ht hread
    injection hread with hp hdrop
    have htake : cs.takeWhile isNamePart = cs := by
      have happend := List.takeWhile_append_dropWhile (p := isNamePart) (l := cs)
      rwa [hdrop, List.append_nil] at happend
    have hall : isName (c :: cs) = true := by
      rw [isName, hname, Bool.true_and, ← htake]
      exact List.all_takeWhile
    exact ⟨hl, hhash, Or.inl hslash, _, by rw [readToken_name hall pos hr, ← ht, htake]⟩
  · cases hread
    have hc := hmark c rfl
    have hmarks : ∀ c ∈ marks, isLayout c = false ∧ c ≠ '#' := List.all_iff_forall_prop.mp (by decide)
    exact ⟨(hmarks c hc).1, (hmarks c hc).2, Or.inr hr, pos + 1, readToken_mark hc pos rest⟩

/-- The spelling of a token is that token by itself. -/
theorem tokenOf?_spelling {t : Token} (ht : t.Spellable) {q : Char} (hq : isQuote q = true) :
    tokenOf? (t.spelling q) = some t := by
  obtain ⟨c, cs, p, hs, -, hread⟩ := readToken_spelling ht hq 0 Bounded.nil
  rw [List.append_nil] at hs
  rw [hs, tokenOf?, hread]
  cases t with
  | mark d => exact if_pos ht
  | _ => rfl

/-! ## Texts -/

/-- The words in order, each of them after a filler. What follows a word starts with a blank, or the text ends there. -/
inductive LaidOut : List (List Char) → List Char → Prop
  | nil {f : List Char} (hf : Filler f) : LaidOut [] f
  | cons {f w cs : List Char} {ws : List (List Char)} (hf : Filler f) (hb : Bounded cs) (h : LaidOut ws cs) :
    LaidOut (w :: ws) (f ++ (w ++ cs))

/-- Words, each after its filler, and a filler after all of them. -/
def layOut (last : List Char) : List (List Char × List Char) → List Char
  | [] => last
  | (f, w) :: rest => f ++ (w ++ layOut last rest)

theorem laidOut_layOut {last : List Char} (hlast : Filler last) (hend : Bounded last)
    {parts : List (List Char × List Char)}
    (hparts : ∀ p ∈ parts, Filler p.1) (hgaps : ∀ p ∈ parts.tail, p.1.head?.map isLayout = some true) :
    LaidOut (parts.map (·.2)) (layOut last parts) := by
  induction parts with
  | nil => exact .nil hlast
  | cons p parts ih =>
    obtain ⟨hp, hrest⟩ := List.forall_mem_cons.1 hparts
    refine .cons hp ?_ (ih hrest fun p hp => hgaps p (List.mem_of_mem_tail hp))
    cases parts with
    | nil => exact hend
    | cons q parts =>
      obtain ⟨f, w⟩ := q
      cases f with
      | nil => cases hgaps _ (List.mem_cons_self ..)
      | cons c f => exact .cons (Option.some.inj (hgaps _ (List.mem_cons_self ..))) _

/-- **The tokens of a text are those of its words, however they are laid out.** -/
theorem tokensFrom_laidOut {ws : List (List Char)} {cs : List Char} (h : LaidOut ws cs)
    (hws : ∀ w ∈ ws, (tokenOf? w).isSome = true) (pos : Nat) : (tokensFrom pos cs).Lists (ws.filterMap tokenOf?) := by
  induction h generalizing pos with
  | @nil f hf =>
    have hskip := skipLayout_filler hf pos []
    rw [List.append_nil] at hskip
    rw [tokensFrom_done hskip]
    exact .done _
  | @cons f w cs ws hf hb _ ih =>
    obtain ⟨hw, hws⟩ := List.forall_mem_cons.1 hws
    obtain ⟨t, ht⟩ := Option.isSome_iff_exists.1 hw
    obtain ⟨c, r, p, hword, hskip, hread⟩ := readToken_of_tokenOf? ht (pos + f.length) hb
    rw [hword, tokensFrom_cons ((skipLayout_filler hf pos _).trans hskip) hread, List.filterMap_cons_some ht]
    exact .cons _ t (ih hws p)

end PegTemplate
