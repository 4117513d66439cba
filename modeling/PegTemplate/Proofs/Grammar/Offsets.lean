import Mathlib.Tactic.SplitIfs
import PegTemplate.Grammar.Token

/-!
# Offsets

* `Advance` : a reader has passed over the first characters of a text, and its offset says over how many. There is one
  lemma for each reader of tokens;
* `Tokens.codes` : the blocks of code among the tokens, with their offsets;
* `Placed` : blocks of code stand in a text one after the other;
* `tokensFrom_placed` : **the blocks among the tokens of a source are placed in it.**
-/

namespace PegTemplate
open Unicode

/-- A reader that was at `pos` before the text `cs` is at `p` before the rest `r` of it. -/
def Advance (pos : Nat) (cs : List Char) (p : Nat) (r : List Char) : Prop :=
  ∃ passed, cs = passed ++ r ∧ p = pos + passed.length

namespace Advance
variable {pos p q : Nat} {c : Char} {cs r s : List Char}

theorem refl : Advance pos cs pos cs := ⟨[], rfl, rfl⟩

theorem cons (h : Advance (pos + 1) cs p r) : Advance pos (c :: cs) p r := by
  obtain ⟨passed, rfl, rfl⟩ := h
  exact ⟨c :: passed, rfl, by rw [List.length_cons]; omega⟩

theorem trans (h : Advance pos cs p r) (h' : Advance p r q s) : Advance pos cs q s := by
  obtain ⟨passed, rfl, rfl⟩ := h
  obtain ⟨passed', rfl, rfl⟩ := h'
  exact ⟨passed ++ passed', (List.append_assoc ..).symm, by rw [List.length_append]; omega⟩

theorem le (h : Advance pos cs p r) : pos ≤ p := by
  obtain ⟨passed, -, rfl⟩ := h
  omega

/-- From the start of a text, the offset tells what is left. -/
theorem drop (h : Advance 0 cs p r) : cs.drop p = r := by
  obtain ⟨passed, rfl, rfl⟩ := h
  rw [Nat.zero_add, List.drop_left]

end Advance

/-! ## Layout and escapes -/

theorem skipFrom_advance {mode : Layout} {pos : Nat} {cs : List Char} {p : Nat} {r : List Char}
    (h : skipFrom mode pos cs = .ok (p, r)) : Advance pos cs p r := by
  fun_induction skipFrom mode pos cs with
  | case1 => cases h; exact .refl
  | case2 _ _ ih => exact (ih h).cons.cons
  | case3 _ _ ih => exact (ih h).cons.cons
  | case4 _ _ ih => exact (ih h).cons
  | case5 _ _ _ _ _ _ _ ih => exact (ih h).cons
  | case6 => cases h; exact .refl
  | case7 => cases h; exact .refl
  | case8 _ _ _ ih => exact (ih h).cons
  | case9 => cases h
  | case10 _ _ _ ih => exact (ih h).cons.cons
  | case11 _ _ _ _ _ ih => exact (ih h).cons

/-- A digit is passed if there is one. -/
theorem drop_one_advance {pos d : Nat} {cs : List Char} (h : hexDigitOf cs = .ok d) :
    Advance pos cs (pos + 1) (cs.drop 1) := by
  cases cs with
  | nil => cases h
  | cons c cs => exact Advance.refl.cons

theorem readTwoDigits_advance {pos : Nat} {cs : List Char} {c : CodePoint} {p : Nat} {r : List Char}
    (h : readTwoDigits pos cs = .ok (c, p, r)) : Advance pos cs p r := by
  unfold readTwoDigits at h
  split at h
  · cases h
  · rename_i hhigh
    split at h
    · cases h
    · rename_i hlow
      have hdigits : Advance pos cs (pos + 1 + 1) ((cs.drop 1).drop 1) :=
        (drop_one_advance hhigh).trans (drop_one_advance hlow)
      cases h
      rwa [List.drop_drop] at hdigits

theorem readDigits_advance {n acc pos : Nat} {cs : List Char} {c : CodePoint} {p : Nat} {r : List Char}
    (h : readDigits n acc pos cs = .ok (c, p, r)) : Advance pos cs p r := by
  induction n generalizing acc pos cs with
  | zero => cases h; exact .refl
  | succ n ih =>
    rw [readDigits] at h
    split at h
    · rename_i hd
      exact (drop_one_advance hd).trans (ih h)
    · cases h

theorem readEscape_advance {pos : Nat} {cs : List Char} {c : CodePoint} {p : Nat} {r : List Char}
    (h : readEscape pos cs = .ok (c, p, r)) : Advance pos cs p r := by
  unfold readEscape at h
  split at h
  · cases h
  · cases h; exact Advance.refl.cons
  · cases h; exact Advance.refl.cons
  · cases h; exact Advance.refl.cons
  · cases h; exact Advance.refl.cons
  · exact (readTwoDigits_advance h).cons
  · exact (readDigits_advance h).cons
  · cases h; exact Advance.refl.cons

theorem readMember_advance {pos : Nat} {cs : List Char} {c : CodePoint} {p : Nat} {r : List Char}
    (h : readMember pos cs = .ok (c, p, r)) : Advance pos cs p r := by
  unfold readMember at h
  split at h
  · cases h
  · exact (readEscape_advance h).cons
  · cases h; exact Advance.refl.cons

theorem rangeEnd?_advance {pos : Nat} {cs r : List Char} (h : rangeEnd? cs = some r) :
    Advance pos cs (pos + 1) r := by
  unfold rangeEnd? at h
  split at h
  · split at h
    · cases h
    · cases h; exact Advance.refl.cons
  · cases h

theorem readFlag_advance (pos : Nat) (cs : List Char) :
    Advance pos cs (readFlag pos cs).2.1 (readFlag pos cs).2.2 := by
  unfold readFlag
  split
  · split
    · exact Advance.refl.cons
    · split
      · exact .refl
      · exact Advance.refl.cons
  · exact .refl

/-! ## Literals, classes and blocks -/

theorem readQuoted_advance {q : Char} {pos : Nat} {cs : List Char} {t : List CodePoint} {p : Nat} {r : List Char}
    (h : readQuoted q pos cs = .ok (t, p, r)) : Advance pos cs p r := by
  induction hn : cs.length using Nat.strongRecOn generalizing pos cs t with
  | ind n ih =>
    subst hn
    unfold readQuoted at h
    split at h
    · cases h
    · split at h
      · cases h; exact Advance.refl.cons
      · split at h
        · split at h
          · cases h
          · rename_i he
            have hlt := readEscape_length he
            split at h
            · cases h
            · rename_i hq
              cases h
              exact ((readEscape_advance he).trans (ih _ (by simp; omega) hq rfl)).cons
        · split at h
          · cases h
          · rename_i hq
            cases h
            exact (ih _ (by simp) hq rfl).cons

theorem readLiteral_advance {q : Char} {pos : Nat} {cs : List Char} {t : List CodePoint × Bool} {p : Nat}
    {r : List Char} (h : readLiteral q pos cs = .ok (t, p, r)) : Advance pos cs p r := by
  unfold readLiteral at h
  split at h
  · cases h
  · rename_i p' r' hq
    have hflag := readFlag_advance p' r'
    simp only [Except.ok.injEq, Prod.mk.injEq] at h
    rw [h.2] at hflag
    exact (readQuoted_advance hq).trans hflag

theorem readMembers_advance {start pos : Nat} {cs : List Char} {m : List (CodePoint × CodePoint) × List CodePoint}
    {p : Nat} {r : List Char} (h : readMembers start pos cs = .ok (m, p, r)) : Advance pos cs p r := by
  induction hn : cs.length using Nat.strongRecOn generalizing pos cs m with
  | ind n ih =>
    subst hn
    unfold readMembers at h
    split at h
    · cases h
    · cases h; exact Advance.refl.cons
    · split at h
      · cases h
      · rename_i ha
        have hlt := readMember_length ha
        split at h
        · split at h
          · cases h
          · rename_i hm
            cases h
            exact (readMember_advance ha).trans (ih _ hlt hm rfl)
        · rename_i hr
          have hlt' := rangeEnd?_length hr
          split at h
          · cases h
          · rename_i hb
            have hlt'' := readMember_length hb
            split at h
            · cases h
            · split at h
              · cases h
              · rename_i hm
                cases h
                have hrange := ((readMember_advance ha).trans (rangeEnd?_advance hr)).trans (readMember_advance hb)
                exact hrange.trans (ih _ (by omega) hm rfl)

theorem readClass_advance {start : Nat} {cs : List Char} {c : CharClass} {p : Nat} {r : List Char}
    (h : readClass start cs = .ok (c, p, r)) : Advance (start + 1) cs p r := by
  simp only [readClass] at h
  split at h
  · cases h
  · rename_i p' r' hm
    have hflag := readFlag_advance p' r'
    have hcaret : Advance (start + 1) cs (start + 1 + if cs.head? = some '^' then 1 else 0)
        (cs.drop (if cs.head? = some '^' then 1 else 0)) := by
      cases cs with
      | nil => exact .refl
      | cons a cs =>
        split
        · exact Advance.refl.cons
        · exact .refl
    simp only [Except.ok.injEq, Prod.mk.injEq] at h
    rw [h.2.1, h.2.2] at hflag
    exact (hcaret.trans (by simpa using readMembers_advance hm)).trans hflag

theorem readCode_offset {start : Nat} {mode : CodeMode} {depth pos : Nat} {cs code : List Char} {p : Nat}
    {r : List Char} (h : readCode start mode depth pos cs = .ok (code, p, r)) : p = pos + code.length + 1 := by
  induction cs generalizing mode depth pos code with
  | nil => cases h
  | cons c cs ih =>
    unfold readCode at h
    split at h
    · cases h
      rfl
    · obtain ⟨code', rfl, h'⟩ := Lexed.consCode_eq_ok h
      rw [ih h', List.length_cons]
      omega

/-! ## Tokens -/

theorem readToken_advance {pos : Nat} {c : Char} {cs : List Char} {t : Token} {p : Nat} {r : List Char}
    (h : readToken pos c cs = .ok (t, p, r)) : Advance pos (c :: cs) p r := by
  unfold readToken at h
  split at h
  · split at h
    · cases h
    · rename_i hl
      cases h
      exact (readLiteral_advance hl).cons
  · split at h
    · split at h
      · cases h
      · rename_i hc
        cases h
        exact (readClass_advance hc).cons
    · split at h
      · split at h
        · cases h
        · rename_i code p' r' hb
          cases h
          refine ⟨c :: code ++ ['}'], ?_, ?_⟩
          · rw [readCode_append hb]
            simp
          · rw [readCode_offset hb]
            simp
            omega
      · split at h
        · rename_i harrow
          cases h
          cases cs with
          | nil => simp at harrow
          | cons d cs => exact Advance.refl.cons.cons
        · split at h
          · cases h; exact Advance.refl.cons
          · split at h
            · cases h
              refine Advance.cons ⟨cs.takeWhile isNamePart, ?_, rfl⟩
              exact List.takeWhile_append_dropWhile.symm
            · cases h; exact Advance.refl.cons

/-- A token that is a block of code is what stands there between braces. -/
theorem readToken_block_text {pos : Nat} {c : Char} {cs : List Char} {code : String} {p : Nat} {r : List Char}
    (h : readToken pos c cs = .ok (.block code, p, r)) :
    c :: cs = '{' :: code.toList ++ '}' :: r ∧ p = pos + code.length + 2 := by
  unfold readToken at h
  split_ifs at h with h1 h2 h3 h4 h5 h6
  · split at h <;> cases h
  · split at h <;> cases h
  · split at h
    · cases h
    · rename_i hb
      cases h
      subst h3
      refine ⟨?_, ?_⟩
      · rw [readCode_append hb, String.toList_ofList]
        rfl
      · rw [readCode_offset hb, String.length_ofList]
        omega
  · cases h
  · cases h
  · cases h
  · cases h

/-- The blocks of code among tokens, with their offsets. -/
def Tokens.codes : Tokens → List (Nat × String)
  | cons p (.block code) rest => (p, code) :: rest.codes
  | cons _ _ rest => rest.codes
  | _ => []

/-- The blocks of code stand in the text, each at its offset, and each behind the one before it. -/
structure Placed (text : List Char) (codes : List (Nat × String)) : Prop where
  found : ∀ c ∈ codes, ∃ rest, text.drop c.1 = '{' :: c.2.toList ++ '}' :: rest
  apart : codes.Pairwise fun c d => c.1 + c.2.length + 2 ≤ d.1

theorem Placed.nil {text : List Char} : Placed text [] := ⟨List.forall_mem_nil _, .nil⟩

/-- The blocks among the tokens that are read after the offset `pos` are placed behind it. -/
theorem tokensFrom_placed {source : List Char} (pos : Nat) (cs : List Char) (h : Advance 0 source pos cs) :
    Placed source (tokensFrom pos cs).codes ∧ ∀ c ∈ (tokensFrom pos cs).codes, pos ≤ c.1 := by
  induction hn : cs.length using Nat.strongRecOn generalizing pos cs with
  | ind n ih =>
    subst hn
    rw [tokensFrom]
    split
    · exact ⟨.nil, List.forall_mem_nil _⟩
    · exact ⟨.nil, List.forall_mem_nil _⟩
    · rename_i p c rest hs
      have hskip := skipFrom_advance hs
      split
      · exact ⟨.nil, List.forall_mem_nil _⟩
      · rename_i t p' r ht
        have hlt : r.length < cs.length := by
          have h1 := skipFrom_length hs
          have h2 := readToken_length ht
          simp at h1
          omega
        have htoken := readToken_advance ht
        obtain ⟨hrest, hbehind⟩ := ih r.length hlt p' r ((h.trans hskip).trans htoken) rfl
        have hle : pos ≤ p' := (hskip.trans htoken).le
        have hothers : Placed source (tokensFrom p' r).codes ∧ ∀ c ∈ (tokensFrom p' r).codes, pos ≤ c.1 :=
          ⟨hrest, fun c hc => Nat.le_trans hle (hbehind c hc)⟩
        cases t with
        | block code =>
          obtain ⟨htext, hend⟩ := readToken_block_text ht
          refine ⟨⟨List.forall_mem_cons.mpr ⟨⟨r, ?_⟩, hrest.found⟩, List.pairwise_cons.mpr ⟨?_, hrest.apart⟩⟩,
            List.forall_mem_cons.mpr ⟨hskip.le, hothers.2⟩⟩
          · rw [(h.trans hskip).drop, htext]
          · exact fun d hd => hend ▸ hbehind d hd
        | _ => exact hothers

end PegTemplate
