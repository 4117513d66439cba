import PegTemplate.Proofs.Block.Deeper
import PegTemplate.Proofs.Grammar.Code

/-!
# Blocks are read however deep their lines are

* `Inserted` : a text with indentation put in behind line ends (`inserted_deepen`: so is a deeper text);
* `CodeMode.InStep` : where the readers of both texts stand. No lookahead crosses a place where something is put in, for
  quotes end no line;
* `InStep.keep`, `InStep.put` : what a character of both texts keeps, and what one that was put in keeps;
* `readExactly_deepen` : **the code of a block that is read exactly is also read so when it is deeper.**
-/

namespace PegTemplate

/-! ## Texts with more indentation -/

/-- The second text is the first one with indentation put in, behind line ends only. `prev` is the character before. -/
inductive Inserted : (prev : Char) → List Char → List Char → Prop
  | nil (prev : Char) : Inserted prev [] []
  | keep {cs cs' : List Char} (prev c : Char) (h : Inserted c cs cs') : Inserted prev (c :: cs) (c :: cs')
  | put {prev c : Char} {cs cs' : List Char} (hprev : isLineEnd prev = true) (hc : isIndent c = true)
    (h : Inserted prev cs cs') : Inserted prev cs (c :: cs')

namespace Inserted

variable {prev c q : Char} {cs cs' : List Char}

theorem refl (prev : Char) (cs : List Char) : Inserted prev cs cs := by
  induction cs generalizing prev with
  | nil => exact .nil prev
  | cons c cs ih => exact .keep prev c (ih c)

theorem append_keep (prev : Char) (l : List Char) (h : Inserted c cs cs') :
    Inserted prev (l ++ c :: cs) (l ++ c :: cs') := by
  induction l generalizing prev with
  | nil => exact .keep prev c h
  | cons a l ih => exact .keep prev a (ih a)

theorem put_append {margin : List Char} (hprev : isLineEnd prev = true) (hm : ∀ c ∈ margin, isIndent c = true)
    (h : Inserted prev cs cs') : Inserted prev cs (margin ++ cs') := by
  induction margin with
  | nil => exact h
  | cons a margin ih =>
    obtain ⟨ha, hm⟩ := List.forall_mem_cons.mp hm
    exact .put hprev ha (ih hm)

theorem deepenLine_append {margin l : List Char} (hprev : isLineEnd prev = true) (hm : ∀ c ∈ margin, isIndent c = true)
    (h : Inserted prev (l ++ cs) (l ++ cs')) : Inserted prev (l ++ cs) (deepenLine margin l ++ cs') := by
  rw [deepenLine]
  split
  · exact h
  · rw [List.append_assoc]
    exact put_append hprev hm h

end Inserted

theorem InLines.inserted {margin cs : List Char} {ps : List (List Char × List Char)} {prev : Char}
    (hm : ∀ c ∈ margin, isIndent c = true) (hprev : isLineEnd prev = true) (h : InLines cs ps) :
    Inserted prev cs (ps.flatMap fun p => deepenLine margin p.1 ++ p.2) := by
  induction h generalizing prev with
  | nil => exact .nil prev
  | @last l _ _ =>
    have hline : Inserted prev (l ++ []) (deepenLine margin l ++ []) := .deepenLine_append hprev hm (.refl prev (l ++ []))
    simpa using hline
  | @line l e cs ps _ he _ ih =>
    rw [List.flatMap_cons, List.append_assoc]
    refine Inserted.deepenLine_append hprev hm ?_
    rcases he with rfl | ⟨c, rfl, hend, -⟩
    · exact .append_keep prev l (.keep '\r' '\n' (ih (by decide)))
    · exact .append_keep prev l (ih hend)

/-- A deeper text has indentation put in behind line ends and at its start, where a line end may be thought before. -/
theorem inserted_deepen {margin : List Char} (hm : ∀ c ∈ margin, isIndent c = true) (code : List Char) :
    Inserted '\n' code (deepen margin code) :=
  (inLines_lineParts code).inserted hm (by decide)

/-! ## Both readers -/

theorem ne_of_isIndent {c d : Char} (hc : isIndent c = true) (hd : isIndent d = false) : c ≠ d := by
  rintro rfl
  rw [hc] at hd
  cases hd

theorem isQuote_of_isIndent {c : Char} (hc : isIndent c = true) : isQuote c = false := by
  rcases eq_of_isIndent hc with rfl | rfl
  · decide
  · decide

theorem isLineEnd_of_isQuote {q : Char} (hq : isQuote q = true) : isLineEnd q = false := by
  have hq' : q = '\'' ∨ q = '"' := by simpa [isQuote] using hq
  rcases hq' with rfl | rfl
  · decide
  · decide

/-- Behind a character that ends no line, the same quotes follow. -/
theorem Inserted.startsPair_eq {c q : Char} {cs cs' : List Char} (hc : isLineEnd c = false) (hq : isQuote q = true)
    (h : Inserted c cs cs') : startsPair q cs' = startsPair q cs := by
  cases h with
  | nil => rfl
  | put hend => rw [hc] at hend; cases hend
  | @keep cs cs' _ a h =>
    by_cases ha : a = q
    · subst ha
      cases h with
      | nil => rfl
      | put hend => rw [isLineEnd_of_isQuote hq] at hend; cases hend
      | keep => rfl
    · have hne : (a == q) = false := beq_false_of_ne ha
      cases cs <;> cases cs' <;> simp [startsPair, hne]

namespace CodeMode

/-- Where the reader of a text and the reader of the text with more indentation stand: in one mode, but for where a
string began and what its newest character was. `prev` is the character before the rest `cs` of the text. -/
inductive InStep : (prev : Char) → (cs : List Char) → CodeMode → CodeMode → Prop
  | plain (prev : Char) (cs : List Char) : InStep prev cs .plain .plain
  | comment (prev : Char) (cs : List Char) : InStep prev cs .comment .comment
  | string {q : Char} (hq : isQuote q = true) (prev : Char) (cs : List Char) : InStep prev cs (.string q) (.string q)
  | escape {q prev : Char} (hq : isQuote q = true) (hprev : isLineEnd prev = false) (cs : List Char) :
    InStep prev cs (.pass 1 (.string q)) (.pass 1 (.string q))
  | triple {q prev prev' : Char} (hq : isQuote q = true) (h : prev' = '\\' ↔ prev = '\\') (start start' : Nat)
    (cs : List Char) : InStep prev cs (.triple q start prev) (.triple q start' prev')
  /-- Quotes are passed over, and they stand side by side. -/
  | quotes {q : Char} {cs : List Char} {m m' : CodeMode} (hq : isQuote q = true) (n : Nat) (h : InStep q cs m m') :
    InStep q (List.replicate (n + 1) q ++ cs) (.pass (n + 1) m) (.pass (n + 1) m')

namespace InStep

variable {prev c : Char} {cs cs' : List Char} {m m' : CodeMode}

/-- A character of both texts. -/
theorem keep (h : InStep prev (c :: cs) m m') (hi : Inserted c cs cs') (pos pos' : Nat) :
    InStep c cs (m.next pos c cs) (m'.next pos' c cs') := by
  cases h with
  | plain =>
    rw [next, next]
    by_cases hq : isQuote c = true
    · rw [if_pos hq, if_pos hq, hi.startsPair_eq (isLineEnd_of_isQuote hq) hq]
      split
      · rename_i hpair
        obtain ⟨r, rfl⟩ := eq_of_startsPair hpair
        exact .quotes hq 1 (.triple hq Iff.rfl pos pos' r)
      · exact .string hq c cs
    · rw [if_neg hq, if_neg hq]
      split
      · exact .comment c cs
      · exact .plain c cs
  | comment =>
    rw [next, next]
    split
    · exact .plain c cs
    · exact .comment c cs
  | @string q hq =>
    rw [next, next]
    split
    · rename_i hc
      exact .escape hq (hc ▸ by decide) cs
    · split
      · exact .plain c cs
      · exact .string hq c cs
  | @escape q _ hq =>
    exact .string hq c cs
  | @triple q _ prev' hq h start start' =>
    have hcloses : (c = q && startsPair q cs' && prev' != '\\') = (c = q && startsPair q cs && prev != '\\') := by
      by_cases hc : c = q
      · subst hc
        rw [hi.startsPair_eq (isLineEnd_of_isQuote hq) hq, Bool.eq_iff_iff]
        simp [h]
      · simp [hc]
    rw [next, next, hcloses]
    split
    · rename_i hclose
      simp only [Bool.and_eq_true, decide_eq_true_eq] at hclose
      obtain ⟨⟨rfl, hpair⟩, -⟩ := hclose
      obtain ⟨r, rfl⟩ := eq_of_startsPair hpair
      exact .quotes hq 1 (.plain c r)
    · exact .triple hq Iff.rfl start start' cs
  | quotes hq n h =>
    cases n with
    | zero => exact h
    | succ n => exact .quotes hq n h

/-- A character that was put in. -/
theorem put (h : InStep prev cs m m') (hprev : isLineEnd prev = true) (hc : isIndent c = true) (pos : Nat) :
    InStep prev cs m (m'.next pos c cs') := by
  have hquote : isQuote c = false := isQuote_of_isIndent hc
  cases h with
  | plain =>
    rw [next, if_neg (by rw [hquote]; exact Bool.false_ne_true), if_neg (ne_of_isIndent hc (by decide))]
    exact .plain prev cs
  | comment =>
    rw [next, if_neg (ne_of_isIndent hc (by decide))]
    exact .comment prev cs
  | @string q hq =>
    have hq' : c ≠ q := (ne_of_isQuote hq hquote).symm
    have hfeed : c ≠ '\n' := ne_of_isIndent hc (by decide)
    rw [next, if_neg (ne_of_isIndent hc (by decide)), if_neg (by simp [hq', hfeed])]
    exact .string hq prev cs
  | escape _ hend =>
    rw [hprev] at hend
    cases hend
  | @triple q _ prev' hq _ start start' =>
    have hq' : c ≠ q := (ne_of_isQuote hq hquote).symm
    have hbackslash : prev ≠ '\\' := by
      rintro rfl
      cases hprev
    rw [next, if_neg (by simp [hq'])]
    exact .triple hq (iff_of_false (ne_of_isIndent hc (by decide)) hbackslash) start start' cs
  | quotes hq =>
    rw [isLineEnd_of_isQuote hq] at hprev
    cases hprev

theorem eq_plain_iff (h : InStep prev cs m m') : m = CodeMode.plain ↔ m' = CodeMode.plain := by
  cases h with
  | plain => exact Iff.rfl
  | _ => exact iff_of_false nofun nofun

theorem depthAfter_eq (h : InStep prev cs m m') (depth : Nat) (c : Char) : m'.depthAfter depth c = m.depthAfter depth c := by
  cases h <;> rfl

end InStep

/-- Where a block may end, it may end with more indentation in it. -/
theorem closes_inserted {prev : Char} {cs cs' : List Char} (hi : Inserted prev cs cs') {m m' : CodeMode}
    (h : InStep prev cs m m') {depth : Nat} (pos pos' : Nat) (hcloses : m.Closes depth pos cs) :
    m'.Closes depth pos' cs' := by
  induction hi generalizing m m' depth pos pos' with
  | nil => exact ⟨h.eq_plain_iff.mp hcloses.1, hcloses.2⟩
  | @keep cs cs' prev c hi ih =>
    rw [Closes, h.depthAfter_eq]
    exact ⟨fun hend => hcloses.1 ⟨h.eq_plain_iff.mpr hend.1, hend.2⟩, ih (h.keep hi pos pos') _ _ hcloses.2⟩
  | @put prev c cs cs' hprev hc hi ih =>
    have hdepth : m'.depthAfter depth c = depth := by
      cases m' with
      | plain => rw [depthAfter, if_neg (ne_of_isIndent hc (by decide)), if_neg (ne_of_isIndent hc (by decide))]
      | _ => rfl
    rw [Closes, hdepth]
    exact ⟨fun hend => ne_of_isIndent hc (by decide) hend.2.1, ih (h.put hprev hc pos') pos _ hcloses⟩

end CodeMode

/-- **A block that is read exactly is also read exactly when it is deeper.** -/
theorem readExactly_deepen {margin code : List Char} (hm : ∀ c ∈ margin, isIndent c = true) (h : ReadExactly code) :
    ReadExactly (deepen margin code) := by
  have hscanned := (readExactly_iff_scanned code).1 h
  have hcloses : CodeMode.plain.Closes 0 0 code := by
    simpa using closes_append hscanned (Or.inl rfl) (fun _ => ⟨rfl, rfl⟩) 0
  have hdeeper : CodeMode.plain.Closes 0 0 (deepen margin code) :=
    CodeMode.closes_inserted (inserted_deepen hm code) (.plain '\n' code) 0 0 hcloses
  exact (readExactly_iff_scanned _).2 (openCode_of_closes hdeeper)

end PegTemplate
