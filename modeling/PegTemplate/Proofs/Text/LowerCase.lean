import Mathlib.Data.List.Forall2
import PegTemplate.Proofs.Text.Letters

/-!
# Lower case, letter by letter

* `pieces` : the lower-case forms of the letters of a text, `lowerFrom_eq_flatten`;
* `DottedPair`, `finalSigma` : the two ways in which a lower-case form is not put together letter by letter;
* `lower_eq_iff` : **two texts of one length have the same lower-case form if their letters have**, leaving these two
  ways aside.
-/

namespace PegTemplate.Unicode

/-- The lower-case forms of the letters of a text whose earlier part, nearest first, is `before`. -/
def pieces (before : List CodePoint) : List CodePoint → List (List CodePoint)
  | [] => []
  | c :: cs => lowerAt before c cs :: pieces (c :: before) cs

theorem lowerFrom_eq_flatten (before s : List CodePoint) : lowerFrom before s = (pieces before s).flatten := by
  induction s generalizing before with
  | nil => rfl
  | cons c s ih => rw [lowerFrom, pieces, List.flatten_cons, ih]

/-- Texts with the same forms are passed over alike. -/
theorem map_caseKind_of_pieces {before before' xs cs : List CodePoint} (h : pieces before xs = pieces before' cs) :
    xs.map caseKind = cs.map caseKind := by
  induction xs generalizing before before' cs with
  | nil =>
    cases cs with
    | nil => rfl
    | cons c cs => cases h
  | cons x xs ih =>
    cases cs with
    | nil => cases h
    | cons c cs =>
      obtain ⟨hpiece, hrest⟩ := List.cons.inj h
      rw [List.map_cons, List.map_cons, caseKind_of_lowerAt_eq hpiece, ih hrest]

/-- An i or a capital I stands right before a dot above. -/
def DottedPair (s : List CodePoint) : Prop := [0x69, 0x307] <:+: s ∨ [0x49, 0x307] <:+: s

instance (s : List CodePoint) : Decidable (DottedPair s) := inferInstanceAs (Decidable (_ ∨ _))

theorem DottedPair.cons {s : List CodePoint} (c : CodePoint) (h : DottedPair s) : DottedPair (c :: s) :=
  h.imp (·.trans (List.suffix_cons c s).isInfix) (·.trans (List.suffix_cons c s).isInfix)

/-- In a text only the capital sigma comes to another form than alone. -/
theorem lower_of_lowerAt {before after : List CodePoint} {c d : CodePoint} (h : lowerAt before c after = [d])
    (hsmall : d ≠ smallSigma) (hlast : d ≠ lastSigma) : lower [c] = [d] := by
  by_cases hc : c = capitalSigma
  · subst hc
    rw [lowerAt_capitalSigma] at h
    split_ifs at h
    · exact absurd (List.cons.inj h).1.symm hlast
    · exact absurd (List.cons.inj h).1.symm hsmall
  · rwa [lowerAt_of_ne hc] at h

/-- Where the forms come to an i and a dot, letter by letter, there is a dotted pair. -/
theorem dottedPair_of_lowerAt {before before' after s t : List CodePoint} {c : CodePoint}
    (hc : lowerAt before c after = [0x69]) (hs : lowerFrom before' s = 0x307 :: t) : DottedPair (c :: s) := by
  cases s with
  | nil => cases hs
  | cons d s =>
    rw [lowerFrom] at hs
    rcases lowerAt_cases before' d s with ⟨e, he, -⟩ | ⟨-, he⟩ <;> rw [he] at hs
    · cases hs
      obtain rfl := lower_eq_dot (lower_of_lowerAt he (by decide) (by decide))
      rcases lower_eq_i (lower_of_lowerAt hc (by decide) (by decide)) with rfl | rfl
      · exact .inl ⟨[], s, rfl⟩
      · exact .inr ⟨[], s, rfl⟩
    · cases hs

/-- What has the lower-case form of a text without dotted pairs is no shorter, and if it is no longer, then it has the
same forms letter by letter. -/
theorem length_le_of_lowerFrom_eq {before before' xs cs : List CodePoint} (hp : ¬DottedPair cs)
    (h : lowerFrom before xs = lowerFrom before' cs) :
    cs.length ≤ xs.length ∧ (xs.length = cs.length → pieces before xs = pieces before' cs) := by
  induction cs generalizing before before' xs with
  | nil =>
    refine ⟨Nat.zero_le _, fun hl => ?_⟩
    rw [List.length_eq_zero_iff.1 hl]
    rfl
  | cons c cs ih =>
    have hp' : ¬DottedPair cs := fun hd => hp (hd.cons c)
    cases xs with
    | nil =>
      rw [lowerFrom, lowerFrom] at h
      rcases lowerAt_cases before' c cs with ⟨e, hc, -⟩ | ⟨-, hc⟩ <;> rw [hc] at h <;> cases h
    | cons x xs =>
      rw [lowerFrom, lowerFrom] at h
      by_cases heq : lowerAt before x xs = lowerAt before' c cs
      · rw [heq, List.append_cancel_left_eq] at h
        obtain ⟨hle, hpieces⟩ := ih hp' h
        refine ⟨Nat.succ_le_succ hle, fun hl => ?_⟩
        rw [pieces, pieces, heq, hpieces (Nat.succ.inj hl)]
      -- One of the two letters is the dotted capital I, the other one comes to an i.
      · rcases lowerAt_cases before x xs with ⟨d, hx, -⟩ | ⟨-, hx⟩ <;>
          rcases lowerAt_cases before' c cs with ⟨e, hc, -⟩ | ⟨-, hc⟩ <;> rw [hx, hc] at h heq
        · obtain ⟨rfl, -⟩ := List.cons.inj h
          exact absurd rfl heq
        · obtain ⟨-, hrest⟩ := List.cons.inj h
          cases xs with
          | nil => cases hrest
          | cons y ys =>
            rw [lowerFrom] at hrest
            rcases lowerAt_cases (x :: before) y ys with ⟨d, hy, -⟩ | ⟨-, hy⟩ <;> rw [hy] at hrest
            · obtain ⟨-, hrest⟩ := List.cons.inj hrest
              have hle := (ih hp' hrest).1
              simp only [List.length_cons]
              exact ⟨by omega, fun hl => by omega⟩
            · cases hrest
        · obtain ⟨rfl, hrest⟩ := List.cons.inj h
          exact absurd (dottedPair_of_lowerAt hc hrest.symm) hp
        · exact absurd rfl heq

theorem length_lowerFrom (before s : List CodePoint) :
    (lowerFrom before s).length = s.length + s.count capitalDotted := by
  induction s generalizing before with
  | nil => rfl
  | cons c s ih =>
    rw [lowerFrom, List.length_append, ih, List.length_cons]
    rcases lowerAt_cases before c s with ⟨d, hc, -⟩ | ⟨rfl, hc⟩
    · have hne : c ≠ capitalDotted := by
        rintro rfl
        rw [lowerAt_of_ne (by decide)] at hc
        cases hc
      rw [hc, List.count_cons_of_ne hne, List.length_singleton]
      omega
    · rw [hc, List.count_cons_self]
      simp only [List.length_cons, List.length_nil]
      omega

/-- Without a dotted capital I each letter comes to one letter. -/
theorem pieces_of_not_mem {before s : List CodePoint} (h : capitalDotted ∉ s) :
    pieces before s = (lowerFrom before s).map ([·]) := by
  induction s generalizing before with
  | nil => rfl
  | cons c s ih =>
    rw [List.mem_cons, not_or] at h
    rcases lowerAt_cases before c s with ⟨d, hc, -⟩ | ⟨hd, -⟩
    · rw [pieces, lowerFrom, hc, ih h.2]
      rfl
    · exact absurd hd.symm h.1

/-- Texts of one length have the same lower-case form only letter by letter, unless one of them has both a dotted capital
I and a dotted pair. -/
theorem pieces_eq_of_lowerFrom_eq {before before' xs cs : List CodePoint} (hl : xs.length = cs.length)
    (hd : ¬(capitalDotted ∈ cs ∧ DottedPair cs)) (h : lowerFrom before xs = lowerFrom before' cs) :
    pieces before xs = pieces before' cs := by
  by_cases hc : capitalDotted ∈ cs
  · exact (length_le_of_lowerFrom_eq (fun hp => hd ⟨hc, hp⟩) h).2 hl
  · have hx : capitalDotted ∉ xs := by
      have hlen := congrArg List.length h
      rw [length_lowerFrom, length_lowerFrom, hl, List.count_eq_zero_of_not_mem hc] at hlen
      exact List.count_eq_zero.1 (by omega)
    rw [pieces_of_not_mem hx, pieces_of_not_mem hc, h]

/-! ## Sigmas -/

/-- Without a capital sigma the lower-case form does not hang on what is before it. -/
theorem lowerFrom_of_not_mem {before s : List CodePoint} (h : capitalSigma ∉ s) : lowerFrom before s = lower s := by
  have hall (before : List CodePoint) : lowerFrom before s = s.flatMap fun c => lower [c] := by
    induction s generalizing before with
    | nil => rfl
    | cons c s ih =>
      rw [List.mem_cons, not_or] at h
      rw [lowerFrom, lowerAt_of_ne (Ne.symm h.1), ih h.2, List.flatMap_cons]
  rw [lower, hall, hall]

theorem lower_append_cons {l : List CodePoint} (hl : capitalSigma ∉ l) (c : CodePoint) (r : List CodePoint) :
    lower (l ++ c :: r) = lower l ++ (lowerAt l.reverse c r ++ lowerFrom (c :: l.reverse) r) := by
  rw [lower, lowerFrom_append _ _ _ fun d hd he => hl (he ▸ hd), List.append_nil]
  rfl

/-- Where there is no other capital sigma, one letter can be told from another by its form. -/
theorem lower_append_cons_eq_iff {l r : List CodePoint} {x c : CodePoint} (hl : capitalSigma ∉ l)
    (hr : capitalSigma ∉ r) :
    lower (l ++ x :: r) = lower (l ++ c :: r) ↔ lowerAt l.reverse x r = lowerAt l.reverse c r := by
  rw [lower_append_cons hl, lower_append_cons hl, lowerFrom_of_not_mem hr, lowerFrom_of_not_mem hr,
    List.append_cancel_left_eq, List.append_cancel_right_eq]

/-- A dotted pair has the lower-case form of a dotted capital I. -/
theorem lower_pair {l r : List CodePoint} {c : CodePoint} (hl : capitalSigma ∉ l) (hr : capitalSigma ∉ r)
    (hc : c = 0x69 ∨ c = 0x49) : lower (l ++ c :: 0x307 :: r) = lower (l ++ capitalDotted :: r) := by
  have hr' : capitalSigma ∉ 0x307 :: r := by
    rw [List.mem_cons, not_or]
    exact ⟨by decide, hr⟩
  have hform : lowerAt l.reverse c (0x307 :: r) = [0x69] := by
    rcases hc with rfl | rfl <;> exact (lowerAt_of_ne (by decide)).trans (by decide)
  have hdot : lower (0x307 :: r) = 0x307 :: lower r := by
    rw [← List.nil_append (0x307 :: r), lower_append_cons List.not_mem_nil, lowerFrom_of_not_mem hr,
      lowerAt_of_ne (by decide)]
    rfl
  rw [lower_append_cons hl, lower_append_cons hl, lowerFrom_of_not_mem hr', lowerFrom_of_not_mem hr, hform, hdot,
    lowerAt_of_ne (by decide)]
  rfl

/-- A small sigma stands where a capital one would be lower-cased to the last one of a word. What is before the text,
nearest first, is `before`. -/
def finalSigmaFrom (before : List CodePoint) : List CodePoint → Bool
  | [] => false
  | c :: cs => ((c == smallSigma || c == lastSigma) && lowerAt before capitalSigma cs == [lastSigma]) ||
      finalSigmaFrom (c :: before) cs

/-- A small sigma stands at the end of a word. -/
def finalSigma (s : List CodePoint) : Bool := finalSigmaFrom [] s

theorem finalSigmaFrom_eq_true {before s : List CodePoint} (h : finalSigmaFrom before s = true) :
    ∃ l c r, s = l ++ c :: r ∧ (c = smallSigma ∨ c = lastSigma) ∧
      lowerAt (l.reverse ++ before) capitalSigma r = [lastSigma] := by
  induction s generalizing before with
  | nil => cases h
  | cons c s ih =>
    rw [finalSigmaFrom, Bool.or_eq_true, Bool.and_eq_true, Bool.or_eq_true, beq_iff_eq, beq_iff_eq, beq_iff_eq] at h
    rcases h with ⟨hc, hl⟩ | h
    · exact ⟨[], c, s, rfl, hc, hl⟩
    · obtain ⟨l, d, r, rfl, hd, hl⟩ := ih h
      refine ⟨c :: l, d, r, rfl, hd, ?_⟩
      rwa [List.reverse_cons, List.append_assoc]

/-- A letter that is no capital sigma and no final one: another letter comes to the same form in its place if it does so
alone. -/
theorem lowerAt_eq_iff {before before' after after' : List CodePoint} {x c : CodePoint} (hc : c ≠ capitalSigma)
    (hb : before.map caseKind = before'.map caseKind) (ha : after.map caseKind = after'.map caseKind)
    (hs : ((c == smallSigma || c == lastSigma) && lowerAt before' capitalSigma after' == [lastSigma]) = false) :
    lowerAt before x after = lowerAt before' c after' ↔ lower [x] = lower [c] := by
  rw [lowerAt_of_ne hc]
  by_cases hx : x = capitalSigma
  · subst hx
    have hsame : lowerAt before capitalSigma after = lowerAt before' capitalSigma after' := by
      rw [lowerAt_capitalSigma, lowerAt_capitalSigma, meetsCased_congr hb, meetsCased_congr ha]
    rw [hsame, lower_capitalSigma]
    rw [lowerAt_capitalSigma] at hs ⊢
    split_ifs at hs ⊢ with hlast
    · simp only [BEq.rfl, Bool.and_true, Bool.or_eq_false_iff, beq_eq_false_iff_ne] at hs
      refine iff_of_false (fun h => hs.2 (lower_eq_lastSigma h.symm)) fun h => ?_
      exact (lower_eq_smallSigma h.symm).elim hs.1 hc
    · exact Iff.rfl
  · rw [lowerAt_of_ne hx]

/-! ## The letters of a text -/

theorem map_caseKind_of_lower {xs cs : List CodePoint} (h : List.Forall₂ (fun x c => lower [x] = lower [c]) xs cs) :
    xs.map caseKind = cs.map caseKind := by
  induction h with
  | nil => rfl
  | @cons x c _ _ hx _ ih =>
    have hat : lowerAt [] x [] = lowerAt [] c [] := by simpa [lower, lowerFrom] using hx
    rw [List.map_cons, List.map_cons, ih, caseKind_of_lowerAt_eq hat]

theorem pieces_eq_iff {before before' xs cs : List CodePoint} (hb : before.map caseKind = before'.map caseKind)
    (hc : capitalSigma ∉ cs) (hs : finalSigmaFrom before' cs = false) :
    pieces before xs = pieces before' cs ↔ List.Forall₂ (fun x c => lower [x] = lower [c]) xs cs := by
  induction cs generalizing before before' xs with
  | nil =>
    cases xs with
    | nil => exact iff_of_true rfl .nil
    | cons x xs => exact iff_of_false nofun nofun
  | cons c cs ih =>
    rw [List.mem_cons, not_or] at hc
    rw [finalSigmaFrom, Bool.or_eq_false_iff] at hs
    cases xs with
    | nil => exact iff_of_false nofun nofun
    | cons x xs =>
      rw [pieces, pieces, List.cons.injEq, List.forall₂_cons]
      have hhead (ha : xs.map caseKind = cs.map caseKind) := lowerAt_eq_iff (x := x) (Ne.symm hc.1) hb ha hs.1
      have htail (hk : caseKind x = caseKind c) : pieces (x :: before) xs = pieces (c :: before') cs ↔ _ :=
        ih (by rw [List.map_cons, List.map_cons, hb, hk]) hc.2 hs.2
      constructor
      · rintro ⟨hpiece, hrest⟩
        exact ⟨(hhead (map_caseKind_of_pieces hrest)).1 hpiece, (htail (caseKind_of_lowerAt_eq hpiece)).1 hrest⟩
      · rintro ⟨hx, hrest⟩
        have hpiece := (hhead (map_caseKind_of_lower hrest)).2 hx
        exact ⟨hpiece, (htail (caseKind_of_lowerAt_eq hpiece)).2 hrest⟩

/-- **Lower-casing is letter by letter** : texts of one length have the same lower-case form if their letters have, where
one of them has no capital sigma, no small one at the end of a word, and not both a dotted capital I and a dotted
pair. -/
theorem lower_eq_iff {xs cs : List CodePoint} (hl : xs.length = cs.length) (hc : capitalSigma ∉ cs)
    (hs : finalSigma cs = false) (hd : ¬(capitalDotted ∈ cs ∧ DottedPair cs)) :
    lower xs = lower cs ↔ List.Forall₂ (fun x c => lower [x] = lower [c]) xs cs := by
  have hb : List.map caseKind [] = List.map caseKind [] := rfl
  rw [← pieces_eq_iff hb hc hs]
  refine ⟨pieces_eq_of_lowerFrom_eq hl hd, fun h => ?_⟩
  rw [lower, lower, lowerFrom_eq_flatten, lowerFrom_eq_flatten, h]

end PegTemplate.Unicode
