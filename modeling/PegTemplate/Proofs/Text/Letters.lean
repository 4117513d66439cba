import Mathlib.Tactic.SplitIfs
import PegTemplate.Unicode.Case

/-!
# Letters with case

* `Run.image`, `Run.points`, `Runs.sources` : where a run moves code points, and where they come from;
* `Ranges.bits`, `Runs.bits`, `Runs.imageBits` : tables as numbers, so that the kernel compares them by one operation;
* `cased_of_target?` : what has a lower-case form of its own is a letter with case, and so is the form;
* `lower_ne_of_upperOne` : what is the upper-case form of something else has a lower-case form of its own;
* `lower_eq_smallSigma`, `lower_eq_lastSigma`, `lower_eq_i`, `lower_eq_dot` : which letters have these forms;
* `caseKind` : whether a letter is passed over when the end of a word is looked for;
* `lowerAt_cases` : **in a text a letter becomes one letter of its kind, or it is the dotted capital I.**
-/

namespace PegTemplate.Unicode

/-! ## Tables -/

/-- Where the run moves `c`. -/
def Run.image (r : Run) (c : CodePoint) : CodePoint := ((c : Int) + r.shift).toNat

/-- The code points that the run covers, in order. -/
def Run.points (r : Run) : List CodePoint := (List.range' r.first (r.last + 1 - r.first)).filter r.covers

theorem Run.le_of_covers {r : Run} {c : CodePoint} (h : r.covers c = true) : r.first ≤ c ∧ c ≤ r.last := by
  simp only [covers, Bool.and_eq_true, decide_eq_true_eq] at h
  exact h.1

theorem Run.mem_points {r : Run} {c : CodePoint} : c ∈ r.points ↔ r.covers c = true := by
  refine List.mem_filter.trans (and_iff_right_of_imp fun h => List.mem_range'_1.2 ?_)
  obtain ⟨hfirst, hlast⟩ := le_of_covers h
  unfold CodePoint at *
  omega

theorem Runs.target?_eq_some {rs : Runs} {c d : CodePoint} (h : rs.target? c = some d) :
    ∃ r ∈ rs, r.covers c = true ∧ d = r.image c := by
  obtain ⟨r, hr, rfl⟩ := Option.map_eq_some_iff.1 h
  have hc := List.find?_some hr
  exact ⟨r, List.mem_of_find?_eq_some hr, hc, rfl⟩

/-- What the runs move to `d`. -/
def Runs.sources (rs : Runs) (d : CodePoint) : List CodePoint :=
  rs.filterMap fun r => let c := ((d : Int) - r.shift).toNat; if r.covers c then some c else none

theorem Runs.mem_sources {rs : Runs} {c d : CodePoint} (hd : 0 < d) (h : rs.target? c = some d) :
    c ∈ rs.sources d := by
  obtain ⟨r, hr, hc, he⟩ := target?_eq_some h
  have hback : ((d : Int) - r.shift).toNat = c := by
    unfold Run.image CodePoint at *
    omega
  refine List.mem_filterMap.2 ⟨r, hr, ?_⟩
  dsimp only
  rw [hback, if_pos hc]

/-! ## Tables as numbers

A set of code points is the number that has their bits, so that the kernel compares whole tables by one operation. -/

/-- The number with these bits. -/
def bitsOf (cs : List CodePoint) : Nat := cs.foldr (fun c m => 1 <<< c ||| m) 0

def Ranges.bits (rs : Ranges) : Nat := rs.foldr (fun r m => (1 <<< (r.2 + 1 - r.1) - 1) <<< r.1 ||| m) 0

/-- The bits of what the runs cover. -/
def Runs.bits (rs : Runs) : Nat := rs.foldr (fun r m => bitsOf r.points ||| m) 0

/-- The bits of what it is moved to. -/
def Runs.imageBits (rs : Runs) : Nat := rs.foldr (fun r m => bitsOf (r.points.map r.image) ||| m) 0

theorem testBit_bitsOf {cs : List CodePoint} {c : CodePoint} : (bitsOf cs).testBit c = true ↔ c ∈ cs := by
  induction cs with
  | nil => simp [bitsOf]
  | cons d cs ih =>
    have hd : bitsOf (d :: cs) = 1 <<< d ||| bitsOf cs := rfl
    rw [hd, Nat.testBit_or, Bool.or_eq_true, ih, List.mem_cons, Nat.one_shiftLeft, Nat.testBit_two_pow,
      decide_eq_true_eq, eq_comm]

theorem Ranges.testBit_bits (rs : Ranges) (c : CodePoint) : rs.bits.testBit c = rs.has c := by
  induction rs with
  | nil => simp [bits, has]
  | cons r rs ih =>
    have hr : bits (r :: rs) = (1 <<< (r.2 + 1 - r.1) - 1) <<< r.1 ||| bits rs := rfl
    rw [hr, Nat.testBit_or, ih, Nat.testBit_shiftLeft, Nat.one_shiftLeft, Nat.testBit_two_pow_sub_one, has, has,
      List.any_cons]
    congr 1
    rw [← Bool.decide_and, ← Bool.decide_and]
    unfold CodePoint at *
    exact decide_eq_decide.2 (by omega)

theorem Runs.testBit_bits {rs : Runs} {c : CodePoint} :
    rs.bits.testBit c = true ↔ ∃ r ∈ rs, r.covers c = true := by
  induction rs with
  | nil => simp [bits]
  | cons r rs ih =>
    have hr : bits (r :: rs) = bitsOf r.points ||| bits rs := rfl
    rw [hr, Nat.testBit_or, Bool.or_eq_true, ih, testBit_bitsOf, Run.mem_points]
    simp only [List.mem_cons, exists_eq_or_imp]

theorem Runs.testBit_imageBits {rs : Runs} {r : Run} {c : CodePoint} (hr : r ∈ rs) (hc : r.covers c = true) :
    rs.imageBits.testBit (r.image c) = true := by
  induction rs with
  | nil => cases hr
  | cons u rs ih =>
    have hu : imageBits (u :: rs) = bitsOf (u.points.map u.image) ||| imageBits rs := rfl
    rw [hu, Nat.testBit_or, Bool.or_eq_true, testBit_bitsOf]
    rcases List.mem_cons.1 hr with rfl | hr
    · exact .inl (List.mem_map_of_mem (Run.mem_points.2 hc))
    · exact .inr (ih hr)

/-- Of two sets the one is in the other if it adds nothing to it. -/
theorem testBit_of_or_eq {a b : Nat} (h : a ||| b = b) {i : Nat} (hi : a.testBit i = true) : b.testBit i = true := by
  rw [← h, Nat.testBit_or, hi, Bool.true_or]

/-- What has a lower-case form is a letter with case, and so is the form; what is an upper-case form has a lower-case
form; and no letter with case is passed over. -/
theorem tables_agree : lowerRuns.bits ||| cased.bits = cased.bits ∧ lowerRuns.imageBits ||| cased.bits = cased.bits ∧
    upperRuns.imageBits ||| lowerRuns.bits = lowerRuns.bits ∧ caseIgnorable.bits &&& cased.bits = 0 := by
  decide +kernel

theorem lowerRuns_moves : lowerRuns.all (fun r => 0 < r.first && r.shift != 0) = true := by decide

/-- What has a lower-case form of its own is a letter with case, and so is the form. -/
theorem cased_of_target? {c d : CodePoint} (h : lowerRuns.target? c = some d) :
    cased.has c = true ∧ cased.has d = true := by
  obtain ⟨r, hr, hc, rfl⟩ := Runs.target?_eq_some h
  rw [← Ranges.testBit_bits, ← Ranges.testBit_bits]
  exact ⟨testBit_of_or_eq tables_agree.1 (Runs.testBit_bits.2 ⟨r, hr, hc⟩),
    testBit_of_or_eq tables_agree.2.1 (Runs.testBit_imageBits hr hc)⟩

/-- What is the upper-case form of something else has a lower-case form of its own. -/
theorem target?_of_upper {x c : CodePoint} (h : upperRuns.target? x = some c) :
    ∃ d, lowerRuns.target? c = some d ∧ d ≠ c := by
  obtain ⟨u, hu, hx, rfl⟩ := Runs.target?_eq_some h
  obtain ⟨r, hr, hc⟩ :=
    Runs.testBit_bits.1 (testBit_of_or_eq tables_agree.2.2.1 (Runs.testBit_imageBits hu hx))
  cases ht : lowerRuns.target? (u.image x) with
  | none => rw [Runs.target?_eq_none_iff.1 ht r hr] at hc; cases hc
  | some d =>
    refine ⟨d, rfl, ?_⟩
    obtain ⟨q, hq, hqc, rfl⟩ := Runs.target?_eq_some ht
    have hmoves := List.all_eq_true.1 lowerRuns_moves q hq
    simp only [Bool.and_eq_true, decide_eq_true_eq, bne_iff_ne] at hmoves
    have hfirst := (Run.le_of_covers hqc).1
    generalize u.image x = c at hfirst
    unfold Run.image CodePoint at *
    omega

theorem caseIgnorable_of_cased {c : CodePoint} (h : cased.has c = true) : caseIgnorable.has c = false := by
  have hbit := congrArg (·.testBit c) tables_agree.2.2.2
  simpa [Nat.testBit_and, Ranges.testBit_bits, h] using hbit

/-! ## One letter -/

/-- The small sigma inside a word. -/
def smallSigma : CodePoint := 0x3C3

/-- The small sigma at the end of a word. -/
def lastSigma : CodePoint := 0x3C2

/-- The capital I with a dot, whose lower-case form is an i and a dot. -/
def capitalDotted : CodePoint := 0x130

theorem lowerAt_of_ne {before after : List CodePoint} {c : CodePoint} (h : c ≠ capitalSigma) :
    lowerAt before c after = lower [c] := by
  simp [lower, lowerFrom, lowerAt, h]

theorem lowerAt_capitalSigma (before after : List CodePoint) : lowerAt before capitalSigma after =
    if meetsCased before && !meetsCased after then [lastSigma] else [smallSigma] := rfl

theorem lower_capitalDotted : lower [capitalDotted] = [0x69, 0x307] := rfl

theorem lower_capitalSigma : lower [capitalSigma] = [smallSigma] := rfl

theorem lower_singleton {c : CodePoint} (h : c ≠ capitalDotted) : lower [c] = [(lowerRuns.target? c).getD c] := by
  by_cases hs : c = capitalSigma
  · subst hs
    decide
  · have hd : c ≠ 0x130 := h
    simp [lower, lowerFrom, lowerAt, hs, hd]

/-- A letter has the lower-case form `d` if it is `d` itself or is moved there. -/
theorem mem_of_lower_eq {c d : CodePoint} (hd : 0 < d) (h : lower [c] = [d]) : c ∈ d :: lowerRuns.sources d := by
  by_cases hc : c = capitalDotted
  · subst hc
    cases h
  · rw [lower_singleton hc] at h
    cases ht : lowerRuns.target? c with
    | none =>
      rw [ht] at h
      cases h
      exact List.mem_cons_self
    | some e =>
      rw [ht] at h
      cases h
      exact List.mem_cons_of_mem _ (Runs.mem_sources hd ht)

theorem lowerOne_eq_some {c d : CodePoint} : lowerOne c = some d ↔ lower [c] = [d] := by
  unfold lowerOne
  split
  · rename_i e he
    rw [he]
    simp
  · rename_i h
    exact iff_of_false nofun fun he => h d he

/-- The upper-case form of something else is not its own lower-case form. -/
theorem lower_ne_of_upperOne {x c : CodePoint} (h : upperOne x = some c) (hne : x ≠ c) : lower [c] ≠ [c] := by
  unfold upperOne at h
  split_ifs at h
  cases ht : upperRuns.target? x with
  | none =>
    rw [ht] at h
    exact absurd (Option.some.inj h) hne
  | some d =>
    rw [ht] at h
    obtain rfl : d = c := Option.some.inj h
    obtain ⟨e, he, hec⟩ := target?_of_upper ht
    intro hl
    by_cases hd : d = capitalDotted
    · subst hd
      cases hl
    · rw [lower_singleton hd, he] at hl
      exact hec (List.cons.inj hl).1

theorem lower_eq_smallSigma {c : CodePoint} (h : lower [c] = [smallSigma]) : c = smallSigma ∨ c = capitalSigma := by
  have hc := mem_of_lower_eq (by decide) h
  rw [show lowerRuns.sources smallSigma = [capitalSigma] by decide] at hc
  simpa using hc

theorem lower_eq_lastSigma {c : CodePoint} (h : lower [c] = [lastSigma]) : c = lastSigma := by
  have hc := mem_of_lower_eq (by decide) h
  rw [show lowerRuns.sources lastSigma = [] by decide] at hc
  simpa using hc

theorem lower_eq_i {c : CodePoint} (h : lower [c] = [0x69]) : c = 0x69 ∨ c = 0x49 := by
  have hc := mem_of_lower_eq (by decide) h
  rw [show lowerRuns.sources 0x69 = [0x49] by decide] at hc
  simpa using hc

theorem lower_eq_dot {c : CodePoint} (h : lower [c] = [0x307]) : c = 0x307 := by
  have hc := mem_of_lower_eq (by decide) h
  rw [show lowerRuns.sources 0x307 = [] by decide] at hc
  simpa using hc

/-- Whether a code point is a letter with case, unless it is passed over. -/
def caseKind (c : CodePoint) : Option Bool := if caseIgnorable.has c then none else some (cased.has c)

theorem caseKind_of_cased {c : CodePoint} (h : cased.has c = true) : caseKind c = some true := by
  rw [caseKind, caseIgnorable_of_cased h, h]
  rfl

/-- A letter and its lower-case form are passed over alike. -/
theorem caseKind_of_lower {c d : CodePoint} (h : lower [c] = [d]) : caseKind c = caseKind d := by
  by_cases hc : c = capitalDotted
  · subst hc
    cases h
  · rw [lower_singleton hc] at h
    cases ht : lowerRuns.target? c with
    | none =>
      rw [ht] at h
      cases h
      rfl
    | some e =>
      rw [ht] at h
      cases h
      obtain ⟨hc, he⟩ := cased_of_target? ht
      exact (caseKind_of_cased hc).trans (caseKind_of_cased he).symm

theorem meetsCased_congr {s t : List CodePoint} (h : s.map caseKind = t.map caseKind) : meetsCased s = meetsCased t := by
  induction s generalizing t with
  | nil =>
    cases t with
    | nil => rfl
    | cons d t => cases h
  | cons c s ih =>
    cases t with
    | nil => cases h
    | cons d t =>
      obtain ⟨hk, hrest⟩ := List.cons.inj h
      unfold caseKind at hk
      rw [meetsCased, meetsCased, ih hrest]
      split_ifs at hk ⊢ with h1 h2
      · rfl
      · exact Option.some.inj hk

/-- The form of a letter in a text is one letter passed over like it, or the two letters of the dotted capital I. -/
theorem lowerAt_cases (before : List CodePoint) (c : CodePoint) (after : List CodePoint) :
    (∃ d, lowerAt before c after = [d] ∧ caseKind c = caseKind d) ∨
      c = capitalDotted ∧ lowerAt before c after = [0x69, 0x307] := by
  by_cases hs : c = capitalSigma
  · subst hs
    have hkind : caseKind capitalSigma = some true := caseKind_of_cased (by decide)
    rw [lowerAt_capitalSigma]
    refine .inl ?_
    split_ifs
    · exact ⟨lastSigma, rfl, hkind.trans (caseKind_of_cased (by decide)).symm⟩
    · exact ⟨smallSigma, rfl, caseKind_of_lower lower_capitalSigma⟩
  · rw [lowerAt_of_ne hs]
    by_cases hd : c = capitalDotted
    · subst hd
      exact .inr ⟨rfl, rfl⟩
    · exact .inl ⟨_, lower_singleton hd, caseKind_of_lower (lower_singleton hd)⟩

theorem caseKind_of_lowerAt_eq {before before' after after' : List CodePoint} {x c : CodePoint}
    (h : lowerAt before x after = lowerAt before' c after') : caseKind x = caseKind c := by
  rcases lowerAt_cases before x after with ⟨d, hx, hkx⟩ | ⟨rfl, hx⟩ <;>
    rcases lowerAt_cases before' c after' with ⟨e, hc, hkc⟩ | ⟨rfl, hc⟩ <;> rw [hx, hc] at h <;> cases h
  exact hkx.trans hkc.symm

end PegTemplate.Unicode
