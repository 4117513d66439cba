import PegTemplate.Proofs.Match.Outcome
import PegTemplate.Proofs.Match.Parts
import PegTemplate.Proofs.Text.LowerCase

/-!
# Literals and classes that ignore case

* `CaseEven` : the class of a character matches what has the same lower-case form;
* `Uniform` : the classes of the characters of a text match the texts of its length with the same lower-case form;
* `Uniform.caseEven`, `Uniform.finalSigma_eq_false`, `Uniform.not_dotted` : what a text must be like for that, and
  `Uniform.of_caseEven` : that this is enough;
* `letterClasses` : the classes of the characters of a text, one after the other, and what they match;
* `SameMatches`, `SameMatchesInside` : they match what the literal matches, or do so as far as matches end inside the
  text;
* `ignoreCase_uniform` : **a literal that ignores case matches like the classes of its characters if these are even, it
  has no small sigma at the end of a word, and not both a dotted capital I and a dotted pair.**
-/

namespace PegTemplate
open Unicode

/-! ## Characters -/

/-- The class of one character that ignores case. -/
def letterClass (spelling : String) (c : Char) : CharClass := ⟨false, [], [c.toNat], true, spelling⟩

theorem letterClass_accepts {spelling : String} {c x : Char} : (letterClass spelling c).accepts x = true ↔
    x = c ∨ lowerOne x.toNat = some c.toNat ∨ upperOne x.toNat = some c.toNat := by
  have hhas (y : CodePoint) : (letterClass spelling c).has y = true ↔ y = c.toNat := by
    simp [letterClass, CharClass.has]
  have hany (o : Option CodePoint) : o.any (letterClass spelling c).has = true ↔ o = some c.toNat := by
    cases o <;> simp [hhas]
  have haccepts : (letterClass spelling c).accepts x = (letterClass spelling c).hasForm x.toNat := Bool.bne_false _
  rw [haccepts, CharClass.hasForm, Bool.or_eq_true, hhas, Char.toNat_inj]
  simp only [letterClass, Bool.true_and, Bool.or_eq_true]
  rw [← letterClass, hany, hany]

/-- The characters with the same lower-case form are those that the class matches. -/
def CaseEven (c : Char) : Prop := ∀ x : Char, lower [x.toNat] = lower [c.toNat] ↔ (letterClass "" c).accepts x = true

/-- A character that is its own lower-case form is even: it is not the upper-case form of another one. -/
theorem CaseEven.of_lower {c : Char} (h : lower [c.toNat] = [c.toNat]) : CaseEven c := by
  intro x
  rw [letterClass_accepts, h, lowerOne_eq_some]
  constructor
  · exact fun hx => .inr (.inl hx)
  · rintro (rfl | hx | hx)
    · exact h
    · exact hx
    · by_cases hxc : x.toNat = c.toNat
      · rwa [hxc]
      · exact absurd h (lower_ne_of_upperOne hx hxc)

/-! ## Texts of one length -/

/-- The characters of `xs` are matched by the classes of the characters of `w`, one by one. -/
def AcceptsEach (xs w : List Char) : Prop := List.Forall₂ (fun x c => (letterClass "" c).accepts x = true) xs w

theorem acceptsEach_append_left (l xs w : List Char) : AcceptsEach (l ++ xs) (l ++ w) ↔ AcceptsEach xs w := by
  induction l with
  | nil => exact Iff.rfl
  | cons c l ih =>
    refine List.forall₂_cons.trans ⟨fun h => ih.1 h.2, fun h => ⟨letterClass_accepts.2 (.inl rfl), ih.2 h⟩⟩

theorem acceptsEach_append_cons (l r : List Char) (x c : Char) :
    AcceptsEach (l ++ x :: r) (l ++ c :: r) ↔ (letterClass "" c).accepts x = true := by
  have hr : AcceptsEach r r := by
    have h := (acceptsEach_append_left r [] []).2 .nil
    rwa [List.append_nil] at h
  exact (acceptsEach_append_left l _ _).trans (List.forall₂_cons.trans (and_iff_left hr))

/-- A text of the length of `w` has the same lower-case form if the classes of `w` match it. -/
def Uniform (w : List Char) : Prop :=
  ∀ xs : List Char, xs.length = w.length → (lower (codes xs) = lower (codes w) ↔ AcceptsEach xs w)

theorem codes_append_cons (l : List Char) (c : Char) (r : List Char) :
    codes (l ++ c :: r) = codes l ++ c.toNat :: codes r := by
  simp [codes]

theorem toNat_mem_codes {c : Char} {w : List Char} : c.toNat ∈ codes w ↔ c ∈ w :=
  List.mem_map_of_injective fun _ _ h => Char.toNat_inj.1 h

theorem capitalSigma_not_mem_codes {w : List Char} (h : 'Σ' ∉ w) : capitalSigma ∉ codes w := fun hw =>
  h (toNat_mem_codes (c := 'Σ').1 hw)

/-- The class of the capital sigma matches the last sigma of a word, which is its own lower-case form. -/
theorem not_caseEven_capitalSigma : ¬CaseEven 'Σ' := by
  intro h
  have hlast := (h 'ς').2 (by decide)
  cases hlast

/-- Apart from its own class, the capital sigma is matched by that of the small one, whose form it has. -/
theorem accepts_capitalSigma {c : Char} (hc : c ≠ 'Σ') :
    lower ['Σ'.toNat] = lower [c.toNat] ↔ (letterClass "" c).accepts 'Σ' = true := by
  have hone : lowerOne 'Σ'.toNat = some 'σ'.toNat := by decide
  have hupper : upperOne 'Σ'.toNat = some 'Σ'.toNat := by decide
  rw [letterClass_accepts, hone, hupper, Option.some.injEq, Option.some.injEq, Char.toNat_inj, Char.toNat_inj]
  constructor
  · intro h
    rcases lower_eq_smallSigma h.symm with hs | hs
    · exact .inr (.inl (Char.toNat_inj.1 hs).symm)
    · exact absurd (Char.toNat_inj.1 hs) hc
  · rintro (rfl | rfl | rfl)
    · rfl
    · decide
    · rfl

/-- Even characters decide by themselves, where lower-casing is letter by letter. -/
theorem Uniform.of_caseEven {w : List Char} (he : ∀ c ∈ w, CaseEven c) (hs : finalSigma (codes w) = false)
    (hd : ¬(capitalDotted ∈ codes w ∧ DottedPair (codes w))) : Uniform w := by
  have hsigma : capitalSigma ∉ codes w := capitalSigma_not_mem_codes fun h => not_caseEven_capitalSigma (he _ h)
  intro xs hl
  rw [lower_eq_iff (by simpa [codes] using hl) hsigma hs hd, codes, codes, List.forall₂_map_left_iff,
    List.forall₂_map_right_iff, AcceptsEach]
  clear hs hd hsigma hl
  induction w generalizing xs with
  | nil => exact (List.forall₂_nil_right_iff).trans (List.forall₂_nil_right_iff).symm
  | cons c w ih =>
    cases xs with
    | nil => rw [List.forall₂_nil_left_iff, List.forall₂_nil_left_iff]
    | cons x xs =>
      rw [List.forall₂_cons, List.forall₂_cons, he c List.mem_cons_self x,
        ih (fun d hd => he d (List.mem_cons_of_mem c hd)) xs]

theorem DottedPair.exists_chars {w : List Char} (h : DottedPair (codes w)) :
    ∃ l c r, w = l ++ c :: '\u0307' :: r ∧ (c = 'i' ∨ c = 'I') := by
  have hinfix {d : Char} (h : [d.toNat, 0x307] <:+: codes w) : ∃ l r, w = l ++ d :: '\u0307' :: r := by
    obtain ⟨l', r', hlr⟩ := h
    obtain ⟨w', r, rfl, hw', -⟩ := List.map_eq_append_iff.1 hlr.symm
    obtain ⟨l, p, rfl, -, hp⟩ := List.map_eq_append_iff.1 hw'
    obtain rfl : p = [d, '\u0307'] := List.map_injective_iff.2 (fun _ _ => Char.toNat_inj.1) hp
    exact ⟨l, r, by simp⟩
  rcases h with h | h
  · obtain ⟨l, r, hw⟩ := hinfix (d := 'i') h
    exact ⟨l, 'i', r, hw, .inl rfl⟩
  · obtain ⟨l, r, hw⟩ := hinfix (d := 'I') h
    exact ⟨l, 'I', r, hw, .inr rfl⟩

theorem lower_codes_pair {l r : List Char} {c : Char} (hl : 'Σ' ∉ l) (hr : 'Σ' ∉ r) (hc : c = 'i' ∨ c = 'I') :
    lower (codes (l ++ c :: '\u0307' :: r)) = lower (codes (l ++ 'İ' :: r)) := by
  rw [codes_append_cons, codes_append_cons]
  exact lower_pair (capitalSigma_not_mem_codes hl) (capitalSigma_not_mem_codes hr)
    (hc.imp (congrArg Char.toNat) (congrArg Char.toNat))

/-- Two small sigmas are matched in place of a capital one, and only one of them is its lower-case form. -/
theorem Uniform.capitalSigma_not_mem {w : List Char} (hw : Uniform w) : 'Σ' ∉ w := by
  intro h
  obtain ⟨l, r, rfl, hl⟩ := List.eq_append_cons_of_mem h
  have hl' := capitalSigma_not_mem_codes hl
  have hsmall := (hw (l ++ 'σ' :: r) (by simp)).2 ((acceptsEach_append_cons l r _ _).2 (by decide))
  have hlast := (hw (l ++ 'ς' :: r) (by simp)).2 ((acceptsEach_append_cons l r _ _).2 (by decide))
  have heq := hsmall.trans hlast.symm
  rw [codes_append_cons, codes_append_cons, lower_append_cons hl', lower_append_cons hl',
    List.append_cancel_left_eq] at heq
  cases heq

/-- What is matched in place of a character is told by the form that it has there: the other characters do not matter. -/
theorem Uniform.lowerAt_eq_iff {l r : List Char} {c : Char} (hw : Uniform (l ++ c :: r)) (x : Char) :
    lowerAt (codes l).reverse x.toNat (codes r) = lower [c.toNat] ↔ (letterClass "" c).accepts x = true := by
  have hsigma := hw.capitalSigma_not_mem
  simp only [List.mem_append, List.mem_cons, not_or] at hsigma
  obtain ⟨hl, hc, hr⟩ := hsigma
  have hc' : c.toNat ≠ capitalSigma := fun h => hc (Char.toNat_inj.1 h).symm
  have hx := hw (l ++ x :: r) (by simp)
  rwa [codes_append_cons, codes_append_cons,
    lower_append_cons_eq_iff (capitalSigma_not_mem_codes hl) (capitalSigma_not_mem_codes hr), lowerAt_of_ne hc',
    acceptsEach_append_cons] at hx

theorem Uniform.caseEven {w : List Char} (hw : Uniform w) {c : Char} (hc : c ∈ w) : CaseEven c := by
  obtain ⟨l, r, rfl⟩ := List.append_of_mem hc
  intro x
  by_cases hx : x = 'Σ'
  · subst hx
    exact accepts_capitalSigma fun h => hw.capitalSigma_not_mem (h ▸ hc)
  · have hxs : x.toNat ≠ capitalSigma := fun h => hx (Char.toNat_inj.1 h)
    rw [← hw.lowerAt_eq_iff x, lowerAt_of_ne hxs]

/-- In place of a small sigma at the end of a word a capital one comes to the last sigma, alone to the one inside a word:
only one of them can be the form of the small sigma. -/
theorem Uniform.finalSigma_eq_false {w : List Char} (hw : Uniform w) : finalSigma (codes w) = false := by
  rw [← Bool.not_eq_true]
  intro h
  obtain ⟨l', c', r', hlr, hc, hlast⟩ := finalSigmaFrom_eq_true h
  obtain ⟨l, r₁, rfl, rfl, hr₁⟩ := List.map_eq_append_iff.1 hlr
  obtain ⟨c, r, rfl, rfl, rfl⟩ := List.map_eq_cons_iff.1 hr₁
  have hthere := hw.lowerAt_eq_iff 'Σ'
  have halone := hw.caseEven (c := c) (by simp) 'Σ'
  rw [List.append_nil] at hlast
  have hforms : [lastSigma] = lower [c.toNat] ↔ [smallSigma] = lower [c.toNat] := hlast ▸ hthere.trans halone.symm
  rcases hc with hc | hc <;> rw [hc] at hforms
  · cases hforms.2 (by decide)
  · cases hforms.1 (by decide)

/-- With a dotted capital I and a dotted pair in each other's places the lower-case form is the same, and neither is
matched in the place of the other. -/
theorem Uniform.not_dotted {w : List Char} (hw : Uniform w) : ¬(capitalDotted ∈ codes w ∧ DottedPair (codes w)) := by
  rintro ⟨hdotted, hpair⟩
  obtain ⟨l, c, r, rfl, hc⟩ := DottedPair.exists_chars hpair
  have hsigma := hw.capitalSigma_not_mem
  have hmem : 'İ' ∈ l ++ c :: '\u0307' :: r := toNat_mem_codes.1 hdotted
  have hne : 'İ' ≠ c := by rcases hc with rfl | rfl <;> decide
  simp only [List.mem_append, List.mem_cons, hne, false_or, show 'İ' ≠ '\u0307' by decide] at hmem
  rcases hmem with hmem | hmem <;> obtain ⟨a, b, rfl⟩ := List.append_of_mem hmem <;>
    simp only [List.mem_append, List.mem_cons, not_or] at hsigma
  -- The dotted capital I stands before the pair.
  · obtain ⟨⟨ha, -, hb⟩, -, -, hr⟩ := hsigma
    have hlower := calc
      lower (codes (a ++ 'i' :: '\u0307' :: (b ++ 'İ' :: r)))
      _ = lower (codes (a ++ 'İ' :: (b ++ 'İ' :: r))) := lower_codes_pair ha (by simp [hb, hr]) (.inl rfl)
      _ = lower (codes ((a ++ 'İ' :: b) ++ 'İ' :: r)) := by simp
      _ = lower (codes ((a ++ 'İ' :: b) ++ c :: '\u0307' :: r)) :=
        (lower_codes_pair (by simp [ha, hb]) hr hc).symm
    have haccepts := (hw (a ++ 'i' :: '\u0307' :: (b ++ 'İ' :: r)) (by simp; omega)).1 hlower
    rw [List.append_assoc, acceptsEach_append_left] at haccepts
    exact absurd (List.forall₂_cons.1 haccepts).1 (by decide)
  -- It stands behind the pair.
  · obtain ⟨hl, -, -, ha, -, hb⟩ := hsigma
    have hlower := calc
      lower (codes (l ++ 'İ' :: (a ++ 'i' :: '\u0307' :: b)))
      _ = lower (codes ((l ++ 'İ' :: a) ++ 'i' :: '\u0307' :: b)) := by simp
      _ = lower (codes ((l ++ 'İ' :: a) ++ 'İ' :: b)) := lower_codes_pair (by simp [hl, ha]) hb (.inl rfl)
      _ = lower (codes (l ++ 'İ' :: (a ++ 'İ' :: b))) := by simp
      _ = lower (codes (l ++ c :: '\u0307' :: (a ++ 'İ' :: b))) :=
        (lower_codes_pair hl (by simp [ha, hb]) hc).symm
    have haccepts := (hw (l ++ 'İ' :: (a ++ 'i' :: '\u0307' :: b)) (by simp; omega)).1 hlower
    rw [acceptsEach_append_left] at haccepts
    have hhead := (List.forall₂_cons.1 haccepts).1
    rcases hc with rfl | rfl <;> exact absurd hhead (by decide)

/-! ## Matches -/

/-- The classes of the characters of a text, one after the other. -/
def letterClasses (spelling : Char → String) (w : List Char) : Node :=
  .sequence (w.map fun c => .charClass (letterClass (spelling c) c))

section
variable {σ ε : Type}

/-- From the state `s` the expression matches at `pos`, and the match ends at `stop`. -/
def Node.MatchesTo (m : Matcher σ ε) (limit : Nat) (call : String → Nat → Run σ ε Result) (s : State σ) (n : Node)
    (pos stop : Nat) : Prop := ∃ v s', n.eval m limit call pos s = .ok (.matched stop v) s'

variable {m : Matcher σ ε} {limit : Nat} {call : String → Nat → Run σ ε Result} {s : State σ}

theorem literal_matchesTo {t : List CodePoint} {pos stop : Nat} :
    (Node.literal t true).MatchesTo m limit call s pos stop ↔
      stop = pos + t.length ∧ lower (codes (slice m.text pos (pos + t.length))) = lower t := by
  rw [← literalAccepts_ignoreCase]
  unfold Node.MatchesTo
  rw [Node.eval]
  split_ifs with h
  · constructor
    · rintro ⟨v, s', he⟩
      cases he
      exact ⟨rfl, h⟩
    · rintro ⟨rfl, -⟩
      exact ⟨_, _, rfl⟩
  · refine iff_of_false ?_ fun h' => h h'.2
    rintro ⟨v, s', he⟩
    cases he

theorem Node.eval_letterClass {spelling : String} {c x : Char} {pos : Nat} (hx : m.text[pos]? = some x)
    (ha : (letterClass "" c).accepts x = true) : (Node.charClass (letterClass spelling c)).eval m limit call pos =
      pure (.matched (pos + 1) (.text (String.singleton x))) := by
  have ha' : (letterClass spelling c).accepts x = true := letterClass_accepts.2 (letterClass_accepts.1 ha)
  rw [Node.eval, hx]
  exact if_pos ha'

theorem Node.eval_letterClass_failed {spelling : String} {c : Char} {pos : Nat}
    (h : ∀ x, m.text[pos]? = some x → ¬(letterClass "" c).accepts x = true) :
    (Node.charClass (letterClass spelling c)).eval m limit call pos =
      failAt pos (letterClass spelling c).description := by
  rw [Node.eval]
  cases hx : m.text[pos]? with
  | none => rfl
  | some x => exact if_neg fun ha => h x hx (letterClass_accepts.2 (letterClass_accepts.1 ha))

/-- One more value in front does not change where a match ends. -/
theorem matchesTo_after {x : Run σ ε Result} {v : Value} {stop : Nat} :
    (∃ v' s', (x >>= fun r => pure (r.after v)) s = .ok (.matched stop v') s') ↔
      ∃ v' s', x s = .ok (.matched stop v') s' := by
  have hafter (r : Result) : (∃ v', r.after v = .matched stop v') ↔ ∃ v', r = .matched stop v' := by
    cases r with
    | failed => exact iff_of_false nofun nofun
    | matched q u => cases u <;> simp [Result.after]
  constructor
  · rintro ⟨v', s', h⟩
    obtain ⟨r, t, hr, h⟩ := bind_eq_ok h
    obtain ⟨hafter', rfl⟩ := EStateM.Result.ok.inj h
    obtain ⟨u, rfl⟩ := (hafter r).1 ⟨v', hafter'⟩
    exact ⟨u, t, hr⟩
  · rintro ⟨v', s', h⟩
    obtain ⟨v'', hv⟩ := (hafter _).2 ⟨v', rfl⟩
    refine ⟨v'', s', ?_⟩
    rw [bind_ok h, hv]
    rfl

theorem letterClasses_matchesTo {spelling : Char → String} {w : List Char} {pos stop : Nat} :
    (letterClasses spelling w).MatchesTo m limit call s pos stop ↔
      stop = pos + w.length ∧ AcceptsEach (slice m.text pos (pos + w.length)) w := by
  induction w generalizing pos with
  | nil =>
    have hslice : slice m.text pos (pos + 0) = [] := by
      rw [slice, Nat.add_sub_cancel_left, List.take_zero]
    rw [List.length_nil, hslice, and_iff_left .nil]
    constructor
    · rintro ⟨v, s', he⟩
      cases he
      rfl
    · rintro rfl
      exact ⟨_, _, rfl⟩
  | cons c w ih =>
    unfold Node.MatchesTo letterClasses at ih ⊢
    rw [List.map_cons, Node.eval_sequence_cons]
    by_cases hfirst : ∃ x, m.text[pos]? = some x ∧ (letterClass "" c).accepts x = true
    · obtain ⟨x, hx, ha⟩ := hfirst
      rw [Node.eval_letterClass hx ha, pure_bind, List.length_cons, slice_cons hx, AcceptsEach, List.forall₂_cons,
        and_iff_right ha, ← Nat.add_assoc, Nat.add_right_comm, ← AcceptsEach, ← ih]
      exact matchesTo_after
    · rw [Node.eval_letterClass_failed fun x hx ha => hfirst ⟨x, hx, ha⟩]
      refine iff_of_false ?_ ?_
      · rintro ⟨v, s', he⟩
        cases he
      · rintro ⟨-, ha⟩
        obtain ⟨x, xs, hx, -, hslice⟩ := List.forall₂_cons_right_iff.1 ha
        refine hfirst ⟨x, ?_, hx⟩
        have hhead := congrArg (·[0]?) hslice
        simpa [slice] using hhead

end

/-- The literal `w` that ignores case and the classes of its characters match the same, from every position of every text
and with the same end. -/
def SameMatches (w : List Char) : Prop :=
  ∀ (σ ε : Type) (m : Matcher σ ε) (limit : Nat) (call : String → Nat → Run σ ε Result) (s : State σ)
    (spelling : Char → String) (pos stop : Nat),
    (Node.literal (codes w) true).MatchesTo m limit call s pos stop ↔
      (letterClasses spelling w).MatchesTo m limit call s pos stop

/-- They match the same, as far as matches end inside the text. -/
def SameMatchesInside (w : List Char) : Prop :=
  ∀ (σ ε : Type) (m : Matcher σ ε) (limit : Nat) (call : String → Nat → Run σ ε Result) (s : State σ)
    (spelling : Char → String) (pos stop : Nat), stop ≤ m.text.length →
    ((Node.literal (codes w) true).MatchesTo m limit call s pos stop ↔
      (letterClasses spelling w).MatchesTo m limit call s pos stop)

theorem length_codes (w : List Char) : (codes w).length = w.length := List.length_map ..

theorem sameMatchesInside_iff_uniform {w : List Char} : SameMatchesInside w ↔ Uniform w := by
  constructor
  · intro h xs hl
    let m : Matcher Unit Unit := ⟨⟨[], "", []⟩, [], true, xs⟩
    have hm := h Unit Unit m 0 (fun _ _ => pure .failed) (State.initial ()) (fun _ => "") 0 w.length (Nat.le_of_eq hl.symm)
    have hslice : slice m.text 0 (0 + w.length) = xs := by
      rw [slice, List.drop_zero, Nat.add_sub_cancel_left, List.take_of_length_le (Nat.le_of_eq hl)]
    rwa [literal_matchesTo, letterClasses_matchesTo, length_codes, hslice, Nat.zero_add, and_iff_right rfl,
      and_iff_right rfl] at hm
  · intro h σ ε m limit call s spelling pos stop hstop
    rw [literal_matchesTo, letterClasses_matchesTo, length_codes]
    refine and_congr_right fun hend => h _ ?_
    rw [length_slice]
    omega

/-- Without a dotted pair no match of the literal ends past the end of the text. -/
theorem sameMatches_iff_inside {w : List Char} (hp : ¬DottedPair (codes w)) : SameMatches w ↔ SameMatchesInside w := by
  refine ⟨fun h σ ε m limit call s spelling pos stop _ => h σ ε m limit call s spelling pos stop, fun h => ?_⟩
  intro σ ε m limit call s spelling pos stop
  rw [literal_matchesTo, letterClasses_matchesTo, length_codes]
  refine and_congr_right fun _ => ?_
  by_cases hl : (slice m.text pos (pos + w.length)).length = w.length
  · exact sameMatchesInside_iff_uniform.1 h _ hl
  · refine iff_of_false (fun hlower => hl ?_) fun haccepts => hl haccepts.length_eq
    have hle := (length_le_of_lowerFrom_eq hp hlower).1
    rw [length_codes, length_codes, length_slice] at hle
    rw [length_slice]
    omega

/-- In lower case a literal can be written as classes: only a sigma at the end of a word stands against it. -/
theorem sameMatches_of_lower {w : List Char} (h : ∀ c ∈ w, lower [c.toNat] = [c.toNat])
    (hs : finalSigma (codes w) = false) (hp : ¬DottedPair (codes w)) : SameMatches w :=
  (sameMatches_iff_inside hp).2 (sameMatchesInside_iff_uniform.2
    (.of_caseEven (fun c hc => .of_lower (h c hc)) hs fun hd => hp hd.2))

/-- **A literal that ignores case matches like the classes of its characters**, as far as matches end inside the text, if
its characters are even, it has no small sigma at the end of a word, and not both a dotted capital I and a dotted pair,
and only then. Without a dotted pair its matches do end inside the text. A character that is its own lower-case form is
even. -/
theorem ignoreCase_uniform (w : List Char) :
    (SameMatchesInside w ↔ (∀ c ∈ w, CaseEven c) ∧ finalSigma (codes w) = false ∧
      ¬(capitalDotted ∈ codes w ∧ DottedPair (codes w))) ∧
    (¬DottedPair (codes w) → (SameMatches w ↔ SameMatchesInside w)) ∧
    ∀ c : Char, lower [c.toNat] = [c.toNat] → CaseEven c := by
  refine ⟨?_, sameMatches_iff_inside, fun c => CaseEven.of_lower⟩
  rw [sameMatchesInside_iff_uniform]
  constructor
  · exact fun h => ⟨fun c hc => h.caseEven hc, h.finalSigma_eq_false, h.not_dotted⟩
  · rintro ⟨heven, hsigma, hdotted⟩
    exact .of_caseEven heven hsigma hdotted

/-- The class of `S` matches the long s, whose upper-case form is `S`, and the literal does not. -/
theorem longS_not_uniform : ¬SameMatches ['S'] := by
  intro h
  have hs : Uniform ['S'] := sameMatchesInside_iff_uniform.1 fun σ ε m limit call s spelling pos stop _ =>
    h σ ε m limit call s spelling pos stop
  have hlower := (hs.caseEven List.mem_cons_self 'ſ').2 (by decide)
  exact absurd hlower (by decide)

end PegTemplate
