import PegTemplate.Proofs.Match.Trace

/-!
# Worlds with more in them

* `State.project` : a state with less in its world;
* `Matcher.Projects` : a matcher does what another one does, and keeps more in its world;
* `Matcher.applyTraced_projected`, `Matcher.parse_projected`, `Matcher.trace_projected` : **so do its parses, and the same
  happens in them.**
-/

namespace PegTemplate

section
variable {σ τ ε : Type}

/-- The state with that much of its world. -/
def State.project (f : τ → σ) (s : State τ) : State σ := ⟨s.memo, s.silence, s.farthest, s.expected, f s.world⟩

/-- The state with its log and with that much of its world. -/
def State.projectTraced (f : τ → σ) (s : State (Traced τ)) : State (Traced σ) := s.project (Prod.map f id)

theorem State.projectTraced_note (f : τ → σ) (s : State (Traced τ)) (p : Nat) (d : String) :
    (s.note p d).projectTraced f = (s.projectTraced f).note p d := by
  unfold State.note State.projectTraced State.project
  split_ifs <;> rfl

/-- The matchers differ in their actions only, and those of `m'` do what those of `m` do with a part of the world. -/
structure Matcher.Projects (f : τ → σ) (m' : Matcher τ ε) (m : Matcher σ ε) : Prop where
  grammar : m'.grammar = m.grammar
  cached : m'.cached = m.cached
  text : m'.text = m.text
  act : ∀ b i j ls (s : State τ), ∃ a w, m'.act b i j ls s = outcome a { s with world := w } ∧
    m.act b i j ls (s.project f) = outcome a { s.project f with world := f w }

/-- A run beside one with less in its world. -/
def projecting (ε : Type) (f : τ → σ) (hi : Nat) : Coupling (Traced τ) (Traced σ) ε where
  sound s := s.memo.EndsBy hi
  le _ _ := True
  halts _ _ := True
  linked s t := s.projectTraced f = t
  parted s t := s.projectTraced f = t
  excused _ := False

theorem projecting_lawful (f : τ → σ) (hi : Nat) : (projecting ε f hi).Lawful 0 hi where
  refl _ := trivial
  trans _ _ := trivial
  excused_le h _ := h
  le_note _ _ _ := trivial
  le_hush _ := trivial
  le_unhush _ := trivial
  sound_note {s p} d _ _ h := by
    change (s.note p d).memo.EndsBy hi
    rw [State.memo_note]
    exact h
  sound_hush h := h
  sound_unhush h := h
  halts_unhush _ := trivial
  linked_note {s t p} d _ _ h := by
    change (s.note p d).projectTraced f = t.note p d
    rw [State.projectTraced_note, show s.projectTraced f = t from h]
  linked_hush h := congrArg State.hush h
  linked_unhush h := congrArg State.unhush h
  parted_unhush h := congrArg State.unhush h

section
variable {f : τ → σ} {m' : Matcher τ ε} {m : Matcher σ ε} (h : Matcher.Projects f m' m)
include h

theorem Matcher.Projects.act_coupled (hi : Nat) (b : Block) (i j : Nat) (ls : List Value) :
    Coupled (projecting ε f hi) (fun _ => True) (m'.traced.act b i j ls) (m.traced.act b i j ls) := by
  intro s hs
  obtain ⟨a, w, hleft, hright⟩ := h.act b i j ls s.untraced
  rw [act_traced hleft]
  have hright' : ∀ t, s.projectTraced f = t →
      m.traced.act b i j ls t = outcome a { t with world := (f w, t.log) } := by
    rintro t rfl
    exact act_traced hright
  cases a with
  | ok v => exact ⟨trivial, hs, trivial, fun t ht => Or.inr ⟨_, hright' t ht, ht ▸ rfl⟩⟩
  | error e => exact ⟨trivial, trivial, fun t ht => Or.inr ⟨_, hright' t ht, ht ▸ rfl⟩⟩

theorem Matcher.Projects.settled_projectTraced (name : String) (pos : Nat) (r : Result) (s : State (Traced τ)) :
    (m'.traced.settled name pos r s).projectTraced f = m.traced.settled name pos r (s.projectTraced f) := by
  have hcached : m'.traced.cached = m.traced.cached := h.cached
  unfold settled
  rw [hcached]
  rfl

section
variable {limit hi depth : Nat} {name : String} {pos : Nat} {s : State (Traced τ)} (hs : s.memo.EndsBy hi)
include hs

omit h in
/-- An application that is remembered, or in progress. -/
theorem Matcher.known_projected {e : Entry} (hf : s.memo.find? name pos = some e) :
    (projecting ε f hi).Agree (·.EndsIn pos hi) s (m.applyTraced limit (depth + 1) name pos)
      (m'.applyTraced limit (depth + 1) name pos s) := by
  cases e with
  | begun =>
    rw [applyTraced_begun hf]
    refine ⟨trivial, hs, trivial, fun t ht => ?_⟩
    obtain rfl : s.projectTraced f = t := ht
    exact Or.inr ⟨_, applyTraced_begun hf, rfl⟩
  | done r =>
    rw [applyTraced_done hf]
    refine ⟨Memo.EndsBy.find? hs hf, hs, trivial, fun t ht => ?_⟩
    obtain rfl : s.projectTraced f = t := ht
    exact Or.inr ⟨_, applyTraced_done hf, rfl⟩

/-- An application that begins, if its body does what it does with less in the world. -/
theorem Matcher.Projects.entered_projected (hf : s.memo.find? name pos = none) {rule : Rule}
    (hr : m.grammar.rule? name = some rule)
    (hbody : Coupled (projecting ε f hi) (·.EndsIn pos hi)
      (rule.evalWith (Node.eval m'.traced limit (m'.applyTraced limit depth)) pos)
      (rule.evalWith (Node.eval m.traced limit (m.applyTraced limit depth)) pos)) :
    (projecting ε f hi).Agree (·.EndsIn pos hi) s (m.applyTraced limit (depth + 1) name pos)
      (m'.applyTraced limit (depth + 1) name pos s) := by
  have hr' : m'.grammar.rule? name = some rule := h.grammar ▸ hr
  have hentered := hbody ((s.emit .entered name pos).entered name pos) (Memo.EndsBy.enter hs name pos)
  cases hx : rule.evalWith (Node.eval m'.traced limit (m'.applyTraced limit depth)) pos
      ((s.emit .entered name pos).entered name pos) with
  | ok r s' =>
    rw [hx] at hentered
    obtain ⟨hend, hs', -, ht'⟩ := hentered
    rw [applyTraced_ok hf hr' hx]
    refine ⟨hend, m'.traced.endsBy_settled hs' hend, trivial, fun t ht => ?_⟩
    obtain rfl : s.projectTraced f = t := ht
    obtain ⟨t', hy, hl⟩ := (ht' (((s.projectTraced f).emit .entered name pos).entered name pos) rfl).resolve_left id
    obtain rfl : s'.projectTraced f = t' := hl
    exact Or.inr ⟨_, applyTraced_ok hf hr hy, congrArg (State.emit .left name pos ·)
      (h.settled_projectTraced name pos r s')⟩
  | error e s' =>
    rw [hx] at hentered
    rw [applyTraced_error hf hr' hx]
    refine ⟨trivial, trivial, fun t ht => ?_⟩
    obtain rfl : s.projectTraced f = t := ht
    obtain ⟨t', hy, hl⟩ :=
      (hentered.2.2 (((s.projectTraced f).emit .entered name pos).entered name pos) rfl).resolve_left id
    exact Or.inr ⟨t', applyTraced_error hf hr hy, hl⟩

end

/-- **An application does what it does with less in the world.** -/
theorem Matcher.Projects.applyTraced_projected {limit hi : Nat} (hm : m.Bound hi) (hlimit : hi ≤ limit) (depth : Nat) :
    ∀ name pos, 0 ≤ pos → pos ≤ hi → Coupled (projecting ε f hi) (·.EndsIn pos hi)
      (m'.applyTraced limit depth name pos) (m.applyTraced limit depth name pos) := by
  induction depth with
  | zero =>
    intro name pos _ hp s hs
    exact ⟨trivial, trivial, fun t ht => Or.inr ⟨t, rfl, ht⟩⟩
  | succ depth ih =>
    intro name pos hlo hp s hs
    cases hf : s.memo.find? name pos with
    | some e => exact known_projected hs hf
    | none =>
      cases hr : m.grammar.rule? name with
      | none =>
        rw [applyTraced_undefined hf (h.grammar ▸ hr)]
        refine ⟨trivial, trivial, fun t ht => ?_⟩
        obtain rfl : s.projectTraced f = t := ht
        exact Or.inr ⟨_, applyTraced_undefined hf hr, rfl⟩
      | some rule =>
        have hlen : m'.text.length ≤ hi := h.text ▸ hm.length_le
        have hfits : rule.body.FitsIn m'.text hi := h.text ▸ hm.fits name rule hr
        have htext : m'.traced.text = m.traced.text := h.text
        refine h.entered_projected hs hf hr (Rule.evalWith_coupled (projecting_lawful f hi) hlo hp ?_)
        exact Node.eval_coupled (projecting_lawful f hi) htext hlen hlimit hlimit (h.act_coupled hi) ih rule.body hfits
          pos hlo hp

/-! ## Parses -/

theorem Matcher.Projects.parseTraced_projected (name : String) (pos : Nat) (s : State (Traced τ)) :
    answer (m.parseTraced name pos (s.projectTraced f)) = answer (m'.parseTraced name pos s) ∧
      endState (m.parseTraced name pos (s.projectTraced f)) = (endState (m'.parseTraced name pos s)).projectTraced f := by
  have hlimit : m'.limit pos = m.limit pos := by
    unfold limit
    rw [h.text, h.grammar]
  have hdepth : m'.depth (m.limit pos) = m.depth (m.limit pos) := by
    unfold depth
    rw [h.grammar]
  have hx := h.applyTraced_projected (m.bound_limit pos) (Nat.le_refl _) (m.depth (m.limit pos)) name pos
    (Nat.zero_le _) (m.start_le_limit pos) (s.restart pos) (fun _ h => absurd h List.not_mem_nil)
  have hparse : m'.parseTraced name pos s =
      m'.applyTraced (m.limit pos) (m.depth (m.limit pos)) name pos (s.restart pos) := by
    rw [← hdepth, ← hlimit]
    rfl
  rw [hparse]
  change answer (m.applyTraced (m.limit pos) (m.depth (m.limit pos)) name pos ((s.restart pos).projectTraced f)) = _ ∧
    endState (m.applyTraced (m.limit pos) (m.depth (m.limit pos)) name pos ((s.restart pos).projectTraced f)) = _
  cases hs : m'.applyTraced (m.limit pos) (m.depth (m.limit pos)) name pos (s.restart pos) with
  | ok r s' =>
    rw [hs] at hx
    obtain ⟨t', hy, hl⟩ := (hx.2.2.2 _ rfl).resolve_left id
    rw [hy]
    exact ⟨rfl, hl.symm⟩
  | error e s' =>
    rw [hs] at hx
    obtain ⟨t', hy, hl⟩ := (hx.2.2 _ rfl).resolve_left id
    rw [hy]
    exact ⟨rfl, hl.symm⟩

/-- **A parse does what it does with less in the world.** -/
theorem Matcher.Projects.parse_projected (name : String) (pos : Nat) (s : State τ) :
    answer (m.parse name pos (s.project f)) = answer (m'.parse name pos s) ∧
      endState (m.parse name pos (s.project f)) = (endState (m'.parse name pos s)).project f := by
  obtain ⟨hanswer, hend⟩ := h.parseTraced_projected name pos (s.withLog [])
  obtain ⟨hanswer₁, hend₁⟩ := m.parseTraced_untraced name pos ((s.project f).withLog [])
  obtain ⟨hanswer₂, hend₂⟩ := m'.parseTraced_untraced name pos (s.withLog [])
  have hstart : (s.withLog []).projectTraced f = (s.project f).withLog [] := rfl
  rw [hstart] at hanswer hend
  constructor
  · exact (hanswer₁.trans hanswer).trans hanswer₂.symm
  · rw [hend] at hend₁
    exact hend₁.trans (congrArg (State.project f) hend₂).symm

/-- **The same happens in both parses.** -/
theorem Matcher.Projects.trace_projected (name : String) (pos : Nat) (s : State τ) :
    m.trace name pos (s.project f) = m'.trace name pos s :=
  congrArg State.log (h.parseTraced_projected name pos (s.withLog [])).2

end

end

end PegTemplate
