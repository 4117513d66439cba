import PegTemplate.Proofs.Match.Outcome
import PegTemplate.Proofs.Match.Parts
import PegTemplate.Proofs.Match.Progress

/-!
# Runs side by side

* `Coupling` : invariants of the states of one run, and relations between them and the states of another;
* `Coupled` : two computations keep a coupling (`Coupled.bind`, `Coupled.silently`, `Coupled.failAt`);
* `Node.eval_coupled` : so do the evaluations of an expression, if the applications of rules and the actions do.

A coupling has two halves. The invariants speak of the first run alone. The second half says that the second
run comes to the same, unless the first one ends in a state that excuses it. With nothing linked a coupling is
an invariant, with nothing excused it is a simulation.
-/

namespace PegTemplate

section
variable {σ τ ε α β : Type}

/-! ## Couplings -/

/-- What is kept of the states of a run, and of the states of another run beside it. -/
structure Coupling (σ τ ε : Type) where
  /-- Holds of the states of the first run while it goes on. -/
  sound : State σ → Prop
  /-- How the states of the first run may change. -/
  le : State σ → State σ → Prop
  /-- Holds where the first run stops. -/
  halts : Halt ε → State σ → Prop
  /-- Relates the states of both runs while they go on. -/
  linked : State σ → State τ → Prop
  /-- Relates the states of both runs where they stop. -/
  parted : State σ → State τ → Prop
  /-- If the first run ends in such a state, nothing is said of the second. -/
  excused : State σ → Prop

/-- A coupling is kept by the steps inside expressions that start from `lo` or later and end by `hi`. -/
structure Coupling.Lawful (C : Coupling σ τ ε) (lo hi : Nat) : Prop where
  refl : ∀ s, C.le s s
  trans : ∀ {s t u}, C.le s t → C.le t u → C.le s u
  excused_le : ∀ {s t}, C.excused s → C.le s t → C.excused t
  le_note : ∀ s p d, C.le s (s.note p d)
  le_hush : ∀ s, C.le s s.hush
  le_unhush : ∀ s, C.le s s.unhush
  sound_note : ∀ {s p} d, lo ≤ p → p ≤ hi → C.sound s → C.sound (s.note p d)
  sound_hush : ∀ {s}, C.sound s → C.sound s.hush
  sound_unhush : ∀ {s}, C.sound s → C.sound s.unhush
  halts_unhush : ∀ {e s}, C.halts e s → C.halts e s.unhush
  linked_note : ∀ {s t p} d, lo ≤ p → p ≤ hi → C.linked s t → C.linked (s.note p d) (t.note p d)
  linked_hush : ∀ {s t}, C.linked s t → C.linked s.hush t.hush
  linked_unhush : ∀ {s t}, C.linked s t → C.linked s.unhush t.unhush
  parted_unhush : ∀ {s t}, C.parted s t → C.parted s.unhush t.unhush

/-- What a coupling says of an outcome of the first run and of the second run `y`, both from linked states. -/
def Coupling.Agree (C : Coupling σ τ ε) (good : α → Prop) (s : State σ) (y : Run τ ε α) :
    EStateM.Result (Halt ε) (State σ) α → Prop
  | .ok a s' => good a ∧ C.sound s' ∧ C.le s s' ∧
    ∀ t, C.linked s t → C.excused s' ∨ ∃ t', y t = .ok a t' ∧ C.linked s' t'
  | .error e s' => C.halts e s' ∧ C.le s s' ∧
    ∀ t, C.linked s t → C.excused s' ∨ ∃ t', y t = .error e t' ∧ C.parted s' t'

/-- Two computations keep a coupling, and what the first one comes to is `good`. -/
def Coupled (C : Coupling σ τ ε) (good : α → Prop) (x : Run σ ε α) (y : Run τ ε α) : Prop :=
  ∀ s, C.sound s → C.Agree good s y (x s)

section
variable {C : Coupling σ τ ε} {lo hi : Nat} {good : α → Prop} {good' : β → Prop} {x : Run σ ε α} {y : Run τ ε α}

theorem Coupled.pure (hC : C.Lawful lo hi) {a : α} (ha : good a) :
    Coupled C good (Pure.pure a) (Pure.pure a) :=
  fun s hs => ⟨ha, hs, hC.refl s, fun t ht => Or.inr ⟨t, rfl, ht⟩⟩

theorem Coupled.bind (hC : C.Lawful lo hi) (hx : Coupled C good x y) {f : α → Run σ ε β} {g : α → Run τ ε β}
    (hf : ∀ a, good a → Coupled C good' (f a) (g a)) : Coupled C good' (x >>= f) (y >>= g) := by
  intro s hs
  have hxs := hx s hs
  cases hx : x s with
  | error e s' =>
    rw [hx] at hxs
    obtain ⟨hh, hl, ht⟩ := hxs
    rw [bind_error hx]
    refine ⟨hh, hl, fun t hst => ?_⟩
    rcases ht t hst with he | ⟨t', hy, hp⟩
    · exact Or.inl he
    · exact Or.inr ⟨t', bind_error hy, hp⟩
  | ok a s' =>
    rw [hx] at hxs
    obtain ⟨ha, hs', hl, ht⟩ := hxs
    rw [bind_ok hx]
    have hfs := hf a ha s' hs'
    cases hf : f a s' with
    | ok b s'' =>
      rw [hf] at hfs
      obtain ⟨hb, hs'', hl', ht'⟩ := hfs
      refine ⟨hb, hs'', hC.trans hl hl', fun t hst => ?_⟩
      rcases ht t hst with he | ⟨t', hy, hst'⟩
      · exact Or.inl (hC.excused_le he hl')
      · rw [bind_ok hy]
        exact ht' t' hst'
    | error e s'' =>
      rw [hf] at hfs
      obtain ⟨hh, hl', ht'⟩ := hfs
      refine ⟨hh, hC.trans hl hl', fun t hst => ?_⟩
      rcases ht t hst with he | ⟨t', hy, hst'⟩
      · exact Or.inl (hC.excused_le he hl')
      · rw [bind_ok hy]
        exact ht' t' hst'

theorem Coupled.silently (hC : C.Lawful lo hi) (h : Coupled C good x y) :
    Coupled C good (silently x) (silently y) := by
  intro s hs
  have hx := h s.hush (hC.sound_hush hs)
  cases hxs : x s.hush with
  | ok a s' =>
    rw [hxs] at hx
    obtain ⟨ha, hs', hl, ht⟩ := hx
    rw [silently_ok hxs]
    refine ⟨ha, hC.sound_unhush hs', hC.trans (hC.le_hush s) (hC.trans hl (hC.le_unhush s')), fun t hst => ?_⟩
    rcases ht t.hush (hC.linked_hush hst) with he | ⟨t', hy, hst'⟩
    · exact Or.inl (hC.excused_le he (hC.le_unhush s'))
    · exact Or.inr ⟨t'.unhush, silently_ok hy, hC.linked_unhush hst'⟩
  | error e s' =>
    rw [hxs] at hx
    obtain ⟨hh, hl, ht⟩ := hx
    rw [silently_error hxs]
    refine ⟨hC.halts_unhush hh, hC.trans (hC.le_hush s) (hC.trans hl (hC.le_unhush s')), fun t hst => ?_⟩
    rcases ht t.hush (hC.linked_hush hst) with he | ⟨t', hy, hp⟩
    · exact Or.inl (hC.excused_le he (hC.le_unhush s'))
    · exact Or.inr ⟨t'.unhush, silently_error hy, hC.parted_unhush hp⟩

theorem Coupled.failAt (hC : C.Lawful lo hi) {p : Nat} (h : lo ≤ p) (h' : p ≤ hi) (d : String) :
    Coupled C (·.EndsIn p hi) (failAt (ε := ε) p d) (failAt p d) :=
  fun s hs => ⟨trivial, hC.sound_note d h h' hs, hC.le_note s p d, fun t ht =>
    Or.inr ⟨t.note p d, rfl, hC.linked_note d h h' ht⟩⟩

end

/-! ## Expressions -/

section
variable {C : Coupling σ τ ε} {lo hi : Nat} {m : Matcher σ ε} {m' : Matcher τ ε} {limit limit' : Nat}
  {call : String → Nat → Run σ ε Result} {call' : String → Nat → Run τ ε Result}

/-- The evaluations of an expression, at all positions from `lo` up to `hi`, keep a coupling. -/
def NodeCoupled (C : Coupling σ τ ε) (lo hi : Nat) (m : Matcher σ ε) (m' : Matcher τ ε) (limit limit' : Nat)
    (call : String → Nat → Run σ ε Result) (call' : String → Nat → Run τ ε Result) (n : Node) : Prop :=
  ∀ p, lo ≤ p → p ≤ hi → Coupled C (·.EndsIn p hi) (n.eval m limit call p) (n.eval m' limit' call' p)

/-- A turn that goes forward leaves more turns than positions. -/
theorem repeatFrom_coupled (hC : C.Lawful lo hi) {step : Nat → Run σ ε Result} {step' : Nat → Run τ ε Result}
    (hstep : ∀ p, lo ≤ p → p ≤ hi → Coupled C (·.EndsIn p hi) (step p) (step' p)) (turns : Nat) :
    ∀ turns' p, lo ≤ p → p ≤ hi → hi < p + turns → hi < p + turns' →
      Coupled C (fun r => p ≤ r.1 ∧ r.1 ≤ hi) (repeatFrom step turns p) (repeatFrom step' turns' p) := by
  induction turns with
  | zero => intro turns' p _ hp ht _; omega
  | succ turns ih =>
    intro turns' p hlo hp ht ht'
    cases turns' with
    | zero => omega
    | succ turns' =>
      refine Coupled.bind hC (hstep p hlo hp) fun r hr => ?_
      cases r with
      | failed => exact Coupled.pure hC ⟨Nat.le_refl p, hp⟩
      | matched stop v =>
        obtain ⟨hps, hsh⟩ := hr
        dsimp only
        by_cases hstop : stop = p
        · rw [if_pos hstop, if_pos hstop]
          exact Coupled.pure hC ⟨Nat.le_refl p, hp⟩
        · rw [if_neg hstop, if_neg hstop]
          refine Coupled.bind hC (ih turns' stop (by omega) hsh (by omega) (by omega)) fun q hq => ?_
          exact Coupled.pure hC ⟨Nat.le_trans hps hq.1, hq.2⟩

theorem evalAll_coupled (hC : C.Lawful lo hi) {ns : List Node}
    (hns : ∀ n ∈ ns, NodeCoupled C lo hi m m' limit limit' call call' n) {p : Nat} (hlo : lo ≤ p) (hp : p ≤ hi) :
    Coupled C (∀ q ∈ ·, p ≤ q.1 ∧ q.1 ≤ hi) (evalAll m limit call ns p) (evalAll m' limit' call' ns p) := by
  induction ns generalizing p with
  | nil =>
    simp only [evalAll]
    exact Coupled.pure hC (by simp [hp])
  | cons n ns ih =>
    simp only [evalAll]
    refine Coupled.bind hC (hns n (by simp) p hlo hp) fun r hr => ?_
    cases r with
    | failed => exact Coupled.pure hC (by simp)
    | matched stop v =>
      obtain ⟨hps, hsh⟩ := hr
      refine Coupled.bind hC (ih (fun k hk => hns k (by simp [hk])) (by omega) hsh) fun q hq => ?_
      cases q with
      | none => exact Coupled.pure hC (by simp)
      | some q =>
        have hq := hq q rfl
        exact Coupled.pure hC (by simp; omega)

theorem evalFirst_coupled (hC : C.Lawful lo hi) {ns : List Node}
    (hns : ∀ n ∈ ns, NodeCoupled C lo hi m m' limit limit' call call' n) {p : Nat} (hlo : lo ≤ p) (hp : p ≤ hi) :
    Coupled C (·.EndsIn p hi) (evalFirst m limit call ns p) (evalFirst m' limit' call' ns p) := by
  induction ns with
  | nil =>
    simp only [evalFirst]
    exact Coupled.pure hC trivial
  | cons n ns ih =>
    simp only [evalFirst]
    refine Coupled.bind hC (hns n (by simp) p hlo hp) fun r hr => ?_
    cases r with
    | failed => exact ih fun k hk => hns k (by simp [hk])
    | matched stop v => exact Coupled.pure hC hr

/-- The evaluations of an expression keep every coupling that the applications of rules and the actions keep. -/
theorem Node.eval_coupled (hC : C.Lawful lo hi) (htext : m.text = m'.text) (hlen : m.text.length ≤ hi)
    (hlimit : hi ≤ limit) (hlimit' : hi ≤ limit')
    (hact : ∀ b i j ls, Coupled C (fun _ => True) (m.act b i j ls) (m'.act b i j ls))
    (hcall : ∀ r p, lo ≤ p → p ≤ hi → Coupled C (·.EndsIn p hi) (call r p) (call' r p)) (n : Node) :
    n.FitsIn m.text hi → NodeCoupled C lo hi m m' limit limit' call call' n := by
  have hfit : ∀ {p c}, m.text[p]? = some c → p + 1 ≤ hi := fun h =>
    Nat.le_trans (List.getElem?_eq_some_iff.1 h).1 hlen
  induction n using Node.induction with
  | literal t i =>
    intro hn p hlo hp
    simp only [Node.eval, ← htext]
    split
    · rename_i h
      exact Coupled.pure hC ⟨Nat.le_add_right .., hn t i .self p hp h⟩
    · exact Coupled.failAt hC hlo hp _
  | charClass c =>
    intro hn p hlo hp
    simp only [Node.eval, ← htext]
    cases h : m.text[p]? with
    | none => exact Coupled.failAt hC hlo hp _
    | some x =>
      dsimp only
      split
      · exact Coupled.pure hC ⟨Nat.le_add_right .., hfit h⟩
      · exact Coupled.failAt hC hlo hp _
  | any =>
    intro hn p hlo hp
    simp only [Node.eval, ← htext]
    cases h : m.text[p]? with
    | none => exact Coupled.failAt hC hlo hp _
    | some x => exact Coupled.pure hC ⟨Nat.le_add_right .., hfit h⟩
  | ref r =>
    intro _ p hlo hp
    simp only [Node.eval]
    exact hcall r p hlo hp
  | followedBy n ih =>
    intro hn p hlo hp
    simp only [Node.eval]
    refine Coupled.bind hC (Coupled.silently hC (ih (hn.child (by simp [children])) p hlo hp)) fun r hr => ?_
    cases r with
    | failed => exact Coupled.pure hC trivial
    | matched stop v => exact Coupled.pure hC ⟨Nat.le_refl p, hp⟩
  | notFollowedBy n ih =>
    intro hn p hlo hp
    simp only [Node.eval]
    refine Coupled.bind hC (Coupled.silently hC (ih (hn.child (by simp [children])) p hlo hp)) fun r hr => ?_
    cases r with
    | failed => exact Coupled.pure hC ⟨Nat.le_refl p, hp⟩
    | matched stop v => exact Coupled.pure hC trivial
  | text n ih =>
    intro hn p hlo hp
    simp only [Node.eval, ← htext]
    refine Coupled.bind hC (ih (hn.child (by simp [children])) p hlo hp) fun r hr => ?_
    cases r with
    | failed => exact Coupled.pure hC trivial
    | matched stop v => exact Coupled.pure hC hr
  | labeled l n ih =>
    intro hn p hlo hp
    simp only [Node.eval]
    exact ih (hn.child (by simp [children])) p hlo hp
  | repeated k n ih =>
    intro hn p hlo hp
    have hstep := ih (hn.child (by simp [children]))
    cases k with
    | optional =>
      simp only [Node.eval]
      refine Coupled.bind hC (hstep p hlo hp) fun r hr => ?_
      cases r with
      | failed => exact Coupled.pure hC ⟨Nat.le_refl p, hp⟩
      | matched stop v => exact Coupled.pure hC hr
    | star =>
      simp only [Node.eval]
      refine Coupled.bind hC (repeatFrom_coupled hC hstep _ _ p hlo hp (by omega) (by omega)) fun q hq => ?_
      exact Coupled.pure hC hq
    | plus =>
      simp only [Node.eval]
      refine Coupled.bind hC (repeatFrom_coupled hC hstep _ _ p hlo hp (by omega) (by omega)) fun q hq => ?_
      obtain ⟨stop, vs⟩ := q
      cases vs with
      | nil => exact Coupled.pure hC trivial
      | cons v vs => exact Coupled.pure hC hq
  | sequence ns ih =>
    intro hn p hlo hp
    simp only [Node.eval]
    refine Coupled.bind hC (evalAll_coupled hC (fun k hk => ih k hk (hn.child hk)) hlo hp) fun q hq => ?_
    cases q with
    | none => exact Coupled.pure hC trivial
    | some q => exact Coupled.pure hC (hq q rfl)
  | choice ns ih =>
    intro hn p hlo hp
    simp only [Node.eval]
    exact evalFirst_coupled hC (fun k hk => ih k hk (hn.child hk)) hlo hp
  | action n b ih hitems =>
    intro hn p hlo hp
    rw [Node.eval_action, Node.eval_action]
    have hin := (hn.child (c := n) (by simp [children])).items
    refine Coupled.bind hC (evalAll_coupled hC (fun k hk => hitems k hk (hin.child hk)) hlo hp) fun q hq => ?_
    cases q with
    | none => exact Coupled.pure hC trivial
    | some q => exact Coupled.bind hC (hact b p q.1 _) fun v _ => Coupled.pure hC (hq q rfl)

/-- The body of a rule keeps a coupling, with or without a display name. -/
theorem Rule.evalWith_coupled (hC : C.Lawful lo hi) {eval : Node → Nat → Run σ ε Result}
    {eval' : Node → Nat → Run τ ε Result} {r : Rule} {p : Nat} (hlo : lo ≤ p) (hp : p ≤ hi)
    (h : Coupled C (·.EndsIn p hi) (eval r.body p) (eval' r.body p)) :
    Coupled C (·.EndsIn p hi) (r.evalWith eval p) (r.evalWith eval' p) := by
  unfold Rule.evalWith
  cases r.display with
  | none => exact h
  | some d =>
    refine Coupled.bind hC (Coupled.silently hC h) fun q hq => ?_
    cases q with
    | failed => exact Coupled.failAt hC hlo hp d
    | matched stop v => exact Coupled.pure hC hq

end

end

end PegTemplate
