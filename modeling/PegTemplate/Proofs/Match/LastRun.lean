import PegTemplate.Proofs.Match.ActionRuns
import PegTemplate.Proofs.Match.Kept

/-!
# The last run of an action

* `ActionRun.Returns`, `ActionRun.Raises` : what a run of an action comes to;
* `Ended`, `Ending` : computations that stop at the first run that raises an error, with that error;
* `Matcher.parse_ended` : **so does every parse.** All runs but the last one have come to values, and so has the last one,
  unless the parse stops with what it raises, in the world that it leaves behind.
-/

namespace PegTemplate

section
variable {σ ε : Type}

/-- A run of an action comes to a value. -/
def ActionRun.Returns (m : Matcher σ ε) (c : ActionRun σ) : Prop :=
  ∃ a v w, m.actions[c.index]? = some a ∧ c.result m a = .ok v w

/-- A run of an action raises an error, and leaves a world behind. -/
def ActionRun.Raises (m : Matcher σ ε) (c : ActionRun σ) (f : ε) (w : σ) : Prop :=
  ∃ a, m.actions[c.index]? = some a ∧ c.result m a = .error f w

theorem ActionRun.Raises.not_returns {m : Matcher σ ε} {c : ActionRun σ} {f : ε} {w : σ} (h : c.Raises m f w) :
    ¬c.Returns m := by
  rintro ⟨a, v, w', ha, hv⟩
  obtain ⟨a', ha', hf⟩ := h
  obtain rfl : a = a' := Option.some.inj (ha.symm.trans ha')
  rw [hv] at hf
  cases hf

theorem ActionRun.Raises.unique {m : Matcher σ ε} {c : ActionRun σ} {f f' : ε} {w w' : σ} (h : c.Raises m f w)
    (h' : c.Raises m f' w') : f = f' ∧ w = w' := by
  obtain ⟨a, ha, hf⟩ := h
  obtain ⟨a', ha', hf'⟩ := h'
  obtain rfl : a = a' := Option.some.inj (ha.symm.trans ha')
  rw [hf] at hf'
  cases hf'
  exact ⟨rfl, rfl⟩

/-- What a computation with these runs comes to, if it stops at the first run that raises an error. -/
def Ended (m : Matcher σ ε) {α : Type} (rs : List (ActionRun σ)) (w : σ) : Except (Halt ε) α → Prop
  | .error (.raised f) => ∃ before c, rs = before ++ [c] ∧ (∀ r ∈ before, r.Returns m) ∧ c.Raises m f w
  | _ => ∀ r ∈ rs, r.Returns m

theorem Ended.action_of_mem {m : Matcher σ ε} {α : Type} {rs : List (ActionRun σ)} {w : σ} {x : Except (Halt ε) α}
    (h : Ended m rs w x) {c : ActionRun σ} (hc : c ∈ rs) : ∃ a, m.actions[c.index]? = some a := by
  have hreturns : c.Returns m → ∃ a, m.actions[c.index]? = some a := fun ⟨a, _, _, ha, _⟩ => ⟨a, ha⟩
  cases x with
  | ok v => exact hreturns (h c hc)
  | error e =>
    cases e with
    | raised f =>
      obtain ⟨before, d, rfl, hbefore, a, ha, -⟩ := h
      rcases List.mem_append.mp hc with hc | hc
      · exact hreturns (hbefore c hc)
      · exact ⟨a, List.mem_singleton.mp hc ▸ ha⟩
    | _ => exact hreturns (h c hc)

/-- A computation that stops at the first run that raises an error, if none has before. -/
def Ending (m : Matcher σ ε) (α : Type) (x : Run (Logged σ) ε α) : Prop :=
  ∀ s, (∀ r ∈ s.runs, r.Returns m) → Ended m (endState (x s)).runs (endState (x s)).world.1 (answer (x s))

theorem ending_kept (m : Matcher σ ε) : KeptBySteps (Ending m) where
  pure _ _ h := h
  bind {α β x f} hx hf s h := by
    have hs := hx s h
    cases hxs : x s with
    | ok a t =>
      rw [hxs] at hs
      rw [bind_ok hxs]
      exact hf s a t hxs t hs
    | error e t =>
      rw [hxs] at hs
      rw [bind_error hxs]
      cases e <;> exact hs
  silently {α x} hx s h := by
    have hs := hx s.hush h
    cases hxs : x s.hush with
    | ok a t =>
      rw [hxs] at hs
      rw [silently_ok hxs]
      exact hs
    | error e t =>
      rw [hxs] at hs
      rw [silently_error hxs]
      cases e <;> exact hs
  record p d s h := by
    change ∀ r ∈ (s.note p d).world.2, r.Returns m
    rw [State.world_note]
    exact h
  exhausted _ _ h := h

theorem Matcher.act_ending (m : Matcher σ ε) (b : Block) (i j : Nat) (ls : List Value) :
    Ending m Value (m.logged.act b i j ls) := by
  intro s h
  rcases m.act_logged b i j ls s with ⟨a, ha, -, c, hc, hact⟩ | ⟨e, he, hact, -⟩
  · rw [hact, answer_outcome, endState_outcome]
    subst hc
    cases hrun : (⟨b.index, i, j, ls, s.world.1⟩ : ActionRun σ).result m a with
    | ok v w =>
      change ∀ r ∈ s.runs ++ [_], r.Returns m
      rw [List.forall_mem_append, List.forall_mem_singleton]
      exact ⟨h, a, v, w, ha, hrun⟩
    | error f w => exact ⟨s.runs, _, rfl, h, a, ha, hrun⟩
  · rw [hact]
    cases e with
    | raised f => exact absurd rfl (he f)
    | _ => exact h

theorem Matcher.apply_ending (m : Matcher σ ε) (limit depth : Nat) :
    ∀ name pos, Ending m Result (m.logged.apply limit depth name pos) := by
  induction depth with
  | zero => exact fun _ _ _ h => h
  | succ depth ih =>
    intro name pos s h
    cases hf : s.memo.find? name pos with
    | some known =>
      cases known with
      | begun =>
        rw [apply_begun hf]
        exact h
      | done q =>
        rw [apply_done hf]
        exact h
    | none =>
      cases hr : m.logged.grammar.rule? name with
      | none =>
        rw [apply_undefined hf hr]
        exact h
      | some rule =>
        rw [apply_entered hf hr]
        have heval : Ending m Result (rule.body.eval m.logged limit (m.logged.apply limit depth) pos) :=
          Node.eval_kept (ending_kept m) rule.body (fun r _ => ih r) (fun _ b _ i j ls _ => m.act_ending b i j ls) pos
        refine (ending_kept m).bind (Rule.evalWith_kept (ending_kept m) heval) (fun _ q _ _ t ht => ?_)
          (s.entered name pos) h
        exact ht

/-- **A parse stops at the first run of an action that raises an error, with that error**, and in the world that the run
has left behind. -/
theorem Matcher.parse_ended (m : Matcher σ ε) (name : String) (pos : Nat) (s : State σ) :
    Ended m (m.runs name pos s) (endState (m.parse name pos s)).world (answer (m.parse name pos s)) := by
  have h := m.apply_ending (m.limit pos) (m.depth (m.limit pos)) name pos (s.unlogged.restart pos) nofun
  obtain ⟨hanswer, hend⟩ := m.logged_projects.parse_projected name pos s.unlogged
  have hstart : s.unlogged.project Prod.fst = s := rfl
  rw [hstart] at hanswer hend
  rw [hanswer, hend]
  exact h

end

end PegTemplate
