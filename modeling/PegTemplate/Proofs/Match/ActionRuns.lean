import PegTemplate.Proofs.Match.Output
import PegTemplate.Proofs.Match.Projection

/-!
# Runs of actions

* `ActionRun` : a run of the action of a block: its match, its labels and the world that it starts in;
* `Matcher.logged` : the matcher, in a world with a list of the runs so far;
* `Matcher.runs` : the runs of actions in a parse, in order, whatever the parse comes to;
* `Matcher.act_logged` : a block whose action runs is one more in the list, and else nothing happens;
* `Matcher.logged_projects` : the matcher with the list does what the matcher does.
-/

namespace PegTemplate

/-- A run of the action of a block. -/
structure ActionRun (σ : Type) where
  /-- The index of the block. -/
  index : Nat
  start : Nat
  stop : Nat
  labels : List Value
  /-- The world before the run. -/
  world : σ

/-- A world with a list of runs, the last one at the end. -/
abbrev Logged (σ : Type) := σ × List (ActionRun σ)

section
variable {σ ε : Type}

/-- The action at an index, in a world with a list of runs. A run that raises an error is one of them. -/
def Action.logged (index : Nat) (a : Action σ ε) : Action (Logged σ) ε where
  arity := a.arity
  run text start stop labels w :=
    let x := a.run text start stop labels w.1
    outcome (answer x) (endState x, w.2 ++ [⟨index, start, stop, labels, w.1⟩])

/-- The matcher, in a world with a list of runs. -/
def Matcher.logged (m : Matcher σ ε) : Matcher (Logged σ) ε where
  grammar := m.grammar
  actions := m.actions.mapIdx Action.logged
  cached := m.cached
  text := m.text

/-- The state with an empty list of runs. -/
def State.unlogged (s : State σ) : State (Logged σ) := s.project fun w => (w, [])

/-- The runs of actions so far. -/
def State.runs (s : State (Logged σ)) : List (ActionRun σ) := s.world.2

/-- The runs of actions in a parse, in order. -/
def Matcher.runs (m : Matcher σ ε) (name : String) (pos : Nat) (s : State σ) : List (ActionRun σ) :=
  (endState (m.logged.parse name pos s.unlogged)).runs

/-- What a run of an action comes to, and the world after it. -/
def ActionRun.result (m : Matcher σ ε) (a : Action σ ε) (c : ActionRun σ) : EStateM.Result ε σ Value :=
  a.run m.text c.start c.stop c.labels c.world

/-! ## Actions -/

/-- **A block whose action runs is one more in the list**, and if it has no action, or one with another number of
parameters, the match stops with the state as it was. -/
theorem Matcher.act_logged (m : Matcher σ ε) (b : Block) (start stop : Nat) (labels : List Value)
    (s : State (Logged σ)) :
    (∃ a, m.actions[b.index]? = some a ∧ a.arity = labels.length ∧
      ∃ c : ActionRun σ, c = ⟨b.index, start, stop, labels, s.world.1⟩ ∧
        m.logged.act b start stop labels s = outcome ((answer (c.result m a)).mapError .raised)
          { s with world := (endState (c.result m a), s.runs ++ [c]) }) ∨
    (∃ e : Halt ε, (∀ f, e ≠ .raised f) ∧ m.logged.act b start stop labels s = .error e s ∧
      m.act b start stop labels (s.project Prod.fst) = .error e (s.project Prod.fst)) := by
  unfold Matcher.act
  simp only [Matcher.logged, List.getElem?_mapIdx]
  cases m.actions[b.index]? with
  | none => exact .inr ⟨.missingAction b.index, nofun, rfl, rfl⟩
  | some a =>
    simp only [Option.map_some]
    have harity : (a.logged b.index).arity = a.arity := rfl
    rw [harity]
    by_cases hlen : a.arity = labels.length
    · rw [if_pos hlen]
      refine .inl ⟨a, rfl, hlen, _, rfl, ?_⟩
      rw [inWorld_eq]
      simp only [Action.logged, answer_outcome, endState_outcome]
      rfl
    · rw [if_neg hlen, if_neg hlen]
      exact .inr ⟨.wrongArity b.index, nofun, rfl, rfl⟩

/-- **The matcher with a list of runs does what the matcher does.** -/
theorem Matcher.logged_projects (m : Matcher σ ε) : Matcher.Projects Prod.fst m.logged m where
  grammar := rfl
  cached := rfl
  text := rfl
  act b i j ls s := by
    rcases m.act_logged b i j ls s with ⟨a, ha, hlen, c, rfl, h⟩ | ⟨e, -, h, h'⟩
    · refine ⟨_, _, h, ?_⟩
      unfold Matcher.act
      rw [ha]
      dsimp only
      rw [if_pos hlen, inWorld_eq]
      rfl
    · exact ⟨.error e, s.world, h, h'⟩

end

end PegTemplate
