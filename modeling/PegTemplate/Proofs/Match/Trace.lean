import PegTemplate.Proofs.Match.Coupling
import PegTemplate.Proofs.Match.Step

/-!
# Traces

* `Happening`, `Event` : what happens to applications, with the applications in progress at that time;
* `Matcher.traced`, `Matcher.applyTraced`, `Matcher.parseTraced` : a matcher whose world has a log, in which the
  application of rules puts what happens;
* `Matcher.trace` : the log of a parse, the newest event first;
* `Matcher.parseTraced_untraced` : with its log taken away, a traced parse is a parse.
-/

namespace PegTemplate

/-! ## Events -/

/-- What happens to an application. -/
inductive Happening where
  /-- It begins, and its body is matched. -/
  | entered
  /-- It is done. -/
  | left
  /-- Its result is known and is used again. -/
  | recalled
  /-- It is in progress, and fails. -/
  | reentered
  deriving DecidableEq

/-- Something that happens while a text is matched. -/
structure Event where
  kind : Happening
  application : Application
  /-- The applications in progress, the newest first. -/
  active : List Application
  /-- Failures are not noted. -/
  silent : Bool
  deriving DecidableEq

/-- A world with a log of events, the newest first. -/
abbrev Traced (σ : Type) := σ × List Event

section
variable {σ ε : Type}

/-- What happens to the application of a rule in a state. -/
def State.event (s : State σ) (kind : Happening) (name : String) (pos : Nat) : Event where
  kind := kind
  application := (name, pos)
  active := s.memo.begun
  silent := 0 < s.silence

/-- The state with a log. -/
def State.withLog (s : State σ) (log : List Event) : State (Traced σ) :=
  ⟨s.memo, s.silence, s.farthest, s.expected, (s.world, log)⟩

/-- The events so far. -/
def State.log (s : State (Traced σ)) : List Event := s.world.2

/-- The state without its log. -/
def State.untraced (s : State (Traced σ)) : State σ :=
  ⟨s.memo, s.silence, s.farthest, s.expected, s.world.1⟩

/-- Puts an event into the log. -/
def State.emit (kind : Happening) (name : String) (pos : Nat) (s : State (Traced σ)) : State (Traced σ) :=
  { s with world := (s.world.1, s.event kind name pos :: s.log) }

/-- The action, in a world with a log. -/
def Action.traced (a : Action σ ε) : Action (Traced σ) ε where
  arity := a.arity
  run text start stop labels w := match a.run text start stop labels w.1 with
    | .ok v w' => .ok v (w', w.2)
    | .error e w' => .error e (w', w.2)

/-- The matcher, in a world with a log. -/
def Matcher.traced (m : Matcher σ ε) : Matcher (Traced σ) ε where
  grammar := m.grammar
  actions := m.actions.map Action.traced
  cached := m.cached
  text := m.text

theorem Matcher.traced_text (m : Matcher σ ε) : m.traced.text = m.text := rfl

/-- Applies a rule as `Matcher.apply` does, and logs what happens. -/
def Matcher.applyTraced (m : Matcher σ ε) (limit : Nat) : (depth : Nat) → String → (pos : Nat) →
    Run (Traced σ) ε Result
  | 0, _, _ => throw .exhausted
  | depth + 1, name, pos => do
    match (← get).memo.find? name pos with
    | some .begun =>
      modify (·.emit .reentered name pos)
      return .failed
    | some (.done r) =>
      modify (·.emit .recalled name pos)
      return r
    | none =>
      modify fun s => (s.emit .entered name pos).entered name pos
      match m.grammar.rule? name with
      | none => throw (.undefinedRule name)
      | some rule =>
        let r ← rule.evalWith (Node.eval m.traced limit (m.applyTraced limit depth)) pos
        modify fun s => (m.traced.settled name pos r s).emit .left name pos
        return r

/-- Applies a rule as `Matcher.parse` does, and logs what happens. -/
def Matcher.parseTraced (m : Matcher σ ε) (name : String) (pos : Nat) : Run (Traced σ) ε Result := do
  modify (·.restart pos)
  m.applyTraced (m.limit pos) (m.depth (m.limit pos)) name pos

/-- What happens in a parse, the newest event first. -/
def Matcher.trace (m : Matcher σ ε) (name : String) (pos : Nat) (s : State σ) : List Event :=
  (endState (m.parseTraced name pos (s.withLog []))).log

/-! ## One application -/

section
variable {m : Matcher σ ε} {limit depth : Nat} {name : String} {pos : Nat} {rule : Rule} {r : Result} {e : Halt ε}
  {s s' : State (Traced σ)}

theorem Matcher.applyTraced_begun (h : s.memo.find? name pos = some .begun) :
    m.applyTraced limit (depth + 1) name pos s = .ok .failed (s.emit .reentered name pos) := by
  rw [Matcher.applyTraced, bind_get, h]
  rfl

theorem Matcher.applyTraced_done (h : s.memo.find? name pos = some (.done r)) :
    m.applyTraced limit (depth + 1) name pos s = .ok r (s.emit .recalled name pos) := by
  rw [Matcher.applyTraced, bind_get, h]
  rfl

theorem Matcher.applyTraced_undefined (h : s.memo.find? name pos = none) (hr : m.grammar.rule? name = none) :
    m.applyTraced limit (depth + 1) name pos s =
      .error (.undefinedRule name) ((s.emit .entered name pos).entered name pos) := by
  rw [Matcher.applyTraced, bind_get, h]
  dsimp only
  rw [bind_modify, hr]
  rfl

theorem Matcher.applyTraced_ok (h : s.memo.find? name pos = none) (hr : m.grammar.rule? name = some rule)
    (hx : rule.evalWith (Node.eval m.traced limit (m.applyTraced limit depth)) pos
      ((s.emit .entered name pos).entered name pos) = .ok r s') :
    m.applyTraced limit (depth + 1) name pos s = .ok r ((m.traced.settled name pos r s').emit .left name pos) := by
  rw [Matcher.applyTraced, bind_get, h]
  dsimp only
  rw [bind_modify, hr]
  dsimp only
  exact bind_ok hx

theorem Matcher.applyTraced_error (h : s.memo.find? name pos = none) (hr : m.grammar.rule? name = some rule)
    (hx : rule.evalWith (Node.eval m.traced limit (m.applyTraced limit depth)) pos
      ((s.emit .entered name pos).entered name pos) = .error e s') :
    m.applyTraced limit (depth + 1) name pos s = .error e s' := by
  rw [Matcher.applyTraced, bind_get, h]
  dsimp only
  rw [bind_modify, hr]
  dsimp only
  exact bind_error hx

end

/-! ## Actions -/

/-- A traced action does what the action does. -/
theorem Matcher.act_traced {m : Matcher σ ε} {b : Block} {start stop : Nat} {labels : List Value}
    {a : Except (Halt ε) Value} {s : State (Traced σ)} {w : σ}
    (h : m.act b start stop labels s.untraced = outcome a { s.untraced with world := w }) :
    m.traced.act b start stop labels s = outcome a { s with world := (w, s.log) } := by
  have hall : m.traced.act b start stop labels s = match m.act b start stop labels s.untraced with
      | .ok v s' => .ok v (s'.withLog s.log)
      | .error e s' => .error e (s'.withLog s.log) := by
    unfold Matcher.act
    simp only [Matcher.traced, List.getElem?_map]
    cases m.actions[b.index]? with
    | none => rfl
    | some a =>
      simp only [Option.map_some, Action.traced]
      by_cases hl : a.arity = labels.length
      · rw [if_pos hl, if_pos hl]
        unfold inWorld
        cases hw : a.run m.text start stop labels s.world.1 with
        | ok v w => simp only [State.untraced, hw]; rfl
        | error e w => simp only [State.untraced, hw]; rfl
      · rw [if_neg hl, if_neg hl]
        rfl
  rw [hall, h]
  cases a <;> rfl

/-! ## The run without its log -/

theorem State.log_note (s : State (Traced σ)) (p : Nat) (d : String) : (s.note p d).log = s.log := by
  unfold State.note
  split_ifs <;> rfl

theorem State.untraced_note (s : State (Traced σ)) (p : Nat) (d : String) :
    (s.note p d).untraced = s.untraced.note p d := by
  unfold State.note State.untraced
  split_ifs <;> rfl

/-- A run with a log beside the run without it. -/
def erasure (σ ε : Type) (hi : Nat) : Coupling (Traced σ) σ ε where
  sound s := s.memo.EndsBy hi
  le _ _ := True
  halts _ _ := True
  linked s t := s.untraced = t
  parted s t := s.untraced = t
  excused _ := False

theorem erasure_lawful (hi : Nat) : (erasure σ ε hi).Lawful 0 hi where
  refl _ := trivial
  trans _ _ := trivial
  excused_le h _ := h
  le_note _ _ _ := trivial
  le_hush _ := trivial
  le_unhush _ := trivial
  sound_note {s p} d _ _ h := by
    change (s.note p d).memo.EndsBy hi
    rw [State.memo_note]
    exact h
  sound_hush h := h
  sound_unhush h := h
  halts_unhush _ := trivial
  linked_note {s t p} d _ _ h := by
    change (s.note p d).untraced = t.note p d
    rw [State.untraced_note, show s.untraced = t from h]
  linked_hush h := congrArg State.hush h
  linked_unhush h := congrArg State.unhush h
  parted_unhush h := congrArg State.unhush h

theorem Matcher.act_coupled (m : Matcher σ ε) (hi : Nat) (b : Block) (i j : Nat) (ls : List Value) :
    Coupled (erasure σ ε hi) (fun _ => True) (m.traced.act b i j ls) (m.act b i j ls) := by
  intro s hs
  obtain ⟨a, w, -, hw⟩ := m.act_outcome b i j ls s.untraced
  rw [act_traced hw]
  have hright : ∀ t, s.untraced = t → m.act b i j ls t = outcome a { t with world := w } := fun t ht => ht ▸ hw
  cases a with
  | ok v => exact ⟨trivial, hs, trivial, fun t ht => Or.inr ⟨_, hright t ht, ht ▸ rfl⟩⟩
  | error e => exact ⟨trivial, trivial, fun t ht => Or.inr ⟨_, hright t ht, ht ▸ rfl⟩⟩

/-- An application with a log does what the application without it does. -/
theorem Matcher.applyTraced_coupled {m : Matcher σ ε} {limit hi : Nat} (hm : m.Bound hi) (hlimit : hi ≤ limit)
    (depth : Nat) : ∀ name pos, 0 ≤ pos → pos ≤ hi → Coupled (erasure σ ε hi) (·.EndsIn pos hi)
      (m.applyTraced limit depth name pos) (m.apply limit depth name pos) := by
  induction depth with
  | zero =>
    intro name pos _ hp s hs
    exact ⟨trivial, trivial, fun t ht => Or.inr ⟨t, rfl, ht⟩⟩
  | succ depth ih =>
    intro name pos hlo hp s hs
    cases hf : s.memo.find? name pos with
    | some e =>
      cases e with
      | begun =>
        rw [applyTraced_begun hf]
        refine ⟨trivial, hs, trivial, fun t ht => ?_⟩
        obtain rfl : s.untraced = t := ht
        exact Or.inr ⟨_, apply_begun hf, rfl⟩
      | done r =>
        rw [applyTraced_done hf]
        refine ⟨Memo.EndsBy.find? hs hf, hs, trivial, fun t ht => ?_⟩
        obtain rfl : s.untraced = t := ht
        exact Or.inr ⟨_, apply_done hf, rfl⟩
    | none =>
      cases hr : m.grammar.rule? name with
      | none =>
        rw [applyTraced_undefined hf hr]
        refine ⟨trivial, trivial, fun t ht => ?_⟩
        obtain rfl : s.untraced = t := ht
        exact Or.inr ⟨_, apply_undefined hf hr, rfl⟩
      | some rule =>
        have hbody := Rule.evalWith_coupled (erasure_lawful hi) hlo hp
          (Node.eval_coupled (erasure_lawful hi) rfl hm.length_le hlimit hlimit (m.act_coupled hi) ih rule.body
            (hm.fits name rule hr) pos hlo hp) ((s.emit .entered name pos).entered name pos)
          (Memo.EndsBy.enter hs name pos)
        cases hx : rule.evalWith (Node.eval m.traced limit (m.applyTraced limit depth)) pos
            ((s.emit .entered name pos).entered name pos) with
        | ok r s' =>
          rw [hx] at hbody
          obtain ⟨hend, hs', -, ht'⟩ := hbody
          rw [applyTraced_ok hf hr hx]
          refine ⟨hend, m.traced.endsBy_settled hs' hend, trivial, fun t ht => ?_⟩
          obtain rfl : s.untraced = t := ht
          obtain ⟨t', hy, hl⟩ := (ht' (s.untraced.entered name pos) rfl).resolve_left id
          obtain rfl : s'.untraced = t' := hl
          exact Or.inr ⟨_, apply_ok hf hr hy, rfl⟩
        | error e s' =>
          rw [hx] at hbody
          rw [applyTraced_error hf hr hx]
          refine ⟨trivial, trivial, fun t ht => ?_⟩
          obtain rfl : s.untraced = t := ht
          obtain ⟨t', hy, hl⟩ := (hbody.2.2 (s.untraced.entered name pos) rfl).resolve_left id
          exact Or.inr ⟨t', apply_error hf hr hy, hl⟩

/-- **A parse with a log does what the parse without it does.** -/
theorem Matcher.parseTraced_untraced (m : Matcher σ ε) (name : String) (pos : Nat) (s : State (Traced σ)) :
    answer (m.parse name pos s.untraced) = answer (m.parseTraced name pos s) ∧
      endState (m.parse name pos s.untraced) = (endState (m.parseTraced name pos s)).untraced := by
  have h := applyTraced_coupled (m.bound_limit pos) (Nat.le_refl _) (m.depth (m.limit pos)) name pos
    (Nat.zero_le _) (m.start_le_limit pos) (s.restart pos) (fun _ h => absurd h List.not_mem_nil)
  change answer (m.apply (m.limit pos) (m.depth (m.limit pos)) name pos (s.restart pos).untraced) =
      answer (m.applyTraced (m.limit pos) (m.depth (m.limit pos)) name pos (s.restart pos)) ∧
    endState (m.apply (m.limit pos) (m.depth (m.limit pos)) name pos (s.restart pos).untraced) =
      (endState (m.applyTraced (m.limit pos) (m.depth (m.limit pos)) name pos (s.restart pos))).untraced
  cases hx : m.applyTraced (m.limit pos) (m.depth (m.limit pos)) name pos (s.restart pos) with
  | ok r s' =>
    rw [hx] at h
    obtain ⟨t', hy, hl⟩ := (h.2.2.2 _ rfl).resolve_left id
    rw [hy]
    exact ⟨rfl, hl.symm⟩
  | error e s' =>
    rw [hx] at h
    obtain ⟨t', hy, hl⟩ := (h.2.2 _ rfl).resolve_left id
    rw [hy]
    exact ⟨rfl, hl.symm⟩

theorem Matcher.parse_answer (m : Matcher σ ε) (name : String) (pos : Nat) (s : State σ) :
    answer (m.parse name pos s) = answer (m.parseTraced name pos (s.withLog [])) :=
  (m.parseTraced_untraced name pos (s.withLog [])).1

end

end PegTemplate
