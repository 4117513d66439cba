import PegTemplate.Match.Eval

/-!
# Outcomes

* `answer`, `endState`, `outcome` : what a computation comes to, the state that it ends in, and both together;
* `State.hush`, `State.unhush` : how `silently` changes a state;
* `starFrom` : a repetition of a number of turns. More turns than it needs make no difference (`starFrom_of_le`);
* `Node.eval_sequence_cons`, `Node.eval_choice_cons`, `Node.eval_plus`, `Node.eval_action` : expressions by their parts.
-/

namespace PegTemplate

section
variable {σ ε α β : Type}

/-- What a computation comes to. -/
def answer : EStateM.Result ε σ α → Except ε α
  | .ok a _ => .ok a
  | .error e _ => .error e

/-- The state that a computation ends in. -/
def endState : EStateM.Result ε σ α → σ
  | .ok _ s => s
  | .error _ s => s

/-- A computation that comes to `a` and ends in `s`. -/
def outcome : Except ε α → σ → EStateM.Result ε σ α
  | .ok a, s => .ok a s
  | .error e, s => .error e s

@[simp]
theorem answer_outcome (a : Except ε α) (s : σ) : answer (outcome a s) = a := by
  cases a <;> rfl

@[simp]
theorem endState_outcome (a : Except ε α) (s : σ) : endState (outcome a s) = s := by
  cases a <;> rfl

/-- One more expression is matched whose failures are not noted. -/
def State.hush (s : State σ) : State σ := { s with silence := s.silence + 1 }

/-- One expression less is matched whose failures are not noted. -/
def State.unhush (s : State σ) : State σ := { s with silence := s.silence - 1 }

theorem silently_ok {x : Run σ ε α} {s s' : State σ} {a : α} (h : x s.hush = .ok a s') :
    silently x s = .ok a s'.unhush := by
  unfold silently
  unfold State.hush at h
  rw [h]
  rfl

theorem silently_error {x : Run σ ε α} {s s' : State σ} {e : Halt ε} (h : x s.hush = .error e s') :
    silently x s = .error e s'.unhush := by
  unfold silently
  unfold State.hush at h
  rw [h]
  rfl

theorem bind_ok {x : EStateM ε σ α} {f : α → EStateM ε σ β} {s s' : σ} {a : α} (h : x s = .ok a s') :
    (x >>= f) s = f a s' := by
  change EStateM.bind x f s = _
  rw [EStateM.bind, h]

theorem bind_error {x : EStateM ε σ α} {f : α → EStateM ε σ β} {s s' : σ} {e : ε} (h : x s = .error e s') :
    (x >>= f) s = .error e s' := by
  change EStateM.bind x f s = _
  rw [EStateM.bind, h]

theorem bind_eq_ok {x : EStateM ε σ α} {f : α → EStateM ε σ β} {s s' : σ} {b : β} (h : (x >>= f) s = .ok b s') :
    ∃ a t, x s = .ok a t ∧ f a t = .ok b s' := by
  change EStateM.bind x f s = .ok b s' at h
  unfold EStateM.bind at h
  split at h
  · rename_i a t hx
    exact ⟨a, t, hx, h⟩
  · cases h

theorem bind_get {f : σ → EStateM ε σ β} {s : σ} : (get >>= f) s = f s s := rfl

theorem bind_modify {g : σ → σ} {f : PUnit → EStateM ε σ β} {s : σ} : (modify g >>= f) s = f ⟨⟩ (g s) := rfl

/-! ## Lists of expressions -/

/-- What a sequence comes to, from where its last item ends and the values. -/
def sequenceResult : Option (Nat × List Value) → Result
  | none => .failed
  | some (stop, vs) => .matched stop (.list vs)

/-- One more value in front of a list of values. -/
def Result.after (v : Value) : Result → Result
  | .matched stop (.list vs) => .matched stop (.list (v :: vs))
  | r => r

/-- A repetition without a turn is a failure. -/
def Result.nonempty : Result → Result
  | .matched _ (.list []) => .failed
  | r => r

section
variable (m : Matcher σ ε) (limit : Nat) (call : String → Nat → Run σ ε Result)

theorem Node.eval_sequence (ns : List Node) (p : Nat) : (Node.sequence ns).eval m limit call p =
    evalAll m limit call ns p >>= fun q => pure (sequenceResult q) := by
  simp only [Node.eval]
  refine bind_congr fun q => ?_
  cases q <;> rfl

theorem Node.eval_sequence_cons (n : Node) (ns : List Node) (p : Nat) :
    (Node.sequence (n :: ns)).eval m limit call p = (do
      match ← n.eval m limit call p with
      | .failed => return .failed
      | .matched stop v => return ((← (Node.sequence ns).eval m limit call stop).after v)) := by
  simp only [eval_sequence, evalAll, bind_assoc]
  refine bind_congr fun r => ?_
  cases r with
  | failed => rfl
  | matched stop v =>
    simp only [bind_assoc]
    refine bind_congr fun q => ?_
    cases q <;> rfl

theorem Node.eval_choice_cons (n : Node) (ns : List Node) (p : Nat) :
    (Node.choice (n :: ns)).eval m limit call p = (do
      match ← n.eval m limit call p with
      | .failed => (Node.choice ns).eval m limit call p
      | .matched stop v => return .matched stop v) := by
  conv => lhs; simp only [Node.eval, evalFirst]
  refine bind_congr fun r => ?_
  cases r with
  | failed => simp only [Node.eval]
  | matched stop v => rfl

/-- The values of the items that have a label. -/
def labelValues : List Node → List Value → List Value
  | n :: ns, v :: vs => if n.label?.isSome then v :: labelValues ns vs else labelValues ns vs
  | _, _ => []

/-- Every expression of a list has a value once all of them have matched. -/
theorem length_evalAll {ns : List Node} {p stop : Nat} {vs : List Value} {s s' : State σ}
    (h : evalAll m limit call ns p s = .ok (some (stop, vs)) s') : vs.length = ns.length := by
  induction ns generalizing p vs s with
  | nil =>
    cases h
    rfl
  | cons n ns ih =>
    rw [evalAll] at h
    obtain ⟨r, t, -, h⟩ := bind_eq_ok h
    cases r with
    | failed => cases h
    | matched q v =>
      obtain ⟨rest, t', hrest, h⟩ := bind_eq_ok h
      cases rest with
      | none => cases h
      | some rest =>
        cases h
        rw [List.length_cons, List.length_cons, ih hrest]

/-- Each label has a value. -/
theorem length_labelValues {ns : List Node} {vs : List Value} (h : vs.length = ns.length) :
    (labelValues ns vs).length = (ns.filterMap Node.label?).length := by
  induction ns generalizing vs with
  | nil => simp [labelValues]
  | cons n ns ih =>
    cases vs with
    | nil => cases h
    | cons v vs =>
      have hrest := ih (Nat.succ.inj h)
      rw [labelValues]
      cases hn : n.label? with
      | none => simpa [List.filterMap_cons, hn] using hrest
      | some l => simpa [List.filterMap_cons, hn] using hrest

theorem evalLabels_eq (ns : List Node) :
    ∀ p, evalLabels m limit call ns p = (do
      match ← evalAll m limit call ns p with
      | none => return none
      | some (stop, vs) => return some (stop, labelValues ns vs)) := by
  induction ns with
  | nil => intro p; rfl
  | cons n ns ih =>
    intro p
    simp only [evalLabels, evalAll, bind_assoc]
    refine bind_congr fun r => ?_
    cases r with
    | failed => rfl
    | matched stop v =>
      dsimp only
      rw [ih stop, bind_assoc, bind_assoc]
      refine bind_congr fun q => ?_
      cases q with
      | none => rfl
      | some q =>
        simp only [pure_bind, labelValues]

/-- All action blocks take the values of the items that have a label. -/
theorem Node.eval_action (n : Node) (b : Block) (p : Nat) : (Node.action n b).eval m limit call p = (do
      match ← evalAll m limit call n.items p with
      | none => return .failed
      | some (stop, vs) => return .matched stop (← m.act b p stop (labelValues n.items vs))) := by
  have hone : ∀ k : Node, evalAll m limit call [k] p = (do
      match ← k.eval m limit call p with
      | .failed => return none
      | .matched stop v => return some (stop, [v])) := fun k => by
    simp only [evalAll]
    refine bind_congr fun r => ?_
    cases r <;> rfl
  cases n with
  | sequence ns =>
    simp only [Node.eval, Node.items, evalLabels_eq, bind_assoc]
    refine bind_congr fun q => ?_
    cases q <;> rfl
  | _ =>
    rw [Node.eval.eq_def]
    simp only [Node.items, hone, bind_assoc]
    refine bind_congr fun r => ?_
    cases r <;> rfl

/-- The values of an action block, from the value of the expression before it. -/
def Node.labelValuesIn : Node → Value → List Value
  | sequence ns, .list vs => labelValues ns vs
  | labeled .., v => [v]
  | _, _ => []

/-- An action block runs after the expression before it has matched. -/
theorem Node.eval_action_body (n : Node) (b : Block) (p : Nat) : (Node.action n b).eval m limit call p = (do
      match ← n.eval m limit call p with
      | .failed => return .failed
      | .matched stop v => return .matched stop (← m.act b p stop (n.labelValuesIn v))) := by
  cases n with
  | sequence ns =>
    rw [eval_action, eval_sequence, bind_assoc]
    refine bind_congr fun q => ?_
    cases q <;> rfl
  | _ =>
    rw [Node.eval.eq_def]
    refine bind_congr fun r => ?_
    cases r <;> rfl

/-! ## Repetitions -/

/-- Matches any number of times, at most that many turns. -/
def starFrom (step : Nat → Run σ ε Result) (turns p : Nat) : Run σ ε Result := do
  return repetitionResult .star (← repeatFrom step turns p)

theorem starFrom_succ (step : Nat → Run σ ε Result) (turns p : Nat) : starFrom step (turns + 1) p = (do
    match ← step p with
    | .failed => return .matched p (.list [])
    | .matched stop v =>
      if stop = p then return .matched p (.list [v]) else return ((← starFrom step turns stop).after v)) := by
  simp only [starFrom, repeatFrom, bind_assoc]
  refine bind_congr fun r => ?_
  cases r with
  | failed => rfl
  | matched stop v =>
    dsimp only
    by_cases h : stop = p
    · rw [if_pos h, if_pos h]
      rfl
    · rw [if_neg h, if_neg h, bind_assoc]
      rfl

/-- A repetition that comes to an end does so with more turns. -/
theorem starFrom_of_le {step : Nat → Run σ ε Result} {turns turns' p : Nat} (h : turns ≤ turns') {s : State σ}
    (hx : answer (starFrom step turns p s) ≠ .error .exhausted) :
    starFrom step turns' p s = starFrom step turns p s := by
  induction turns generalizing turns' p s with
  | zero => exact absurd rfl hx
  | succ turns ih =>
    obtain ⟨turns', rfl⟩ := Nat.exists_eq_succ_of_ne_zero (Nat.ne_of_gt (Nat.lt_of_lt_of_le (Nat.succ_pos _) h))
    rw [starFrom_succ] at hx
    rw [starFrom_succ, starFrom_succ]
    cases hs : step p s with
    | error e t => rw [bind_error hs, bind_error hs]
    | ok r t =>
      rw [bind_ok hs] at hx
      rw [bind_ok hs, bind_ok hs]
      cases r with
      | failed => rfl
      | matched stop v =>
        dsimp only at hx ⊢
        by_cases hstop : stop = p
        · rw [if_pos hstop, if_pos hstop]
        · rw [if_neg hstop] at hx
          rw [if_neg hstop, if_neg hstop]
          have hy : answer (starFrom step turns stop t) ≠ .error .exhausted := by
            intro he
            cases hq : starFrom step turns stop t with
            | ok q u => rw [hq] at he; cases he
            | error e u => exact hx (by rw [bind_error hq]; rw [hq] at he; exact he)
          change EStateM.bind _ _ t = EStateM.bind _ _ t
          rw [EStateM.bind, EStateM.bind, ih (Nat.le_of_succ_le_succ h) hy]

theorem Node.eval_star (n : Node) (p : Nat) : (Node.repeated .star n).eval m limit call p =
    starFrom (fun p => n.eval m limit call p) (limit + 1 - p) p := by
  simp only [Node.eval, starFrom]

theorem Node.eval_plus (n : Node) (p : Nat) : (Node.repeated .plus n).eval m limit call p = (do
    return (← (Node.repeated .star n).eval m limit call p).nonempty) := by
  simp only [Node.eval, bind_assoc]
  refine bind_congr fun q => ?_
  obtain ⟨stop, vs⟩ := q
  cases vs <;> rfl

end

end

end PegTemplate
