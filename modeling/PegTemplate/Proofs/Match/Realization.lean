import PegTemplate.Proofs.Match.Semantics
import PegTemplate.Proofs.Match.Trace

/-!
# Derivations are realized

* `Matcher.Known` : what is remembered is derived;
* `Matcher.Goes` : how a run changes the record of failures and the log, if it notes these failures by derivation;
* `Matcher.Yields` : a run comes to what is derived, and goes as the derivation says;
* `Matcher.Derives.yields`, `Matcher.applyTraced_yields` : **what is derived, the runs of expressions and
  applications come to.**

The applications in progress are those barred in the derivation: so a reference in it is never in progress.
-/

namespace PegTemplate

section
variable {σ ε α β : Type}

/-! ## What is known -/

/-- What is remembered is derived, and nothing is if results are not remembered. -/
def Matcher.Known (m : Matcher σ ε) (memo : Memo) : Prop :=
  ∀ name pos r, memo.find? name pos = some (.done r) → m.cached = true ∧ m.Derivable (.ref name) pos (.ok r)

theorem Matcher.Known.enter {m : Matcher σ ε} {memo : Memo} (h : m.Known memo) (name : String) (pos : Nat) :
    m.Known (memo.enter name pos) := by
  intro name' pos' r hr
  by_cases hk : name = name' ∧ pos = pos'
  · obtain ⟨rfl, rfl⟩ := hk
    rw [Memo.find?_enter_self] at hr
    cases hr
  · rw [Memo.find?_enter_of_ne hk] at hr
    exact h name' pos' r hr

theorem Matcher.Known.settled {m : Matcher σ ε} {s : State (Traced σ)} (h : m.Known s.memo) {name : String}
    {pos : Nat} {r : Result} (hr : m.Derivable (.ref name) pos (.ok r)) :
    m.Known (m.traced.settled name pos r s).memo := by
  intro name' pos' r' hr'
  change Memo.find? (if m.cached then s.memo.insert name pos (.done r) else s.memo.erase name pos) name' pos' =
    some (.done r') at hr'
  by_cases hk : name = name' ∧ pos = pos'
  · obtain ⟨rfl, rfl⟩ := hk
    split_ifs at hr' with hc
    · rw [Memo.find?_insert_self] at hr'
      cases hr'
      exact ⟨hc, hr⟩
    · rw [Memo.find?_erase_self] at hr'
      cases hr'
  · split_ifs at hr'
    · rw [Memo.find?_insert_of_ne hk] at hr'
      exact h name' pos' r' hr'
    · rw [Memo.find?_erase_of_ne hk] at hr'
      exact h name' pos' r' hr'

/-- The applications of `stack` are in progress, and what is remembered is derived. -/
structure Matcher.Faithful (m : Matcher σ ε) (stack : List Application) (memo : Memo) : Prop where
  distinct : memo.Distinct
  begun : memo.begun = stack
  known : m.Known memo

theorem Matcher.Faithful.settled {m : Matcher σ ε} {s : State (Traced σ)} {name : String} {pos : Nat}
    {stack : List Application} (h : m.Faithful ((name, pos) :: stack) s.memo) {r : Result}
    (hr : m.Derivable (.ref name) pos (.ok r)) : m.Faithful stack (m.traced.settled name pos r s).memo := by
  obtain ⟨hdistinct, hbegun⟩ := m.traced.begun_settled h.distinct h.begun r
  exact ⟨hdistinct, hbegun, h.known.settled hr⟩

/-! ## What is noted -/

/-- A failure is covered by those of an application that is recalled while failures are noted. -/
def Matcher.Recalled (m : Matcher σ ε) (log : List Event) (f : Nat × String) : Prop :=
  ∃ e ∈ log, e.kind = .recalled ∧ e.silent = false ∧
    ∃ a fs, m.Derives [] (.ref e.application.1) e.application.2 a fs ∧ fs.Cover f

theorem Matcher.recalled_append {m : Matcher σ ε} {new log : List Event} {f : Nat × String} :
    m.Recalled (new ++ log) f ↔ m.Recalled new f ∨ m.Recalled log f := by
  simp only [Recalled, List.mem_append, or_and_right, exists_or]

/-- From `s` to `s'` a run does not meet applications in progress, and together with those of what is recalled its
failures are `fs`. -/
structure Matcher.Goes (m : Matcher σ ε) (fs : Failures) (s s' : State (Traced σ)) : Prop where
  silence : s'.silence = s.silence
  nodup : s.expected.Nodup → s'.expected.Nodup
  log : ∃ new, s'.log = new ++ s.log ∧
    (∀ e ∈ new, e.kind ≠ .reentered ∧ (e.kind = .recalled →
      m.cached = true ∧ ∃ a fs, m.Derives [] (.ref e.application.1) e.application.2 a fs)) ∧
    ∀ f, s'.Covers f ∨ m.Recalled new f ↔ s.Covers f ∨ s.silence = 0 ∧ fs.Cover f

namespace Matcher.Goes
variable {m : Matcher σ ε} {fs gs : Failures} {s t u : State (Traced σ)}

/-- Nothing is noted. -/
theorem still (hs : t.silence = s.silence) (hf : t.farthest = s.farthest) (he : t.expected = s.expected)
    (hl : t.log = s.log) : m.Goes [] s t where
  silence := hs
  nodup h := he ▸ h
  log := ⟨[], hl, nofun, fun f => by simp [Recalled, State.Covers, Failures.Cover, hf, he]⟩

/-- An application begins or is done. -/
theorem emit {kind : Happening} (hk : kind = .entered ∨ kind = .left) (name : String) (pos : Nat)
    (s : State (Traced σ)) : m.Goes [] s (s.emit kind name pos) where
  silence := rfl
  nodup h := h
  log := by
    refine ⟨[s.event kind name pos], rfl, fun e he => ?_, fun f => ?_⟩
    · rw [List.mem_singleton.1 he]
      rcases hk with rfl | rfl <;> exact ⟨nofun, nofun⟩
    · have hr : ¬m.Recalled [s.event kind name pos] f := by
        rintro ⟨e, he, hkind, -⟩
        rw [List.mem_singleton.1 he] at hkind
        rcases hk with rfl | rfl <;> cases hkind
      simp only [hr, Failures.not_cover_nil, or_false, and_false]
      exact Iff.rfl

/-- What is recalled was noted before, or it is not now. -/
theorem recalled [Nonempty σ] (hc : m.cached = true) {name : String} {pos : Nat} {a : Except (Halt ε) Result}
    (h : m.Derives [] (.ref name) pos a fs) (s : State (Traced σ)) : m.Goes fs s (s.emit .recalled name pos) where
  silence := rfl
  nodup h := h
  log := by
    refine ⟨[s.event .recalled name pos], rfl, fun e he => ?_, fun f => or_congr Iff.rfl ?_⟩
    · rw [List.mem_singleton.1 he]
      exact ⟨nofun, fun _ => ⟨hc, a, fs, h⟩⟩
    · constructor
      · rintro ⟨e, he, -, hsilent, b, gs, hb, hf⟩
        rw [List.mem_singleton.1 he] at hsilent hb
        refine ⟨Nat.eq_zero_of_not_pos (of_decide_eq_false hsilent), ?_⟩
        rw [(h.unique hb).2]
        exact hf
      · rintro ⟨hs, hf⟩
        exact ⟨_, List.mem_singleton_self _, rfl, decide_eq_false (by omega), a, fs, h, hf⟩

theorem trans (h : m.Goes fs s t) (h' : m.Goes gs t u) : m.Goes (fs ++ gs) s u where
  silence := h'.silence.trans h.silence
  nodup hs := h'.nodup (h.nodup hs)
  log := by
    obtain ⟨new, hl, hnew, hf⟩ := h.log
    obtain ⟨new', hl', hnew', hf'⟩ := h'.log
    refine ⟨new' ++ new, by rw [hl', hl, List.append_assoc], fun e he => ?_, fun f => ?_⟩
    · exact (List.mem_append.1 he).elim (hnew' e) (hnew e)
    · have hs := h.silence
      calc u.Covers f ∨ m.Recalled (new' ++ new) f
          ↔ (u.Covers f ∨ m.Recalled new' f) ∨ m.Recalled new f := by rw [recalled_append, or_assoc]
        _ ↔ (t.Covers f ∨ m.Recalled new f) ∨ t.silence = 0 ∧ gs.Cover f := by
          rw [hf' f, or_assoc, or_assoc, or_comm (a := m.Recalled new f)]
        _ ↔ s.Covers f ∨ s.silence = 0 ∧ Failures.Cover (fs ++ gs) f := by
          rw [hf f, hs, Failures.cover_append, and_or_left, or_assoc]

theorem note (s : State (Traced σ)) (p : Nat) (d : String) : m.Goes [(p, d)] s (s.note p d) := by
  refine ⟨s.silence_note p d, fun h => State.nodup_note h p d, [], s.log_note p d, nofun, fun f => ?_⟩
  have hr : ¬m.Recalled [] f := by simp [Recalled]
  by_cases hs : s.silence = 0
  · rw [State.covers_note hs, Failures.cover_singleton]
    simp only [hr, hs, or_false, true_and]
  · rw [State.note_of_silent (Nat.pos_of_ne_zero hs)]
    simp only [hr, hs, or_false, false_and]

/-- No failures are noted inside. -/
theorem silently (h : m.Goes fs s.hush t) : m.Goes [] s t.unhush where
  silence := by
    have hs := h.silence
    change t.silence - 1 = s.silence
    rw [hs]
    rfl
  nodup := h.nodup
  log := by
    obtain ⟨new, hl, hnew, hf⟩ := h.log
    refine ⟨new, hl, hnew, fun f => (hf f).trans (or_congr Iff.rfl ?_)⟩
    have hz : s.hush.silence ≠ 0 := Nat.succ_ne_zero _
    simp only [hz, false_and, Failures.not_cover_nil, and_false]

end Matcher.Goes

/-! ## Runs -/

/-- With the applications of `stack` in progress, a run comes to `a` and goes as if it noted the failures `fs`. -/
def Matcher.Yields (m : Matcher σ ε) (stack : List Application) (x : Run (Traced σ) ε α) (a : Except (Halt ε) α)
    (fs : Failures) : Prop :=
  ∀ s, m.Faithful stack s.memo → answer (x s) = a ∧ m.Goes fs s (endState (x s)) ∧
    ∀ v, a = .ok v → m.Faithful stack (endState (x s)).memo

namespace Matcher.Yields
variable {m : Matcher σ ε} {stack : List Application} {x : Run (Traced σ) ε α} {a : Except (Halt ε) α}
  {fs gs : Failures}

theorem pure (v : α) : m.Yields stack (Pure.pure v) (.ok v) [] :=
  fun _ hs => ⟨rfl, .still rfl rfl rfl rfl, fun _ _ => hs⟩

theorem bind {v : α} {f : α → Run (Traced σ) ε β} {b : Except (Halt ε) β} (hx : m.Yields stack x (.ok v) fs)
    (hf : m.Yields stack (f v) b gs) : m.Yields stack (x >>= f) b (fs ++ gs) := by
  intro s hs
  obtain ⟨ha, hg, hm⟩ := hx s hs
  cases hxs : x s with
  | error e t =>
    rw [hxs] at ha
    cases ha
  | ok w t =>
    rw [hxs] at ha hg hm
    cases ha
    obtain ⟨hb, hg', hm'⟩ := hf t (hm v rfl)
    rw [bind_ok hxs]
    exact ⟨hb, hg.trans hg', hm'⟩

theorem raise {e : Halt ε} {f : α → Run (Traced σ) ε β} (hx : m.Yields stack x (.error e) fs) :
    m.Yields stack (x >>= f) (.error e) fs := by
  intro s hs
  obtain ⟨ha, hg, -⟩ := hx s hs
  cases hxs : x s with
  | ok w t =>
    rw [hxs] at ha
    cases ha
  | error e' t =>
    rw [hxs] at ha hg
    cases ha
    rw [bind_error hxs]
    exact ⟨rfl, hg, nofun⟩

/-- A run that goes on without a further step. -/
theorem map {f : α → Run (Traced σ) ε β} {g : α → β} (hx : m.Yields stack x a fs) (hf : ∀ v, f v = Pure.pure (g v)) :
    m.Yields stack (x >>= f) (a.map g) fs := by
  cases a with
  | error e => exact hx.raise
  | ok v =>
    have hpure : m.Yields stack (Pure.pure (g v) : Run (Traced σ) ε β) (.ok (g v)) [] := .pure (g v)
    have h := hx.bind (hf v ▸ hpure)
    rw [List.append_nil] at h
    exact h

theorem of_map {g : α → β} (hg : Function.Injective g)
    (hx : m.Yields stack (x >>= fun v => Pure.pure (g v)) (a.map g) fs) : m.Yields stack x a fs := by
  intro s hs
  obtain ⟨ha, hgo, hm⟩ := hx s hs
  cases hxs : x s with
  | ok w t =>
    rw [bind_ok hxs] at ha hgo hm
    cases a with
    | ok v => exact ⟨congrArg Except.ok (hg (Except.ok.inj ha)), hgo, fun _ _ => hm _ rfl⟩
    | error e => cases ha
  | error e t =>
    rw [bind_error hxs] at ha hgo
    cases a with
    | ok v => cases ha
    | error e' => exact ⟨congrArg Except.error (Except.error.inj ha), hgo, nofun⟩

theorem silently (hx : m.Yields stack x a fs) : m.Yields stack (silently x) a [] := by
  intro s hs
  obtain ⟨ha, hg, hm⟩ := hx s.hush hs
  cases hxs : x s.hush with
  | ok v t =>
    rw [hxs] at ha hg hm
    rw [silently_ok hxs]
    exact ⟨ha, hg.silently, hm⟩
  | error e t =>
    rw [hxs] at ha hg hm
    rw [silently_error hxs]
    exact ⟨ha, hg.silently, hm⟩

theorem failAt (p : Nat) (d : String) : m.Yields stack (failAt p d) (.ok .failed) [(p, d)] := by
  intro s hs
  refine ⟨rfl, .note s p d, fun _ _ => ?_⟩
  change m.Faithful stack (s.note p d).memo
  rw [State.memo_note]
  exact hs

theorem act {b : Block} {i j : Nat} {ls : List Value} {a : Except (Halt ε) Value} (h : m.Acts b i j ls a) :
    m.Yields stack (m.traced.act b i j ls) a [] := by
  intro s hs
  obtain ⟨w, hw⟩ := h.run s.untraced
  rw [act_traced hw, answer_outcome, endState_outcome]
  exact ⟨rfl, .still rfl rfl rfl rfl, fun _ _ => hs⟩

end Matcher.Yields

/-! ## Expressions -/

theorem sequenceResult_injective : Function.Injective sequenceResult := by
  intro q q' h
  cases q with
  | none =>
    cases q' with
    | none => rfl
    | some q' => cases h
  | some q =>
    cases q' with
    | none => cases h
    | some q' =>
      obtain ⟨hstop, hvs⟩ := Result.matched.inj h
      exact congrArg some (Prod.ext hstop (Value.list.inj hvs))

/-- The items of a sequence, before their values are put together. -/
theorem Matcher.Yields.items {m : Matcher σ ε} {stack : List Application} {limit : Nat}
    {call : String → Nat → Run (Traced σ) ε Result} {ns : List Node} {p : Nat} {fs : Failures}
    (q : Except (Halt ε) (Option (Nat × List Value)))
    (h : m.Yields stack ((Node.sequence ns).eval m.traced limit call p) (q.map sequenceResult) fs) :
    m.Yields stack (evalAll m.traced limit call ns p) q fs := by
  rw [Node.eval_sequence] at h
  exact .of_map sequenceResult_injective h

/-- The body of a rule, with or without a display name. -/
theorem Matcher.Yields.evalWith {m : Matcher σ ε} {stack : List Application} {rule : Rule}
    {eval : Node → Nat → Run (Traced σ) ε Result} {p : Nat} {a : Except (Halt ε) Result} {fs : Failures}
    (h : m.Yields stack (eval rule.body p) a fs) : m.Yields stack (rule.evalWith eval p) a (rule.failures p a fs) := by
  unfold Rule.evalWith Rule.failures
  cases rule.display with
  | none => exact h
  | some d =>
    cases a with
    | error e => exact h.silently.raise
    | ok r =>
      cases r with
      | failed => exact h.silently.bind (.failAt p d)
      | matched stop v => exact h.silently.bind (.pure _)

/-- What is derived of an expression, its evaluation comes to, if that is so for the applications in it. -/
theorem Matcher.Derives.yields [Nonempty σ] {m : Matcher σ ε} {limit hi : Nat} (hm : m.Bound hi) (hlimit : hi ≤ limit)
    {stack : List Application} {call : String → Nat → Run (Traced σ) ε Result}
    (hcall : ∀ r p a fs, p ≤ hi → m.Derives stack (.ref r) p a fs → m.Yields stack (call r p) a fs) {n : Node} {p : Nat}
    {a : Except (Halt ε) Result} {fs : Failures} (h : m.Derives stack n p a fs) (hp : p ≤ hi)
    (hn : n.FitsIn m.text hi) : m.Yields stack (n.eval m.traced limit call p) a fs := by
  induction h with
  | literal_matched h =>
    simp only [Node.eval, traced_text, h, if_true]
    exact .pure _
  | literal_failed h =>
    simp only [Node.eval, traced_text, h, Bool.false_eq_true, if_false]
    exact .failAt _ _
  | class_matched h hc =>
    simp only [Node.eval, traced_text, h, hc, if_true]
    exact .pure _
  | @class_failed c p h =>
    simp only [Node.eval, traced_text]
    cases hx : m.text[p]? with
    | none => exact .failAt _ _
    | some x =>
      dsimp only
      rw [if_neg (by rw [h x hx]; exact Bool.false_ne_true)]
      exact .failAt _ _
  | any_matched h =>
    simp only [Node.eval, traced_text]
    rw [h]
    exact .pure _
  | any_failed h =>
    simp only [Node.eval, traced_text]
    rw [h]
    exact .failAt _ _
  | ref hb hr h =>
    simp only [Node.eval]
    exact hcall _ _ _ _ hp (.ref hb hr h)
  | labeled _ ih =>
    simp only [Node.eval]
    exact ih hp (hn.child (List.mem_singleton_self _))
  | text _ ih =>
    simp only [Node.eval]
    exact (ih hp (hn.child (List.mem_singleton_self _))).map fun r => by cases r <;> rfl
  | followedBy _ ih =>
    simp only [Node.eval]
    exact (ih hp (hn.child (List.mem_singleton_self _))).silently.map fun r => by cases r <;> rfl
  | notFollowedBy _ ih =>
    simp only [Node.eval]
    exact (ih hp (hn.child (List.mem_singleton_self _))).silently.map fun r => by cases r <;> rfl
  | optional _ ih =>
    simp only [Node.eval]
    exact (ih hp (hn.child (List.mem_singleton_self _))).map fun r => by cases r <;> rfl
  | @star_done n p fs _ ih =>
    rw [Node.eval_star, show limit + 1 - p = (limit - p) + 1 by omega, starFrom_succ, ← List.append_nil fs]
    exact (ih hp (hn.child (List.mem_singleton_self _))).bind (.pure _)
  | @star_empty n p v fs _ ih =>
    rw [Node.eval_star, show limit + 1 - p = (limit - p) + 1 by omega, starFrom_succ, ← List.append_nil fs]
    refine (ih hp (hn.child (List.mem_singleton_self _))).bind ?_
    dsimp only
    rw [if_pos rfl]
    exact .pure _
  | @star_more n p stop v fs a gs h hs hmore ih ih' =>
    have hfit := hn.child (List.mem_singleton_self n)
    obtain ⟨hps, hsh⟩ := (h.endsIn hm hp hfit).1 _ rfl
    rw [Node.eval_star, show limit + 1 - p = (limit - p) + 1 by omega, starFrom_succ]
    refine (ih hp hfit).bind ?_
    dsimp only
    rw [if_neg hs]
    refine Yields.map (g := Result.after v) ?_ fun _ => rfl
    -- there are as many turns left as the repetition has that starts here
    intro s hsound
    have hy := ih' hsh hn s hsound
    rw [Node.eval_star] at hy
    rw [starFrom_of_le (show limit + 1 - stop ≤ limit - p by omega) (hy.1 ▸ hmore.ne_exhausted)]
    exact hy
  | @star_raised n p e fs _ ih =>
    rw [Node.eval_star, show limit + 1 - p = (limit - p) + 1 by omega, starFrom_succ]
    exact (ih hp (hn.child (List.mem_singleton_self _))).raise
  | plus _ ih =>
    rw [Node.eval_plus]
    exact (ih hp (.of_children (by rintro _ _ ⟨⟩) fun c hc => hn.child hc)).map fun _ => rfl
  | sequence_nil =>
    rw [Node.eval_sequence, evalAll]
    exact .pure _
  | sequence_next h hnext ih ih' =>
    have hfit := hn.child (List.mem_cons_self ..)
    rw [Node.eval_sequence_cons]
    refine (ih hp hfit).bind ?_
    exact (ih' ((h.endsIn hm hp hfit).1 _ rfl).2 (.of_children (by rintro _ _ ⟨⟩) fun c hc =>
      hn.child (List.mem_cons_of_mem _ hc))).map fun _ => rfl
  | @sequence_failed n ns p fs h ih =>
    rw [Node.eval_sequence_cons, ← List.append_nil fs]
    exact (ih hp (hn.child (List.mem_cons_self ..))).bind (.pure _)
  | sequence_raised h ih =>
    rw [Node.eval_sequence_cons]
    exact (ih hp (hn.child (List.mem_cons_self ..))).raise
  | choice_nil =>
    simp only [Node.eval, evalFirst]
    exact .pure _
  | @choice_first n ns p stop v fs h ih =>
    rw [Node.eval_choice_cons, ← List.append_nil fs]
    exact (ih hp (hn.child (List.mem_cons_self ..))).bind (.pure _)
  | choice_next h hnext ih ih' =>
    rw [Node.eval_choice_cons]
    exact (ih hp (hn.child (List.mem_cons_self ..))).bind
      (ih' hp (.of_children (by rintro _ _ ⟨⟩) fun c hc => hn.child (List.mem_cons_of_mem _ hc)))
  | choice_raised h ih =>
    rw [Node.eval_choice_cons]
    exact (ih hp (hn.child (List.mem_cons_self ..))).raise
  | @action n b p stop vs a fs h ha ih =>
    have hall := Yields.items (.ok (some (stop, vs))) (ih hp (hn.child (List.mem_singleton_self _)).items)
    rw [Node.eval_action, ← List.append_nil fs]
    exact hall.bind ((Yields.act ha).map fun _ => rfl)
  | @action_failed n b p fs h ih =>
    have hall := Yields.items (.ok none) (ih hp (hn.child (List.mem_singleton_self _)).items)
    rw [Node.eval_action, ← List.append_nil fs]
    exact hall.bind (.pure _)
  | @action_raised n b p e fs h ih =>
    have hall := Yields.items (.error e) (ih hp (hn.child (List.mem_singleton_self _)).items)
    rw [Node.eval_action]
    exact hall.raise

/-! ## Applications -/

/-- **What is derived of an application, a run comes to that is in the middle of the applications barred.** -/
theorem Matcher.applyTraced_yields [Nonempty σ] {m : Matcher σ ε} {limit hi : Nat} (hm : m.Bound hi)
    (hlimit : hi ≤ limit) (depth : Nat) : ∀ stack, m.Room hi depth stack → ∀ name pos a fs, pos ≤ hi →
      m.Derives stack (.ref name) pos a fs → m.Yields stack (m.applyTraced limit depth name pos) a fs := by
  induction depth with
  | zero =>
    exact fun stack hroom name pos a fs _ _ s hs =>
      absurd rfl (hroom.ne_zero (hs.begun ▸ hs.distinct.begun_nodup))
  | succ depth ih =>
    intro stack hroom name pos a fs hp h s hs
    -- the application is not barred, so it is not in progress, and it stays so inside its body
    obtain ⟨rule, b, gs, hnot, hr, hbody⟩ := h.ref_inv
    have hderived : m.Derives [] (.ref name) pos b (rule.failures pos b gs) := .ref List.not_mem_nil hr hbody.unbar
    obtain ⟨rfl, rfl⟩ := h.unique hderived
    cases hf : s.memo.find? name pos with
    | some e =>
      cases e with
      | begun => exact absurd (hs.begun ▸ (Memo.mem_begun_iff hs.distinct).2 hf) hnot
      | done r =>
        obtain ⟨hc, gs', hd⟩ := hs.known name pos r hf
        rw [applyTraced_done hf]
        exact ⟨(hd.unique hderived).1, Goes.recalled hc hderived s, fun _ _ => hs⟩
    | none =>
      have hyields : m.Yields ((name, pos) :: stack)
          (rule.evalWith (Node.eval m.traced limit (m.applyTraced limit depth)) pos) a (rule.failures pos a gs) :=
        .evalWith (hbody.yields hm hlimit (ih _ (hroom.push hr hp)) hp (hm.fits name rule hr))
      obtain ⟨ha, hg, hm'⟩ := hyields ((s.emit .entered name pos).entered name pos)
        ⟨hs.distinct.enter hf, Memo.begun_enter hs.begun name pos, hs.known.enter name pos⟩
      have hstart : m.Goes [] s ((s.emit .entered name pos).entered name pos) :=
        (Goes.emit (Or.inl rfl) name pos s).trans (.still rfl rfl rfl rfl)
      cases hx : rule.evalWith (Node.eval m.traced limit (m.applyTraced limit depth)) pos
          ((s.emit .entered name pos).entered name pos) with
      | ok r s' =>
        rw [hx] at ha hg hm'
        obtain rfl : Except.ok r = a := ha
        rw [applyTraced_ok hf hr hx]
        refine ⟨rfl, ?_, fun _ _ => (hm' r rfl).settled ⟨_, hderived⟩⟩
        have hsettled : m.Goes [] s' (m.traced.settled name pos r s') := .still rfl rfl rfl rfl
        have hgo := ((hstart.trans hg).trans hsettled).trans (Goes.emit (Or.inr rfl) name pos _)
        rw [List.nil_append, List.append_nil, List.append_nil] at hgo
        exact hgo
      | error e s' =>
        rw [hx] at ha hg
        obtain rfl : Except.error e = a := ha
        rw [applyTraced_error hf hr hx]
        have hgo := hstart.trans hg
        rw [List.nil_append] at hgo
        exact ⟨rfl, hgo, nofun⟩

/-- What is derived of an application, a parse comes to. -/
theorem Matcher.Derives.parseTraced [Nonempty σ] {m : Matcher σ ε} {name : String} {pos : Nat}
    {a : Except (Halt ε) Result} {fs : Failures} (h : m.Derives [] (.ref name) pos a fs) (s : State (Traced σ)) :
    answer (m.parseTraced name pos s) = a ∧ m.Goes fs (s.restart pos) (endState (m.parseTraced name pos s)) := by
  have hy := applyTraced_yields (m.bound_limit pos) (Nat.le_refl _) (m.depth (m.limit pos)) []
    (.start (Nat.le_refl _)) name pos a fs (m.start_le_limit pos) h (s.restart pos) ⟨List.nodup_nil, rfl, nofun⟩
  exact ⟨hy.1, hy.2.1⟩

end

end PegTemplate
