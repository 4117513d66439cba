import PegTemplate.Proofs.Match.Bounds
import PegTemplate.Proofs.Match.Trace

/-!
# Halting

* `callStack` : the applications that a log has begun and not ended, the newest first;
* `Orderly` : a log in which no application begins that is on the stack, and only the newest one ends;
* `turnsFrom`, `GoesForward` : where the turns of a repetition start, each after the one before it;
* `Matcher.applyTraced_halting` : an application comes to the same with larger bounds, reaches none, and leaves an
  orderly log;
* `Matcher.parse_halts` : **a parse halts, whatever refers to itself and whatever is repeated.**

`Matcher.parse` has two bounds: on the applications inside each other and on the turns of a repetition. That larger
ones make no difference says that it is the computation without bounds that ends.
-/

namespace PegTemplate

/-! ## The applications in progress, by the log -/

/-- The applications that have begun and not ended, the newest first. The newest event of the log is its first. -/
def callStack : List Event → List Application
  | [] => []
  | ⟨.entered, a, _, _⟩ :: log => a :: callStack log
  | ⟨.left, _, _, _⟩ :: log => (callStack log).tail
  | ⟨.recalled, _, _, _⟩ :: log | ⟨.reentered, _, _, _⟩ :: log => callStack log

/-- What may happen after a log. -/
def Event.Follows (e : Event) (log : List Event) : Prop :=
  match e.kind with
  | .entered => e.application ∉ callStack log
  | .left => (callStack log).head? = some e.application
  | .recalled => True
  | .reentered => e.application ∈ callStack log

/-- No application begins that is in progress, only such a one is refused, and the newest one is the first to end. -/
def Orderly : List Event → Prop
  | [] => True
  | e :: log => e.Follows log ∧ Orderly log

theorem Orderly.of_suffix {log log' : List Event} (h : Orderly log') (hl : log <:+ log') : Orderly log := by
  obtain ⟨newer, rfl⟩ := hl
  induction newer with
  | nil => exact h
  | cons e newer ih => exact ih h.2

/-- The stack never holds an application twice. -/
theorem Orderly.nodup {log : List Event} (h : Orderly log) : (callStack log).Nodup := by
  induction log with
  | nil => exact List.nodup_nil
  | cons e log ih =>
    obtain ⟨kind, a, active, silent⟩ := e
    cases kind with
    | entered => exact List.nodup_cons.2 ⟨h.1, ih h.2⟩
    | left => exact (ih h.2).tail
    | recalled => exact ih h.2
    | reentered => exact ih h.2

section
variable {σ ε : Type}

/-! ## The turns of a repetition -/

/-- Where the turns of a repetition start, which is run from `pos` for that many turns at most. -/
def turnsFrom (step : Nat → Run σ ε Result) : (turns pos : Nat) → State σ → List Nat
  | 0, _, _ => []
  | turns + 1, pos, s => pos :: match step pos s with
    | .ok (.matched stop _) s' => if stop = pos then [] else turnsFrom step turns stop s'
    | _ => []

/-- The turns of a repetition go forward from `pos`, and not past `last`. -/
structure GoesForward (step : Nat → Run σ ε Result) (turns pos last : Nat) (s : State σ) : Prop where
  increasing : (turnsFrom step turns pos s).Pairwise (· < ·)
  within : ∀ p ∈ turnsFrom step turns pos s, pos ≤ p ∧ p ≤ last
  /-- The repetition ends where its last turn starts. -/
  ends : ∀ stop vs s', repeatFrom step turns pos s = .ok (stop, vs) s' →
    (turnsFrom step turns pos s).getLast? = some stop

theorem getLast?_turnsFrom {step : Nat → Run σ ε Result} (turns : Nat) :
    ∀ pos s stop vs s', repeatFrom step turns pos s = .ok (stop, vs) s' →
      (turnsFrom step turns pos s).getLast? = some stop := by
  induction turns with
  | zero => exact fun pos s stop vs s' h => nomatch h
  | succ turns ih =>
    intro pos s stop vs s' h
    rw [repeatFrom] at h
    rw [turnsFrom]
    cases hx : step pos s with
    | error e t =>
      rw [bind_error hx] at h
      cases h
    | ok r t =>
      rw [bind_ok hx] at h
      cases r with
      | failed =>
        cases h
        rfl
      | matched stop' v =>
        dsimp only at h ⊢
        by_cases hstop : stop' = pos
        · rw [if_pos hstop] at h ⊢
          cases h
          rfl
        · rw [if_neg hstop] at h ⊢
          cases hy : repeatFrom step turns stop' t with
          | error e u =>
            rw [bind_error hy] at h
            cases h
          | ok q u =>
            have hlast := ih stop' t q.1 q.2 u hy
            rw [bind_ok hy] at h
            cases h
            rw [List.getLast?_cons, hlast]
            rfl

/-- A repetition goes forward, if no turn ends before its start or after `last`. -/
theorem goesForward {step : Nat → Run σ ε Result} {last : Nat} {P : State σ → Prop}
    (hstep : ∀ p ≤ last, ∀ s, P s → ∀ stop v s', step p s = .ok (.matched stop v) s' →
      (p ≤ stop ∧ stop ≤ last) ∧ P s') (turns : Nat) :
    ∀ pos ≤ last, ∀ s, P s → GoesForward step turns pos last s := by
  induction turns with
  | zero => exact fun pos hp s _ => ⟨List.Pairwise.nil, nofun, getLast?_turnsFrom 0 pos s⟩
  | succ turns ih =>
    intro pos hp s hs
    have hself : ∀ p ∈ [pos], pos ≤ p ∧ p ≤ last := by
      intro p h
      rw [List.mem_singleton.1 h]
      exact ⟨Nat.le_refl _, hp⟩
    suffices h : (turnsFrom step (turns + 1) pos s).Pairwise (· < ·) ∧
        ∀ p ∈ turnsFrom step (turns + 1) pos s, pos ≤ p ∧ p ≤ last from
      ⟨h.1, h.2, getLast?_turnsFrom (turns + 1) pos s⟩
    rw [turnsFrom]
    split
    · rename_i stop v s' hx
      obtain ⟨⟨hle, hlast⟩, hs'⟩ := hstep pos hp s hs stop v s' hx
      by_cases hstop : stop = pos
      · rw [if_pos hstop]
        exact ⟨List.pairwise_singleton _ _, hself⟩
      · rw [if_neg hstop]
        obtain ⟨hpair, hmem, -⟩ := ih stop hlast s' hs'
        have hlt : ∀ p ∈ turnsFrom step turns stop s', pos < p := fun p h => by
          have := (hmem p h).1
          omega
        refine ⟨List.pairwise_cons.2 ⟨hlt, hpair⟩, fun p h => ?_⟩
        rcases List.mem_cons.1 h with rfl | h
        · exact ⟨Nat.le_refl _, hp⟩
        · exact ⟨Nat.le_of_lt (hlt p h), (hmem p h).2⟩
    · exact ⟨List.pairwise_singleton _ _, hself⟩

/-- From states that keep the bound, a part of the body of a rule ends between its start and the bound. -/
theorem Matcher.part_endsIn (m : Matcher σ ε) {start depth pos : Nat} {name : String} {r : Rule} {n : Node}
    (hr : m.grammar.rule? name = some r) (hn : n.Part r.body) (hp : pos ≤ m.limit start) {s s' : State σ}
    (hs : s.Inside (m.limit start)) {q : Result}
    (h : n.eval m (m.limit start) (m.apply (m.limit start) depth) pos s = .ok q s') :
    q.EndsIn pos (m.limit start) ∧ s'.Inside (m.limit start) := by
  have hm := m.bound_limit start
  have hb := Node.eval_coupled (bounds_lawful (m.limit start) s.memo.begun False) rfl hm.length_le (Nat.le_refl _)
    (Nat.le_refl _) (m.act_bounds _ _ _) (apply_bounds hm (Nat.le_refl _) depth s.memo.begun False.elim) n
    (fun t i ht => hm.fits name r hr t i (ht.trans hn)) pos (Nat.zero_le pos) hp s ⟨hs, rfl⟩
  rw [h] at hb
  exact ⟨hb.1, hb.2.1.1⟩

/-! ## Applications -/

/-- A run with a log, with `stack` in progress, beside the run without it. -/
def halting (σ ε : Type) (last : Nat) (stack : List Application) : Coupling (Traced σ) σ ε where
  sound s := s.Inside last ∧ s.memo.begun = stack ∧ callStack s.log = stack ∧ Orderly s.log
  le _ _ := True
  halts e s := e ≠ .exhausted ∧ Orderly s.log
  linked s t := s.untraced = t
  parted s t := s.untraced = t
  excused _ := False

theorem halting_lawful (last : Nat) (stack : List Application) : (halting σ ε last stack).Lawful 0 last where
  refl _ := trivial
  trans _ _ := trivial
  excused_le h _ := h
  le_note _ _ _ := trivial
  le_hush _ := trivial
  le_unhush _ := trivial
  sound_note {s p} d _ hp h := by
    refine ⟨h.1.note hp d, ?_⟩
    rw [State.memo_note, State.log_note]
    exact h.2
  sound_hush h := ⟨⟨h.1.distinct, h.1.endsBy, h.1.farthest⟩, h.2⟩
  sound_unhush h := ⟨⟨h.1.distinct, h.1.endsBy, h.1.farthest⟩, h.2⟩
  halts_unhush h := h
  linked_note {s t p} d _ _ h := by
    change (s.note p d).untraced = t.note p d
    rw [State.untraced_note, show s.untraced = t from h]
  linked_hush h := congrArg State.hush h
  linked_unhush h := congrArg State.unhush h
  parted_unhush h := congrArg State.unhush h

theorem Matcher.act_halting (m : Matcher σ ε) (last : Nat) (stack : List Application) (b : Block) (i j : Nat)
    (ls : List Value) :
    Coupled (halting σ ε last stack) (fun _ => True) (m.traced.act b i j ls) (m.act b i j ls) := by
  intro s hs
  obtain ⟨a, w, hne, hw⟩ := m.act_outcome b i j ls s.untraced
  rw [act_traced hw]
  have hright : ∀ t, s.untraced = t → m.act b i j ls t = outcome a { t with world := w } := fun t ht => ht ▸ hw
  cases a with
  | ok v =>
    exact ⟨trivial, ⟨⟨hs.1.distinct, hs.1.endsBy, hs.1.farthest⟩, hs.2⟩, trivial,
      fun t ht => Or.inr ⟨_, hright t ht, ht ▸ rfl⟩⟩
  | error e =>
    exact ⟨⟨fun he => hne (congrArg Except.error he), hs.2.2.2⟩, trivial,
      fun t ht => Or.inr ⟨_, hright t ht, ht ▸ rfl⟩⟩

section
variable {m : Matcher σ ε} {limit limit' last depth depth' pos : Nat} {name : String} {stack : List Application}
  {s : State (Traced σ)}

/-- An application in progress is refused. -/
theorem Matcher.begun_halting (hs : (halting σ ε last stack).sound s) (hf : s.memo.find? name pos = some .begun) :
    (halting σ ε last stack).Agree (·.EndsIn pos last) s (m.apply limit' (depth' + 1) name pos)
      (m.applyTraced limit (depth + 1) name pos s) := by
  obtain ⟨hin, hbegun, hstack, hlog⟩ := hs
  have hmem : (name, pos) ∈ callStack s.log := by
    rw [hstack, ← hbegun]
    exact (Memo.mem_begun_iff hin.distinct).2 hf
  rw [applyTraced_begun hf]
  refine ⟨trivial, ⟨⟨hin.distinct, hin.endsBy, hin.farthest⟩, hbegun, hstack, hmem, hlog⟩, trivial, fun t ht => ?_⟩
  obtain rfl : s.untraced = t := ht
  exact Or.inr ⟨_, apply_begun hf, rfl⟩

/-- A result that is remembered is recalled. -/
theorem Matcher.done_halting (hs : (halting σ ε last stack).sound s) {r : Result}
    (hf : s.memo.find? name pos = some (.done r)) :
    (halting σ ε last stack).Agree (·.EndsIn pos last) s (m.apply limit' (depth' + 1) name pos)
      (m.applyTraced limit (depth + 1) name pos s) := by
  obtain ⟨hin, hbegun, hstack, hlog⟩ := hs
  rw [applyTraced_done hf]
  refine ⟨hin.endsBy.find? hf, ⟨⟨hin.distinct, hin.endsBy, hin.farthest⟩, hbegun, hstack, trivial, hlog⟩, trivial,
    fun t ht => ?_⟩
  obtain rfl : s.untraced = t := ht
  exact Or.inr ⟨_, apply_done hf, rfl⟩

/-- An application that the memo does not know is not in progress. -/
theorem State.notMem_callStack (hs : (halting σ ε last stack).sound s) (hf : s.memo.find? name pos = none) :
    (name, pos) ∉ callStack s.log := by
  rw [hs.2.2.1, ← hs.2.1, Memo.mem_begun_iff hs.1.distinct, hf]
  nofun

theorem Matcher.undefined_halting (hs : (halting σ ε last stack).sound s) (hf : s.memo.find? name pos = none)
    (hr : m.grammar.rule? name = none) :
    (halting σ ε last stack).Agree (·.EndsIn pos last) s (m.apply limit' (depth' + 1) name pos)
      (m.applyTraced limit (depth + 1) name pos s) := by
  have hnew := s.notMem_callStack hs hf
  obtain ⟨-, -, -, hlog⟩ := hs
  rw [applyTraced_undefined hf hr]
  refine ⟨⟨nofun, hnew, hlog⟩, trivial, fun t ht => ?_⟩
  obtain rfl : s.untraced = t := ht
  exact Or.inr ⟨_, apply_undefined hf hr, rfl⟩

/-- An application begins, its body is evaluated with the application in progress, and then it has ended. -/
theorem Matcher.entered_halting (hs : (halting σ ε last stack).sound s) (hf : s.memo.find? name pos = none) {rule : Rule}
    (hr : m.grammar.rule? name = some rule)
    (hbody : Coupled (halting σ ε last ((name, pos) :: stack)) (·.EndsIn pos last)
      (rule.evalWith (Node.eval m.traced limit (m.applyTraced limit depth)) pos)
      (rule.evalWith (Node.eval m limit' (m.apply limit' depth')) pos)) :
    (halting σ ε last stack).Agree (·.EndsIn pos last) s (m.apply limit' (depth' + 1) name pos)
      (m.applyTraced limit (depth + 1) name pos s) := by
  have hnew := s.notMem_callStack hs hf
  obtain ⟨hin, hbegun, hstack, hlog⟩ := hs
  have hentered := hbody ((s.emit .entered name pos).entered name pos)
    ⟨State.Inside.entered (s := s.emit .entered name pos) ⟨hin.distinct, hin.endsBy, hin.farthest⟩ hf,
      Memo.begun_enter hbegun name pos, congrArg ((name, pos) :: ·) hstack, hnew, hlog⟩
  cases hx : rule.evalWith (Node.eval m.traced limit (m.applyTraced limit depth)) pos
      ((s.emit .entered name pos).entered name pos) with
  | ok r s' =>
    rw [hx] at hentered
    obtain ⟨hend, ⟨hin', hbegun', hstack', hlog'⟩, -, ht'⟩ := hentered
    obtain ⟨hin'', hbegun''⟩ := hin'.settled hbegun' hend m.traced
    have hhead : (callStack s'.log).head? = some (name, pos) := by rw [hstack']; rfl
    rw [applyTraced_ok hf hr hx]
    refine ⟨hend, ⟨⟨hin''.distinct, hin''.endsBy, hin''.farthest⟩, hbegun'', ?_, hhead, hlog'⟩, trivial,
      fun t ht => ?_⟩
    · exact congrArg List.tail hstack'
    · obtain rfl : s.untraced = t := ht
      obtain ⟨t', hy, hl⟩ := (ht' (s.untraced.entered name pos) rfl).resolve_left id
      obtain rfl : s'.untraced = t' := hl
      exact Or.inr ⟨_, apply_ok hf hr hy, rfl⟩
  | error e s' =>
    rw [hx] at hentered
    rw [applyTraced_error hf hr hx]
    refine ⟨hentered.1, trivial, fun t ht => ?_⟩
    obtain rfl : s.untraced = t := ht
    obtain ⟨t', hy, hl⟩ := (hentered.2.2 (s.untraced.entered name pos) rfl).resolve_left id
    exact Or.inr ⟨t', apply_error hf hr hy, hl⟩

end

/-- An application reaches no bound as long as there is room, comes to the same with larger bounds, and leaves an
orderly log. -/
theorem Matcher.applyTraced_halting {m : Matcher σ ε} {limit limit' last : Nat} (hm : m.Bound last)
    (hlimit : last ≤ limit) (hlimit' : last ≤ limit') (depth : Nat) :
    ∀ depth' stack, depth ≤ depth' → m.Room last depth stack → ∀ name pos, 0 ≤ pos → pos ≤ last →
      Coupled (halting σ ε last stack) (·.EndsIn pos last) (m.applyTraced limit depth name pos)
        (m.apply limit' depth' name pos) := by
  induction depth with
  | zero =>
    intro depth' stack _ hroom name pos _ hp s hs
    exact absurd rfl (hroom.ne_zero (hs.2.1 ▸ hs.1.distinct.begun_nodup))
  | succ depth ih =>
    intro depth' stack hdepth hroom name pos hlo hp s hs
    obtain ⟨depth', rfl⟩ := Nat.exists_eq_succ_of_ne_zero (Nat.ne_of_gt (Nat.lt_of_lt_of_le (Nat.succ_pos _) hdepth))
    cases hf : s.memo.find? name pos with
    | some e =>
      cases e with
      | begun => exact begun_halting hs hf
      | done r => exact done_halting hs hf
    | none =>
      cases hr : m.grammar.rule? name with
      | none => exact undefined_halting hs hf hr
      | some rule =>
        have hC := halting_lawful (σ := σ) (ε := ε) last ((name, pos) :: stack)
        refine entered_halting hs hf hr (Rule.evalWith_coupled hC hlo hp ?_)
        exact Node.eval_coupled hC rfl hm.length_le hlimit hlimit' (m.act_halting last _)
          (ih depth' _ (Nat.le_of_succ_le_succ hdepth) (hroom.push hr hp)) rule.body (hm.fits name rule hr) pos hlo hp

/-! ## Parses -/

/-- A parse comes to an end. -/
structure Matcher.Halts (m : Matcher σ ε) (name : String) (pos : Nat) (s : State σ) : Prop where
  /-- It comes to a result, or stops for a reason of its own. -/
  answered : answer (m.parse name pos s) ≠ .error .exhausted
  /-- It is the same with larger bounds on the applications inside each other and on the turns of a repetition. -/
  unbounded : ∀ limit depth, m.limit pos ≤ limit → m.depth (m.limit pos) ≤ depth →
    m.apply limit depth name pos (s.restart pos) = m.parse name pos s
  /-- An application begins only if it is not in progress, is refused only if it is, and ends before those under it. -/
  orderly : Orderly (m.trace name pos s)
  /-- At every moment the applications in progress differ. -/
  distinct : ∀ log, log <:+ m.trace name pos s → (callStack log).Nodup
  /-- The turns of every repetition in a rule go forward, whatever the state. -/
  advances : ∀ rule r kind n, m.grammar.rule? rule = some r → Node.Part (.repeated kind n) r.body →
    ∀ depth turns, ∀ p ≤ m.limit pos, ∀ t : State σ, t.Inside (m.limit pos) →
      GoesForward (fun q => n.eval m (m.limit pos) (m.apply (m.limit pos) depth) q) turns p (m.limit pos) t

/-- A run that agrees with a traced one has its answer and its state. -/
theorem answer_of_halting {last : Nat} {stack : List Application} {good : α → Prop} {s : State (Traced σ)} {y : Run σ ε α}
    {x : EStateM.Result (Halt ε) (State (Traced σ)) α} (h : (halting σ ε last stack).Agree good s y x) :
    Orderly (endState x).log ∧ answer (y s.untraced) = answer x ∧ endState (y s.untraced) = (endState x).untraced := by
  cases x with
  | ok a s' =>
    obtain ⟨-, hs', -, ht⟩ := h
    obtain ⟨t', hy, hl⟩ := (ht s.untraced rfl).resolve_left id
    rw [hy]
    exact ⟨hs'.2.2.2, rfl, hl.symm⟩
  | error e s' =>
    obtain ⟨hhalts, -, ht⟩ := h
    obtain ⟨t', hy, hl⟩ := (ht s.untraced rfl).resolve_left id
    rw [hy]
    exact ⟨hhalts.2, rfl, hl.symm⟩

/-- What a traced parse comes to, any parse with bounds at least as large comes to. -/
theorem Matcher.parseTraced_halting (m : Matcher σ ε) (name : String) (pos : Nat) (s : State σ) :
    Orderly (m.trace name pos s) ∧ ∀ limit depth, m.limit pos ≤ limit → m.depth (m.limit pos) ≤ depth →
      answer (m.apply limit depth name pos (s.restart pos)) = answer (m.parseTraced name pos (s.withLog [])) ∧
        endState (m.apply limit depth name pos (s.restart pos)) =
          (endState (m.parseTraced name pos (s.withLog []))).untraced := by
  have hstart : ((s.withLog []).restart pos).Inside (m.limit pos) := State.Inside.restart (m.start_le_limit pos) _
  have h := fun limit (hl : m.limit pos ≤ limit) depth hd =>
    answer_of_halting (applyTraced_halting (m.bound_limit pos) (Nat.le_refl _) hl (m.depth (m.limit pos)) depth [] hd
      (.start (Nat.le_refl _)) name pos (Nat.zero_le _) (m.start_le_limit pos) ((s.withLog []).restart pos)
      ⟨hstart, rfl, rfl, trivial⟩)
  exact ⟨(h _ (Nat.le_refl _) _ (Nat.le_refl _)).1, fun limit depth hl hd => (h limit hl depth hd).2⟩

theorem eq_of_answer_eq {α : Type} {x y : EStateM.Result ε σ α} (ha : answer x = answer y)
    (hs : endState x = endState y) : x = y := by
  cases x with
  | ok a s =>
    cases y with
    | ok b t =>
      cases ha
      cases hs
      rfl
    | error e t => cases ha
  | error e s =>
    cases y with
    | ok b t => cases ha
    | error f t =>
      cases ha
      cases hs
      rfl

/-- **Every parse halts**, from every position and with every grammar: larger bounds make no difference, no application
is inside itself, and the turns of a repetition go forward. -/
theorem Matcher.parse_halts (m : Matcher σ ε) (name : String) (pos : Nat) (s : State σ) : m.Halts name pos s := by
  obtain ⟨hlog, hsame⟩ := m.parseTraced_halting name pos s
  obtain ⟨hanswer, hend⟩ := hsame (m.limit pos) (m.depth (m.limit pos)) (Nat.le_refl _) (Nat.le_refl _)
  exact {
    answered := m.parse_ne_exhausted name pos s
    unbounded := fun limit depth hl hd =>
      eq_of_answer_eq ((hsame limit depth hl hd).1.trans hanswer.symm) ((hsame limit depth hl hd).2.trans hend.symm)
    orderly := hlog
    distinct := fun log h => (hlog.of_suffix h).nodup
    advances := fun rule r kind n hr hn depth turns p hp t ht =>
      goesForward (fun q hq u hu stop v u' hx =>
        m.part_endsIn hr (.trans (.child (List.mem_singleton_self n) .self) hn) hq hu hx) turns p hp t ht }

end

end PegTemplate
