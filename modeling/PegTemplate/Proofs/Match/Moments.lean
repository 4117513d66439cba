import PegTemplate.Proofs.Match.Bounds
import PegTemplate.Proofs.Match.Record

/-!
# The moments of a run

* `Moment` : the state at some moment of a run, with what fails then and the applications that are active;
* `Node.moments`, `Matcher.applyMoments`, `Matcher.moments` : the moments of an evaluation, one after the other;
* `heard` : the failures met outside of lookaheads and of rules with a display name;
* `State.Notes` : a state in which the record has been changed by such failures only;
* `Watched` : what holds of the moments of a computation (`Watched.bind`, `Watched.silently`);
* `Node.eval_watched`, `Matcher.apply_watched` : it holds of the moments of expressions and of applications.
-/

namespace PegTemplate

/-- A moment of a run. -/
structure Moment (σ : Type) where
  /-- The applications whose bodies are being matched, the newest first. -/
  active : List Application
  /-- No lookahead and no rule with a display name is being matched. -/
  audible : Bool
  /-- What does not match then, and where. -/
  failure : Option (Nat × String)
  state : State σ

section
variable {σ ε α β : Type}

/-! ## The moments of an evaluation -/

/-- The moments after a step that returns. -/
def continued (x : EStateM.Result (Halt ε) (State σ) α) (next : α → State σ → List (Moment σ)) : List (Moment σ) :=
  match x with
  | .ok a s => next a s
  | .error .. => []

section
variable (m : Matcher σ ε) (limit : Nat) (call : String → Nat → Run σ ε Result)
  (inside : (audible : Bool) → String → Nat → State σ → List (Moment σ)) (active : List Application)

/-- The moments of the turns of a repetition. -/
def turnMoments (step : Nat → Run σ ε Result) (inTurn : Nat → State σ → List (Moment σ)) : (turns pos : Nat) → State σ →
    List (Moment σ)
  | 0, _, _ => []
  | turns + 1, pos, s => inTurn pos s ++ continued (step pos s) fun
    | .failed, _ => []
    | .matched stop _, t => if stop = pos then [] else turnMoments step inTurn turns stop t

mutual

/-- The moments of the evaluation of an expression: when a terminal is tried, when an action is about to run, and those
`inside` the applications of rules. -/
def Node.moments : Node → (audible : Bool) → (pos : Nat) → State σ → List (Moment σ)
  | .literal t i, audible, pos, s =>
    let failure := if literalAccepts t i (slice m.text pos (pos + t.length)) then none
      else some (pos, literalDescription t i)
    [⟨active, audible, failure, s⟩]
  | .any, audible, pos, s =>
    let failure := if m.text[pos]?.isSome then none else some (pos, "any character")
    [⟨active, audible, failure, s⟩]
  | .charClass c, audible, pos, s =>
    let failure := if m.text[pos]?.any c.accepts then none else some (pos, c.description)
    [⟨active, audible, failure, s⟩]
  | .ref r, audible, pos, s => inside audible r pos s
  | .labeled _ n, audible, pos, s => n.moments audible pos s
  | .text n, audible, pos, s => n.moments audible pos s
  | .followedBy n, _, pos, s => n.moments false pos s.hush
  | .notFollowedBy n, _, pos, s => n.moments false pos s.hush
  | .repeated .optional n, audible, pos, s => n.moments audible pos s
  | .repeated _ n, audible, pos, s =>
    turnMoments (fun p => n.eval m limit call p) (fun p => n.moments audible p) (limit + 1 - pos) pos s
  | .sequence ns, audible, pos, s => momentsAll ns audible pos s
  | .choice ns, audible, pos, s => momentsFirst ns audible pos s
  | .action n _, audible, pos, s => n.moments audible pos s ++ continued (n.eval m limit call pos s) fun
    | .failed, _ => []
    | .matched .., t => [⟨active, audible, none, t⟩]

/-- The moments in which one expression is matched after the other. -/
def momentsAll : List Node → (audible : Bool) → (pos : Nat) → State σ → List (Moment σ)
  | [], _, _, _ => []
  | n :: ns, audible, pos, s => n.moments audible pos s ++ continued (n.eval m limit call pos s) fun
    | .failed, _ => []
    | .matched stop _, t => momentsAll ns audible stop t

/-- The moments up to the first expression that matches. -/
def momentsFirst : List Node → (audible : Bool) → (pos : Nat) → State σ → List (Moment σ)
  | [], _, _, _ => []
  | n :: ns, audible, pos, s => n.moments audible pos s ++ continued (n.eval m limit call pos s) fun
    | .failed, t => momentsFirst ns audible pos t
    | .matched .., _ => []

end

end

/-- The moments in which the body of a rule is matched. A rule with a display name fails after its body has. -/
def Rule.moments (r : Rule) (eval : Node → Nat → Run σ ε Result)
    (inBody : (audible : Bool) → Nat → State σ → List (Moment σ)) (active : List Application) (audible : Bool) (pos : Nat)
    (s : State σ) : List (Moment σ) :=
  match r.display with
  | none => inBody audible pos s
  | some d => inBody false pos s.hush ++ continued (silently (eval r.body pos) s) fun
    | .failed, t => [⟨active, audible, some (pos, d), t⟩]
    | .matched .., _ => []

/-- The moments of the application of a rule: when it is looked up, when it has begun, those of its body, and when it is
done. There is nothing after the look-up if it is known. -/
def Matcher.applyMoments (m : Matcher σ ε) (limit : Nat) : (depth : Nat) → (active : List Application) → (audible : Bool) →
    String → (pos : Nat) → State σ → List (Moment σ)
  | 0, _, _, _, _, _ => []
  | depth + 1, active, audible, name, pos, s => ⟨active, audible, none, s⟩ :: match s.memo.find? name pos with
    | some _ => []
    | none => ⟨(name, pos) :: active, audible, none, s.entered name pos⟩ :: match m.grammar.rule? name with
      | none => []
      | some rule =>
        let eval := Node.eval m limit (m.apply limit depth)
        let within := (name, pos) :: active
        let inBody := Node.moments m limit (m.apply limit depth) (m.applyMoments limit depth within) within rule.body
        rule.moments eval inBody within audible pos (s.entered name pos) ++
          continued (rule.evalWith eval pos (s.entered name pos)) fun r t =>
            [⟨active, audible, none, m.settled name pos r t⟩]

/-- The moments of a parse. -/
def Matcher.moments (m : Matcher σ ε) (name : String) (pos : Nat) (s : State σ) : List (Moment σ) :=
  m.applyMoments (m.limit pos) (m.depth (m.limit pos)) [] (s.silence = 0) name pos (s.restart pos)

/-- The failure of a moment, outside of lookaheads and of rules with a display name. -/
def Moment.heard? (q : Moment σ) : Option (Nat × String) := if q.audible then q.failure else none

/-- The failures met outside of lookaheads and of rules with a display name, in order. -/
def heard (ms : List (Moment σ)) : Failures := ms.filterMap Moment.heard?

/-! ## The record -/

/-- Notes one failure after the other. -/
def State.noteAll (s : State σ) (fs : Failures) : State σ := fs.foldl (fun s f => s.note f.1 f.2) s

/-- From `s` to `t` the failures `fs` are noted, and the silence is that of `s` again. -/
structure State.Notes (s : State σ) (fs : Failures) (t : State σ) : Prop where
  silence : t.silence = s.silence
  farthest : t.farthest = (s.noteAll fs).farthest
  expected : t.expected = (s.noteAll fs).expected

namespace State

theorem noteAll_append (s : State σ) (fs gs : Failures) : s.noteAll (fs ++ gs) = (s.noteAll fs).noteAll gs :=
  List.foldl_append

theorem silence_noteAll (s : State σ) (fs : Failures) : (s.noteAll fs).silence = s.silence := by
  induction fs generalizing s with
  | nil => rfl
  | cons f fs ih => exact (ih (s.note f.1 f.2)).trans (s.silence_note f.1 f.2)

namespace Notes
variable {s t u : State σ} {fs gs : Failures}

/-- Nothing is noted. -/
theorem still (hsilence : t.silence = s.silence) (hfarthest : t.farthest = s.farthest) (hexpected : t.expected = s.expected) :
    s.Notes [] t := ⟨hsilence, hfarthest, hexpected⟩

theorem refl (s : State σ) : s.Notes [] s := still rfl rfl rfl

/-- A failure is noted, with silence or without. -/
theorem note (s : State σ) (p : Nat) (d : String) : s.Notes [(p, d)] (s.note p d) := ⟨s.silence_note p d, rfl, rfl⟩

/-- What the failures change of the record hangs on the record and the silence alone. -/
theorem congr (hsilence : t.silence = s.silence) (hfarthest : t.farthest = s.farthest) (hexpected : t.expected = s.expected)
    (fs : Failures) : (t.noteAll fs).farthest = (s.noteAll fs).farthest ∧
      (t.noteAll fs).expected = (s.noteAll fs).expected := by
  induction fs generalizing s t with
  | nil => exact ⟨hfarthest, hexpected⟩
  | cons f fs ih =>
    refine ih (s := s.note f.1 f.2) (t := t.note f.1 f.2) ?_ ?_ ?_
    · rw [silence_note, silence_note, hsilence]
    all_goals
      unfold State.note
      rw [hsilence, hfarthest, hexpected]
      split_ifs <;> first | rfl | assumption

theorem trans (h : s.Notes fs t) (h' : t.Notes gs u) : s.Notes (fs ++ gs) u := by
  have hsame := congr (h.silence.trans (s.silence_noteAll fs).symm) h.farthest h.expected gs
  rw [← noteAll_append] at hsame
  exact ⟨h'.silence.trans h.silence, h'.farthest.trans hsame.1, h'.expected.trans hsame.2⟩

end Notes

end State

/-! ## What holds of the moments of a run -/

/-- From `s` a run comes to `x`, and goes through the moments `ms`. -/
structure Watching (pos : Nat) (audible : Bool) (s : State σ) (x : EStateM.Result (Halt ε) (State σ) α)
    (ms : List (Moment σ)) : Prop where
  /-- The applications in progress in the memo table are those that are active. -/
  progress : ∀ q ∈ ms, q.state.memo.begun = q.active ∧ q.state.memo.Distinct
  /-- Nothing fails before `pos`. -/
  onward : ∀ q ∈ ms, ∀ f, q.failure = some f → pos ≤ f.1
  quiet : audible = false → ∀ q ∈ ms, q.audible = false
  /-- The failures that are heard are noted, and no others. -/
  noted : s.Notes (heard ms) (endState x)
  /-- Where the run stops, the memo table is that of the last moment. -/
  stopped : ∀ e t, x = .error e t → e ≠ .exhausted → ∃ q, ms.getLast? = some q ∧ t.memo = q.state.memo

/-- So it is from all states that keep the bound `last`, with the applications of `stack` in progress. -/
def Watched (last : Nat) (stack : List Application) (pos : Nat) (audible : Bool) (x : Run σ ε α)
    (ms : State σ → List (Moment σ)) : Prop :=
  ∀ s, s.Inside last → s.memo.begun = stack → (audible = true ↔ s.silence = 0) → Watching pos audible s (x s) (ms s)

theorem heard_append (ms ms' : List (Moment σ)) : heard (ms ++ ms') = heard ms ++ heard ms' := List.filterMap_append

theorem heard_eq_nil {ms : List (Moment σ)} (h : ∀ q ∈ ms, q.audible = false) : heard ms = [] :=
  List.filterMap_eq_nil_iff.2 fun q hq => by rw [Moment.heard?, h q hq]; rfl

namespace Watching
variable {active : List Application} {pos pos' : Nat} {audible : Bool} {s t : State σ} {ms ms' : List (Moment σ)}

/-- A step that leaves the record as it is. -/
theorem still (a : α) (h : s.Notes [] t) :
    Watching pos audible s (.ok a t : EStateM.Result (Halt ε) (State σ) α) [] where
  progress := List.forall_mem_nil _
  onward := List.forall_mem_nil _
  quiet _ := List.forall_mem_nil _
  noted := h
  stopped := nofun

theorem mono {x : EStateM.Result (Halt ε) (State σ) α} (h : Watching pos audible s x ms) (hp : pos' ≤ pos) :
    Watching pos' audible s x ms :=
  { h with onward := fun q hq f hf => Nat.le_trans hp (h.onward q hq f hf) }

/-- One run after another. -/
theorem append {a : α} {y : EStateM.Result (Halt ε) (State σ) β}
    (h : Watching pos audible s (.ok a t : EStateM.Result (Halt ε) (State σ) α) ms)
    (h' : Watching pos audible t y ms') : Watching pos audible s y (ms ++ ms') where
  progress := List.forall_mem_append.2 ⟨h.progress, h'.progress⟩
  onward := List.forall_mem_append.2 ⟨h.onward, h'.onward⟩
  quiet ha := List.forall_mem_append.2 ⟨h.quiet ha, h'.quiet ha⟩
  noted := heard_append ms ms' ▸ h.noted.trans h'.noted
  stopped e u hu he := by
    obtain ⟨q, hq, hb⟩ := h'.stopped e u hu he
    exact ⟨q, by rw [List.getLast?_append, hq]; rfl, hb⟩

/-- A bound is reached. -/
theorem exhausted (s : State σ) : Watching pos audible s (.error .exhausted s : EStateM.Result (Halt ε) (State σ) α) [] where
  progress := List.forall_mem_nil _
  onward := List.forall_mem_nil _
  quiet _ := List.forall_mem_nil _
  noted := .refl s
  stopped e t he hne := by
    cases he
    exact absurd rfl hne

/-- A moment in which nothing fails, and a step after it that leaves the record as it is. -/
theorem moment (hbegun : s.memo.begun = active) (hdistinct : s.memo.Distinct)
    {x : EStateM.Result (Halt ε) (State σ) α} (hnoted : s.Notes [] (endState x))
    (hstop : ∀ e t, x = .error e t → t.memo = s.memo) : Watching pos audible s x [⟨active, audible, none, s⟩] where
  progress := List.forall_mem_singleton.2 ⟨hbegun, hdistinct⟩
  onward := List.forall_mem_singleton.2 nofun
  quiet ha := List.forall_mem_singleton.2 ha
  noted := by
    have hheard : heard [⟨active, audible, none, s⟩] = [] := by
      rw [heard, List.filterMap_cons_none (by rw [Moment.heard?, ite_self]), List.filterMap_nil]
    rwa [hheard]
  stopped e t hx _ := ⟨_, rfl, hstop e t hx⟩

/-- The moment of a run that returns at once. -/
theorem returned (hbegun : s.memo.begun = active) (hdistinct : s.memo.Distinct) (a : α) :
    Watching pos audible s (.ok a s : EStateM.Result (Halt ε) (State σ) α) [⟨active, audible, none, s⟩] :=
  .moment hbegun hdistinct (.refl s) nofun

/-- A moment in which something fails, which is noted. -/
theorem failure (hbegun : s.memo.begun = active) (hdistinct : s.memo.Distinct) (ha : audible = true ↔ s.silence = 0)
    (d : String) : Watching pos audible s (failAt pos d s : EStateM.Result (Halt ε) (State σ) Result)
      [⟨active, audible, some (pos, d), s⟩] where
  progress := List.forall_mem_singleton.2 ⟨hbegun, hdistinct⟩
  onward := List.forall_mem_singleton.2 fun f hf => (Option.some.inj hf) ▸ Nat.le_refl pos
  quiet ha := List.forall_mem_singleton.2 ha
  noted := by
    change s.Notes _ (s.note pos d)
    cases audible with
    | true => exact .note s pos d
    | false =>
      rw [State.note_of_silent (Nat.pos_of_ne_zero fun h => Bool.false_ne_true (ha.2 h))]
      exact .refl s
  stopped := nofun

end Watching

namespace Watched
variable {last : Nat} {stack : List Application} {pos pos' : Nat} {audible : Bool} {x : Run σ ε α}
  {ms : State σ → List (Moment σ)}

theorem mono (h : Watched last stack pos audible x ms) (hp : pos' ≤ pos) : Watched last stack pos' audible x ms :=
  fun s hs hb ha => (h s hs hb ha).mono hp

theorem pure (a : α) : Watched (σ := σ) (ε := ε) last stack pos audible (Pure.pure a) fun _ => [] :=
  fun s _ _ _ => .still a (.refl s)

theorem bind {good : α → Prop} (hx : Watched last stack pos audible x ms)
    (hbounds : Coupled (bounds σ ε last stack False) good x x) {f : α → Run σ ε β} (next : α → State σ → List (Moment σ))
    (hf : ∀ a, good a → Watched last stack pos audible (f a) (next a)) :
    Watched last stack pos audible (x >>= f) fun s => ms s ++ continued (x s) next := by
  intro s hs hb ha
  have hw := hx s hs hb ha
  have hsound := hbounds s ⟨hs, hb⟩
  dsimp only
  cases h : x s with
  | error e t =>
    rw [h] at hw
    rw [bind_error h, continued, List.append_nil]
    exact { hw with stopped := fun e' u hu => by cases hu; exact hw.stopped e t rfl }
  | ok a t =>
    rw [h] at hw hsound
    rw [bind_ok h]
    obtain ⟨hgood, ⟨hin, hbegun⟩, -, -⟩ := hsound
    exact hw.append (hf a hgood t hin hbegun (by rw [show t.silence = s.silence from hw.noted.silence]; exact ha))

/-- A run that goes on without a further step. -/
theorem map (hx : Watched last stack pos audible x ms) {f : α → Run σ ε β} (hf : ∀ a, ∃ b, f a = Pure.pure b) :
    Watched last stack pos audible (x >>= f) ms := by
  intro s hs hb ha
  have hw := hx s hs hb ha
  cases h : x s with
  | error e t =>
    rw [h] at hw
    rw [bind_error h]
    exact { hw with stopped := fun e' u hu => by cases hu; exact hw.stopped e t rfl }
  | ok a t =>
    obtain ⟨b, hb⟩ := hf a
    rw [h] at hw
    rw [bind_ok h, hb]
    exact { hw with stopped := nofun }

/-- Nothing that fails inside is heard. -/
theorem silently (hx : Watched last stack pos false x ms) :
    Watched last stack pos audible (silently x) fun s => ms s.hush := by
  intro s hs hb ha
  have hin : s.hush.Inside last := ⟨hs.distinct, hs.endsBy, hs.farthest⟩
  have hw := hx s.hush hin hb ⟨nofun, fun h => absurd h (Nat.succ_ne_zero _)⟩
  have hheard : heard (ms s.hush) = [] := heard_eq_nil (hw.quiet rfl)
  have hnoted := hw.noted
  rw [hheard] at hnoted
  have hunhush : s.Notes [] (endState (x s.hush)).unhush :=
    .still (congrArg (· - 1) hnoted.silence) hnoted.farthest hnoted.expected
  refine ⟨hw.progress, hw.onward, fun _ => hw.quiet rfl, ?_, ?_⟩
  · rw [hheard]
    cases h : x s.hush with
    | ok a t => rw [silently_ok h]; rw [h] at hunhush; exact hunhush
    | error e t => rw [silently_error h]; rw [h] at hunhush; exact hunhush
  · intro e t ht
    cases h : x s.hush with
    | ok a u => rw [silently_ok h] at ht; cases ht
    | error e' u =>
      rw [silently_error h] at ht
      cases ht
      exact hw.stopped e u h

end Watched

/-! ## Expressions -/

/-- An action is about to run. -/
theorem Matcher.act_watched (m : Matcher σ ε) {last : Nat} {stack : List Application} {pos : Nat} {audible : Bool} (b : Block)
    (i j : Nat) (ls : List Value) : Watched last stack pos audible (m.act b i j ls) fun s => [⟨stack, audible, none, s⟩] := by
  intro s hs hb _
  obtain ⟨a, w, -, hw⟩ := m.act_outcome b i j ls s
  rw [hw]
  refine .moment hb hs.distinct ?_ fun e t ht => ?_
  · rw [endState_outcome]
    exact .still rfl rfl rfl
  · cases a with
    | ok v => cases ht
    | error e => cases ht; rfl

section
variable {m : Matcher σ ε} {limit last : Nat} {call : String → Nat → Run σ ε Result}
  {inside : (audible : Bool) → String → Nat → State σ → List (Moment σ)} {stack : List Application}

/-- The turns of a repetition. -/
theorem repeatFrom_watched {step : Nat → Run σ ε Result} {inTurn : Nat → State σ → List (Moment σ)} {audible : Bool}
    (hbounds : ∀ p ≤ last, Coupled (bounds σ ε last stack False) (·.EndsIn p last) (step p) (step p))
    (hstep : ∀ p ≤ last, Watched last stack p audible (step p) (inTurn p)) (turns : Nat) :
    ∀ p ≤ last, Watched last stack p audible (repeatFrom step turns p) (turnMoments step inTurn turns p) := by
  induction turns with
  | zero => exact fun p _ s _ _ _ => .exhausted s
  | succ turns ih =>
    intro p hp
    refine (hstep p hp).bind (hbounds p hp) (fun
      | .failed, _ => []
      | .matched stop _, t => if stop = p then [] else turnMoments step inTurn turns stop t) fun r hr => ?_
    cases r with
    | failed => exact .pure _
    | matched stop v =>
      dsimp only
      by_cases hstop : stop = p
      · simp only [if_pos hstop]
        exact .pure _
      · simp only [if_neg hstop]
        exact ((ih stop hr.2).mono hr.1).map fun _ => ⟨_, rfl⟩

section
variable {ns : List Node} {audible : Bool}
  (hbounds : ∀ n ∈ ns, ∀ p ≤ last, Coupled (bounds σ ε last stack False) (·.EndsIn p last) (n.eval m limit call p)
    (n.eval m limit call p))
  (hns : ∀ n ∈ ns, ∀ p ≤ last, Watched last stack p audible (n.eval m limit call p)
    (n.moments m limit call inside stack audible p))
include hbounds hns

theorem evalAll_watched {p : Nat} (hp : p ≤ last) : Watched last stack p audible (evalAll m limit call ns p)
    (momentsAll m limit call inside stack ns audible p) := by
  induction ns generalizing p with
  | nil => exact .pure _
  | cons n ns ih =>
    refine (hns n List.mem_cons_self p hp).bind (hbounds n List.mem_cons_self p hp) (fun
      | .failed, _ => []
      | .matched stop _, t => momentsAll m limit call inside stack ns audible stop t) fun r hr => ?_
    cases r with
    | failed => exact .pure _
    | matched stop v =>
      refine (Watched.mono (ih (fun k hk => hbounds k (List.mem_cons_of_mem n hk))
        (fun k hk => hns k (List.mem_cons_of_mem n hk)) hr.2) hr.1).map fun q => ?_
      cases q <;> exact ⟨_, rfl⟩

theorem evalFirst_watched {p : Nat} (hp : p ≤ last) : Watched last stack p audible (evalFirst m limit call ns p)
    (momentsFirst m limit call inside stack ns audible p) := by
  induction ns with
  | nil => exact .pure _
  | cons n ns ih =>
    refine (hns n List.mem_cons_self p hp).bind (hbounds n List.mem_cons_self p hp) (fun
      | .failed, t => momentsFirst m limit call inside stack ns audible p t
      | .matched .., _ => []) fun r hr => ?_
    cases r with
    | failed =>
      exact ih (fun k hk => hbounds k (List.mem_cons_of_mem n hk)) fun k hk => hns k (List.mem_cons_of_mem n hk)
    | matched stop v => exact .pure _

end

/-- **What holds of the moments of applications holds of the moments of an expression.** -/
theorem Node.eval_watched (hlength : m.text.length ≤ last) (hlimit : last ≤ limit)
    (happly : ∀ r p, 0 ≤ p → p ≤ last → Coupled (bounds σ ε last stack False) (·.EndsIn p last) (call r p) (call r p))
    (hcall : ∀ audible r p, p ≤ last → Watched last stack p audible (call r p) (inside audible r p)) (n : Node)
    (hn : n.FitsIn m.text last) : ∀ audible, ∀ p ≤ last, Watched last stack p audible (n.eval m limit call p)
      (n.moments m limit call inside stack audible p) := by
  have hbounds : ∀ n : Node, n.FitsIn m.text last → ∀ p ≤ last, Coupled (bounds σ ε last stack False) (·.EndsIn p last)
      (n.eval m limit call p) (n.eval m limit call p) := fun n hn p hp =>
    Node.eval_coupled (bounds_lawful last stack False) rfl hlength hlimit hlimit (m.act_bounds _ _ _) happly n hn p
      (Nat.zero_le p) hp
  induction n using Node.induction with
  | literal t i =>
    intro audible p hp s hs hb ha
    simp only [Node.eval, Node.moments]
    split_ifs
    · exact .returned hb hs.distinct _
    · exact .failure hb hs.distinct ha _
  | charClass c =>
    intro audible p hp s hs hb ha
    simp only [Node.eval, Node.moments]
    cases m.text[p]? with
    | none => exact .failure hb hs.distinct ha _
    | some x =>
      simp only [Option.any_some]
      split_ifs
      · exact .returned hb hs.distinct _
      · exact .failure hb hs.distinct ha _
  | any =>
    intro audible p hp s hs hb ha
    simp only [Node.eval, Node.moments]
    cases m.text[p]? with
    | none => exact .failure hb hs.distinct ha _
    | some x => exact .returned hb hs.distinct _
  | ref r =>
    intro audible p hp
    simp only [Node.eval, Node.moments]
    exact hcall audible r p hp
  | followedBy n ih | notFollowedBy n ih =>
    intro audible p hp
    simp only [Node.eval, Node.moments]
    exact (ih (hn.child List.mem_cons_self) false p hp).silently.map fun r => by cases r <;> exact ⟨_, rfl⟩
  | text n ih =>
    intro audible p hp
    simp only [Node.eval, Node.moments]
    exact (ih (hn.child List.mem_cons_self) audible p hp).map fun r => by cases r <;> exact ⟨_, rfl⟩
  | labeled l n ih =>
    intro audible p hp
    simp only [Node.eval, Node.moments]
    exact ih (hn.child List.mem_cons_self) audible p hp
  | repeated kind n ih =>
    intro audible p hp
    have hfit := hn.child (c := n) List.mem_cons_self
    have hturn := ih hfit audible
    cases kind with
    | optional =>
      simp only [Node.eval, Node.moments]
      exact (hturn p hp).map fun r => by cases r <;> exact ⟨_, rfl⟩
    | star | plus =>
      simp only [Node.eval, Node.moments]
      exact (repeatFrom_watched (hbounds n hfit) hturn _ p hp).map fun _ => ⟨_, rfl⟩
  | sequence ns ih =>
    intro audible p hp
    rw [Node.eval_sequence]
    simp only [Node.moments]
    exact (evalAll_watched (fun n h => hbounds n (hn.child h)) (fun n h => ih n h (hn.child h) audible) hp).map
      fun _ => ⟨_, rfl⟩
  | choice ns ih =>
    intro audible p hp
    simp only [Node.eval, Node.moments]
    exact evalFirst_watched (fun n h => hbounds n (hn.child h)) (fun n h => ih n h (hn.child h) audible) hp
  | action n b ih _ =>
    intro audible p hp
    have hfit := hn.child (c := n) List.mem_cons_self
    rw [Node.eval_action_body]
    simp only [Node.moments]
    refine (ih hfit audible p hp).bind (hbounds n hfit p hp) _ fun r _ => ?_
    cases r with
    | failed => exact .pure _
    | matched stop v => exact (m.act_watched b p stop _).map fun _ => ⟨_, rfl⟩

end

/-! ## Applications -/

section
variable {m : Matcher σ ε} {limit depth last pos : Nat} {name : String} {stack : List Application} {audible : Bool}

/-- The body of a rule, with or without a display name. -/
theorem Rule.evalWith_watched {r : Rule} {eval : Node → Nat → Run σ ε Result}
    {inBody : (audible : Bool) → Nat → State σ → List (Moment σ)}
    (hbounds : Coupled (bounds σ ε last stack False) (·.EndsIn pos last) (eval r.body pos) (eval r.body pos))
    (h : ∀ audible, Watched last stack pos audible (eval r.body pos) (inBody audible pos)) :
    Watched last stack pos audible (r.evalWith eval pos) (r.moments eval inBody stack audible pos) := by
  unfold Rule.evalWith Rule.moments
  cases r.display with
  | none => exact h audible
  | some d =>
    refine (h false).silently.bind (Coupled.silently (bounds_lawful last stack False) hbounds) (fun
      | .failed, t => [⟨stack, audible, some (pos, d), t⟩]
      | .matched .., _ => []) fun q _ => ?_
    cases q with
    | failed => exact fun s hs hb ha => .failure hb hs.distinct ha d
    | matched stop v => exact .pure _

/-- The moments of an application that is known. -/
theorem Matcher.known_watched {s : State σ} (hs : s.Inside last) (hb : s.memo.begun = stack) {known : Entry}
    (hf : s.memo.find? name pos = some known) : Watching pos audible s (m.apply limit (depth + 1) name pos s)
      [⟨stack, audible, none, s⟩] := by
  cases known with
  | begun =>
    rw [apply_begun hf]
    exact .returned hb hs.distinct _
  | done r =>
    rw [apply_done hf]
    exact .returned hb hs.distinct _

/-- An application is looked up, and begins. -/
theorem State.entered_watched {s : State σ} (hs : s.Inside last) (hb : s.memo.begun = stack) : Watching pos audible s
    (.ok () (s.entered name pos) : EStateM.Result (Halt ε) (State σ) Unit) [⟨stack, audible, none, s⟩] :=
  .moment hb hs.distinct (.still rfl rfl rfl) nofun

section
variable {s : State σ} (hs : s.Inside last) (hb : s.memo.begun = stack) (hf : s.memo.find? name pos = none)
include hs hb hf

/-- The moments of an application of a rule that is not there. -/
theorem Matcher.undefined_watched (hr : m.grammar.rule? name = none) :
    Watching pos audible s (m.apply limit (depth + 1) name pos s)
      ([⟨stack, audible, none, s⟩] ++ [⟨(name, pos) :: stack, audible, none, s.entered name pos⟩]) := by
  rw [apply_undefined hf hr]
  refine (s.entered_watched hs hb).append (.moment (Memo.begun_enter hb name pos) (hs.entered hf).distinct ?_ ?_)
  · exact .refl _
  · intro e t ht
    cases ht
    rfl

/-- The moments of an application that begins: those of its body are between its begin and its end. -/
theorem Matcher.begun_watched (ha : audible = true ↔ s.silence = 0) {rule : Rule} (hr : m.grammar.rule? name = some rule)
    {ms : State σ → List (Moment σ)}
    (hbounds : Coupled (bounds σ ε last ((name, pos) :: stack) False) (·.EndsIn pos last)
      (rule.evalWith (Node.eval m limit (m.apply limit depth)) pos)
      (rule.evalWith (Node.eval m limit (m.apply limit depth)) pos))
    (hbody : Watched last ((name, pos) :: stack) pos audible (rule.evalWith (Node.eval m limit (m.apply limit depth)) pos)
      ms) :
    Watching pos audible s (m.apply limit (depth + 1) name pos s)
      ([⟨stack, audible, none, s⟩] ++ ([⟨(name, pos) :: stack, audible, none, s.entered name pos⟩] ++
        (ms (s.entered name pos) ++
          continued (rule.evalWith (Node.eval m limit (m.apply limit depth)) pos (s.entered name pos)) fun r t =>
            [⟨stack, audible, none, m.settled name pos r t⟩]))) := by
  have hin := hs.entered hf
  have hbegun := Memo.begun_enter hb name pos
  have hw := hbody (s.entered name pos) hin hbegun ha
  have hsound := hbounds (s.entered name pos) ⟨hin, hbegun⟩
  have hstart : ∀ {x : EStateM.Result (Halt ε) (State σ) Result} {ms : List (Moment σ)},
      Watching pos audible (s.entered name pos) x ms → Watching pos audible s x
        ([⟨stack, audible, none, s⟩] ++ ([⟨(name, pos) :: stack, audible, none, s.entered name pos⟩] ++ ms)) := fun h =>
    (s.entered_watched hs hb).append
      (.append (a := ()) (.returned hbegun hin.distinct ()) h)
  cases hx : rule.evalWith (Node.eval m limit (m.apply limit depth)) pos (s.entered name pos) with
  | error e t =>
    rw [hx] at hw
    rw [apply_error hf hr hx, continued, List.append_nil]
    exact hstart hw
  | ok r t =>
    rw [hx] at hw hsound
    obtain ⟨-, ⟨hin', hbegun'⟩, -, -⟩ := hsound
    obtain ⟨hdistinct, hsettled⟩ := m.begun_settled hin'.distinct hbegun' r
    have hdone : t.Notes [] (m.settled name pos r t) := .still rfl rfl rfl
    rw [apply_ok hf hr hx]
    exact hstart (hw.append (.append (.still () hdone) (.returned hsettled hdistinct _)))

end

/-- **Where rules are applied, the memo table keeps account of the active applications**, and the record of the failures
that are heard. -/
theorem Matcher.apply_watched (hm : m.Bound last) (hlimit : last ≤ limit) (depth : Nat) : ∀ stack audible name, ∀ pos ≤ last,
    Watched last stack pos audible (m.apply limit depth name pos)
      (m.applyMoments limit depth stack audible name pos) := by
  induction depth with
  | zero => exact fun stack audible name pos _ s _ _ _ => .exhausted s
  | succ depth ih =>
    intro stack audible name pos hp s hs hb ha
    unfold applyMoments
    cases hf : s.memo.find? name pos with
    | some known => exact known_watched hs hb hf
    | none =>
      cases hr : m.grammar.rule? name with
      | none => exact undefined_watched hs hb hf hr
      | some rule =>
        have happly := fun r p hlo hp => apply_bounds hm hlimit depth ((name, pos) :: stack) False.elim r p hlo hp
        have hfits := hm.fits name rule hr
        have heval := Node.eval_coupled (bounds_lawful last ((name, pos) :: stack) False) rfl hm.length_le hlimit hlimit
          (m.act_bounds last ((name, pos) :: stack) False) happly rule.body hfits pos (Nat.zero_le pos) hp
        have hbody := Node.eval_watched hm.length_le hlimit happly (ih ((name, pos) :: stack)) rule.body hfits
        exact begun_watched hs hb hf ha hr (Rule.evalWith_coupled (bounds_lawful _ _ _) (Nat.zero_le pos) hp heval)
          (Rule.evalWith_watched heval fun audible => hbody audible pos hp)

end

/-! ## Parses -/

/-- **The moments of a parse**: the applications in progress are always those that are active, nothing fails before the
start, and what is heard is noted. -/
theorem Matcher.parse_watched (m : Matcher σ ε) (name : String) (pos : Nat) (s : State σ) :
    Watching pos (s.silence = 0) (s.restart pos) (m.parse name pos s) (m.moments name pos s) :=
  apply_watched (m.bound_limit pos) (Nat.le_refl _) (m.depth (m.limit pos)) [] (s.silence = 0) name pos
    (m.start_le_limit pos) (s.restart pos) (State.Inside.restart (m.start_le_limit pos) s) rfl decide_eq_true_iff

end

end PegTemplate
