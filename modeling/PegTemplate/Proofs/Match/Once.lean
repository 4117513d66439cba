import Mathlib.Data.List.Nodup
import Mathlib.Data.List.Pairwise
import PegTemplate.Proofs.Grammar.Shape
import PegTemplate.Proofs.Match.ActionRuns
import PegTemplate.Proofs.Match.Kept

/-!
# Every body once

* `Moves`, `Steady` : computations that change the state along a relation, and relations that the steps of matching keep;
* `Event.enters` : the body of a rule begins to be matched at a position;
* `Matcher.trace_enters_le` : with a cache this happens once at most for each rule and position;
* `Node.ClosedBy` : the action of a block closes an expression, or one of its alternatives;
* `Spent`, `Node.eval_spent` : how often an action has run for matches that start at a position, beside how often the body
  of its rule has begun to be matched there;
* `Matcher.runs_le_enters` : an action that closes the body of a rule runs at most once each time;
* `Matcher.evaluated_once` : **with a cache each body is matched at most once at each position, and each action that closes
  one runs at most once for each start.**
-/

namespace PegTemplate

/-! ## Relations of states -/

section
variable {σ ε α β : Type} {R R₁ R₂ : State σ → State σ → Prop}

/-- A computation changes the state along a relation, whatever it comes to. -/
def Moves (R : State σ → State σ → Prop) (α : Type) (x : Run σ ε α) : Prop := ∀ s, R s (endState (x s))

/-- A relation that holds along every computation if it holds along the applications of rules and the actions. -/
structure Steady (R : State σ → State σ → Prop) : Prop where
  refl : ∀ s, R s s
  trans : ∀ {s t u}, R s t → R t u → R s u
  note : ∀ s p d, R s (s.note p d)
  silent : ∀ {s t}, R s.hush t → R s t.unhush

theorem Moves.bind {x : Run σ ε α} {f : α → Run σ ε β} (hx : Moves R₁ α x)
    (hf : ∀ s a t, x s = .ok a t → Moves R₂ β (f a)) (hstop : ∀ {s t}, R₁ s t → R s t)
    (htrans : ∀ {s t u}, R₁ s t → R₂ t u → R s u) : Moves R β (x >>= f) := by
  intro s
  have hs := hx s
  cases hxs : x s with
  | ok a t =>
    rw [bind_ok hxs]
    rw [hxs] at hs
    exact htrans hs (hf s a t hxs t)
  | error e t =>
    rw [bind_error hxs]
    rw [hxs] at hs
    exact hstop hs

theorem Moves.silently {x : Run σ ε α} (hx : Moves R₁ α x) (h : ∀ {s t}, R₁ s.hush t → R s t.unhush) :
    Moves R α (silently x) := by
  intro s
  have hs := hx s.hush
  cases hxs : x s.hush with
  | ok a t =>
    rw [silently_ok hxs]
    rw [hxs] at hs
    exact h hs
  | error e t =>
    rw [silently_error hxs]
    rw [hxs] at hs
    exact h hs

theorem Steady.kept (h : Steady R) : KeptBySteps (ε := ε) (Moves R) where
  pure _ s := h.refl s
  bind hx hf := hx.bind hf id h.trans
  silently hx := hx.silently h.silent
  record p d s := h.note s p d
  exhausted _ s := h.refl s

end

/-! ## Bodies -/

/-- The body of a rule begins to be matched at a position. -/
def Event.enters (name : String) (pos : Nat) (e : Event) : Bool := e.kind = .entered ∧ e.application = (name, pos)

section
variable {σ ε : Type}

/-- How often the body of a rule has begun to be matched at a position. -/
def State.entries (name : String) (pos : Nat) (s : State (Traced σ)) : Nat := s.log.countP (·.enters name pos)

theorem State.entries_note (r : String) (p : Nat) (s : State (Traced σ)) (q : Nat) (d : String) :
    (s.note q d).entries r p = s.entries r p := by
  unfold entries
  rw [log_note]

theorem State.entries_emit (r : String) (p : Nat) (kind : Happening) (name : String) (pos : Nat) (s : State (Traced σ)) :
    (s.emit kind name pos).entries r p =
      s.entries r p + if kind = .entered ∧ name = r ∧ pos = p then 1 else 0 := by
  change List.countP _ (s.event kind name pos :: s.log) = _
  rw [List.countP_cons]
  simp [entries, Event.enters, event]

/-- No body has begun twice, and none whose application is not known. -/
def State.EntersOnce (s : State (Traced σ)) : Prop :=
  ∀ r p, s.entries r p ≤ if (s.memo.find? r p).isSome then 1 else 0

/-- If no body has begun twice, none has later. -/
def StaysOnce (s t : State (Traced σ)) : Prop := s.EntersOnce → t.EntersOnce

theorem staysOnce_steady : Steady (σ := Traced σ) StaysOnce where
  refl _ := id
  trans h h' := h' ∘ h
  note s p d h r q := by
    rw [State.entries_note, State.memo_note]
    exact h r q
  silent h := h

/-- Something happens to an application other than that it begins. -/
theorem State.EntersOnce.emit {s : State (Traced σ)} (h : s.EntersOnce) (kind : Happening)
    (hk : kind ≠ .entered) (name : String) (pos : Nat) : (s.emit kind name pos).EntersOnce := by
  intro r p
  rw [entries_emit, if_neg fun hn => hk hn.1]
  exact h r p

/-- An application that is not known begins. -/
theorem State.EntersOnce.enter {s : State (Traced σ)} (h : s.EntersOnce) {name : String} {pos : Nat}
    (hf : s.memo.find? name pos = none) : ((s.emit .entered name pos).entered name pos).EntersOnce := by
  intro r p
  have hold := h r p
  change (s.emit .entered name pos).entries r p ≤ if ((s.memo.enter name pos).find? r p).isSome then 1 else 0
  rw [entries_emit]
  by_cases hk : name = r ∧ pos = p
  · obtain ⟨rfl, rfl⟩ := hk
    rw [hf] at hold
    rw [Memo.find?_enter_self]
    simpa using hold
  · rw [Memo.find?_enter_of_ne hk, if_neg fun hn => hk hn.2]
    exact hold

/-- With a cache what has begun stays known. -/
theorem Matcher.settled_entersOnce {m : Matcher (Traced σ) ε} (hcached : m.cached = true) {s : State (Traced σ)}
    (h : s.EntersOnce) (name : String) (pos : Nat) (q : Result) : (m.settled name pos q s).EntersOnce := by
  intro r p
  have hold := h r p
  unfold settled
  rw [if_pos hcached]
  change s.entries r p ≤ if ((s.memo.insert name pos (.done q)).find? r p).isSome then 1 else 0
  by_cases hk : name = r ∧ pos = p
  · obtain ⟨rfl, rfl⟩ := hk
    rw [Memo.find?_insert_self, Option.isSome_some, if_pos rfl]
    exact hold.trans (by split_ifs <;> decide)
  · rw [Memo.find?_insert_of_ne hk]
    exact hold

theorem Matcher.act_staysOnce (m : Matcher σ ε) (b : Block) (i j : Nat) (ls : List Value) :
    Moves StaysOnce Value (m.traced.act b i j ls) := by
  intro s h
  obtain ⟨a, w, -, hw⟩ := m.act_outcome b i j ls s.untraced
  rw [act_traced hw, endState_outcome]
  exact h

theorem Matcher.applyTraced_staysOnce {m : Matcher σ ε} (hcached : m.cached = true) (limit depth : Nat) :
    ∀ name pos, Moves StaysOnce Result (m.applyTraced limit depth name pos) := by
  induction depth with
  | zero => exact fun _ _ _ h => h
  | succ depth ih =>
    intro name pos s h
    cases hf : s.memo.find? name pos with
    | some known =>
      cases known with
      | begun =>
        rw [applyTraced_begun hf]
        exact h.emit .reentered nofun name pos
      | done q =>
        rw [applyTraced_done hf]
        exact h.emit .recalled nofun name pos
    | none =>
      have henter := h.enter hf
      cases hr : m.grammar.rule? name with
      | none =>
        rw [applyTraced_undefined hf hr]
        exact henter
      | some rule =>
        have heval : Moves StaysOnce Result (rule.body.eval m.traced limit (m.applyTraced limit depth) pos) :=
          Node.eval_kept staysOnce_steady.kept rule.body (fun r _ => ih r)
            (fun _ b _ i j ls _ => m.act_staysOnce b i j ls) pos
        have hbody := Rule.evalWith_kept staysOnce_steady.kept heval _ henter
        cases hx : rule.evalWith (Node.eval m.traced limit (m.applyTraced limit depth)) pos
            ((s.emit .entered name pos).entered name pos) with
        | ok q t =>
          rw [applyTraced_ok hf hr hx]
          rw [hx] at hbody
          exact (settled_entersOnce (m := m.traced) hcached hbody name pos q).emit .left nofun name pos
        | error e t =>
          rw [applyTraced_error hf hr hx]
          rw [hx] at hbody
          exact hbody

/-- **With a cache the body of a rule is matched at most once at each position**, whatever the parse comes to. -/
theorem Matcher.trace_enters_le {m : Matcher σ ε} (hcached : m.cached = true) (name : String) (pos : Nat) (s : State σ)
    (r : String) (p : Nat) : (m.trace name pos s).countP (·.enters r p) ≤ 1 := by
  have hstart : ((s.withLog []).restart pos).EntersOnce := fun _ _ => Nat.zero_le _
  have h := applyTraced_staysOnce hcached (m.limit pos) (m.depth (m.limit pos)) name pos _ hstart r p
  exact h.trans (by split_ifs <;> decide)

end

/-! ## Actions that close bodies -/

/-- The action of a block is the last thing in an expression, or in one of its alternatives. -/
inductive Node.ClosedBy (b : Block) : Node → Prop
  | action (n : Node) : ClosedBy b (.action n b)
  | alternative {n : Node} {ns : List Node} (hn : n ∈ ns) (h : ClosedBy b n) : ClosedBy b (.choice ns)

theorem Node.ClosedBy.mem_blocks {b : Block} {n : Node} (h : n.ClosedBy b) : b ∈ n.blocks := by
  induction h with
  | action n => exact List.mem_append_right _ (List.mem_singleton_self b)
  | alternative hn _ ih => exact mem_blocksAll.mpr ⟨_, hn, ih⟩

/-- The run is of the action at that index, for a match that starts at that position. -/
def ActionRun.isOf {σ : Type} (index start : Nat) (c : ActionRun σ) : Bool := c.index = index ∧ c.start = start

section
variable {σ ε α β : Type}

/-- How often an action has run for matches that start at a position. -/
def State.runsOf (index start : Nat) (s : State (Traced (Logged σ))) : Nat := s.world.1.2.countP (·.isOf index start)

theorem State.runsOf_note (i p : Nat) (s : State (Traced (Logged σ))) (q : Nat) (d : String) :
    (s.note q d).runsOf i p = s.runsOf i p := by
  unfold runsOf
  rw [world_note]

/-- From `s` to `t` the action has run at most `k` times more often than the body of the rule has begun. -/
def Spent (rule : String) (index start k : Nat) (s t : State (Traced (Logged σ))) : Prop :=
  t.runsOf index start + s.entries rule start ≤ s.runsOf index start + t.entries rule start + k

section
variable {r : String} {i p k : Nat}

theorem Spent.trans {l : Nat} {s t u : State (Traced (Logged σ))} (h : Spent r i p k s t) (h' : Spent r i p l t u) :
    Spent r i p (k + l) s u := by
  unfold Spent at *
  omega

theorem Spent.mono {l : Nat} {s t : State (Traced (Logged σ))} (h : Spent r i p k s t) (hkl : k ≤ l) :
    Spent r i p l s t :=
  Nat.le_trans h (Nat.add_le_add_left hkl _)

theorem spent_steady : Steady (σ := Traced (Logged σ)) (Spent r i p 0) where
  refl s := Nat.le_refl _
  trans h h' := h.trans h'
  note s q d := by
    unfold Spent
    rw [State.runsOf_note, State.entries_note]
    exact Nat.le_refl _
  silent h := h

/-- First nothing is spent, and then something. -/
theorem spent_bind {x : Run (Traced (Logged σ)) ε α} {f : α → Run (Traced (Logged σ)) ε β}
    (hx : Moves (Spent r i p 0) α x) (hf : ∀ s a t, x s = .ok a t → Moves (Spent r i p k) β (f a)) :
    Moves (Spent r i p k) β (x >>= f) :=
  hx.bind hf (fun h => h.mono (Nat.zero_le k)) fun h h' => by simpa using h.trans h'

/-- First something is spent, and then nothing. -/
theorem spent_then {x : Run (Traced (Logged σ)) ε α} {f : α → Run (Traced (Logged σ)) ε β}
    (hx : Moves (Spent r i p k) α x) (hf : ∀ s a t, x s = .ok a t → Moves (Spent r i p 0) β (f a)) :
    Moves (Spent r i p k) β (x >>= f) :=
  hx.bind hf id fun h h' => h.trans h'

/-- Nothing is spent when something happens to an application other than that it begins. -/
theorem spent_emit (kind : Happening) (hk : kind ≠ .entered) (name : String) (pos : Nat)
    (s : State (Traced (Logged σ))) : Spent r i p 0 s (s.emit kind name pos) := by
  unfold Spent
  rw [State.entries_emit, if_neg fun h => hk h.1]
  exact Nat.le_refl _

/-- When the body of the rule begins, one run of its action is paid for. -/
theorem Spent.of_entered {name : String} {pos : Nat} {s t : State (Traced (Logged σ))}
    (h : Spent r i p (if name = r ∧ pos = p then 1 else 0) ((s.emit .entered name pos).entered name pos) t) :
    Spent r i p 0 s t := by
  have hentries : ((s.emit .entered name pos).entered name pos).entries r p =
      (s.emit .entered name pos).entries r p := rfl
  have hruns : ((s.emit .entered name pos).entered name pos).runsOf i p = s.runsOf i p := rfl
  unfold Spent at *
  rw [hentries, hruns, State.entries_emit] at h
  simp only [true_and] at h
  omega

/-- An action runs once, for the start of its match. -/
theorem Matcher.act_spent (m : Matcher σ ε) (r : String) (i p : Nat) (b : Block) (start stop : Nat) (ls : List Value) :
    Moves (Spent r i p (if b.index = i ∧ start = p then 1 else 0)) Value (m.logged.traced.act b start stop ls) := by
  intro s
  rcases m.act_logged b start stop ls s.untraced with ⟨a, -, -, c, rfl, h⟩ | ⟨e, -, h, -⟩
  · rw [act_traced h, endState_outcome]
    unfold Spent State.runsOf
    dsimp only
    rw [List.countP_append, List.countP_singleton]
    simp only [ActionRun.isOf, decide_eq_true_eq]
    change _ + _ + s.entries r p ≤ _ + s.entries r p + _
    exact Nat.le_of_eq (by rw [Nat.add_right_comm]; rfl)
  · have hw : m.logged.act b start stop ls s.untraced =
        outcome (.error e) { s.untraced with world := s.untraced.world } := h
    rw [act_traced hw, endState_outcome]
    exact Nat.le_add_right _ _

section
variable {m : Matcher σ ε} {limit : Nat} {call : String → Nat → Run (Traced (Logged σ)) ε Result}
  (hcall : ∀ name pos, Moves (Spent r i p 0) Result (call name pos))
include hcall

/-- Nothing is spent on an expression without the block. -/
theorem Node.eval_unspent {n : Node} (hn : ∀ b ∈ n.blocks, b.index ≠ i) :
    ∀ q, Moves (Spent r i p 0) Result (n.eval m.logged.traced limit call q) :=
  Node.eval_kept spent_steady.kept n (fun name _ => hcall name) fun _ b hb start stop ls _ => by
    have hact := m.act_spent r i p b start stop ls
    rwa [if_neg fun h => hn b hb.mem_blocks h.1] at hact

/-- **An expression that is closed by the action of a block runs that action at most once for its own start**, and for
other positions not at all. -/
theorem Node.eval_spent {b : Block} {n : Node} (hclosed : n.ClosedBy b) (hi : b.index = i)
    (hnodup : (n.blocks.map (·.index)).Nodup) (q : Nat) :
    Moves (Spent r i p (if q = p then 1 else 0)) Result (n.eval m.logged.traced limit call q) := by
  induction hclosed with
  | action n =>
    have hn : ∀ c ∈ n.blocks, c.index ≠ i := by
      rw [blocks, List.map_append, List.map_singleton] at hnodup
      intro c hc he
      exact (List.nodup_append.mp hnodup).2.2 _ (List.mem_map_of_mem hc) _ (List.mem_singleton_self _) (he.trans hi.symm)
    have hitems : ∀ k ∈ n.items, ∀ c ∈ k.blocks, c.index ≠ i := fun k hk c hc => by
      cases n with
      | sequence ns => exact hn c (mem_blocksAll.mpr ⟨k, hk, hc⟩)
      | _ => exact hn c (List.mem_singleton.mp hk ▸ hc)
    rw [eval_action]
    refine spent_bind (spent_steady.kept.evalAll (fun k hk => eval_unspent hcall (hitems k hk)) q) fun _ o _ _ => ?_
    cases o with
    | none => exact fun s => Nat.le_add_right _ _
    | some o =>
      have hact := m.act_spent r i p b q o.1 (labelValues n.items o.2)
      simp only [hi, true_and] at hact
      exact spent_then hact fun _ _ _ _ s => Nat.le_refl _
  | @alternative n ns hn hclosed ih =>
    rw [blocks] at hnodup
    simp only [eval]
    induction ns with
    | nil => cases hn
    | cons n' ns ihs =>
      rw [blocksAll, List.map_append] at hnodup
      obtain ⟨hnodup', hnodups, hdisjoint⟩ := List.nodup_append.mp hnodup
      rw [evalFirst]
      rcases List.mem_cons.mp hn with rfl | hn
      · have hrest : ∀ k ∈ ns, ∀ c ∈ k.blocks, c.index ≠ i := fun k hk c hc he =>
          hdisjoint _ (List.mem_map_of_mem hclosed.mem_blocks) _
            (List.mem_map_of_mem (mem_blocksAll.mpr ⟨k, hk, hc⟩)) (hi.trans he.symm)
        refine spent_then (ih hnodup') fun _ o _ _ => ?_
        cases o with
        | failed => exact spent_steady.kept.evalFirst (fun k hk => eval_unspent hcall (hrest k hk)) q
        | matched stop v => exact fun s => Nat.le_refl _
      · have hfirst : ∀ c ∈ n'.blocks, c.index ≠ i := fun c hc he =>
          hdisjoint _ (List.mem_map_of_mem hc) _
            (List.mem_map_of_mem (mem_blocksAll.mpr ⟨n, hn, hclosed.mem_blocks⟩)) (he.trans hi.symm)
        refine spent_bind (eval_unspent hcall hfirst q) fun _ o _ _ => ?_
        cases o with
        | failed => exact ihs hn hnodups
        | matched stop v => exact fun s => Nat.le_add_right _ _

end

/-- A display name spends nothing. -/
theorem Rule.evalWith_spent {rule : Rule} {eval : Node → Nat → Run (Traced (Logged σ)) ε Result} {q : Nat}
    (h : Moves (Spent r i p k) Result (eval rule.body q)) : Moves (Spent r i p k) Result (rule.evalWith eval q) := by
  unfold Rule.evalWith
  cases rule.display with
  | none => exact h
  | some d =>
    refine spent_then (h.silently id) fun _ o _ _ => ?_
    cases o with
    | failed => exact spent_steady.kept.failAt q d
    | matched stop v => exact fun s => Nat.le_refl _

end

/-! ## Rules -/

/-- No index is that of two blocks of the rules. -/
def Grammar.Indexed (g : Grammar) : Prop := ((g.rules.flatMap (·.body.blocks)).map (·.index)).Nodup

/-- **The blocks of a grammar that was read have indices of their own.** -/
theorem Grammar.Formed.indexed {g : Grammar} (h : g.Formed) : g.Indexed := by
  unfold Indexed
  rw [← h.blocks, h.numbered]
  exact List.nodup_range'

section
variable {g : Grammar} {name name' : String} {rule rule' : Rule}

theorem Grammar.Indexed.body (h : g.Indexed) (hr : g.rule? name = some rule) :
    (rule.body.blocks.map (·.index)).Nodup := by
  unfold Indexed at h
  rw [List.map_flatMap] at h
  exact (List.nodup_flatMap.mp h).1 rule (List.mem_of_find?_eq_some hr)

/-- The blocks of two rules have different indices. -/
theorem Grammar.Indexed.ne (h : g.Indexed) (hr : g.rule? name = some rule) (hr' : g.rule? name' = some rule')
    (hne : name' ≠ name) {b c : Block} (hb : b ∈ rule.body.blocks) (hc : c ∈ rule'.body.blocks) : c.index ≠ b.index := by
  unfold Indexed at h
  rw [List.map_flatMap] at h
  have hrules : rule' ≠ rule := by
    rintro rfl
    exact hne ((Grammar.rule?_name hr').symm.trans (Grammar.rule?_name hr))
  have hsymm : Std.Symm (Function.onFun List.Disjoint fun r : Rule => r.body.blocks.map (·.index)) :=
    ⟨fun _ _ hd => hd.symm⟩
  have hdisjoint := (List.nodup_flatMap.mp h).2.forall (List.mem_of_find?_eq_some hr') (List.mem_of_find?_eq_some hr)
    hrules
  intro he
  exact hdisjoint (List.mem_map_of_mem hc) (he ▸ List.mem_map_of_mem hb)

end

section
variable {m : Matcher σ ε} (hm : m.grammar.Indexed) {r : String} {rule : Rule} (hr : m.grammar.rule? r = some rule)
  {b : Block} (hb : rule.body.ClosedBy b)
include hm hr hb

/-- An application makes the action that closes a body run no more often than the body begins. -/
theorem Matcher.applyTraced_spent (limit depth p : Nat) :
    ∀ name pos, Moves (Spent r b.index p 0) Result (m.logged.applyTraced limit depth name pos) := by
  induction depth with
  | zero => exact fun _ _ _ => Nat.le_refl _
  | succ depth ih =>
    intro name pos s
    cases hf : s.memo.find? name pos with
    | some known =>
      cases known with
      | begun =>
        rw [applyTraced_begun hf]
        exact spent_emit .reentered nofun name pos s
      | done q =>
        rw [applyTraced_done hf]
        exact spent_emit .recalled nofun name pos s
    | none =>
      refine Spent.of_entered (?_ : Spent r b.index p _ ((s.emit .entered name pos).entered name pos) _)
      cases hr' : m.grammar.rule? name with
      | none =>
        rw [applyTraced_undefined (m := m.logged) hf hr']
        exact Nat.le_add_right _ _
      | some rule' =>
        have heval : Moves (Spent r b.index p (if name = r ∧ pos = p then 1 else 0)) Result
            (rule'.body.eval m.logged.traced limit (m.logged.applyTraced limit depth) pos) := by
          by_cases hname : name = r
          · subst hname
            obtain rfl : rule = rule' := Option.some.inj (hr.symm.trans hr')
            simpa using Node.eval_spent ih hb rfl (hm.body hr) pos
          · rw [if_neg fun h => hname h.1]
            exact Node.eval_unspent ih (fun c hc => hm.ne hr hr' hname hb.mem_blocks hc) pos
        have hbody := Rule.evalWith_spent heval ((s.emit .entered name pos).entered name pos)
        cases hx : rule'.evalWith (Node.eval m.logged.traced limit (m.logged.applyTraced limit depth)) pos
            ((s.emit .entered name pos).entered name pos) with
        | ok q t =>
          rw [applyTraced_ok hf hr' hx]
          rw [hx] at hbody
          -- neither the result nor the event that the application is done counts
          have hdone : Spent r b.index p 0 t ((m.logged.traced.settled name pos q t).emit .left name pos) :=
            spent_emit .left nofun name pos (m.logged.traced.settled name pos q t)
          exact hbody.trans hdone
        | error e t =>
          rw [applyTraced_error hf hr' hx]
          rw [hx] at hbody
          exact hbody

/-- **An action that closes the body of a rule runs for a start at most as often as the body begins to be matched
there**, with a cache or without one. -/
theorem Matcher.runs_le_enters (name : String) (pos : Nat) (s : State σ) (p : Nat) :
    (m.runs name pos s).countP (·.isOf b.index p) ≤ (m.trace name pos s).countP (·.enters r p) := by
  have h := applyTraced_spent hm hr hb (m.limit pos) (m.depth (m.limit pos)) p name pos
    ((s.unlogged.withLog []).restart pos)
  have htrace : m.trace name pos s = m.logged.trace name pos s.unlogged :=
    m.logged_projects.trace_projected name pos s.unlogged
  have hruns : m.runs name pos s = (endState (m.logged.parseTraced name pos (s.unlogged.withLog []))).world.1.2 := by
    have hend := (m.logged.parseTraced_untraced name pos (s.unlogged.withLog [])).2
    exact congrArg (·.world.2) hend
  rw [htrace, hruns]
  -- the lists are empty at the start of the parse
  have hempty : ((s.unlogged.withLog []).restart pos).runsOf b.index p = 0 ∧
      ((s.unlogged.withLog []).restart pos).entries r p = 0 := ⟨rfl, rfl⟩
  unfold Spent at h
  rw [hempty.1, hempty.2, Nat.zero_add] at h
  exact h

end

/-- **With a cache each body is matched at most once at each position**, whatever the grammar and the text are and
whatever the parse comes to; and each action that closes a body, or one of its alternatives, runs at most once for
each start. -/
theorem Matcher.evaluated_once (m : Matcher σ ε) (hcached : m.cached = true) (name : String) (pos : Nat)
    (s : State σ) : (∀ r p, (m.trace name pos s).countP (·.enters r p) ≤ 1) ∧
      (m.grammar.Indexed → ∀ r rule b, m.grammar.rule? r = some rule → rule.body.ClosedBy b →
        ∀ p, (m.runs name pos s).countP (·.isOf b.index p) ≤ 1) := by
  have hbodies : ∀ r p, (m.trace name pos s).countP (·.enters r p) ≤ 1 :=
    fun r p => trace_enters_le hcached name pos s r p
  exact ⟨hbodies, fun hm r rule b hr hb p => (runs_le_enters hm hr hb name pos s p).trans (hbodies r p)⟩

end

/-- The block of an action that has no labels. -/
def bareBlock : Block := ⟨"", [], 0⟩

/-- Both alternatives of `start` but the first, which begins with `start` itself, begin with `x`, and the action of `x`
raises an error when it runs again. -/
def onceOnly : Matcher Nat Unit where
  grammar := ⟨[⟨"start", none, .choice [.sequence [.ref "start", .ref "x"], .sequence [.ref "x", .literal [0x62] false],
      .sequence [.ref "x", .literal [0x63] false]]⟩,
    ⟨"x", none, .choice [.action (.literal [0x61] false) bareBlock, .literal [0x78] false]⟩], "start", [bareBlock]⟩
  actions := [⟨0, fun _ _ _ _ runs => if runs = 0 then .ok .none 1 else .error () runs⟩]
  cached := true
  text := "ac".toList

/-- The action runs once with a cache, and twice without one. -/
theorem onceOnly_evaluated_once : onceOnly.cached = true ∧ onceOnly.grammar.Indexed ∧
    (onceOnly.runs "start" 0 (State.initial 0)).length = 1 ∧
    ((onceOnly.withCache false).runs "start" 0 (State.initial 0)).length = 2 ∧
    (∀ r p, (onceOnly.trace "start" 0 (State.initial 0)).countP (·.enters r p) ≤ 1) ∧
    ∀ p, (onceOnly.runs "start" 0 (State.initial 0)).countP (·.isOf 0 p) ≤ 1 := by
  have hindexed : onceOnly.grammar.Indexed := List.nodup_singleton 0
  obtain ⟨hbodies, hactions⟩ := onceOnly.evaluated_once rfl "start" 0 (State.initial 0)
  exact ⟨rfl, hindexed, by rfl, by rfl, hbodies, hactions hindexed "x" _ bareBlock rfl
    (.alternative List.mem_cons_self (.action _))⟩

end PegTemplate
