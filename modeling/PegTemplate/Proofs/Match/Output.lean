import PegTemplate.Proofs.Match.Conformance
import PegTemplate.Proofs.Match.Transparency

/-!
# What actions write, with and without a cache

* `Matcher.Writes` : the actions add entries to an output, which hang on their arguments alone;
* `Thinned` : a list without some of its repetitions;
* `Matcher.applyTraced_lifted` : as long as no application is met that is in progress, an application comes to the same
  and writes the same whatever else is in progress;
* `Matcher.Alone` : what an application comes to and writes by itself. Every remembered result is that of an application
  by itself whose entries have been written already (`Matcher.Recalls`);
* `Matcher.applyTraced_thinned`, `Matcher.parse_thinned` : **with a cache a parse writes what it writes without one, less
  some repetitions.**

The run without a cache is the one that is traced. When the other one recalls a result, this one evaluates the
application again, in the middle of other applications than the first time. So both evaluations are compared with the
one in the middle of none.
-/

namespace PegTemplate

/-! ## Repetitions -/

/-- `c` is `u` without some entries that occur in it elsewhere. -/
structure Thinned {κ : Type} (c u : List κ) : Prop where
  sublist : c.Sublist u
  subset : u ⊆ c

namespace Thinned
variable {κ : Type} {c u es : List κ}

theorem refl : Thinned c c := ⟨.refl c, fun _ h => h⟩

theorem append (h : Thinned c u) : Thinned (c ++ es) (u ++ es) where
  sublist := h.sublist.append_right es
  subset := List.append_subset.mpr ⟨fun _ ha => List.mem_append_left _ (h.subset ha), List.subset_append_right ..⟩

/-- What occurs already may be repeated. -/
theorem repeated (h : Thinned c u) (hes : es ⊆ c) : Thinned c (u ++ es) where
  sublist := h.sublist.trans (List.sublist_append_left ..)
  subset := List.append_subset.mpr ⟨h.subset, hes⟩

end Thinned

section
variable {σ ε κ : Type}

/-! ## Writing actions -/

/-- What an action comes to, and what it adds to the output, hangs on its arguments alone. -/
def Matcher.Writes (m : Matcher σ ε) (out : σ → List κ) : Prop :=
  ∀ a ∈ m.actions, ∀ text start stop labels, ∃ r es, ∀ w,
    answer (a.run text start stop labels w) = r ∧ out (endState (a.run text start stop labels w)) = out w ++ es

theorem State.world_note (s : State σ) (p : Nat) (d : String) : (s.note p d).world = s.world := by
  unfold State.note
  split_ifs <;> rfl

/-- What an action comes to in its world, and the world that it leaves behind. -/
theorem inWorld_eq {α : Type} (x : EStateM ε σ α) (s : State σ) :
    inWorld x s = outcome ((answer (x s.world)).mapError .raised) { s with world := endState (x s.world) } := by
  unfold inWorld
  cases x s.world <;> rfl

theorem Matcher.Writes.act {m : Matcher σ ε} {out : σ → List κ} (hm : m.Writes out) (b : Block) (start stop : Nat)
    (labels : List Value) : ∃ a es, ∀ s : State σ, ∃ w,
      m.act b start stop labels s = outcome a { s with world := w } ∧ out w = out s.world ++ es := by
  unfold Matcher.act
  cases ha : m.actions[b.index]? with
  | none => exact ⟨.error (.missingAction b.index), [], fun s => ⟨s.world, rfl, (List.append_nil _).symm⟩⟩
  | some a =>
    dsimp only
    by_cases hl : a.arity = labels.length
    · obtain ⟨r, es, hr⟩ := hm a (List.mem_of_getElem? ha) m.text start stop labels
      rw [if_pos hl]
      refine ⟨r.mapError .raised, es, fun s => ⟨endState (a.run m.text start stop labels s.world), ?_, (hr s.world).2⟩⟩
      rw [inWorld_eq, (hr s.world).1]
    · rw [if_neg hl]
      exact ⟨.error (.wrongArity b.index), [], fun s => ⟨s.world, rfl, (List.append_nil _).symm⟩⟩

/-- The body of a rule keeps every coupling that the applications of rules and the actions keep. -/
theorem Matcher.body_coupled {τ : Type} {C : Coupling σ τ ε} {m : Matcher σ ε} {m' : Matcher τ ε} {limit hi : Nat}
    (hC : C.Lawful 0 hi) (htext : m.text = m'.text) (hlen : m.text.length ≤ hi) (hlimit : hi ≤ limit)
    (hact : ∀ b i j ls, Coupled C (fun _ => True) (m.act b i j ls) (m'.act b i j ls))
    {call : String → Nat → Run σ ε Result} {call' : String → Nat → Run τ ε Result}
    (hcall : ∀ r p, 0 ≤ p → p ≤ hi → Coupled C (·.EndsIn p hi) (call r p) (call' r p)) {rule : Rule}
    (hfits : rule.body.FitsIn m.text hi) {pos : Nat} (hpos : pos ≤ hi) :
    Coupled C (·.EndsIn pos hi) (rule.evalWith (Node.eval m limit call) pos)
      (rule.evalWith (Node.eval m' limit call') pos) :=
  Rule.evalWith_coupled hC (Nat.zero_le pos) hpos (Node.eval_coupled hC htext hlen hlimit hlimit hact hcall
    rule.body hfits pos (Nat.zero_le pos) hpos)

/-- Without a cache the memo table holds just the applications in progress. -/
theorem State.entered_ofStack {s : State σ} {stack : List Application} (h : s.memo = .ofStack stack) (name : String)
    (pos : Nat) : (s.entered name pos).memo = .ofStack ((name, pos) :: stack) := by
  change s.memo.enter name pos = _
  rw [h, Memo.enter_ofStack]

theorem Matcher.settled_ofStack (m : Matcher σ ε) {s : State σ} {stack : List Application} {name : String} {pos : Nat}
    (h : s.memo = .ofStack ((name, pos) :: stack)) (hnew : (name, pos) ∉ stack) (r : Result) :
    ((m.withCache false).settled name pos r s).memo = .ofStack stack := by
  change s.memo.erase name pos = _
  rw [h, Memo.erase_ofStack hnew]

/-! ## In the middle of other applications -/

/-- A run in the middle of `above ++ below` beside one in the middle of `above`, both without a cache. They have written
the same since their outputs were `base` and `base'`. The first one is excused if it meets an application in progress. -/
def lifted (ε : Type) (out : σ → List κ) (above below : List Application) (base base' : List κ) :
    Coupling (Traced σ) σ ε where
  sound s := s.memo = .ofStack (above ++ below)
  le s s' := s.log <:+ s'.log ∧ out s.world.1 <+: out s'.world.1
  halts _ _ := True
  linked s t := t.memo = .ofStack above ∧ ∃ es, out s.world.1 = base ++ es ∧ out t.world = base' ++ es
  parted s t := ∃ es, out s.world.1 = base ++ es ∧ out t.world = base' ++ es
  excused s := ¬Clean s.log

theorem lifted_lawful (hi : Nat) (out : σ → List κ) (above below : List Application) (base base' : List κ) :
    (lifted ε out above below base base').Lawful 0 hi where
  refl _ := ⟨List.suffix_rfl, List.prefix_rfl⟩
  trans h h' := ⟨h.1.trans h'.1, h.2.trans h'.2⟩
  excused_le h hle hc := h (hc.of_suffix hle.1)
  le_note s p d := by
    change s.log <:+ (s.note p d).log ∧ out s.world.1 <+: out (s.note p d).world.1
    rw [State.log_note, State.world_note]
    exact ⟨List.suffix_rfl, List.prefix_rfl⟩
  le_hush _ := ⟨List.suffix_rfl, List.prefix_rfl⟩
  le_unhush _ := ⟨List.suffix_rfl, List.prefix_rfl⟩
  sound_note {s p} d _ _ h := (s.memo_note p d).trans h
  sound_hush h := h
  sound_unhush h := h
  halts_unhush h := h
  linked_note {s t p} d _ _ h := by
    change (t.note p d).memo = _ ∧ ∃ es, out (s.note p d).world.1 = base ++ es ∧ out (t.note p d).world = base' ++ es
    rw [State.memo_note, State.world_note, State.world_note]
    exact h
  linked_hush h := h
  linked_unhush h := h
  parted_unhush h := h

section
variable {m : Matcher σ ε} {out : σ → List κ} {limit hi : Nat}

theorem Matcher.Writes.act_lifted (hm : m.Writes out) (above below : List Application) (base base' : List κ) (b : Block)
    (i j : Nat) (ls : List Value) : Coupled (lifted ε out above below base base') (fun _ => True)
      ((m.withCache false).traced.act b i j ls) ((m.withCache false).act b i j ls) := by
  intro s hs
  obtain ⟨a, es, ha⟩ := (show (m.withCache false).Writes out from hm).act b i j ls
  obtain ⟨w, hw, hout⟩ := ha s.untraced
  rw [act_traced hw]
  have hle : out s.world.1 <+: out w := ⟨es, hout.symm⟩
  have hboth : ∀ t : State σ, (∃ fs, out s.world.1 = base ++ fs ∧ out t.world = base' ++ fs) →
      ∃ w', (m.withCache false).act b i j ls t = outcome a { t with world := w' } ∧
        ∃ fs, out w = base ++ fs ∧ out w' = base' ++ fs := by
    rintro t ⟨fs, hfs, hfs'⟩
    obtain ⟨w', hw', hout'⟩ := ha t
    refine ⟨w', hw', fs ++ es, ?_, ?_⟩
    · rw [hout, show out s.untraced.world = base ++ fs from hfs, List.append_assoc]
    · rw [hout', hfs', List.append_assoc]
  cases a with
  | ok v =>
    refine ⟨trivial, hs, ⟨List.suffix_rfl, hle⟩, fun t ht => Or.inr ?_⟩
    obtain ⟨w', hw', hfs⟩ := hboth t ht.2
    exact ⟨_, hw', ht.1, hfs⟩
  | error e =>
    refine ⟨trivial, ⟨List.suffix_rfl, hle⟩, fun t ht => Or.inr ?_⟩
    obtain ⟨w', hw', hfs⟩ := hboth t ht.2
    exact ⟨_, hw', hfs⟩

section
variable {above below : List Application} {base base' : List κ} {depth depth' : Nat} {name : String} {pos : Nat}
  {s : State (Traced σ)} (hs : s.memo = .ofStack (above ++ below))
include hs

theorem Matcher.begun_lifted (hin : (name, pos) ∈ above ++ below) :
    (lifted ε out above below base base').Agree (·.EndsIn pos hi) s
      ((m.withCache false).apply limit (depth' + 1) name pos)
      ((m.withCache false).applyTraced limit (depth + 1) name pos s) := by
  have hf : s.memo.find? name pos = some .begun := by
    rw [hs]
    exact Memo.find?_ofStack_of_mem hin
  rw [applyTraced_begun hf]
  exact ⟨trivial, hs, ⟨List.suffix_cons .., List.prefix_rfl⟩, fun t _ =>
    Or.inl fun hc => hc _ (List.mem_cons_self ..) rfl⟩

theorem Matcher.undefined_lifted (hin : (name, pos) ∉ above ++ below) (hr : m.grammar.rule? name = none) :
    (lifted ε out above below base base').Agree (·.EndsIn pos hi) s
      ((m.withCache false).apply limit (depth' + 1) name pos)
      ((m.withCache false).applyTraced limit (depth + 1) name pos s) := by
  rw [applyTraced_undefined (m := m.withCache false) (State.find?_of_ofStack (t := s.untraced) hs hin) hr]
  have hnew : (name, pos) ∉ above := fun h => hin (List.mem_append_left _ h)
  exact ⟨trivial, ⟨List.suffix_cons .., List.prefix_rfl⟩, fun t ht =>
    Or.inr ⟨_, apply_undefined (State.find?_of_ofStack ht.1 hnew) hr, ht.2⟩⟩

/-- An application that begins, if its body comes to the same in the middle of it. -/
theorem Matcher.entered_lifted (hin : (name, pos) ∉ above ++ below) {rule : Rule}
    (hr : m.grammar.rule? name = some rule)
    (hbody : Coupled (lifted ε out ((name, pos) :: above) below base base') (·.EndsIn pos hi)
      (rule.evalWith (Node.eval (m.withCache false).traced limit ((m.withCache false).applyTraced limit depth)) pos)
      (rule.evalWith (Node.eval (m.withCache false) limit ((m.withCache false).apply limit depth')) pos)) :
    (lifted ε out above below base base').Agree (·.EndsIn pos hi) s
      ((m.withCache false).apply limit (depth' + 1) name pos)
      ((m.withCache false).applyTraced limit (depth + 1) name pos s) := by
  have hf : s.memo.find? name pos = none := State.find?_of_ofStack (t := s.untraced) hs hin
  have hnew : (name, pos) ∉ above := fun h => hin (List.mem_append_left _ h)
  have hentered := hbody _ (State.entered_ofStack (s := s.emit .entered name pos) hs name pos)
  cases hx : rule.evalWith (Node.eval (m.withCache false).traced limit
      ((m.withCache false).applyTraced limit depth)) pos ((s.emit .entered name pos).entered name pos) with
  | error e s' =>
    rw [hx] at hentered
    obtain ⟨-, hle, ht'⟩ := hentered
    rw [applyTraced_error (m := m.withCache false) hf hr hx]
    refine ⟨trivial, ⟨(List.suffix_cons ..).trans hle.1, hle.2⟩, fun t ht => ?_⟩
    rcases ht' (t.entered name pos) ⟨State.entered_ofStack ht.1 name pos, ht.2⟩ with hexc | ⟨t', hy, hes⟩
    · exact Or.inl hexc
    · exact Or.inr ⟨t', apply_error (State.find?_of_ofStack ht.1 hnew) hr hy, hes⟩
  | ok r s' =>
    rw [hx] at hentered
    obtain ⟨hend, hs', hle, ht'⟩ := hentered
    rw [applyTraced_ok (m := m.withCache false) hf hr hx]
    refine ⟨hend, m.traced.settled_ofStack hs' hin r,
      ⟨((List.suffix_cons ..).trans hle.1).trans (List.suffix_cons ..), hle.2⟩, fun t ht => ?_⟩
    rcases ht' (t.entered name pos) ⟨State.entered_ofStack ht.1 name pos, ht.2⟩ with hexc | ⟨t', hy, hmemo, hes⟩
    · exact Or.inl fun hc => hexc (hc.of_suffix (List.suffix_cons ..))
    · exact Or.inr ⟨_, apply_ok (State.find?_of_ofStack ht.1 hnew) hr hy, m.settled_ofStack hmemo hnew r, hes⟩

end

/-- **What an application comes to and writes does not hang on what else is in progress**, as long as nothing is met that
is in progress. -/
theorem Matcher.applyTraced_lifted (hw : m.Writes out) (hm : m.Bound hi) (hlimit : hi ≤ limit) (base base' : List κ)
    (depth : Nat) : ∀ depth' above below, m.Room hi depth (above ++ below) → m.Room hi depth' above →
      (above ++ below).Nodup → ∀ name pos, 0 ≤ pos → pos ≤ hi →
        Coupled (lifted ε out above below base base') (·.EndsIn pos hi)
          ((m.withCache false).applyTraced limit depth name pos) ((m.withCache false).apply limit depth' name pos) := by
  induction depth with
  | zero =>
    intro depth' above below hroom _ hnodup
    exact absurd rfl (hroom.ne_zero hnodup)
  | succ depth ih =>
    intro depth' above below hroom hroom' hnodup name pos hlo hpos s hs
    obtain ⟨depth', rfl⟩ := Nat.exists_eq_succ_of_ne_zero (hroom'.ne_zero hnodup.of_append_left)
    by_cases hin : (name, pos) ∈ above ++ below
    · exact begun_lifted hs hin
    · cases hr : m.grammar.rule? name with
      | none => exact undefined_lifted hs hin hr
      | some rule =>
        have hcall := ih depth' ((name, pos) :: above) below (hroom.push hr hpos) (hroom'.push hr hpos)
          (List.nodup_cons.mpr ⟨hin, hnodup⟩)
        exact entered_lifted hs hin hr (body_coupled (lifted_lawful hi out ((name, pos) :: above) below base base') rfl
          hm.length_le hlimit (hw.act_lifted ((name, pos) :: above) below base base') hcall (hm.fits name rule hr) hpos)

/-! ## By itself -/

/-- By itself and without a cache the application comes to `r` and writes `es`. -/
def Matcher.Alone (m : Matcher σ ε) (out : σ → List κ) (limit : Nat) (a : Application) (r : Result)
    (es : List κ) : Prop :=
  ∀ t : State σ, t.memo = [] → ∃ t', (m.withCache false).apply limit (m.depth limit) a.1 a.2 t = .ok r t' ∧
    out t'.world = out t.world ++ es

theorem Matcher.Alone.unique [h : Nonempty σ] {a : Application} {r r' : Result} {es es' : List κ}
    (ha : m.Alone out limit a r es) (ha' : m.Alone out limit a r' es') : r = r' ∧ es = es' := by
  obtain ⟨w⟩ := h
  obtain ⟨t, ht, hout⟩ := ha (State.initial w) rfl
  obtain ⟨t', ht', hout'⟩ := ha' (State.initial w) rfl
  rw [ht] at ht'
  cases ht'
  exact ⟨rfl, List.append_cancel_left (hout.symm.trans hout')⟩

section
variable {depth : Nat} {stack : List Application} {name : String} {pos : Nat} {s s' : State (Traced σ)}

/-- What comes to a result in the middle of others comes to it by itself. -/
theorem Matcher.alone_of_ok (hw : m.Writes out) (hm : m.Bound hi) (hlimit : hi ≤ limit) (hroom : m.Room hi depth stack)
    (hnodup : stack.Nodup) (hpos : pos ≤ hi) (hs : s.memo = .ofStack stack) {r : Result}
    (hx : (m.withCache false).applyTraced limit depth name pos s = .ok r s') (hc : Clean s'.log) :
    ∃ es, out s'.world.1 = out s.world.1 ++ es ∧ m.Alone out limit (name, pos) r es := by
  have hlifted := fun base' => applyTraced_lifted hw hm hlimit (out s.world.1) base' depth (m.depth limit) [] stack hroom
    (.start hlimit) hnodup name pos (Nat.zero_le pos) hpos s hs
  simp only [hx] at hlifted
  obtain ⟨es, hes⟩ := (hlifted []).2.2.1.2
  refine ⟨es, hes.symm, fun t ht => ?_⟩
  obtain ⟨t', hy, -, fs, hfs, hfs'⟩ := ((hlifted (out t.world)).2.2.2 t
    ⟨ht, [], (List.append_nil _).symm, (List.append_nil _).symm⟩).resolve_left fun h => h hc
  refine ⟨t', hy, ?_⟩
  rw [hfs', List.append_cancel_left (hfs.symm.trans hes.symm)]

/-- What stops in the middle of others does not come to a result by itself. -/
theorem Matcher.not_alone_of_error (hw : m.Writes out) (hm : m.Bound hi) (hlimit : hi ≤ limit)
    (hroom : m.Room hi depth stack) (hnodup : stack.Nodup) (hpos : pos ≤ hi) (hs : s.memo = .ofStack stack) {e : Halt ε}
    (hx : (m.withCache false).applyTraced limit depth name pos s = .error e s') (hc : Clean s'.log) (r : Result)
    (es : List κ) : ¬m.Alone out limit (name, pos) r es := by
  intro ha
  have hlifted := applyTraced_lifted hw hm hlimit (out s.world.1) (out s.world.1) depth (m.depth limit) [] stack hroom
    (.start hlimit) hnodup name pos (Nat.zero_le pos) hpos s hs
  rw [hx] at hlifted
  obtain ⟨t', hy, -⟩ := (hlifted.2.2 (State.initial s.world.1)
    ⟨rfl, [], (List.append_nil _).symm, (List.append_nil _).symm⟩).resolve_left fun h => h hc
  obtain ⟨t'', hy', -⟩ := ha (State.initial s.world.1) rfl
  rw [hy] at hy'
  cases hy'

end

/-! ## With a cache -/

/-- The applications of `stack` are in progress in a run with a cache, which has written what the run without one has,
less some repetitions. What an application writes whose result is remembered has been written. -/
structure Matcher.Recalls (m : Matcher σ ε) (out : σ → List κ) (limit : Nat) (stack : List Application)
    (s : State (Traced σ)) (t : State σ) : Prop where
  distinct : t.memo.Distinct
  begun : t.memo.begun = stack
  thinned : Thinned (out t.world) (out s.world.1)
  alone : ∀ name pos r, t.memo.find? name pos = some (.done r) →
    ∃ es, es ⊆ out t.world ∧ m.Alone out limit (name, pos) r es

theorem Memo.find?_of_enter {memo : Memo} {name name' : String} {pos pos' : Nat} {r : Result}
    (h : (memo.enter name pos).find? name' pos' = some (.done r)) : memo.find? name' pos' = some (.done r) := by
  by_cases hk : name = name' ∧ pos = pos'
  · obtain ⟨rfl, rfl⟩ := hk
    rw [Memo.find?_enter_self] at h
    cases h
  · rwa [Memo.find?_enter_of_ne hk] at h

namespace Matcher.Recalls
variable {stack : List Application} {s s' : State (Traced σ)} {t t' : State σ} {name : String} {pos : Nat}

theorem congr (h : m.Recalls out limit stack s t) (hmemo : t'.memo = t.memo) {es : List κ}
    (hs : out s'.world.1 = out s.world.1 ++ es) (ht : out t'.world = out t.world ++ es) :
    m.Recalls out limit stack s' t' where
  distinct := hmemo ▸ h.distinct
  begun := hmemo ▸ h.begun
  thinned := by
    rw [hs, ht]
    exact h.thinned.append
  alone name pos r hr := by
    rw [hmemo] at hr
    obtain ⟨fs, hfs, ha⟩ := h.alone name pos r hr
    rw [ht]
    exact ⟨fs, fun _ hx => List.mem_append_left _ (hfs hx), ha⟩

theorem entered (h : m.Recalls out limit stack s t) (hf : t.memo.find? name pos = none) :
    m.Recalls out limit ((name, pos) :: stack) ((s.emit .entered name pos).entered name pos) (t.entered name pos) where
  distinct := h.distinct.enter hf
  begun := Memo.begun_enter h.begun name pos
  thinned := h.thinned
  alone name' pos' r hr := h.alone name' pos' r (Memo.find?_of_enter hr)

/-- The newest application is done, and what it comes to and writes by itself has been written. -/
theorem settled (h : m.Recalls out limit ((name, pos) :: stack) s t) {r : Result} {es : List κ} (hes : es ⊆ out t.world)
    (ha : m.Alone out limit (name, pos) r es) (hs : out s'.world.1 = out s.world.1) :
    m.Recalls out limit stack s' ((m.withCache true).settled name pos r t) := by
  obtain ⟨hdistinct, hbegun⟩ := (m.withCache true).begun_settled h.distinct h.begun r
  refine ⟨hdistinct, hbegun, hs ▸ h.thinned, fun name' pos' r' hr' => ?_⟩
  change (t.memo.insert name pos (.done r)).find? name' pos' = some (.done r') at hr'
  by_cases hk : name = name' ∧ pos = pos'
  · obtain ⟨rfl, rfl⟩ := hk
    rw [Memo.find?_insert_self] at hr'
    cases hr'
    exact ⟨es, hes, ha⟩
  · rw [Memo.find?_insert_of_ne hk] at hr'
    exact h.alone name' pos' r' hr'

/-- What is remembered is evaluated again in the other run, which writes what has been written. -/
theorem repeated (h : m.Recalls out limit stack s t) {r r' : Result} {es : List κ}
    (hr : t.memo.find? name pos = some (.done r')) (ha : m.Alone out limit (name, pos) r es)
    (hs : out s'.world.1 = out s.world.1 ++ es) : r' = r ∧ m.Recalls out limit stack s' t := by
  obtain ⟨es', hes', ha'⟩ := h.alone name pos r' hr
  have : Nonempty σ := ⟨t.world⟩
  obtain ⟨rfl, rfl⟩ := ha.unique ha'
  refine ⟨rfl, h.distinct, h.begun, ?_, h.alone⟩
  rw [hs]
  exact h.thinned.repeated hes'

end Matcher.Recalls

/-- A run without a cache beside one with a cache. The first one is excused if it meets an application in progress. -/
def Matcher.thinning (m : Matcher σ ε) (out : σ → List κ) (limit : Nat) (stack : List Application) :
    Coupling (Traced σ) σ ε where
  sound s := s.memo = .ofStack stack
  le s s' := s.log <:+ s'.log
  halts _ _ := True
  linked s t := m.Recalls out limit stack s t
  parted s t := Thinned (out t.world) (out s.world.1)
  excused s := ¬Clean s.log

theorem Matcher.thinning_lawful (m : Matcher σ ε) (out : σ → List κ) (limit hi : Nat) (stack : List Application) :
    (m.thinning out limit stack).Lawful 0 hi where
  refl _ := List.suffix_rfl
  trans h h' := h.trans h'
  excused_le h hle hc := h (hc.of_suffix hle)
  le_note s p d := by
    change s.log <:+ (s.note p d).log
    rw [State.log_note]
  le_hush _ := List.suffix_rfl
  le_unhush _ := List.suffix_rfl
  sound_note {s p} d _ _ h := (s.memo_note p d).trans h
  sound_hush h := h
  sound_unhush h := h
  halts_unhush h := h
  linked_note {s t p} d _ _ h := by
    have hs : out (s.note p d).world.1 = out s.world.1 ++ [] := by rw [State.world_note, List.append_nil]
    exact h.congr (t.memo_note p d) hs (by rw [State.world_note, List.append_nil])
  linked_hush h := ⟨h.distinct, h.begun, h.thinned, h.alone⟩
  linked_unhush h := ⟨h.distinct, h.begun, h.thinned, h.alone⟩
  parted_unhush h := h

theorem Matcher.Writes.act_thinned (hm : m.Writes out) (limit : Nat) (stack : List Application) (b : Block) (i j : Nat)
    (ls : List Value) : Coupled (m.thinning out limit stack) (fun _ => True)
      ((m.withCache false).traced.act b i j ls) ((m.withCache true).act b i j ls) := by
  intro s hs
  obtain ⟨a, es, ha⟩ := (show (m.withCache false).Writes out from hm).act b i j ls
  obtain ⟨w, hw, hout⟩ := ha s.untraced
  rw [act_traced hw]
  have hright : ∀ t : State σ, ∃ w', (m.withCache true).act b i j ls t = outcome a { t with world := w' } ∧
      out w' = out t.world ++ es := ha
  cases a with
  | ok v =>
    refine ⟨trivial, hs, List.suffix_rfl, fun t ht => Or.inr ?_⟩
    obtain ⟨w', hw', hout'⟩ := hright t
    exact ⟨_, hw', ht.congr rfl hout hout'⟩
  | error e =>
    refine ⟨trivial, List.suffix_rfl, fun t ht => Or.inr ?_⟩
    obtain ⟨w', hw', hout'⟩ := hright t
    refine ⟨_, hw', ?_⟩
    change Thinned (out w') (out w)
    rw [hout, hout']
    exact ht.thinned.append

section
variable {depth : Nat} {stack : List Application} {name : String} {pos : Nat} {s s' : State (Traced σ)} {t : State σ}

/-- An application that is not in progress is unknown to the cache, or its result is remembered. -/
theorem Matcher.Recalls.find? (ht : m.Recalls out limit stack s t) (hin : (name, pos) ∉ stack) :
    t.memo.find? name pos = none ∨ ∃ r, t.memo.find? name pos = some (.done r) := by
  cases hf : t.memo.find? name pos with
  | none => exact .inl rfl
  | some e =>
    cases e with
    | begun => exact absurd (ht.begun ▸ (Memo.mem_begun_iff ht.distinct).mpr hf) hin
    | done r => exact .inr ⟨r, rfl⟩

section
variable (hw : m.Writes out) (hm : m.Bound hi) (hlimit : hi ≤ limit) (hroom : m.Room hi (depth + 1) stack)
  (hnodup : stack.Nodup) (hpos : pos ≤ hi) (hs : s.memo = .ofStack stack) (hin : (name, pos) ∉ stack)
include hw hm hlimit hroom hnodup hpos hs hin

/-- An application without a cache that stops. -/
theorem Matcher.error_thinned {e : Halt ε}
    (hx : (m.withCache false).applyTraced limit (depth + 1) name pos s = .error e s') (hle : s.log <:+ s'.log)
    (hnone : ∀ t, m.Recalls out limit stack s t → t.memo.find? name pos = none →
      ¬Clean s'.log ∨ ∃ t', (m.withCache true).apply limit (depth + 1) name pos t = .error e t' ∧
        Thinned (out t'.world) (out s'.world.1)) :
    (m.thinning out limit stack).Agree (·.EndsIn pos hi) s ((m.withCache true).apply limit (depth + 1) name pos)
      ((m.withCache false).applyTraced limit (depth + 1) name pos s) := by
  rw [hx]
  refine ⟨trivial, hle, fun t ht => ?_⟩
  rcases ht.find? hin with hf | ⟨r, hf⟩
  · exact hnone t ht hf
  · obtain ⟨es, -, ha⟩ := ht.alone name pos r hf
    exact Or.inl fun hc => not_alone_of_error hw hm hlimit hroom hnodup hpos hs hx hc r es ha

/-- An application without a cache that comes to a result. What it writes is written by itself as well, and if the result
is remembered, it has been written. -/
theorem Matcher.ok_thinned {r : Result} (hend : r.EndsIn pos hi)
    (hx : (m.withCache false).applyTraced limit (depth + 1) name pos s = .ok r s') (hs' : s'.memo = .ofStack stack)
    (hle : s.log <:+ s'.log)
    (hnone : ∀ t es, m.Recalls out limit stack s t → t.memo.find? name pos = none →
      out s'.world.1 = out s.world.1 ++ es → m.Alone out limit (name, pos) r es →
      ¬Clean s'.log ∨ ∃ t', (m.withCache true).apply limit (depth + 1) name pos t = .ok r t' ∧
        m.Recalls out limit stack s' t') :
    (m.thinning out limit stack).Agree (·.EndsIn pos hi) s ((m.withCache true).apply limit (depth + 1) name pos)
      ((m.withCache false).applyTraced limit (depth + 1) name pos s) := by
  rw [hx]
  refine ⟨hend, hs', hle, fun t ht => ?_⟩
  by_cases hc : Clean s'.log
  · obtain ⟨es, hout, ha⟩ := alone_of_ok hw hm hlimit hroom hnodup hpos hs hx hc
    rcases ht.find? hin with hf | ⟨r', hf⟩
    · exact hnone t es ht hf hout ha
    · obtain ⟨rfl, ht'⟩ := ht.repeated hf ha hout
      exact Or.inr ⟨t, apply_done hf, ht'⟩
  · exact Or.inl hc

/-- An application without a cache that begins, if its body writes the same in the middle of it. -/
theorem Matcher.entered_thinned {rule : Rule} (hr : m.grammar.rule? name = some rule)
    (hbody : Coupled (m.thinning out limit ((name, pos) :: stack)) (·.EndsIn pos hi)
      (rule.evalWith (Node.eval (m.withCache false).traced limit ((m.withCache false).applyTraced limit depth)) pos)
      (rule.evalWith (Node.eval (m.withCache true) limit ((m.withCache true).apply limit depth)) pos)) :
    (m.thinning out limit stack).Agree (·.EndsIn pos hi) s ((m.withCache true).apply limit (depth + 1) name pos)
      ((m.withCache false).applyTraced limit (depth + 1) name pos s) := by
  have hf : s.memo.find? name pos = none := State.find?_of_ofStack (t := s.untraced) hs hin
  have hentered := hbody _ (State.entered_ofStack (s := s.emit .entered name pos) hs name pos)
  cases hx : rule.evalWith (Node.eval (m.withCache false).traced limit
      ((m.withCache false).applyTraced limit depth)) pos ((s.emit .entered name pos).entered name pos) with
  | error e s' =>
    rw [hx] at hentered
    obtain ⟨-, hle, ht'⟩ := hentered
    refine error_thinned hw hm hlimit hroom hnodup hpos hs hin
      (applyTraced_error (m := m.withCache false) hf hr hx) ((List.suffix_cons ..).trans hle) fun t ht hft => ?_
    rcases ht' _ (ht.entered hft) with hexc | ⟨t', hy, hthin⟩
    · exact Or.inl hexc
    · exact Or.inr ⟨t', apply_error hft hr hy, hthin⟩
  | ok r s' =>
    rw [hx] at hentered
    obtain ⟨hend, hs', hle, ht'⟩ := hentered
    refine ok_thinned hw hm hlimit hroom hnodup hpos hs hin hend
      (applyTraced_ok (m := m.withCache false) hf hr hx) (m.traced.settled_ofStack hs' hin r)
      (((List.suffix_cons ..).trans hle).trans (List.suffix_cons ..)) fun t es ht hft hout ha => ?_
    rcases ht' _ (ht.entered hft) with hexc | ⟨t', hy, hrecalls⟩
    · exact Or.inl fun hc => hexc (hc.of_suffix (List.suffix_cons ..))
    · have hes : es ⊆ out t'.world := by
        intro x hx'
        refine hrecalls.thinned.subset ?_
        rw [show out s'.world.1 = _ from hout]
        exact List.mem_append_right _ hx'
      exact Or.inr ⟨_, apply_ok hft hr hy, hrecalls.settled hes ha rfl⟩

end

end

/-- **With a cache an application writes what it writes without one, less some repetitions**, as long as nothing is met
that is in progress. -/
theorem Matcher.applyTraced_thinned (hw : m.Writes out) (hm : m.Bound hi) (hlimit : hi ≤ limit) (depth : Nat) :
    ∀ stack, m.Room hi depth stack → stack.Nodup → ∀ name pos, 0 ≤ pos → pos ≤ hi →
      Coupled (m.thinning out limit stack) (·.EndsIn pos hi) ((m.withCache false).applyTraced limit depth name pos)
        ((m.withCache true).apply limit depth name pos) := by
  induction depth with
  | zero =>
    intro stack hroom hnodup
    exact absurd rfl (hroom.ne_zero hnodup)
  | succ depth ih =>
    intro stack hroom hnodup name pos hlo hpos s hs
    by_cases hin : (name, pos) ∈ stack
    · have hf : s.memo.find? name pos = some .begun := by
        rw [show s.memo = _ from hs]
        exact Memo.find?_ofStack_of_mem hin
      rw [applyTraced_begun hf]
      exact ⟨trivial, hs, List.suffix_cons .., fun t _ => Or.inl fun hc => hc _ (List.mem_cons_self ..) rfl⟩
    · have hf : s.memo.find? name pos = none := State.find?_of_ofStack (t := s.untraced) hs hin
      cases hr : m.grammar.rule? name with
      | none =>
        exact error_thinned hw hm hlimit hroom hnodup hpos hs hin
          (applyTraced_undefined (m := m.withCache false) hf hr) (List.suffix_cons ..)
          fun t ht hft => Or.inr ⟨_, apply_undefined hft hr, ht.thinned⟩
      | some rule =>
        have hcall := ih ((name, pos) :: stack) (hroom.push hr hpos) (List.nodup_cons.mpr ⟨hin, hnodup⟩)
        exact entered_thinned hw hm hlimit hroom hnodup hpos hs hin hr
          (body_coupled (m.thinning_lawful out limit hi ((name, pos) :: stack)) rfl hm.length_le hlimit
            (hw.act_thinned limit ((name, pos) :: stack)) hcall (hm.fits name rule hr) hpos)

end

/-! ## Parses -/

/-- **With a cache a parse writes what it writes without one, less some repetitions**, unless the one without meets an
application in progress: nothing is written in another order, and nothing is never written. -/
theorem Matcher.parse_thinned {m : Matcher σ ε} {out : σ → List κ} (hw : m.Writes out) {name : String} {pos : Nat}
    {s : State σ} (hc : Clean ((m.withCache false).trace name pos s)) :
    Thinned (out (endState ((m.withCache true).parse name pos s)).world)
      (out (endState ((m.withCache false).parse name pos s)).world) := by
  have h := applyTraced_thinned hw (m.bound_limit pos) (Nat.le_refl _) (m.depth (m.limit pos)) [] (.start (Nat.le_refl _))
    List.nodup_nil name pos (Nat.zero_le pos) (m.start_le_limit pos) ((s.withLog []).restart pos) rfl
  have hrecalls : m.Recalls out (m.limit pos) [] ((s.withLog []).restart pos) (s.restart pos) :=
    ⟨List.nodup_nil, rfl, .refl, nofun⟩
  have huntraced := ((m.withCache false).parseTraced_untraced name pos (s.withLog [])).2
  rw [show (endState ((m.withCache false).parse name pos s)) = _ from huntraced]
  change Clean (endState ((m.withCache false).applyTraced (m.limit pos) (m.depth (m.limit pos)) name pos
    ((s.withLog []).restart pos))).log at hc
  change Thinned (out (endState ((m.withCache true).apply (m.limit pos) (m.depth (m.limit pos)) name pos
    (s.restart pos))).world) (out (endState ((m.withCache false).applyTraced (m.limit pos) (m.depth (m.limit pos)) name
    pos ((s.withLog []).restart pos))).world.1)
  cases hx : (m.withCache false).applyTraced (m.limit pos) (m.depth (m.limit pos)) name pos
      ((s.withLog []).restart pos) with
  | ok r s' =>
    rw [hx] at h hc
    obtain ⟨t', hy, ht'⟩ := (h.2.2.2 _ hrecalls).resolve_left fun h => h hc
    rw [hy]
    exact ht'.thinned
  | error e s' =>
    rw [hx] at h hc
    obtain ⟨t', hy, ht'⟩ := (h.2.2 _ hrecalls).resolve_left fun h => h hc
    rw [hy]
    exact ht'

end

end PegTemplate
