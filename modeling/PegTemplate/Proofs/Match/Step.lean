import PegTemplate.Proofs.Match.Outcome
import PegTemplate.Proofs.Match.Progress

/-!
# Steps

* `Matcher.withCache` : the matcher with results remembered, or not;
* `Matcher.Room` : more applications can begin;
* `State.entered`, `Matcher.settled` : the state in which an application has begun, and in which it is done;
* `Matcher.apply_begun`, `apply_done`, `apply_undefined`, `apply_ok`, `apply_error` : what applying a rule is;
* `Matcher.Acts`, `Matcher.Pure` : what an action block comes to in any state, and that there is such a thing.
-/

namespace PegTemplate

section
variable {σ ε : Type}

theorem State.memo_note (s : State σ) (p : Nat) (d : String) : (s.note p d).memo = s.memo := by
  unfold State.note
  split_ifs <;> rfl

theorem State.silence_note (s : State σ) (p : Nat) (d : String) : (s.note p d).silence = s.silence := by
  unfold State.note
  split_ifs <;> rfl

/-! ## Room -/

/-- The applications of `stack` are of defined rules and lie before `last`, and if they differ `depth` more can begin. -/
structure Matcher.Room (m : Matcher σ ε) (last depth : Nat) (stack : List Application) : Prop where
  defined : ∀ a ∈ stack, (m.grammar.rule? a.1).isSome ∧ a.2 ≤ last
  lt : m.grammar.rules.length * (last + 1) < depth + stack.length

namespace Matcher.Room
variable {m : Matcher σ ε} {last depth : Nat} {stack : List Application}

theorem ne_zero (h : m.Room last depth stack) (hn : stack.Nodup) : depth ≠ 0 := by
  have hnames : ∀ a ∈ stack, a.1 ∈ m.grammar.rules.map (·.name) ∧ a.2 ≤ last := by
    intro a ha
    obtain ⟨r, hr⟩ := Option.isSome_iff_exists.1 (h.defined a ha).1
    exact ⟨List.mem_map.2 ⟨r, List.mem_of_find?_eq_some hr, Grammar.rule?_name hr⟩, (h.defined a ha).2⟩
  have hl := Memo.length_le hn hnames
  rw [List.length_map] at hl
  have hlt := h.lt
  omega

theorem push (h : m.Room last (depth + 1) stack) {name : String} {pos : Nat} {rule : Rule}
    (hr : m.grammar.rule? name = some rule) (hp : pos ≤ last) : m.Room last depth ((name, pos) :: stack) where
  defined := List.forall_mem_cons.2 ⟨⟨by rw [hr]; rfl, hp⟩, h.defined⟩
  lt := by
    have hlt := h.lt
    rw [List.length_cons]
    omega

/-- There is room for a parse. -/
theorem start {limit : Nat} (h : last ≤ limit) : m.Room last (m.depth limit) [] where
  defined := nofun
  lt := by
    have hl := Nat.mul_le_mul_left m.grammar.rules.length (Nat.add_le_add_right h 1)
    unfold Matcher.depth
    rw [List.length_nil]
    omega

end Matcher.Room

/-! ## Applications -/

/-- The matcher with results remembered, or not. -/
def Matcher.withCache (m : Matcher σ ε) (cached : Bool) : Matcher σ ε := { m with cached := cached }

/-- The state in which an application has begun. -/
def State.entered (name : String) (pos : Nat) (s : State σ) : State σ :=
  { s with memo := s.memo.enter name pos }

/-- The state in which an application is done. -/
def Matcher.settled (m : Matcher σ ε) (name : String) (pos : Nat) (r : Result) (s : State σ) : State σ :=
  { s with memo := if m.cached then s.memo.insert name pos (.done r) else s.memo.erase name pos }

section
variable (m : Matcher σ ε) {name : String} {pos : Nat} {s : State σ}

theorem Matcher.endsBy_settled {last : Nat} (h : s.memo.EndsBy last) {r : Result} (hr : r.EndsIn pos last) :
    (m.settled name pos r s).memo.EndsBy last := by
  unfold settled
  dsimp only
  split_ifs
  · exact h.insert hr
  · exact h.erase name pos

/-- If the newest application is done, those below it are in progress. -/
theorem Matcher.begun_settled {stack : List Application} (h : s.memo.Distinct)
    (hb : s.memo.begun = (name, pos) :: stack) (r : Result) :
    (m.settled name pos r s).memo.Distinct ∧ (m.settled name pos r s).memo.begun = stack := by
  have hk : (name, pos) ∈ s.memo.keys := s.memo.begun_subset_keys (hb ▸ List.mem_cons_self ..)
  unfold settled
  dsimp only
  split_ifs
  · exact ⟨h.insert hk _, Memo.begun_insert h hb r⟩
  · exact ⟨h.erase name pos, Memo.begun_erase h hb⟩

end

section
variable {m : Matcher σ ε} {limit depth : Nat} {name : String} {pos : Nat} {rule : Rule} {r : Result} {e : Halt ε}
  {s s' : State σ}

theorem Matcher.apply_begun (h : s.memo.find? name pos = some .begun) :
    m.apply limit (depth + 1) name pos s = .ok .failed s := by
  rw [Matcher.apply, bind_get, h]
  rfl

theorem Matcher.apply_done (h : s.memo.find? name pos = some (.done r)) :
    m.apply limit (depth + 1) name pos s = .ok r s := by
  rw [Matcher.apply, bind_get, h]
  rfl

theorem Matcher.apply_undefined (h : s.memo.find? name pos = none) (hr : m.grammar.rule? name = none) :
    m.apply limit (depth + 1) name pos s = .error (.undefinedRule name) (s.entered name pos) := by
  rw [Matcher.apply, bind_get, h]
  dsimp only
  rw [bind_modify, hr]
  rfl

theorem Matcher.apply_ok (h : s.memo.find? name pos = none) (hr : m.grammar.rule? name = some rule)
    (hx : rule.evalWith (Node.eval m limit (m.apply limit depth)) pos (s.entered name pos) = .ok r s') :
    m.apply limit (depth + 1) name pos s = .ok r (m.settled name pos r s') := by
  rw [Matcher.apply, bind_get, h]
  dsimp only
  rw [bind_modify, hr]
  dsimp only
  exact bind_ok hx

theorem Matcher.apply_error (h : s.memo.find? name pos = none) (hr : m.grammar.rule? name = some rule)
    (hx : rule.evalWith (Node.eval m limit (m.apply limit depth)) pos (s.entered name pos) = .error e s') :
    m.apply limit (depth + 1) name pos s = .error e s' := by
  rw [Matcher.apply, bind_get, h]
  dsimp only
  rw [bind_modify, hr]
  dsimp only
  exact bind_error hx

end

/-! ## Actions -/

/-- An action block comes to `a` in every state. -/
def Matcher.Acts (m : Matcher σ ε) (b : Block) (start stop : Nat) (labels : List Value)
    (a : Except (Halt ε) Value) : Prop :=
  ∀ s, answer (m.act b start stop labels s) = a

/-- What an action comes to hangs on its arguments alone. -/
def Action.Pure (a : Action σ ε) : Prop :=
  ∀ text start stop labels, ∃ r, ∀ w, answer (a.run text start stop labels w) = r

/-- All actions are pure. -/
def Matcher.Pure (m : Matcher σ ε) : Prop := ∀ a ∈ m.actions, a.Pure

theorem inWorld_ok {α : Type} {x : EStateM ε σ α} {s : State σ} {a : α} {w : σ} (h : x s.world = .ok a w) :
    inWorld x s = .ok a { s with world := w } := by
  unfold inWorld
  rw [h]

theorem inWorld_error {α : Type} {x : EStateM ε σ α} {s : State σ} {e : ε} {w : σ}
    (h : x s.world = .error e w) : inWorld x s = .error (.raised e) { s with world := w } := by
  unfold inWorld
  rw [h]

/-- An action changes its world, and nothing else; and no action is stopped by a bound. -/
theorem Matcher.act_outcome (m : Matcher σ ε) (b : Block) (start stop : Nat) (labels : List Value) (s : State σ) :
    ∃ a w, a ≠ .error .exhausted ∧ m.act b start stop labels s = outcome a { s with world := w } := by
  unfold Matcher.act
  cases m.actions[b.index]? with
  | none => exact ⟨.error (.missingAction b.index), s.world, nofun, rfl⟩
  | some a =>
    dsimp only
    by_cases hl : a.arity = labels.length
    · rw [if_pos hl]
      cases h : a.run m.text start stop labels s.world with
      | ok v w => exact ⟨.ok v, w, nofun, inWorld_ok h⟩
      | error e w => exact ⟨.error (.raised e), w, nofun, inWorld_error h⟩
    · rw [if_neg hl]
      exact ⟨.error (.wrongArity b.index), s.world, nofun, rfl⟩

theorem Matcher.Acts.run {m : Matcher σ ε} {b : Block} {start stop : Nat} {labels : List Value}
    {a : Except (Halt ε) Value} (h : m.Acts b start stop labels a) (s : State σ) :
    ∃ w, m.act b start stop labels s = outcome a { s with world := w } := by
  obtain ⟨a', w, -, hw⟩ := m.act_outcome b start stop labels s
  have ha := h s
  rw [hw, answer_outcome] at ha
  exact ⟨w, ha ▸ hw⟩

theorem Matcher.Acts.unique [h : Nonempty σ] {m : Matcher σ ε} {b : Block} {start stop : Nat} {labels : List Value}
    {a a' : Except (Halt ε) Value} (ha : m.Acts b start stop labels a) (ha' : m.Acts b start stop labels a') :
    a = a' := by
  obtain ⟨w⟩ := h
  rw [← ha (State.initial w), ha']

theorem Matcher.Acts.ne_exhausted [h : Nonempty σ] {m : Matcher σ ε} {b : Block} {start stop : Nat}
    {labels : List Value} {a : Except (Halt ε) Value} (ha : m.Acts b start stop labels a) : a ≠ .error .exhausted := by
  obtain ⟨w⟩ := h
  obtain ⟨a', w', hne, hw⟩ := m.act_outcome b start stop labels (State.initial w)
  rw [← ha (State.initial w), hw, answer_outcome]
  exact hne

theorem Matcher.Pure.acts {m : Matcher σ ε} (h : m.Pure) (b : Block) (start stop : Nat) (labels : List Value) :
    ∃ a, m.Acts b start stop labels a := by
  unfold Matcher.Acts Matcher.act
  cases ha : m.actions[b.index]? with
  | none => exact ⟨_, fun s => rfl⟩
  | some a =>
    dsimp only
    by_cases hl : a.arity = labels.length
    · obtain ⟨r, hr⟩ := h a (List.mem_of_getElem? ha) m.text start stop labels
      rw [if_pos hl]
      refine ⟨r.mapError .raised, fun s => ?_⟩
      rw [← hr s.world]
      cases hw : a.run m.text start stop labels s.world with
      | ok v w => rw [inWorld_ok hw]; rfl
      | error e w => rw [inWorld_error hw]; rfl
    · rw [if_neg hl]
      exact ⟨_, fun s => rfl⟩

end

end PegTemplate
