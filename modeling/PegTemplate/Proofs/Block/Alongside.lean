import PegTemplate.Block.Eval
import PegTemplate.Proofs.Match.Outcome

/-!
# Code that runs on two hosts

* `Alongside` : two computations come to the same in worlds that are related, and leave related worlds behind;
* `Expr.eval_alongside`, `Code.run_alongside` : **code on two hosts does that, if the actions of the hosts do.**
-/

namespace PegTemplate

/-- In worlds that are related two computations come to the same, and the worlds that they end in are related. -/
def Alongside {σ τ ε α : Type} (R : σ → τ → Prop) (x : EStateM ε σ α) (y : EStateM ε τ α) : Prop :=
  ∀ v w, R v w → answer (x v) = answer (y w) ∧ R (endState (x v)) (endState (y w))

/-- Two hosts whose actions run alongside. -/
def Host.Alongside {σ τ : Type} (R : σ → τ → Prop) (h : Host σ) (h' : Host τ) : Prop :=
  ∀ id args kws, PegTemplate.Alongside R (h.run id args kws) (h'.run id args kws)

section
variable {σ τ ε α β : Type} {R : σ → τ → Prop}

namespace Alongside

theorem pure (a : α) : Alongside R (Pure.pure a : EStateM ε σ α) (Pure.pure a) := fun _ _ h => ⟨rfl, h⟩

theorem throw (e : ε) : Alongside R (throw e : EStateM ε σ α) (throw e) := fun _ _ h => ⟨rfl, h⟩

theorem bind {x : EStateM ε σ α} {y : EStateM ε τ α} {f : α → EStateM ε σ β} {g : α → EStateM ε τ β}
    (h : Alongside R x y) (hf : ∀ a, Alongside R (f a) (g a)) : Alongside R (x >>= f) (y >>= g) := by
  intro v w hvw
  obtain ⟨ha, hend⟩ := h v w hvw
  cases hx : x v with
  | ok a v' =>
    cases hy : y w with
    | ok b w' =>
      rw [hx, hy] at ha hend
      obtain rfl : a = b := Except.ok.inj ha
      rw [bind_ok hx, bind_ok hy]
      exact hf a v' w' hend
    | error e w' =>
      rw [hx, hy] at ha
      cases ha
  | error e v' =>
    cases hy : y w with
    | ok b w' =>
      rw [hx, hy] at ha
      cases ha
    | error e' w' =>
      rw [hx, hy] at ha hend
      obtain rfl : e = e' := Except.error.inj ha
      rw [bind_error hx, bind_error hy]
      exact ⟨rfl, hend⟩

theorem raising {x : EStateM Fault σ α} {y : EStateM Fault τ α} (h : Alongside R x y) :
    Alongside R (raising x) (raising y) := by
  intro v w hvw
  obtain ⟨ha, hend⟩ := h v w hvw
  unfold PegTemplate.raising
  cases hx : x v <;> cases hy : y w <;> rw [hx, hy] at ha hend <;> cases ha <;> exact ⟨rfl, hend⟩

theorem ofExcept (x : Except Fault α) : Alongside R (ofExcept x : Running σ α) (ofExcept x) := by
  cases x with
  | ok a => exact .pure a
  | error e => exact .throw _

theorem lookUp (s : Scope) (n : String) : Alongside R (lookUp s n : Running σ Value) (lookUp s n) := by
  unfold PegTemplate.lookUp
  cases s.find n with
  | ok v => exact .pure v
  | error e => exact .throw _

theorem spreadValue (callee : Option String) (v : Value) :
    Alongside R (spreadValue callee v : Running σ (List Value)) (spreadValue callee v) := by
  unfold PegTemplate.spreadValue
  cases v.elements? with
  | some vs => exact .pure vs
  | none => exact .throw _

end Alongside

section
variable {h : Host σ} {h' : Host τ}

theorem Value.call_alongside (hh : h.Alongside R h') (f : Value) (args : List Value) (kws : List (String × Value)) :
    Alongside R (f.call h args kws) (f.call h' args kws) := by
  have hlift : ∀ x : Except Fault Value, Alongside R (Value.lift x : EStateM Fault σ Value) (Value.lift x) := by
    intro x
    cases x with
    | ok a => exact .pure a
    | error e => exact .throw e
  unfold Value.call
  split
  · exact hh _ args kws
  · exact hlift _

mutual

/-- **An expression comes to the same on both hosts.** -/
theorem Expr.eval_alongside (hh : h.Alongside R h') (s : Scope) : ∀ e : Expr, Alongside R (e.eval h s) (e.eval h' s)
  | .name n => by
    rw [Expr.eval, Expr.eval]
    exact .lookUp s n
  | .none => by
    rw [Expr.eval, Expr.eval]
    exact .pure _
  | .bool b => by
    rw [Expr.eval, Expr.eval]
    exact .pure _
  | .int n => by
    rw [Expr.eval, Expr.eval]
    exact .pure _
  | .text t => by
    rw [Expr.eval, Expr.eval]
    exact .pure _
  | .list es => by
    rw [Expr.eval, Expr.eval]
    exact (evalArguments_alongside hh s es).bind fun _ => .pure _
  | .tuple es => by
    rw [Expr.eval, Expr.eval]
    exact (evalArguments_alongside hh s es).bind fun _ => .pure _
  | .dict es => by
    rw [Expr.eval, Expr.eval]
    exact (evalEntries_alongside hh s es).bind fun _ => .ofExcept _
  | .call f args kws => by
    have hf := Expr.eval_alongside hh s f
    have hkws := evalKeywords_alongside hh s kws
    have hargs := evalArguments_alongside hh s args
    by_cases hspread : ∃ e, args = [.spread e]
    · obtain ⟨e, rfl⟩ := hspread
      have he := Expr.eval_alongside hh s e
      rw [Expr.eval, Expr.eval]
      refine hf.bind fun f => he.bind fun v => hkws.bind fun kws => (Alongside.spreadValue _ v).bind fun vs => ?_
      exact (Value.call_alongside hh f vs kws).raising
    · have hne : ∀ e, args = [.spread e] → False := fun e he => hspread ⟨e, he⟩
      rw [Expr.eval, Expr.eval]
      · exact hf.bind fun f => hargs.bind fun vs => hkws.bind fun kws => (Value.call_alongside hh f vs kws).raising
      · exact hne
      · exact hne
  | .spread e => by
    rw [Expr.eval, Expr.eval]
    exact (Expr.eval_alongside hh s e).bind fun v => (Alongside.spreadValue _ v).bind fun _ => .pure _
  | .add l r => by
    rw [Expr.eval, Expr.eval]
    exact (Expr.eval_alongside hh s l).bind fun a => (Expr.eval_alongside hh s r).bind fun b => .ofExcept _
  | .member e n => by
    rw [Expr.eval, Expr.eval]
    exact (Expr.eval_alongside hh s e).bind fun v => .ofExcept _

theorem evalArguments_alongside (hh : h.Alongside R h') (s : Scope) :
    ∀ es : List Expr, Alongside R (evalArguments h s es) (evalArguments h' s es)
  | [] => by
    rw [evalArguments, evalArguments]
    exact .pure _
  | e :: es => by
    have he := Expr.eval_alongside hh s e
    have hes := evalArguments_alongside hh s es
    by_cases hspread : ∃ c, e = .spread c
    · obtain ⟨c, rfl⟩ := hspread
      have hc := Expr.eval_alongside hh s c
      rw [evalArguments, evalArguments]
      exact hc.bind fun v => (Alongside.spreadValue _ v).bind fun vs => hes.bind fun _ => .pure _
    · have hne : ∀ c, e = .spread c → False := fun c hc => hspread ⟨c, hc⟩
      rw [evalArguments, evalArguments]
      · exact he.bind fun v => hes.bind fun _ => .pure _
      · exact hne
      · exact hne

theorem evalKeywords_alongside (hh : h.Alongside R h') (s : Scope) :
    ∀ ks : List (String × Expr), Alongside R (evalKeywords h s ks) (evalKeywords h' s ks)
  | [] => by
    rw [evalKeywords, evalKeywords]
    exact .pure _
  | (k, e) :: ks => by
    rw [evalKeywords, evalKeywords, evalKeyword, evalKeyword]
    refine Alongside.bind ?_ fun v => (evalKeywords_alongside hh s ks).bind fun _ => .pure _
    exact (Expr.eval_alongside hh s e).bind fun _ => .pure _

theorem evalEntries_alongside (hh : h.Alongside R h') (s : Scope) :
    ∀ es : List (Expr × Expr), Alongside R (evalEntries h s es) (evalEntries h' s es)
  | [] => by
    rw [evalEntries, evalEntries]
    exact .pure _
  | (k, v) :: es => by
    rw [evalEntries, evalEntries, evalEntry, evalEntry]
    refine Alongside.bind ?_ fun x => (evalEntries_alongside hh s es).bind fun _ => .pure _
    exact (Expr.eval_alongside hh s k).bind fun _ => (Expr.eval_alongside hh s v).bind fun _ => .pure _

end

/-- Statements come to the same on both hosts. -/
theorem runStatements_alongside (hh : h.Alongside R h') (sts : List Statement) :
    ∀ s : Scope, Alongside R (runStatements h s sts) (runStatements h' s sts) := by
  induction sts with
  | nil => exact fun s => .pure _
  | cons st sts ih =>
    intro s
    cases st with
    | pass => exact ih s
    | result value =>
      cases value with
      | none => exact .pure _
      | some e => exact Expr.eval_alongside hh s e
    | expression e => exact (Expr.eval_alongside hh s e).bind fun _ => ih s
    | assign ts e => exact (Expr.eval_alongside hh s e).bind fun v => (Alongside.ofExcept _).bind fun s => ih s

/-- **Functions come to the same on both hosts.** -/
theorem Code.run_alongside (hh : h.Alongside R h') (c : Code) (globals : List (String × Value)) (args : List Value) :
    Alongside R (c.run h globals args) (c.run h' globals args) := runStatements_alongside hh c.statements _

end

end

end PegTemplate
