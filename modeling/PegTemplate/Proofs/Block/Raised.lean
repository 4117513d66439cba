import PegTemplate.Block.Eval
import PegTemplate.Proofs.Match.Outcome

/-!
# Where code stops

* `Expr.parts`, `Expr.step` : the expressions whose values an expression needs, in the order in which they are evaluated,
  and what it does by itself with these values;
* `Expr.eval_eq` : an expression evaluates its parts and then takes its step;
* `Expr.Raises`, `Statement.Raises`, `Code.Raises` : the first interrupt that occurs while code runs: the step of some part
  at any depth is interrupted, when all that comes before it has values;
* `Expr.Raises.source` : an interrupt is that of a name that is looked up, or what a call or an operator raised;
* `Expr.raises_iff`, `Code.raises_iff` : **code stops with its first interrupt.**
-/

namespace PegTemplate

section
variable {σ ε α β : Type}

/-! ## Lists of computations -/

/-- What follows a computation needs to be known only for what the computation can come to. -/
theorem bind_congr_of_ok {x : EStateM ε σ α} {f g : α → EStateM ε σ β}
    (h : ∀ s a t, x s = .ok a t → f a = g a) : x >>= f = x >>= g := by
  funext s
  cases hx : x s with
  | ok a t => rw [bind_ok hx, bind_ok hx, h s a t hx]
  | error e t => rw [bind_error hx, bind_error hx]

theorem length_of_mapM {f : α → EStateM ε σ β} {as : List α} {bs : List β} {s t : σ} (h : as.mapM f s = .ok bs t) :
    bs.length = as.length := by
  induction as generalizing bs s with
  | nil =>
    cases h
    rfl
  | cons a as ih =>
    rw [List.mapM_cons] at h
    obtain ⟨b, u, -, h⟩ := bind_eq_ok h
    obtain ⟨cs, u', hcs, h⟩ := bind_eq_ok h
    cases h
    rw [List.length_cons, List.length_cons, ih hcs]

theorem mapM_ok_append {f : α → EStateM ε σ β} {as cs : List α} {bs : List β} {s t : σ} (h : as.mapM f s = .ok bs t) :
    (as ++ cs).mapM f s = (do return bs ++ (← cs.mapM f) : EStateM ε σ (List β)) t := by
  rw [List.mapM_append, bind_ok h]

/-- The first computation of a list that fails. -/
theorem mapM_error_iff {f : α → EStateM ε σ β} {as : List α} {e : ε} {s t : σ} :
    as.mapM f s = .error e t ↔ ∃ before a after bs u, as = before ++ a :: after ∧ before.mapM f s = .ok bs u ∧
      f a u = .error e t := by
  constructor
  · intro h
    induction as generalizing s with
    | nil => cases h
    | cons a as ih =>
      rw [List.mapM_cons] at h
      cases hx : f a s with
      | error e' u =>
        rw [bind_error hx] at h
        cases h
        exact ⟨[], a, as, [], s, rfl, rfl, hx⟩
      | ok b u =>
        rw [bind_ok hx] at h
        cases hy : as.mapM f u with
        | ok bs v =>
          rw [bind_ok hy] at h
          cases h
        | error e' v =>
          rw [bind_error hy] at h
          cases h
          obtain ⟨before, c, after, bs, w, rfl, hbefore, hc⟩ := ih hy
          refine ⟨a :: before, c, after, b :: bs, w, rfl, ?_, hc⟩
          rw [List.mapM_cons, bind_ok hx, bind_ok hbefore]
          rfl
  · rintro ⟨before, a, after, bs, u, rfl, hbefore, ha⟩
    rw [mapM_ok_append hbefore, List.mapM_cons]
    exact bind_error (bind_error ha)

end

/-! ## Parts -/

/-- The arguments of a call whose values are needed. Of a single collection the members are taken last of all. -/
def placedArguments : List Expr → List Expr
  | [.spread e] => [e]
  | args => args

/-- The expressions whose values an expression needs, in the order in which they are evaluated. -/
def Expr.parts : Expr → List Expr
  | .name _ | .none | .bool _ | .int _ | .text _ => []
  | .list es | .tuple es => es
  | .dict es => es.flatMap fun e => [e.1, e.2]
  | .call f args kws => f :: (placedArguments args ++ kws.map (·.2))
  | .spread e | .member e _ => [e]
  | .add l r => [l, r]

/-- The values of arguments, with the members of a collection in its place. -/
def spliced : List Expr → List Value → List Value
  | .spread _ :: es, .list members :: vs => members ++ spliced es vs
  | _ :: es, v :: vs => v :: spliced es vs
  | _, _ => []

/-- Keys and values that take turns. -/
def paired : List Value → List (Value × Value)
  | k :: v :: vs => (k, v) :: paired vs
  | _ => []

/-- The members of a collection, as arguments of `callee`. -/
def membersOf (callee : Option String) (v : Value) : Except Fault (List Value) :=
  match v.elements? with
  | some vs => .ok vs
  | none => .error (.notSpreadable callee v.typeName)

/-- What a function is called on by place. -/
def placedValues (callee : Value) : List Expr → List Value → Except Fault (List Value)
  | [.spread _], v :: _ => membersOf (some callee.calleeText) v
  | args, vs => .ok (spliced args vs)

/-- What a function is called on by name. -/
def namedValues (args : List Expr) (kws : List (String × Expr)) (vs : List Value) : List (String × Value) :=
  (kws.map (·.1)).zip (vs.drop args.length)

/-- What an expression that is no name and no call makes of the values of its parts. -/
def Expr.combine : Expr → List Value → Except Fault Value
  | .bool b, _ => .ok (.bool b)
  | .int n, _ => .ok (.int n)
  | .text t, _ => .ok (.text t)
  | .list es, vs => .ok (.list (spliced es vs))
  | .tuple es, vs => .ok (.tuple (spliced es vs))
  | .dict _, vs => dictOf (paired vs)
  | .spread _, v :: _ => (membersOf Option.none v).map .list
  | .add .., a :: b :: _ => a.add b
  | .member _ n, v :: _ => v.member n
  | _, _ => .ok .none

section
variable {σ : Type}

/-- What an expression does by itself when its parts have values. -/
def Expr.step (host : Host σ) (s : Scope) : Expr → List Value → Running σ Value
  | .name n, _ => lookUp s n
  | .call _ args kws, f :: vs => do
    let as ← ofExcept (placedValues f args vs)
    raising (f.call host as (namedValues args kws vs))
  | e, vs => ofExcept (e.combine vs)

/-! ## Evaluation by parts -/

variable (host : Host σ) (s : Scope)

theorem spreadValue_eq (callee : Option String) (v : Value) :
    (spreadValue callee v : Running σ (List Value)) = ofExcept (membersOf callee v) := by
  unfold spreadValue membersOf
  cases v.elements? <;> rfl

theorem ofExcept_map {α β : Type} (x : Except Fault α) (f : α → β) :
    (ofExcept (x.map f) : Running σ β) = (do return f (← ofExcept x)) := by
  cases x <;> rfl

theorem spliced_cons_spread (e : Expr) (es : List Expr) (members vs : List Value) :
    spliced (.spread e :: es) (.list members :: vs) = members ++ spliced es vs := rfl

theorem spliced_cons {e : Expr} (he : ∀ c, e ≠ .spread c) (es : List Expr) (v : Value) (vs : List Value) :
    spliced (e :: es) (v :: vs) = v :: spliced es vs := by
  rw [spliced]
  exact fun c _ hc _ => he c hc

/-- What is left over makes no difference. -/
theorem spliced_append (es : List Expr) (vs us : List Value) (h : vs.length = es.length) :
    spliced es (vs ++ us) = spliced es vs := by
  induction es generalizing vs with
  | nil =>
    rw [List.length_eq_zero_iff.mp h]
    cases us <;> rfl
  | cons e es ih =>
    cases vs with
    | nil => cases h
    | cons v vs =>
      have hrest := ih vs (Nat.succ.inj h)
      rw [List.cons_append]
      by_cases he : ∃ c, e = .spread c
      · obtain ⟨c, rfl⟩ := he
        by_cases hv : ∃ members, v = .list members
        · obtain ⟨members, rfl⟩ := hv
          rw [spliced_cons_spread, spliced_cons_spread, hrest]
        · have hne : ∀ (e : Expr) (members : List Value), Expr.spread c = .spread e → v = .list members → False :=
            fun _ members _ hm => hv ⟨members, hm⟩
          rw [spliced, spliced, hrest]
          · exact hne
          · exact hne
      · have hne : ∀ c, e ≠ .spread c := fun c hc => he ⟨c, hc⟩
        rw [spliced_cons hne, spliced_cons hne, hrest]

theorem evalArguments_eq (es : List Expr) :
    evalArguments host s es = (do return spliced es (← es.mapM (Expr.eval host s))) := by
  induction es with
  | nil =>
    rw [evalArguments, List.mapM_nil, pure_bind]
    rfl
  | cons e es ih =>
    rw [List.mapM_cons]
    by_cases he : ∃ c, e = .spread c
    · obtain ⟨c, rfl⟩ := he
      rw [evalArguments, ih, Expr.eval]
      simp only [bind_assoc, pure_bind, spliced_cons_spread]
    · have hne : ∀ c, e ≠ .spread c := fun c hc => he ⟨c, hc⟩
      rw [evalArguments, ih]
      · simp only [bind_assoc, pure_bind, spliced_cons hne]
      · exact hne

theorem evalKeywords_eq (ks : List (String × Expr)) :
    evalKeywords host s ks = (do return (ks.map (·.1)).zip (← (ks.map (·.2)).mapM (Expr.eval host s))) := by
  induction ks with
  | nil => rw [evalKeywords, List.map_nil, List.map_nil, List.mapM_nil, pure_bind, List.zip_nil_left]
  | cons k ks ih =>
    rw [evalKeywords, evalKeyword, ih, List.map_cons, List.map_cons, List.mapM_cons]
    simp only [bind_assoc, pure_bind, List.zip_cons_cons]

theorem evalEntries_eq (es : List (Expr × Expr)) :
    evalEntries host s es = (do return paired (← (es.flatMap fun e => [e.1, e.2]).mapM (Expr.eval host s))) := by
  induction es with
  | nil =>
    rw [evalEntries, List.flatMap_nil, List.mapM_nil, pure_bind]
    rfl
  | cons e es ih =>
    rw [evalEntries, evalEntry, ih, List.flatMap_cons, List.cons_append, List.cons_append, List.nil_append,
      List.mapM_cons, List.mapM_cons]
    simp only [bind_assoc, pure_bind, paired]

theorem Expr.eval_call_spread (f e : Expr) (kws : List (String × Expr)) :
    (Expr.call f [.spread e] kws).eval host s = (do
      let vs ← (Expr.call f [.spread e] kws).parts.mapM (Expr.eval host s)
      (Expr.call f [.spread e] kws).step host s vs) := by
  rw [Expr.eval, Expr.parts, placedArguments, List.mapM_cons, List.cons_append, List.nil_append, List.mapM_cons,
    evalKeywords_eq]
  simp only [bind_assoc, pure_bind, step, placedValues, spreadValue_eq, namedValues]
  rfl

theorem Expr.eval_call {args : List Expr} (hargs : ∀ e, args ≠ [.spread e]) (f : Expr) (kws : List (String × Expr)) :
    (Expr.call f args kws).eval host s = (do
      let vs ← (Expr.call f args kws).parts.mapM (Expr.eval host s)
      (Expr.call f args kws).step host s vs) := by
  have hall : placedArguments args = args := by
    unfold placedArguments
    split
    · exact absurd rfl (hargs _)
    · rfl
  rw [Expr.eval, Expr.parts, hall, List.mapM_cons, List.mapM_append, evalArguments_eq, evalKeywords_eq]
  · simp only [bind_assoc, pure_bind]
    refine bind_congr fun callee => bind_congr_of_ok fun w as w' has => bind_congr fun ks => ?_
    have hplaced : placedValues callee args (as ++ ks) = .ok (spliced args as) := by
      rw [placedValues, spliced_append args as ks (length_of_mapM has)]
      exact fun e _ _ h _ => hargs e h
    have hnamed : namedValues args kws (as ++ ks) = (kws.map (·.1)).zip ks := by
      unfold namedValues
      rw [← length_of_mapM has, List.drop_left]
    rw [step, hplaced, hnamed]
    rfl
  · exact hargs

/-- **An expression evaluates its parts, from the first to the last, and then takes its step.** -/
theorem Expr.eval_eq (e : Expr) :
    e.eval host s = (do let vs ← e.parts.mapM (Expr.eval host s); e.step host s vs) := by
  cases e with
  | name n => rw [Expr.eval, parts, List.mapM_nil, pure_bind, step]
  | none | bool b | int n | text t =>
    rw [Expr.eval, parts, List.mapM_nil, pure_bind]
    rfl
  | list es | tuple es =>
    rw [Expr.eval, parts, evalArguments_eq]
    simp only [bind_assoc, pure_bind]
    rfl
  | dict es =>
    rw [Expr.eval, parts, evalEntries_eq]
    simp only [bind_assoc, pure_bind]
    rfl
  | call f args kws =>
    by_cases hspread : ∃ e, args = [.spread e]
    · obtain ⟨e, rfl⟩ := hspread
      exact eval_call_spread host s f e kws
    · exact eval_call host s (fun e he => hspread ⟨e, he⟩) f kws
  | spread e =>
    rw [Expr.eval, parts, List.mapM_cons, List.mapM_nil]
    simp only [bind_assoc, pure_bind, spreadValue_eq, ← ofExcept_map]
    rfl
  | add l r =>
    rw [Expr.eval, parts, List.mapM_cons, List.mapM_cons, List.mapM_nil]
    simp only [bind_assoc, pure_bind]
    rfl
  | member e n =>
    rw [Expr.eval, parts, List.mapM_cons, List.mapM_nil]
    simp only [bind_assoc, pure_bind]
    rfl

end

section
variable {σ : Type}

/-! ## The first interrupt -/

/-- In this scope the first interrupt that occurs while an expression is evaluated. A world is changed by calls only. -/
inductive Expr.Raises (host : Host σ) (s : Scope) : Expr → σ → Interrupt → σ → Prop
  /-- A name that is looked up has no value. -/
  | name {n : String} {fault : NameFault} {w : σ} (h : s.find n = .error fault) : Raises host s (.name n) w (.name fault) w
  /-- What is called raises an error. -/
  | call {f : Expr} {args : List Expr} {kws : List (String × Expr)} {callee : Value} {vs as : List Value} {fault : Fault}
      {w w₁ w₂ : σ} (hparts : (Expr.call f args kws).parts.mapM (Expr.eval host s) w = .ok (callee :: vs) w₁)
      (has : placedValues callee args vs = .ok as)
      (h : callee.call host as (namedValues args kws vs) w₁ = .error fault w₂) :
      Raises host s (.call f args kws) w (.raised fault) w₂
  /-- What a call is to pass on has no members. -/
  | passing {f : Expr} {args : List Expr} {kws : List (String × Expr)} {callee : Value} {vs : List Value} {fault : Fault}
      {w w₁ : σ} (hparts : (Expr.call f args kws).parts.mapM (Expr.eval host s) w = .ok (callee :: vs) w₁)
      (h : placedValues callee args vs = .error fault) : Raises host s (.call f args kws) w (.raised fault) w₁
  /-- The values of the parts do not go together. -/
  | combine {e : Expr} {vs : List Value} {fault : Fault} {w w₁ : σ}
      (hparts : e.parts.mapM (Expr.eval host s) w = .ok vs w₁) (h : e.combine vs = .error fault) :
      Raises host s e w (.raised fault) w₁
  /-- A part is interrupted, and those before it have values. -/
  | part {e k : Expr} {before after : List Expr} {vs : List Value} {i : Interrupt} {w w₁ w₂ : σ}
      (he : e.parts = before ++ k :: after) (hbefore : before.mapM (Expr.eval host s) w = .ok vs w₁)
      (h : Raises host s k w₁ i w₂) : Raises host s e w i w₂

/-- The first interrupt that occurs while statements run. -/
inductive StatementsRaise (host : Host σ) : Scope → List Statement → σ → Interrupt → σ → Prop
  | result {s : Scope} {e : Expr} {rest : List Statement} {i : Interrupt} {w w' : σ} (h : e.Raises host s w i w') :
    StatementsRaise host s (.result (some e) :: rest) w i w'
  | expression {s : Scope} {e : Expr} {rest : List Statement} {i : Interrupt} {w w' : σ} (h : e.Raises host s w i w') :
    StatementsRaise host s (.expression e :: rest) w i w'
  | value {s : Scope} {ts : List Target} {e : Expr} {rest : List Statement} {i : Interrupt} {w w' : σ}
    (h : e.Raises host s w i w') : StatementsRaise host s (.assign ts e :: rest) w i w'
  /-- The targets do not fit the value. -/
  | assign {s : Scope} {ts : List Target} {e : Expr} {rest : List Statement} {v : Value} {fault : Fault} {w w' : σ}
    (he : e.eval host s w = .ok v w') (h : assignAll v s ts = .error fault) :
    StatementsRaise host s (.assign ts e :: rest) w (.raised fault) w'
  | afterPass {s : Scope} {rest : List Statement} {i : Interrupt} {w w' : σ} (h : StatementsRaise host s rest w i w') :
    StatementsRaise host s (.pass :: rest) w i w'
  | afterExpression {s : Scope} {e : Expr} {rest : List Statement} {v : Value} {i : Interrupt} {w w₁ w₂ : σ}
    (he : e.eval host s w = .ok v w₁) (h : StatementsRaise host s rest w₁ i w₂) :
    StatementsRaise host s (.expression e :: rest) w i w₂
  | afterAssign {s s' : Scope} {ts : List Target} {e : Expr} {rest : List Statement} {v : Value} {i : Interrupt}
    {w w₁ w₂ : σ} (he : e.eval host s w = .ok v w₁) (hs : assignAll v s ts = .ok s')
    (h : StatementsRaise host s' rest w₁ i w₂) : StatementsRaise host s (.assign ts e :: rest) w i w₂

/-- The first interrupt that occurs while a function runs. -/
def Code.Raises (c : Code) (host : Host σ) (globals : List (String × Value)) (arguments : List Value) :
    σ → Interrupt → σ → Prop :=
  StatementsRaise host ⟨c.locals, (c.parameters.zip arguments).reverse, globals⟩ c.statements

section
variable {host : Host σ} {s : Scope} {i : Interrupt} {w w' : σ}

theorem ofExcept_eq_error {α : Type} {x : Except Fault α} (h : (ofExcept x : Running σ α) w = .error i w') :
    ∃ fault, x = .error fault ∧ i = .raised fault ∧ w' = w := by
  cases x with
  | ok a => cases h
  | error fault =>
    cases h
    exact ⟨fault, rfl, rfl, rfl⟩

theorem raising_error {α : Type} {x : EStateM Fault σ α} {fault : Fault} (h : x w = .error fault w') :
    raising x w = .error (.raised fault) w' := by
  unfold raising
  rw [h]

theorem raising_eq_error {α : Type} {x : EStateM Fault σ α} (h : raising x w = .error i w') :
    ∃ fault, x w = .error fault w' ∧ i = .raised fault := by
  unfold raising at h
  cases hx : x w with
  | ok a u =>
    rw [hx] at h
    cases h
  | error fault u =>
    rw [hx] at h
    cases h
    exact ⟨fault, rfl, rfl⟩

/-- The step of an expression is interrupted. -/
theorem Expr.Raises.of_step {e : Expr} {vs : List Value} {w₀ : σ} (hparts : e.parts.mapM (Expr.eval host s) w₀ = .ok vs w)
    (h : e.step host s vs w = .error i w') : e.Raises host s w₀ i w' := by
  cases e with
  | name n =>
    cases hparts
    rw [step, lookUp] at h
    cases hn : s.find n with
    | ok v =>
      rw [hn] at h
      cases h
    | error fault =>
      rw [hn] at h
      cases h
      exact .name hn
  | call f args kws =>
    cases vs with
    | nil =>
      have hlen := length_of_mapM hparts
      cases hlen
    | cons callee vs =>
      rw [step] at h
      cases has : placedValues callee args vs with
      | ok as =>
        rw [has] at h
        obtain ⟨fault, hcall, rfl⟩ := raising_eq_error h
        exact .call hparts has hcall
      | error fault =>
        rw [has] at h
        cases h
        exact .passing hparts has
  | _ =>
    rw [step] at h
    · obtain ⟨fault, hx, rfl, rfl⟩ := ofExcept_eq_error h
      exact .combine hparts hx
    all_goals exact nofun

/-- A part is smaller than the expression. -/
theorem Expr.sizeOf_lt_of_mem_parts {k e : Expr} (h : k ∈ e.parts) : sizeOf k < sizeOf e := by
  cases e with
  | name n => cases h
  | none => cases h
  | bool b => cases h
  | int n => cases h
  | text t => cases h
  | list es | tuple es =>
    have hk : sizeOf k < sizeOf es := List.sizeOf_lt_of_mem h
    simp only [list.sizeOf_spec, tuple.sizeOf_spec]
    omega
  | dict es =>
    obtain ⟨⟨a, b⟩, hab, hk⟩ := List.mem_flatMap.mp h
    have hlt := List.sizeOf_lt_of_mem hab
    rw [Prod.mk.sizeOf_spec] at hlt
    rw [dict.sizeOf_spec]
    rcases List.mem_cons.mp hk with rfl | hk
    · omega
    · rw [List.mem_singleton.mp hk]
      dsimp only
      omega
  | call f args kws =>
    rw [call.sizeOf_spec]
    rcases List.mem_cons.mp h with rfl | h
    · omega
    rcases List.mem_append.mp h with h | h
    · unfold placedArguments at h
      split at h
      · rw [List.mem_singleton.mp h]
        simp only [List.cons.sizeOf_spec, spread.sizeOf_spec]
        omega
      · have hk := List.sizeOf_lt_of_mem h
        omega
    · obtain ⟨⟨n, e⟩, hne, rfl⟩ := List.mem_map.mp h
      have hlt := List.sizeOf_lt_of_mem hne
      rw [Prod.mk.sizeOf_spec] at hlt
      dsimp only
      omega
  | spread e | member e n =>
    rw [List.mem_singleton.mp h]
    simp only [spread.sizeOf_spec, member.sizeOf_spec]
    omega
  | add l r =>
    rw [add.sizeOf_spec]
    rcases List.mem_cons.mp h with rfl | h
    · omega
    · rw [List.mem_singleton.mp h]
      omega

/-- **The evaluation of an expression stops with the first interrupt that occurs, and with nothing else.** -/
theorem Expr.raises_iff {e : Expr} : e.Raises host s w i w' ↔ e.eval host s w = .error i w' := by
  constructor
  · intro h
    induction h with
    | name h =>
      rw [Expr.eval, lookUp, h]
      rfl
    | call hparts has h =>
      rw [Expr.eval_eq, bind_ok hparts, step, has]
      exact raising_error h
    | passing hparts h =>
      rw [Expr.eval_eq, bind_ok hparts, step, h]
      rfl
    | @combine e vs fault w w₁ hparts h =>
      rw [Expr.eval_eq, bind_ok hparts, step, h]
      · rfl
      · rintro n rfl
        cases h
      · rintro f args kws _ _ rfl
        cases h
    | part he hbefore _ ih =>
      rw [Expr.eval_eq]
      exact bind_error (mapM_error_iff.mpr ⟨_, _, _, _, _, he, hbefore, ih⟩)
  · intro h
    induction hsize : sizeOf e using Nat.strongRecOn generalizing e w with
    | ind size ih =>
      subst hsize
      rw [Expr.eval_eq] at h
      cases hparts : e.parts.mapM (Expr.eval host s) w with
      | ok vs w₁ =>
        rw [bind_ok hparts] at h
        exact .of_step hparts h
      | error i' w₁ =>
        rw [bind_error hparts] at h
        cases h
        obtain ⟨before, k, after, vs, u, he, hbefore, hk⟩ := mapM_error_iff.mp hparts
        have hmem : k ∈ e.parts := he ▸ List.mem_append_right _ List.mem_cons_self
        exact .part he hbefore (ih _ (sizeOf_lt_of_mem_parts hmem) hk rfl)

/-- Statements stop with the first interrupt that occurs, and with nothing else. -/
theorem statementsRaise_iff {sts : List Statement} :
    StatementsRaise host s sts w i w' ↔ runStatements host s sts w = .error i w' := by
  constructor
  · intro h
    induction h with
    | result h => exact Expr.raises_iff.mp h
    | expression h => exact bind_error (Expr.raises_iff.mp h)
    | value h => exact bind_error (Expr.raises_iff.mp h)
    | assign he h =>
      rw [runStatements, bind_ok he, h]
      rfl
    | afterPass _ ih => exact ih
    | afterExpression he _ ih => exact (bind_ok he).trans ih
    | afterAssign he hs _ ih =>
      rw [runStatements, bind_ok he, hs]
      exact ih
  · intro h
    induction sts generalizing s w with
    | nil => cases h
    | cons st sts ih =>
      cases st with
      | pass => exact .afterPass (ih h)
      | result value =>
        cases value with
        | none => cases h
        | some e => exact .result (Expr.raises_iff.mpr h)
      | expression e =>
        rw [runStatements] at h
        cases he : e.eval host s w with
        | ok v u =>
          rw [bind_ok he] at h
          exact .afterExpression he (ih h)
        | error i' u =>
          rw [bind_error he] at h
          cases h
          exact .expression (Expr.raises_iff.mpr he)
      | assign ts e =>
        rw [runStatements] at h
        cases he : e.eval host s w with
        | ok v u =>
          rw [bind_ok he] at h
          cases hs : assignAll v s ts with
          | ok s' =>
            rw [hs] at h
            exact .afterAssign he hs (ih h)
          | error fault =>
            rw [hs] at h
            cases h
            exact .assign he hs
        | error i' u =>
          rw [bind_error he] at h
          cases h
          exact .value (Expr.raises_iff.mpr he)

/-- **A function stops with the first interrupt that occurs while it runs, and with nothing else.** -/
theorem Code.raises_iff {c : Code} {globals : List (String × Value)} {arguments : List Value} :
    c.Raises host globals arguments w i w' ↔ c.run host globals arguments w = .error i w' := statementsRaise_iff

end

end

end PegTemplate
