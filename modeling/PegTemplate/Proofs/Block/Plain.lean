import Mathlib.Tactic.SplitIfs
import PegTemplate.Proofs.Block.Raised

/-!
# Faults that code makes itself

* `Fault.isPlain` : the fault is none of the host's own, and is not about the names of a block;
* `Plain` : a computation without effects has no other faults. So it is with all calls of values that are no actions of the
  host, all operators and all assignments;
* `Code.Raises.plain_or_host` : **what is raised while code runs is a plain fault, or has been raised by an action of the
  host.**
-/

namespace PegTemplate

/-- The fault is none of the host's own, and is not about the names of a block. -/
def Fault.isPlain : Fault → Bool
  | .foreign .. | .binding .. | .unresolved .. | .forwarded .. => false
  | _ => true

/-- A computation without effects that has plain faults only. -/
def Plain {α : Type} (x : Except Fault α) : Prop := ∀ f, x = .error f → f.isPlain = true

section
variable {α β : Type}

theorem Plain.ok (a : α) : Plain (.ok a) := nofun

theorem Plain.error {f : Fault} (h : f.isPlain = true) : Plain (.error f : Except Fault α) := by
  intro g hg
  cases hg
  exact h

theorem Plain.bind {x : Except Fault α} {f : α → Except Fault β} (hx : Plain x) (hf : ∀ a, Plain (f a)) :
    Plain (x >>= f) := by
  intro g hg
  cases x with
  | ok a => exact hf a g hg
  | error e =>
    cases hg
    exact hx _ rfl

theorem Plain.map {x : Except Fault α} (h : Plain x) (f : α → β) : Plain (x.map f) := h.bind fun a => .ok (f a)

end

/-! ## Operators -/

theorem membersOf_plain (callee : Option String) (v : Value) : Plain (membersOf callee v) := by
  unfold membersOf
  split
  · exact .ok _
  · exact .error rfl

theorem placedValues_plain (callee : Value) (args : List Expr) (vs : List Value) : Plain (placedValues callee args vs) := by
  unfold placedValues
  split
  · exact membersOf_plain _ _
  · exact .ok _

namespace Value

theorem asKey_plain (v : Value) : Plain v.asKey := by
  unfold asKey
  split
  · exact .error rfl
  · exact .ok _

theorem add_plain (a b : Value) : Plain (a.add b) := by
  unfold add
  split
  · exact .ok _
  · exact .ok _
  · exact .ok _
  · exact .error rfl
  · exact .error rfl
  · exact .error rfl
  · split
    · exact .ok _
    · exact .error rfl

theorem member_plain (v : Value) (n : String) : Plain (v.member n) := by
  unfold member
  split
  · exact .ok _
  · exact .error rfl

theorem addAll_plain (vs : List Value) : ∀ acc, Plain (addAll acc vs) := by
  induction vs with
  | nil => exact fun acc => .ok acc
  | cons v vs ih =>
    intro acc
    rw [addAll]
    split
    · exact ih _
    · rename_i e he
      exact .error (add_plain acc v e he)

theorem sum_plain (v start : Value) : Plain (v.sum start) := by
  unfold sum elements
  split
  · rename_i e he
    split at he
    · cases he
    · cases he
      exact .error rfl
  · exact .error rfl
  · exact addAll_plain _ _

theorem toInteger_plain (v : Value) : Plain v.toInteger := by
  unfold toInteger
  split
  · exact .ok _
  · exact .ok _
  · exact .ok _
  · split
    · exact .ok _
    · exact .error rfl
  · exact .error rfl

theorem length_plain (v : Value) : Plain v.length := by
  unfold length
  split
  · exact .ok _
  · exact .error rfl

end Value

theorem dictOf_plain (entries : List (Value × Value)) : Plain (dictOf entries) := by
  have hkeys : ∀ es : List (Value × Value),
      Plain (es.mapM fun e : Value × Value => e.1.asKey.map fun k => (k, e.2)) := by
    intro es
    induction es with
    | nil => exact .ok _
    | cons e es ih =>
      rw [List.mapM_cons]
      exact ((Value.asKey_plain e.1).map _).bind fun k => ih.bind fun ks => .ok _
  exact (hkeys entries).map _

theorem Expr.combine_plain (e : Expr) (vs : List Value) : Plain (e.combine vs) := by
  unfold combine
  split
  · exact .ok _
  · exact .ok _
  · exact .ok _
  · exact .ok _
  · exact .ok _
  · exact dictOf_plain _
  · exact (membersOf_plain _ _).map _
  · exact Value.add_plain _ _
  · exact Value.member_plain _ _
  · exact .ok _

/-! ## Calls -/

theorem callNullary_plain (name : String) (result : Value) (args : List Value) (kws : List (String × Value)) :
    Plain (callNullary name result args kws) := by
  unfold callNullary
  split
  · exact .ok _
  · exact .error rfl
  · exact .error rfl

theorem callUnary_plain (name : String) {f : Value → Except Fault Value} (hf : ∀ v, Plain (f v)) (args : List Value)
    (kws : List (String × Value)) : Plain (callUnary name f args kws) := by
  unfold callUnary
  split
  · exact .error rfl
  · exact hf _
  · exact .error rfl

theorem callInt_plain (args : List Value) (kws : List (String × Value)) : Plain (callInt args kws) := by
  unfold callInt
  split
  · exact .error rfl
  · exact .ok _
  · exact (Value.toInteger_plain _).map _
  · exact .error rfl

theorem callStr_plain (args : List Value) (kws : List (String × Value)) : Plain (callStr args kws) := by
  unfold callStr
  split
  · exact .ok _
  · exact .ok _
  · exact .ok _
  · split
    · exact .error rfl
    · exact .error rfl

theorem callSum_plain (args : List Value) (kws : List (String × Value)) : Plain (callSum args kws) := by
  unfold callSum
  split
  · exact Value.sum_plain _ _
  · exact Value.sum_plain _ _
  · exact Value.sum_plain _ _
  · exact .error rfl
  · dsimp only
    split_ifs
    · exact .error rfl
    · split
      · exact .error rfl
      · exact .error rfl

theorem callOpen_plain (args : List Value) (kws : List (String × Value)) : Plain (callOpen args kws) := by
  unfold callOpen
  split
  · exact .error rfl
  · exact .error rfl
  · exact .error rfl
  · exact .error rfl
  · exact .error rfl

theorem optionsView_plain (v : Value) : Plain (optionsView v) := by
  unfold optionsView
  split
  · exact .ok _
  · exact .ok _
  · exact .error rfl

theorem callContext_plain (args : List Value) (kws : List (String × Value)) : Plain (callContext args kws) := by
  unfold callContext
  dsimp only
  split
  · exact .error rfl
  · exact .error rfl
  · split
    · exact .error rfl
    · split
      · exact (optionsView_plain _).map _
      · exact .error rfl

theorem callGetter_plain (entries : List (Value × Value)) (args : List Value) (kws : List (String × Value)) :
    Plain (callGetter entries args kws) := by
  unfold callGetter
  dsimp only
  split
  · exact .error rfl
  · exact (Value.asKey_plain _).map _
  · exact (Value.asKey_plain _).map _
  · exact .error rfl
  · exact .error rfl

theorem Value.callPlain_plain (f : Value) (args : List Value) (kws : List (String × Value)) :
    Plain (f.callPlain args kws) := by
  unfold callPlain
  split
  · exact callNullary_plain _ _ args kws
  · exact callNullary_plain _ _ args kws
  · exact callInt_plain args kws
  · exact callStr_plain args kws
  · exact callUnary_plain _ (fun v => ((length_plain v).bind fun n => .ok _).map _) args kws
  · exact callUnary_plain _ (fun v => .ok _) args kws
  · exact callSum_plain args kws
  · exact callOpen_plain args kws
  · exact callContext_plain args kws
  · exact .error rfl
  · exact callGetter_plain _ args kws
  · exact .error rfl

section
variable {σ : Type} {host : Host σ}

/-- A call raises what the action of the host raises that it calls, or a plain fault. -/
theorem Value.call_plain_or_host {f : Value} {args : List Value} {kws : List (String × Value)} {w w' : σ} {fault : Fault}
    (h : f.call host args kws w = .error fault w') :
    fault.isPlain = true ∨ ∃ id, host.run id args kws w = .error fault w' := by
  have hlift : ∀ x : Except Fault Value, Plain x → lift x w = .error fault w' → fault.isPlain = true := by
    intro x hx hw
    cases x with
    | ok v => cases hw
    | error e =>
      cases hw
      exact hx _ rfl
  unfold call at h
  split at h
  · exact .inr ⟨_, h⟩
  · exact .inl (hlift _ (callPlain_plain _ args kws) h)

/-! ## Code -/

/-- An action of the host raises a fault. -/
def Host.Raises (host : Host σ) (f : Fault) : Prop := ∃ id args kws w w', host.run id args kws w = .error f w'

theorem Expr.Raises.plain_or_host {s : Scope} {e : Expr} {w w' : σ} {i : Interrupt} {f : Fault}
    (h : e.Raises host s w i w') (hi : i = .raised f) : f.isPlain = true ∨ host.Raises f := by
  induction h with
  | name h => cases hi
  | call hparts has h =>
    cases hi
    exact (Value.call_plain_or_host h).imp_right fun ⟨id, h⟩ => ⟨id, _, _, _, _, h⟩
  | passing hparts h =>
    cases hi
    exact .inl (placedValues_plain _ _ _ _ h)
  | combine hparts h =>
    cases hi
    exact .inl (combine_plain _ _ _ h)
  | part he hbefore h ih => exact ih hi

end

mutual

theorem Target.assign_plain (v : Value) : ∀ (t : Target) (s : Scope), Plain (t.assign s v)
  | .name n, s => by
    rw [Target.assign]
    exact .ok _
  | .many ts, s => by
    rw [Target.assign]
    split
    · exact .error rfl
    · split_ifs
      · exact .error rfl
      · exact .error rfl
      · exact assignEach_plain ts s _

theorem assignEach_plain : ∀ (ts : List Target) (s : Scope) (vs : List Value), Plain (assignEach s vs ts)
  | [], s, vs => by
    rw [assignEach]
    · exact .ok _
    · exact fun _ _ _ _ _ ht => nomatch ht
  | t :: ts, s, [] => by
    rw [assignEach]
    · exact .ok _
    · exact nofun
  | t :: ts, s, v :: vs => by
    rw [assignEach]
    split
    · exact assignEach_plain ts _ vs
    · rename_i e he
      exact .error (Target.assign_plain v t s e he)

end

theorem assignAll_plain (v : Value) (ts : List Target) : ∀ s, Plain (assignAll v s ts) := by
  induction ts with
  | nil => exact fun s => .ok s
  | cons t ts ih =>
    intro s
    rw [assignAll]
    split
    · exact ih _
    · rename_i e he
      exact .error (Target.assign_plain v t s e he)

section
variable {σ : Type} {host : Host σ}

theorem StatementsRaise.plain_or_host {s : Scope} {sts : List Statement} {w w' : σ} {i : Interrupt} {f : Fault}
    (h : StatementsRaise host s sts w i w') (hi : i = .raised f) : f.isPlain = true ∨ host.Raises f := by
  induction h with
  | result h | expression h | value h => exact h.plain_or_host hi
  | assign he h =>
    cases hi
    exact .inl (assignAll_plain _ _ _ _ h)
  | afterPass _ ih | afterExpression _ _ ih | afterAssign _ _ _ ih => exact ih hi

/-- **What is raised while code runs is a plain fault, or has been raised by an action of the host.** -/
theorem Code.Raises.plain_or_host {c : Code} {globals : List (String × Value)} {arguments : List Value} {w w' : σ}
    {f : Fault} (h : c.Raises host globals arguments w (.raised f) w') : f.isPlain = true ∨ host.Raises f :=
  StatementsRaise.plain_or_host h rfl

end

end PegTemplate
