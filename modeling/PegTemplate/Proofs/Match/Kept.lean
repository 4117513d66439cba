import PegTemplate.Proofs.Match.Parts
import PegTemplate.Proofs.Match.Step

/-!
# What the steps of matching keep

* `KeptBySteps` : properties of computations that are kept where computations are put together;
* `Node.eval_kept`, `Rule.evalWith_kept` : the evaluations of expressions and of the bodies of rules have such a
  property, if the applications of rules and the actions inside them have it;
* `HaltsBy`, `haltsBy_kept` : the reasons for which a computation stops;
* `State.Alike`, `Blind`, `blind_kept` : computations that do not look at the world of the actions, and that note
  failures again after they have stopped inside of `silently`.
-/

namespace PegTemplate

section
variable {σ ε α β : Type}

/-- Computations with the property are put together to such computations. What follows a step needs the property
only for what the step can come to. -/
structure KeptBySteps (P : (α : Type) → Run σ ε α → Prop) : Prop where
  pure : ∀ {α : Type} (a : α), P α (Pure.pure a)
  bind : ∀ {α β : Type} {x : Run σ ε α} {f : α → Run σ ε β}, P α x → (∀ s a t, x s = .ok a t → P β (f a)) →
    P β (x >>= f)
  silently : ∀ {α : Type} {x : Run σ ε α}, P α x → P α (silently x)
  record : ∀ p d, P Unit (record p d)
  exhausted : ∀ α : Type, P α (throw .exhausted)

namespace KeptBySteps
variable {P : (α : Type) → Run σ ε α → Prop} (hP : KeptBySteps P)
include hP

theorem failAt (p : Nat) (d : String) : P Result (failAt p d) := hP.bind (hP.record p d) fun _ _ _ _ => hP.pure _

/-- A computation that goes on without a further step. -/
theorem map {x : Run σ ε α} {f : α → Run σ ε β} {g : α → β} (hx : P α x) (hf : ∀ a, f a = Pure.pure (g a)) :
    P β (x >>= f) := hP.bind hx fun _ a _ _ => hf a ▸ hP.pure (g a)

theorem starFrom {step : Nat → Run σ ε Result} (hstep : ∀ p, P Result (step p)) (turns : Nat) :
    ∀ p, P Result (starFrom step turns p) := by
  induction turns with
  | zero => exact fun p => hP.bind (hP.exhausted _) fun _ _ _ h => nomatch h
  | succ turns ih =>
    intro p
    rw [starFrom_succ]
    refine hP.bind (hstep p) fun _ r _ _ => ?_
    cases r with
    | failed => exact hP.pure _
    | matched stop v =>
      dsimp only
      split_ifs
      · exact hP.pure _
      · exact hP.map (ih stop) fun _ => rfl

section
variable {m : Matcher σ ε} {limit : Nat} {call : String → Nat → Run σ ε Result} {ns : List Node}
  (hns : ∀ n ∈ ns, ∀ p, P Result (n.eval m limit call p))
include hns

theorem evalAll (p : Nat) : P (Option (Nat × List Value)) (evalAll m limit call ns p) := by
  induction ns generalizing p with
  | nil => exact hP.pure _
  | cons n ns ih =>
    rw [PegTemplate.evalAll]
    refine hP.bind (hns n List.mem_cons_self p) fun _ r _ _ => ?_
    cases r with
    | failed => exact hP.pure _
    | matched stop v =>
      exact hP.bind (ih (fun k hk => hns k (List.mem_cons_of_mem n hk)) stop) fun _ q _ _ => by
        cases q <;> exact hP.pure _

theorem evalFirst (p : Nat) : P Result (evalFirst m limit call ns p) := by
  induction ns with
  | nil => exact hP.pure _
  | cons n ns ih =>
    rw [PegTemplate.evalFirst]
    refine hP.bind (hns n List.mem_cons_self p) fun _ r _ _ => ?_
    cases r with
    | failed => exact ih fun k hk => hns k (List.mem_cons_of_mem n hk)
    | matched stop v => exact hP.pure _

end

end KeptBySteps

/-! ## Expressions -/

section
variable {P : (α : Type) → Run σ ε α → Prop} (hP : KeptBySteps P) {m : Matcher σ ε} {limit : Nat}
  {call : String → Nat → Run σ ε Result}
include hP

/-- **The evaluation of an expression has a property that the steps keep**, if the applications of the rules that it
refers to have it, and its actions on as many values as they have labels. -/
theorem Node.eval_kept (n : Node) (hcall : ∀ r, Part (.ref r) n → ∀ p, P Result (call r p))
    (hact : ∀ k b, Part (.action k b) n → ∀ i j ls, ls.length = k.itemLabels.length → P Value (m.act b i j ls)) :
    ∀ p, P Result (n.eval m limit call p) := by
  induction n using Node.induction with
  | literal t i =>
    intro p
    simp only [Node.eval]
    split_ifs
    · exact hP.pure _
    · exact hP.failAt p _
  | charClass c =>
    intro p
    simp only [Node.eval]
    split
    · split_ifs
      · exact hP.pure _
      · exact hP.failAt p _
    · exact hP.failAt p _
  | any =>
    intro p
    simp only [Node.eval]
    split
    · exact hP.pure _
    · exact hP.failAt p _
  | ref r =>
    intro p
    simp only [Node.eval]
    exact hcall r .self p
  | followedBy n ih | notFollowedBy n ih =>
    intro p
    simp only [Node.eval]
    have hn := ih (fun r h => hcall r (.child List.mem_cons_self h))
      (fun k b h => hact k b (.child List.mem_cons_self h)) p
    exact hP.bind (hP.silently hn) fun _ r _ _ => by cases r <;> exact hP.pure _
  | text n ih =>
    intro p
    simp only [Node.eval]
    have hn := ih (fun r h => hcall r (.child List.mem_cons_self h))
      (fun k b h => hact k b (.child List.mem_cons_self h)) p
    exact hP.bind hn fun _ r _ _ => by cases r <;> exact hP.pure _
  | labeled l n ih =>
    intro p
    simp only [Node.eval]
    exact ih (fun r h => hcall r (.child List.mem_cons_self h)) (fun k b h => hact k b (.child List.mem_cons_self h)) p
  | repeated kind n ih =>
    intro p
    have hn := ih (fun r h => hcall r (.child List.mem_cons_self h))
      fun k b h => hact k b (.child List.mem_cons_self h)
    cases kind with
    | optional =>
      simp only [Node.eval]
      exact hP.bind (hn p) fun _ r _ _ => by cases r <;> exact hP.pure _
    | star =>
      rw [Node.eval_star]
      exact hP.starFrom hn _ p
    | plus =>
      rw [Node.eval_plus, Node.eval_star]
      exact hP.map (hP.starFrom hn _ p) fun _ => rfl
  | sequence ns ih =>
    intro p
    rw [Node.eval_sequence]
    exact hP.map (hP.evalAll (fun n hn => ih n hn (fun r h => hcall r (.child hn h))
      fun k b h => hact k b (.child hn h)) p) fun _ => rfl
  | choice ns ih =>
    intro p
    simp only [Node.eval]
    exact hP.evalFirst (fun n hn => ih n hn (fun r h => hcall r (.child hn h)) fun k b h => hact k b (.child hn h)) p
  | action n b _ ih =>
    intro p
    rw [Node.eval_action]
    have hitems := hP.evalAll (fun i hi => ih i hi (fun r h => hcall r (Part.of_items hi h))
      fun k b h => hact k b (Part.of_items hi h)) p
    refine hP.bind hitems fun s q t hq => ?_
    cases q with
    | none => exact hP.pure _
    | some q =>
      have hlen := length_labelValues (length_evalAll m limit call hq)
      exact hP.map (hact n b .self p q.1 _ hlen) fun _ => rfl

theorem Rule.evalWith_kept {r : Rule} {eval : Node → Nat → Run σ ε Result} {p : Nat} (h : P Result (eval r.body p)) :
    P Result (r.evalWith eval p) := by
  unfold Rule.evalWith
  cases r.display with
  | none => exact h
  | some d =>
    refine hP.bind (hP.silently h) fun _ q _ _ => ?_
    cases q with
    | failed => exact hP.failAt p d
    | matched stop v => exact hP.pure _

end

/-- An application that is not known begins, and its result is put in its place when the body is done. -/
theorem Matcher.apply_entered {m : Matcher σ ε} {limit depth : Nat} {name : String} {pos : Nat} {s : State σ}
    {rule : Rule} (h : s.memo.find? name pos = none) (hr : m.grammar.rule? name = some rule) :
    m.apply limit (depth + 1) name pos s = (do
      let r ← rule.evalWith (Node.eval m limit (m.apply limit depth)) pos
      modify (m.settled name pos r)
      return r : Run σ ε Result) (s.entered name pos) := by
  rw [Matcher.apply, bind_get, h]
  dsimp only
  rw [bind_modify, hr]
  rfl

/-! ## Reasons to stop -/

/-- A computation stops for these reasons only. -/
def HaltsBy (Q : Halt ε → Prop) (α : Type) (x : Run σ ε α) : Prop := ∀ s e t, x s = .error e t → Q e

theorem haltsBy_kept {Q : Halt ε → Prop} (hQ : Q .exhausted) : KeptBySteps (σ := σ) (HaltsBy Q) where
  pure _ _ _ _ h := nomatch h
  bind {α β x f} hx hf s e t h := by
    cases hxs : x s with
    | ok a u =>
      rw [bind_ok hxs] at h
      exact hf s a u hxs u e t h
    | error e' u =>
      rw [bind_error hxs] at h
      cases h
      exact hx _ _ _ hxs
  silently {α x} hx s e t h := by
    cases hxs : x s.hush with
    | ok a u =>
      rw [silently_ok hxs] at h
      cases h
    | error e' u =>
      rw [silently_error hxs] at h
      cases h
      exact hx _ _ _ hxs
  record _ _ _ _ _ h := nomatch h
  exhausted _ _ _ _ h := by
    cases h
    exact hQ

/-- Applications stop for these reasons only, if the actions in the rules of a closed grammar do. -/
theorem Matcher.apply_haltsBy {m : Matcher σ ε} {Q : Halt ε → Prop} (hQ : Q .exhausted)
    (hrefs : ∀ name r, m.grammar.rule? name = some r → ∀ k, Node.Part (.ref k) r.body → (m.grammar.rule? k).isSome)
    (hact : ∀ name r, m.grammar.rule? name = some r → ∀ k b, Node.Part (.action k b) r.body → ∀ i j ls,
      ls.length = k.itemLabels.length → HaltsBy Q Value (m.act b i j ls)) (limit depth : Nat) :
    ∀ name, (m.grammar.rule? name).isSome → ∀ pos, HaltsBy Q Result (m.apply limit depth name pos) := by
  induction depth with
  | zero =>
    intro name _ pos s e t h
    cases h
    exact hQ
  | succ depth ih =>
    intro name hname pos s e t h
    obtain ⟨r, hr⟩ := Option.isSome_iff_exists.1 hname
    cases hf : s.memo.find? name pos with
    | some known =>
      cases known with
      | begun =>
        rw [apply_begun hf] at h
        cases h
      | done q =>
        rw [apply_done hf] at h
        cases h
    | none =>
      rw [apply_entered hf hr] at h
      have heval : HaltsBy Q Result (r.body.eval m limit (m.apply limit depth) pos) :=
        Node.eval_kept (haltsBy_kept hQ) r.body (fun k hk => ih k (hrefs name r hr k hk)) (hact name r hr) pos
      refine (haltsBy_kept hQ).bind (Rule.evalWith_kept (haltsBy_kept hQ) heval) (fun _ q _ _ s' e' t' h' => ?_) _ _ _ h
      cases h'

/-! ## What the world does not change -/

/-- The states differ at most in the world of the actions. -/
def State.Alike (s t : State σ) : Prop := ∃ w, t = { s with world := w }

/-- A computation comes to the same in states that are alike, and leaves them alike and as silent as they were. -/
def Blind (α : Type) (x : Run σ ε α) : Prop := ∀ s t : State σ, s.Alike t → answer (x s) = answer (x t) ∧
  (endState (x s)).Alike (endState (x t)) ∧ (endState (x s)).silence = s.silence

theorem State.Alike.note {s t : State σ} (h : s.Alike t) (p : Nat) (d : String) : (s.note p d).Alike (t.note p d) := by
  obtain ⟨w, rfl⟩ := h
  refine ⟨w, ?_⟩
  unfold State.note
  split_ifs <;> rfl

theorem blind_kept : KeptBySteps (σ := σ) (ε := ε) Blind where
  pure _ _ _ h := ⟨rfl, h, rfl⟩
  bind {α β x f} hx hf s t h := by
    obtain ⟨ha, hend, hsilence⟩ := hx s t h
    cases hs : x s with
    | ok a s' =>
      cases ht : x t with
      | ok b t' =>
        rw [hs, ht] at ha hend
        rw [hs] at hsilence
        obtain rfl : a = b := Except.ok.inj ha
        obtain ⟨ha', hend', hsilence'⟩ := hf s a s' hs s' t' hend
        rw [bind_ok hs, bind_ok ht]
        exact ⟨ha', hend', hsilence'.trans hsilence⟩
      | error e t' =>
        rw [hs, ht] at ha
        cases ha
    | error e s' =>
      cases ht : x t with
      | ok b t' =>
        rw [hs, ht] at ha
        cases ha
      | error e' t' =>
        rw [hs, ht] at ha hend
        rw [hs] at hsilence
        obtain rfl : e = e' := Except.error.inj ha
        rw [bind_error hs, bind_error ht]
        exact ⟨rfl, hend, hsilence⟩
  silently {α x} hx s t h := by
    obtain ⟨w, rfl⟩ := h
    obtain ⟨ha, ⟨w', hend⟩, hsilence⟩ := hx s.hush _ ⟨w, rfl⟩
    have hout : ∀ s : State σ, answer (silently x s) = answer (x s.hush) ∧
        endState (silently x s) = (endState (x s.hush)).unhush := by
      intro s
      cases hs : x s.hush with
      | ok a s' => rw [silently_ok hs]; exact ⟨rfl, rfl⟩
      | error e s' => rw [silently_error hs]; exact ⟨rfl, rfl⟩
    rw [(hout s).1, (hout s).2, (hout _).1, (hout _).2]
    refine ⟨ha, ⟨w', ?_⟩, ?_⟩
    · exact congrArg State.unhush hend
    · exact congrArg (· - 1) hsilence
  record p d s t h := ⟨rfl, h.note p d, s.silence_note p d⟩
  exhausted _ _ _ h := ⟨rfl, h, rfl⟩

theorem Matcher.Pure.act_blind {m : Matcher σ ε} (hm : m.Pure) (b : Block) (i j : Nat) (ls : List Value) :
    Blind Value (m.act b i j ls) := by
  intro s t h
  obtain ⟨w, rfl⟩ := h
  obtain ⟨a, ha⟩ := hm.acts b i j ls
  obtain ⟨u, hu⟩ := ha.run s
  obtain ⟨v, hv⟩ := ha.run { s with world := w }
  rw [hu, hv, answer_outcome, answer_outcome, endState_outcome, endState_outcome]
  exact ⟨rfl, ⟨v, rfl⟩, rfl⟩

/-- **What an application comes to and remembers does not hang on the world**, if the actions are pure. -/
theorem Matcher.Pure.apply_blind {m : Matcher σ ε} (hm : m.Pure) (limit depth : Nat) :
    ∀ name pos, Blind Result (m.apply limit depth name pos) := by
  induction depth with
  | zero => exact fun _ _ _ _ h => ⟨rfl, h, rfl⟩
  | succ depth ih =>
    intro name pos s t h
    have hmemo : t.memo = s.memo := by
      obtain ⟨w, rfl⟩ := h
      rfl
    cases hf : s.memo.find? name pos with
    | some known =>
      cases known with
      | begun =>
        rw [apply_begun hf, apply_begun (hmemo ▸ hf)]
        exact ⟨rfl, h, rfl⟩
      | done r =>
        rw [apply_done hf, apply_done (hmemo ▸ hf)]
        exact ⟨rfl, h, rfl⟩
    | none =>
      have henter : (s.entered name pos).Alike (t.entered name pos) := by
        obtain ⟨w, rfl⟩ := h
        exact ⟨w, rfl⟩
      cases hr : m.grammar.rule? name with
      | none =>
        rw [apply_undefined hf hr, apply_undefined (hmemo ▸ hf) hr]
        exact ⟨rfl, henter, rfl⟩
      | some rule =>
        rw [apply_entered hf hr, apply_entered (hmemo ▸ hf) hr]
        have heval : Blind Result (rule.body.eval m limit (m.apply limit depth) pos) :=
          Node.eval_kept blind_kept rule.body (fun r _ => ih r) (fun _ b _ i j ls _ => hm.act_blind b i j ls) pos
        have hbody := Rule.evalWith_kept blind_kept heval
        refine blind_kept.bind hbody (fun _ r _ _ s t h => ⟨rfl, ?_, rfl⟩) _ _ henter
        obtain ⟨w, rfl⟩ := h
        exact ⟨w, rfl⟩

end

end PegTemplate
