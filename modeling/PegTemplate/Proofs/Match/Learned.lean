import PegTemplate.Proofs.Match.Conformance

/-!
# What a run learns

* `Matcher.Learns` : as long as the log is clean, what is remembered is derived, also where a run stops, and so is the
  result of one that returns;
* `Node.eval_learns`, `Matcher.applyTraced_learns` : so it is for expressions, and for applications in any grammar;
* `Matcher.parse_known` : **what a parse has remembered is derived, if it met no application in progress.**
-/

namespace PegTemplate

section
variable {σ ε α β : Type}

/-- A run adds to the log; and as long as the log is clean, what is remembered is derived, whatever the run comes to, and
a value that it returns has a property. -/
def Matcher.Learns (m : Matcher σ ε) (x : Run (Traced σ) ε α) (D : α → Prop) : Prop :=
  ∀ s, (Clean s.log → m.Known s.memo) → s.log <:+ (endState (x s)).log ∧
    (Clean (endState (x s)).log → m.Known (endState (x s)).memo ∧ ∀ v, answer (x s) = .ok v → D v)

namespace Matcher.Learns
variable {m : Matcher σ ε} {x : Run (Traced σ) ε α} {D : α → Prop} {D' : β → Prop}

theorem mono {E : α → Prop} (h : m.Learns x D) (hD : ∀ v, D v → E v) : m.Learns x E := by
  intro s hs
  obtain ⟨hl, hk⟩ := h s hs
  exact ⟨hl, fun hc => ⟨(hk hc).1, fun v hv => hD v ((hk hc).2 v hv)⟩⟩

theorem pure {v : α} (h : D v) : m.Learns (Pure.pure v) D := by
  refine fun s hs => ⟨List.suffix_rfl, fun hc => ⟨hs hc, fun w hw => ?_⟩⟩
  cases hw
  exact h

theorem throw (e : Halt ε) : m.Learns (MonadExcept.throw e) D :=
  fun _ hs => ⟨List.suffix_rfl, fun hc => ⟨hs hc, nofun⟩⟩

theorem bind {f : α → Run (Traced σ) ε β} (hx : m.Learns x D) (hf : ∀ v, m.Learns (f v) fun w => D v → D' w) :
    m.Learns (x >>= f) D' := by
  intro s hs
  obtain ⟨hl, hk⟩ := hx s hs
  cases hxs : x s with
  | error e t =>
    rw [hxs] at hl hk
    rw [bind_error hxs]
    exact ⟨hl, fun hc => ⟨(hk hc).1, nofun⟩⟩
  | ok v t =>
    rw [hxs] at hl hk
    rw [bind_ok hxs]
    obtain ⟨hl', hk'⟩ := hf v t fun hc => (hk hc).1
    refine ⟨hl.trans hl', fun hc => ⟨(hk' hc).1, fun w hw => ?_⟩⟩
    exact (hk' hc).2 w hw ((hk (hc.of_suffix hl')).2 v rfl)

theorem map {f : α → Run (Traced σ) ε β} {g : α → β} (hx : m.Learns x D) (hf : ∀ v, f v = Pure.pure (g v))
    (hD : ∀ v, D v → D' (g v)) : m.Learns (x >>= f) D' :=
  hx.bind fun v => hf v ▸ .pure (hD v)

theorem of_map {g : α → β} (hx : m.Learns (x >>= fun v => Pure.pure (g v)) D') : m.Learns x fun v => D' (g v) := by
  intro s hs
  obtain ⟨hl, hk⟩ := hx s hs
  cases hxs : x s with
  | ok v t =>
    rw [bind_ok hxs] at hl hk
    refine ⟨hl, fun hc => ⟨(hk hc).1, fun w hw => ?_⟩⟩
    cases hw
    exact (hk hc).2 _ rfl
  | error e t =>
    rw [bind_error hxs] at hl hk
    exact ⟨hl, fun hc => ⟨(hk hc).1, nofun⟩⟩

theorem silently (hx : m.Learns x D) : m.Learns (silently x) D := by
  intro s hs
  have h := hx s.hush hs
  cases hxs : x s.hush with
  | ok v t =>
    rw [hxs] at h
    rw [silently_ok hxs]
    exact h
  | error e t =>
    rw [hxs] at h
    rw [silently_error hxs]
    exact h

theorem failAt {D : Result → Prop} {p : Nat} {d : String} (h : D .failed) : m.Learns (failAt p d) D := by
  intro s hs
  have hl : (s.note p d).log = s.log := s.log_note p d
  refine ⟨hl ▸ List.suffix_rfl, fun hc => ⟨?_, fun r hr => ?_⟩⟩
  · change m.Known (s.note p d).memo
    rw [State.memo_note]
    exact hs (hl ▸ hc)
  · cases hr
    exact h

theorem act (hm : m.Pure) (b : Block) (i j : Nat) (ls : List Value) :
    m.Learns (m.traced.act b i j ls) fun v => m.Acts b i j ls (.ok v) := by
  intro s hs
  obtain ⟨a, ha⟩ := hm.acts b i j ls
  obtain ⟨w, hw⟩ := ha.run s.untraced
  rw [act_traced hw, answer_outcome, endState_outcome]
  refine ⟨List.suffix_rfl, fun hc => ⟨hs hc, fun v hv => ?_⟩⟩
  obtain rfl : a = .ok v := hv
  exact ha

end Matcher.Learns

/-! ## Expressions -/

section
variable {m : Matcher σ ε} {limit : Nat} {call : String → Nat → Run (Traced σ) ε Result}

/-- The turns of a repetition. -/
theorem starFrom_learns {n : Node} (hn : ∀ p, m.Learns (n.eval m.traced limit call p) fun r => m.Derivable n p (.ok r))
    (turns : Nat) : ∀ p, m.Learns (starFrom (fun p => n.eval m.traced limit call p) turns p) fun r =>
      m.Derivable (.repeated .star n) p (.ok r) := by
  induction turns with
  | zero => exact fun p => (Matcher.Learns.throw .exhausted).bind fun _ => .pure False.elim
  | succ turns ih =>
    intro p
    rw [starFrom_succ]
    refine (hn p).bind fun r => ?_
    cases r with
    | failed => exact .pure fun ⟨fs, h⟩ => ⟨fs, .star_done h⟩
    | matched stop v =>
      dsimp only
      by_cases hstop : stop = p
      · rw [if_pos hstop]
        subst hstop
        exact .pure fun ⟨fs, h⟩ => ⟨fs, .star_empty h⟩
      · rw [if_neg hstop]
        exact (ih stop).map (fun _ => rfl) fun r ⟨gs, h'⟩ ⟨fs, h⟩ => ⟨fs ++ gs, .star_more h hstop h'⟩

section
variable {ns : List Node}
  (hns : ∀ n ∈ ns, ∀ p, m.Learns (n.eval m.traced limit call p) fun r => m.Derivable n p (.ok r))
include hns

theorem sequence_learns (p : Nat) :
    m.Learns ((Node.sequence ns).eval m.traced limit call p) fun r => m.Derivable (.sequence ns) p (.ok r) := by
  induction ns generalizing p with
  | nil =>
    rw [Node.eval_sequence, evalAll]
    exact .pure ⟨[], .sequence_nil⟩
  | cons n ns ih =>
    rw [Node.eval_sequence_cons]
    refine (hns n List.mem_cons_self p).bind fun r => ?_
    cases r with
    | failed => exact .pure (Exists.imp fun _ => .sequence_failed)
    | matched stop v =>
      refine (ih (fun k hk => hns k (List.mem_cons_of_mem n hk)) stop).map (fun _ => rfl) fun r hrest hfirst => ?_
      obtain ⟨fs, h⟩ := hfirst
      obtain ⟨gs, h'⟩ := hrest
      exact ⟨fs ++ gs, .sequence_next h h'⟩

theorem choice_learns (p : Nat) :
    m.Learns ((Node.choice ns).eval m.traced limit call p) fun r => m.Derivable (.choice ns) p (.ok r) := by
  induction ns with
  | nil =>
    simp only [Node.eval, evalFirst]
    exact .pure ⟨[], .choice_nil⟩
  | cons n ns ih =>
    rw [Node.eval_choice_cons]
    refine (hns n List.mem_cons_self p).bind fun r => ?_
    cases r with
    | failed =>
      refine (ih fun k hk => hns k (List.mem_cons_of_mem n hk)).mono fun r hrest hfirst => ?_
      obtain ⟨fs, h⟩ := hfirst
      obtain ⟨gs, h'⟩ := hrest
      exact ⟨fs ++ gs, .choice_next h h'⟩
    | matched stop v => exact .pure (Exists.imp fun _ => .choice_first)

end

/-- **The result of an expression is derived, if that is so for the results of applications.** -/
theorem Node.eval_learns (hm : m.Pure)
    (hcall : ∀ r p, m.Learns (call r p) fun q => m.Derivable (.ref r) p (.ok q)) (n : Node) :
    ∀ p, m.Learns (n.eval m.traced limit call p) fun r => m.Derivable n p (.ok r) := by
  induction n using Node.induction with
  | literal t i =>
    intro p
    cases h : literalAccepts t i (slice m.text p (p + t.length)) with
    | true =>
      simp only [Node.eval, Matcher.traced_text, h, if_true]
      exact .pure ⟨[], .literal_matched h⟩
    | false =>
      simp only [Node.eval, Matcher.traced_text, h, Bool.false_eq_true, if_false]
      exact .failAt ⟨_, .literal_failed h⟩
  | charClass c =>
    intro p
    simp only [Node.eval, Matcher.traced_text]
    cases hx : m.text[p]? with
    | none => exact .failAt ⟨_, .class_failed fun x h => absurd (h.symm.trans hx) (Option.some_ne_none x)⟩
    | some x =>
      dsimp only
      split_ifs with hc
      · exact .pure ⟨[], .class_matched hx hc⟩
      · refine .failAt ⟨_, .class_failed fun y hy => ?_⟩
        cases hx.symm.trans hy
        exact Bool.eq_false_of_not_eq_true hc
  | any =>
    intro p
    simp only [Node.eval, Matcher.traced_text]
    cases hx : m.text[p]? with
    | none =>
      have hderived : m.Derivable .any p (.ok .failed) := ⟨_, .any_failed hx⟩
      exact .failAt hderived
    | some x =>
      have hderived : m.Derivable .any p (.ok (.matched (p + 1) (.text (String.singleton x)))) := ⟨_, .any_matched hx⟩
      exact .pure hderived
  | ref r =>
    intro p
    simp only [Node.eval]
    exact hcall r p
  | followedBy n ih =>
    intro p
    simp only [Node.eval]
    exact (ih p).silently.map (fun r => by cases r <;> rfl) fun r h => h.elim fun _ h => ⟨[], .followedBy h⟩
  | notFollowedBy n ih =>
    intro p
    simp only [Node.eval]
    exact (ih p).silently.map (fun r => by cases r <;> rfl) fun r h => h.elim fun _ h => ⟨[], .notFollowedBy h⟩
  | text n ih =>
    intro p
    simp only [Node.eval]
    exact (ih p).map (fun r => by cases r <;> rfl) fun r => Exists.imp fun _ => .text
  | labeled l n ih =>
    intro p
    simp only [Node.eval]
    exact (ih p).mono fun r => Exists.imp fun _ => .labeled
  | repeated k n ih =>
    intro p
    cases k with
    | optional =>
      simp only [Node.eval]
      exact (ih p).map (fun r => by cases r <;> rfl) fun r => Exists.imp fun _ => .optional
    | star =>
      rw [Node.eval_star]
      exact starFrom_learns ih _ p
    | plus =>
      rw [Node.eval_plus, Node.eval_star]
      exact (starFrom_learns ih _ p).map (fun _ => rfl) fun r => Exists.imp fun _ => .plus
  | sequence ns ih => exact sequence_learns ih
  | choice ns ih => exact choice_learns ih
  | action n b _ hitems =>
    intro p
    have hall := sequence_learns hitems p
    rw [Node.eval_sequence] at hall
    rw [Node.eval_action]
    refine hall.of_map.bind fun q => ?_
    cases q with
    | none => exact .pure (Exists.imp fun _ => .action_failed)
    | some q =>
      exact (Matcher.Learns.act hm b p q.1 (labelValues n.items q.2)).map (fun _ => rfl)
        fun v ha => Exists.imp fun _ h => .action h ha

theorem Matcher.Learns.evalWith {name : String} {rule : Rule} (hr : m.grammar.rule? name = some rule)
    {eval : Node → Nat → Run (Traced σ) ε Result} {p : Nat}
    (h : m.Learns (eval rule.body p) fun r => m.Derivable rule.body p (.ok r)) :
    m.Learns (rule.evalWith eval p) fun r => m.Derivable (.ref name) p (.ok r) := by
  unfold Rule.evalWith
  cases rule.display with
  | none => exact h.mono fun r ⟨fs, h⟩ => ⟨_, .ref List.not_mem_nil hr h⟩
  | some d =>
    refine h.silently.bind fun r => ?_
    cases r with
    | failed => exact .failAt fun ⟨fs, h⟩ => ⟨_, .ref List.not_mem_nil hr h⟩
    | matched stop v => exact .pure fun ⟨fs, h⟩ => ⟨_, .ref List.not_mem_nil hr h⟩

end

/-! ## Applications -/

/-- **The result of an application is derived, and so is what is remembered**, if no application is met that is in
progress. -/
theorem Matcher.applyTraced_learns {m : Matcher σ ε} (hm : m.Pure) (limit depth : Nat) : ∀ name pos,
    m.Learns (m.applyTraced limit depth name pos) fun r => m.Derivable (.ref name) pos (.ok r) := by
  induction depth with
  | zero => exact fun _ _ => .throw .exhausted
  | succ depth ih =>
    intro name pos s hs
    cases hf : s.memo.find? name pos with
    | some e =>
      cases e with
      | begun =>
        rw [applyTraced_begun hf]
        exact ⟨List.suffix_cons .., fun hc => absurd rfl (hc _ List.mem_cons_self)⟩
      | done q =>
        rw [applyTraced_done hf]
        have hlog : s.log <:+ (s.emit .recalled name pos).log := List.suffix_cons ..
        refine ⟨hlog, fun hc => ⟨hs (hc.of_suffix hlog), fun r hr => ?_⟩⟩
        cases hr
        exact (hs (hc.of_suffix hlog) name pos q hf).2
    | none =>
      have hlog : s.log <:+ ((s.emit .entered name pos).entered name pos).log := List.suffix_cons ..
      have hentered : Clean ((s.emit .entered name pos).entered name pos).log →
          m.Known ((s.emit .entered name pos).entered name pos).memo :=
        fun hc => (hs (hc.of_suffix hlog)).enter name pos
      cases hr : m.grammar.rule? name with
      | none =>
        rw [applyTraced_undefined hf hr]
        exact ⟨hlog, fun hc => ⟨hentered hc, nofun⟩⟩
      | some rule =>
        have hbody : m.Learns (rule.evalWith (Node.eval m.traced limit (m.applyTraced limit depth)) pos) fun r =>
            m.Derivable (.ref name) pos (.ok r) :=
          .evalWith hr (Node.eval_learns hm ih rule.body pos)
        obtain ⟨hl, hk⟩ := hbody _ hentered
        cases hx : rule.evalWith (Node.eval m.traced limit (m.applyTraced limit depth)) pos
            ((s.emit .entered name pos).entered name pos) with
        | error e t =>
          rw [hx] at hl hk
          rw [applyTraced_error hf hr hx]
          exact ⟨hlog.trans hl, fun hc => ⟨(hk hc).1, nofun⟩⟩
        | ok r t =>
          rw [hx] at hl hk
          rw [applyTraced_ok hf hr hx]
          have hend : t.log <:+ ((m.traced.settled name pos r t).emit .left name pos).log := List.suffix_cons ..
          refine ⟨(hlog.trans hl).trans hend, fun hc => ?_⟩
          obtain ⟨hknown, hderived⟩ := hk (hc.of_suffix hend)
          refine ⟨hknown.settled (hderived r rfl), fun q hq => ?_⟩
          cases hq
          exact hderived r rfl

/-- **What a parse has remembered is derived, if it met no application in progress**, whatever it came to. -/
theorem Matcher.parse_known {m : Matcher σ ε} (hm : m.Pure) {name : String} {pos : Nat} {s : State σ}
    (hc : Clean (m.trace name pos s)) : m.Known (endState (m.parse name pos s)).memo := by
  have hlearns := applyTraced_learns hm (m.limit pos) (m.depth (m.limit pos)) name pos ((s.withLog []).restart pos)
    fun _ => nofun
  have hend : endState (m.parse name pos s) = (endState (m.parseTraced name pos (s.withLog []))).untraced :=
    (m.parseTraced_untraced name pos (s.withLog [])).2
  rw [hend]
  exact (hlearns.2 hc).1

end

end PegTemplate
