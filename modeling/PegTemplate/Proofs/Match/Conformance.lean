import PegTemplate.Proofs.Grammar.Closed
import PegTemplate.Proofs.Match.Bounds
import PegTemplate.Proofs.Match.Realization

/-!
# Conformance

* `Clean` : a log without applications that were met in progress;
* `Matcher.Sourced` : what a run comes to has a property, if its log is clean;
* `Node.sourced`, `Matcher.applyTraced_sourced` : that property is to be derived;
* `Matcher.parse_conforms` : **a parse comes to what is derived of a rule, and what it comes to is derived unless it
  meets an application in progress.**
-/

namespace PegTemplate

/-- No application is met that is in progress. -/
def Clean (log : List Event) : Prop := ∀ e ∈ log, e.kind ≠ .reentered

instance (log : List Event) : Decidable (Clean log) :=
  inferInstanceAs (Decidable (∀ e ∈ log, e.kind ≠ .reentered))

theorem Clean.of_suffix {log log' : List Event} (h : Clean log') (hl : log <:+ log') : Clean log :=
  fun e he => h e (hl.subset he)

section
variable {σ ε α β : Type}

/-- A run adds to the log; and as long as the log is clean, what is remembered is derived, and what the run comes to
has a property. -/
def Matcher.Sourced (m : Matcher σ ε) (x : Run (Traced σ) ε α) (D : Except (Halt ε) α → Prop) : Prop :=
  ∀ s, (Clean s.log → m.Known s.memo) → s.log <:+ (endState (x s)).log ∧
    (∀ v, answer (x s) = .ok v → Clean (endState (x s)).log → m.Known (endState (x s)).memo) ∧
    (Clean (endState (x s)).log → answer (x s) ≠ .error .exhausted → D (answer (x s)))

namespace Matcher.Sourced
variable {m : Matcher σ ε} {x : Run (Traced σ) ε α} {D : Except (Halt ε) α → Prop} {D' : Except (Halt ε) β → Prop}

theorem mono {E : Except (Halt ε) α → Prop} (h : m.Sourced x D) (hD : ∀ a, D a → E a) : m.Sourced x E := by
  intro s hs
  obtain ⟨hl, hm, hd⟩ := h s hs
  exact ⟨hl, hm, fun hc he => hD _ (hd hc he)⟩

theorem pure {v : α} (h : D (.ok v)) : m.Sourced (Pure.pure v) D :=
  fun _ hs => ⟨List.suffix_rfl, fun _ _ hc => hs hc, fun _ _ => h⟩

theorem bind {f : α → Run (Traced σ) ε β} (hx : m.Sourced x D)
    (hf : ∀ v, m.Sourced (f v) fun b => D (.ok v) → D' b) (he : ∀ e, D (.error e) → D' (.error e)) :
    m.Sourced (x >>= f) D' := by
  intro s hs
  obtain ⟨hl, hm, hd⟩ := hx s hs
  cases hxs : x s with
  | error e t =>
    rw [hxs] at hl hm hd
    rw [bind_error hxs]
    exact ⟨hl, nofun, fun hc hne => he e (hd hc (fun h => hne (congrArg _ (Except.error.inj h))))⟩
  | ok v t =>
    rw [hxs] at hl hm hd
    rw [bind_ok hxs]
    obtain ⟨hl', hm', hd'⟩ := hf v t (hm v rfl)
    exact ⟨hl.trans hl', hm', fun hc hne => hd' hc hne (hd (hc.of_suffix hl') nofun)⟩

theorem map {f : α → Run (Traced σ) ε β} {g : α → β} (hx : m.Sourced x D) (hf : ∀ v, f v = Pure.pure (g v))
    (hD : ∀ a, D a → D' (a.map g)) : m.Sourced (x >>= f) D' :=
  hx.bind (fun v => hf v ▸ .pure (hD (.ok v))) fun e => hD (.error e)

theorem of_map {g : α → β} (hx : m.Sourced (x >>= fun v => Pure.pure (g v)) D') :
    m.Sourced x fun a => D' (a.map g) := by
  intro s hs
  obtain ⟨hl, hm, hd⟩ := hx s hs
  cases hxs : x s with
  | ok v t =>
    rw [bind_ok hxs] at hl hm hd
    exact ⟨hl, fun _ _ => hm _ rfl, fun hc _ => hd hc nofun⟩
  | error e t =>
    rw [bind_error hxs] at hl hm hd
    exact ⟨hl, nofun, fun hc hne => hd hc fun h => hne (congrArg _ (Except.error.inj h))⟩

theorem silently (hx : m.Sourced x D) : m.Sourced (silently x) D := by
  intro s hs
  obtain ⟨hl, hm, hd⟩ := hx s.hush hs
  cases hxs : x s.hush with
  | ok v t =>
    rw [hxs] at hl hm hd
    rw [silently_ok hxs]
    exact ⟨hl, hm, hd⟩
  | error e t =>
    rw [hxs] at hl hm hd
    rw [silently_error hxs]
    exact ⟨hl, hm, hd⟩

theorem failAt {D : Except (Halt ε) Result → Prop} {p : Nat} {d : String} (h : D (.ok .failed)) :
    m.Sourced (failAt p d) D := by
  intro s hs
  have hl : (s.note p d).log = s.log := s.log_note p d
  refine ⟨hl ▸ List.suffix_rfl, fun _ _ hc => ?_, fun _ _ => h⟩
  change m.Known (s.note p d).memo
  rw [State.memo_note]
  exact hs (hl ▸ hc)

theorem act (hm : m.Pure) (b : Block) (i j : Nat) (ls : List Value) :
    m.Sourced (m.traced.act b i j ls) (m.Acts b i j ls) := by
  intro s hs
  obtain ⟨a, ha⟩ := hm.acts b i j ls
  obtain ⟨w, hw⟩ := ha.run s.untraced
  rw [act_traced hw, answer_outcome, endState_outcome]
  exact ⟨List.suffix_rfl, fun _ _ => hs, fun _ _ => ha⟩

end Matcher.Sourced

/-! ## Expressions -/

section
variable {m : Matcher σ ε} {limit : Nat} {call : String → Nat → Run (Traced σ) ε Result}

theorem starFrom_sourced {n : Node} (hn : ∀ p, m.Sourced (n.eval m.traced limit call p) (m.Derivable n p))
    (turns : Nat) : ∀ p, m.Sourced (starFrom (fun p => n.eval m.traced limit call p) turns p)
      (m.Derivable (.repeated .star n) p) := by
  induction turns with
  | zero => exact fun p s hs => ⟨List.suffix_rfl, nofun, fun _ h => absurd rfl h⟩
  | succ turns ih =>
    intro p
    rw [starFrom_succ]
    refine (hn p).bind (fun r => ?_) fun e ⟨fs, h⟩ => ⟨fs, .star_raised h⟩
    cases r with
    | failed => exact .pure fun ⟨fs, h⟩ => ⟨fs, .star_done h⟩
    | matched stop v =>
      dsimp only
      by_cases hstop : stop = p
      · rw [if_pos hstop]
        subst hstop
        exact .pure fun ⟨fs, h⟩ => ⟨fs, .star_empty h⟩
      · rw [if_neg hstop]
        exact (ih stop).map (fun _ => rfl) fun a ⟨gs, h'⟩ ⟨fs, h⟩ => ⟨fs ++ gs, .star_more h hstop h'⟩

theorem sequence_sourced {ns : List Node}
    (hns : ∀ n ∈ ns, ∀ p, m.Sourced (n.eval m.traced limit call p) (m.Derivable n p)) :
    ∀ p, m.Sourced ((Node.sequence ns).eval m.traced limit call p) (m.Derivable (.sequence ns) p) := by
  induction ns with
  | nil =>
    intro p
    rw [Node.eval_sequence, evalAll]
    exact .pure ⟨[], .sequence_nil⟩
  | cons n ns ih =>
    intro p
    rw [Node.eval_sequence_cons]
    refine (hns n (List.mem_cons_self ..) p).bind (fun r => ?_) fun e => Exists.imp fun _ => .sequence_raised
    cases r with
    | failed => exact .pure (Exists.imp fun _ => .sequence_failed)
    | matched stop v =>
      exact (ih (fun k hk => hns k (List.mem_cons_of_mem _ hk)) stop).map (fun _ => rfl)
        fun a h' h => h.elim fun fs h => h'.elim fun gs h' => ⟨fs ++ gs, .sequence_next h h'⟩

theorem choice_sourced {ns : List Node}
    (hns : ∀ n ∈ ns, ∀ p, m.Sourced (n.eval m.traced limit call p) (m.Derivable n p)) (p : Nat) :
    m.Sourced ((Node.choice ns).eval m.traced limit call p) (m.Derivable (.choice ns) p) := by
  induction ns with
  | nil =>
    simp only [Node.eval, evalFirst]
    exact .pure ⟨[], .choice_nil⟩
  | cons n ns ih =>
    rw [Node.eval_choice_cons]
    refine (hns n (List.mem_cons_self ..) p).bind (fun r => ?_) fun e => Exists.imp fun _ => .choice_raised
    cases r with
    | failed =>
      exact (ih fun k hk => hns k (List.mem_cons_of_mem _ hk)).mono
        fun a h' h => h.elim fun fs h => h'.elim fun gs h' => ⟨fs ++ gs, .choice_next h h'⟩
    | matched stop v => exact .pure (Exists.imp fun _ => .choice_first)

/-- What an expression comes to is derived, if that is so for the applications in it. -/
theorem Node.sourced (hm : m.Pure) (n : Node)
    (hcall : ∀ r, Part (.ref r) n → ∀ p, m.Sourced (call r p) (m.Derivable (.ref r) p)) :
    ∀ p, m.Sourced (n.eval m.traced limit call p) (m.Derivable n p) := by
  induction n using Node.induction with
  | literal t i =>
    intro p
    cases h : literalAccepts t i (slice m.text p (p + t.length)) with
    | true =>
      simp only [Node.eval, Matcher.traced_text, h, if_true]
      exact .pure ⟨[], .literal_matched h⟩
    | false =>
      simp only [Node.eval, Matcher.traced_text, h, Bool.false_eq_true, if_false]
      exact .failAt ⟨_, .literal_failed h⟩
  | charClass c =>
    intro p
    simp only [Node.eval, Matcher.traced_text]
    cases hx : m.text[p]? with
    | none => exact .failAt ⟨_, .class_failed fun x h => by rw [hx] at h; cases h⟩
    | some x =>
      dsimp only
      by_cases hc : c.accepts x = true
      · rw [if_pos hc]
        exact .pure ⟨[], .class_matched hx hc⟩
      · rw [if_neg hc]
        refine .failAt ⟨_, .class_failed fun y hy => ?_⟩
        rw [hx] at hy
        cases hy
        exact Bool.not_eq_true _ ▸ hc
  | any =>
    intro p
    simp only [Node.eval, Matcher.traced_text]
    cases hx : m.text[p]? with
    | none => exact .failAt ⟨_, .any_failed hx⟩
    | some x => exact .pure ⟨[], .any_matched hx⟩
  | ref r =>
    intro p
    simp only [Node.eval]
    exact hcall r .self p
  | followedBy n ih =>
    intro p
    simp only [Node.eval]
    exact (ih (fun r h => hcall r (.child (List.mem_singleton_self _) h)) p).silently.map
      (fun r => by cases r <;> rfl) fun a h => ⟨[], h.elim fun _ => .followedBy⟩
  | notFollowedBy n ih =>
    intro p
    simp only [Node.eval]
    exact (ih (fun r h => hcall r (.child (List.mem_singleton_self _) h)) p).silently.map
      (fun r => by cases r <;> rfl) fun a h => ⟨[], h.elim fun _ => .notFollowedBy⟩
  | text n ih =>
    intro p
    simp only [Node.eval]
    exact (ih (fun r h => hcall r (.child (List.mem_singleton_self _) h)) p).map
      (fun r => by cases r <;> rfl) fun a => Exists.imp fun _ => .text
  | labeled l n ih =>
    intro p
    simp only [Node.eval]
    exact (ih (fun r h => hcall r (.child (List.mem_singleton_self _) h)) p).mono fun a => Exists.imp fun _ => .labeled
  | repeated k n ih =>
    intro p
    have hn := ih fun r h => hcall r (.child (List.mem_singleton_self _) h)
    cases k with
    | optional =>
      simp only [Node.eval]
      exact (hn p).map (fun r => by cases r <;> rfl) fun a => Exists.imp fun _ => .optional
    | star =>
      rw [Node.eval_star]
      exact starFrom_sourced hn _ p
    | plus =>
      rw [Node.eval_plus, Node.eval_star]
      exact (starFrom_sourced hn _ p).map (fun _ => rfl) fun a => Exists.imp fun _ => .plus
  | sequence ns ih => exact sequence_sourced fun n hn => ih n hn fun r h => hcall r (.child hn h)
  | choice ns ih => exact choice_sourced fun n hn => ih n hn fun r h => hcall r (.child hn h)
  | action n b _ hitems =>
    intro p
    have hall := sequence_sourced (fun i hi => hitems i hi fun r h => hcall r (Part.of_items hi h)) p
    rw [Node.eval_sequence] at hall
    rw [Node.eval_action]
    refine hall.of_map.bind (fun q => ?_) fun e => Exists.imp fun _ => .action_raised
    cases q with
    | none => exact .pure (Exists.imp fun _ => .action_failed)
    | some q =>
      exact (Matcher.Sourced.act hm b p q.1 (labelValues n.items q.2)).map (fun _ => rfl)
        fun a ha => Exists.imp fun _ h => .action h ha

end

/-! ## Applications -/

theorem Matcher.Sourced.evalWith {m : Matcher σ ε} {name : String} {rule : Rule} (hr : m.grammar.rule? name = some rule)
    {eval : Node → Nat → Run (Traced σ) ε Result} {p : Nat}
    (h : m.Sourced (eval rule.body p) (m.Derivable rule.body p)) :
    m.Sourced (rule.evalWith eval p) (m.Derivable (.ref name) p) := by
  unfold Rule.evalWith
  cases rule.display with
  | none => exact h.mono fun a ⟨fs, h⟩ => ⟨_, .ref List.not_mem_nil hr h⟩
  | some d =>
    refine h.silently.bind (fun r => ?_) fun e ⟨fs, h⟩ => ⟨_, .ref List.not_mem_nil hr h⟩
    cases r with
    | failed => exact .failAt fun ⟨fs, h⟩ => ⟨_, .ref List.not_mem_nil hr h⟩
    | matched stop v => exact .pure fun ⟨fs, h⟩ => ⟨_, .ref List.not_mem_nil hr h⟩

/-- **What an application comes to is derived, if no application is met that is in progress.** -/
theorem Matcher.applyTraced_sourced {m : Matcher σ ε} (hm : m.Pure) (hg : m.grammar.Closed) (limit depth : Nat) :
    ∀ name, (m.grammar.rule? name).isSome → ∀ pos,
      m.Sourced (m.applyTraced limit depth name pos) (m.Derivable (.ref name) pos) := by
  induction depth with
  | zero => exact fun name _ pos s hs => ⟨List.suffix_rfl, nofun, fun _ h => absurd rfl h⟩
  | succ depth ih =>
    intro name hname pos s hs
    obtain ⟨rule, hr⟩ := Option.isSome_iff_exists.1 hname
    cases hf : s.memo.find? name pos with
    | some e =>
      cases e with
      | begun =>
        rw [applyTraced_begun hf]
        have hnot : ¬Clean (s.emit .reentered name pos).log := fun hc => hc _ (List.mem_cons_self ..) rfl
        exact ⟨List.suffix_cons .., fun _ _ hc => absurd hc hnot, fun hc => absurd hc hnot⟩
      | done r =>
        rw [applyTraced_done hf]
        have hclean : Clean (s.emit .recalled name pos).log → Clean s.log := (·.of_suffix (List.suffix_cons ..))
        exact ⟨List.suffix_cons .., fun _ _ hc => hs (hclean hc), fun hc _ => (hs (hclean hc) name pos r hf).2⟩
    | none =>
      have hbody : m.Sourced (rule.evalWith (Node.eval m.traced limit (m.applyTraced limit depth)) pos)
          (m.Derivable (.ref name) pos) :=
        .evalWith hr (Node.sourced hm rule.body (fun k hk => ih k (hg.rule? hr hk)) pos)
      have hlog : s.log <:+ ((s.emit .entered name pos).entered name pos).log := List.suffix_cons ..
      obtain ⟨hl, hm', hd⟩ := hbody ((s.emit .entered name pos).entered name pos)
        fun hc => (hs (hc.of_suffix hlog)).enter name pos
      cases hx : rule.evalWith (Node.eval m.traced limit (m.applyTraced limit depth)) pos
          ((s.emit .entered name pos).entered name pos) with
      | error e s' =>
        rw [hx] at hl hd
        rw [applyTraced_error hf hr hx]
        exact ⟨hlog.trans hl, nofun, hd⟩
      | ok r s' =>
        rw [hx] at hl hm' hd
        rw [applyTraced_ok hf hr hx]
        have hend : s'.log <:+ ((m.traced.settled name pos r s').emit .left name pos).log := List.suffix_cons ..
        refine ⟨(hlog.trans hl).trans hend, fun _ _ hc => ?_, fun hc _ => hd (hc.of_suffix hend) nofun⟩
        exact (hm' r rfl (hc.of_suffix hend)).settled (hd (hc.of_suffix hend) nofun)

/-! ## Parses -/

/-- What a parse comes to is derived, if it meets no application in progress. -/
theorem Matcher.derivable_of_clean {m : Matcher σ ε} (hm : m.Pure) (hg : m.grammar.Closed) {name : String}
    (hname : m.grammar.hasRule name = true) {pos : Nat} {s : State σ} (hc : Clean (m.trace name pos s)) :
    m.Derivable (.ref name) pos (answer (m.parse name pos s)) := by
  rw [← Grammar.rule?_isSome] at hname
  have hs := applyTraced_sourced hm hg (m.limit pos) (m.depth (m.limit pos)) name hname pos
    ((s.withLog []).restart pos) fun _ => nofun
  have hne := m.parse_ne_exhausted name pos s
  rw [parse_answer] at hne ⊢
  exact hs.2.2 hc hne

/-- **A parse conforms to the relation**: what is derived of a rule, the parse comes to, with results remembered or
not; and what a parse comes to is derived, unless it meets an application in progress. -/
theorem Matcher.parse_conforms {m : Matcher σ ε} (hm : m.Pure) (hg : m.grammar.Closed) {name : String}
    (hname : m.grammar.hasRule name = true) (pos : Nat) (s : State σ) :
    (∀ a, m.Derivable (.ref name) pos a → ∀ cached, answer ((m.withCache cached).parse name pos s) = a) ∧
      ∀ cached, Clean ((m.withCache cached).trace name pos s) →
        m.Derivable (.ref name) pos (answer ((m.withCache cached).parse name pos s)) := by
  have : Nonempty σ := ⟨s.world⟩
  constructor
  · rintro a ⟨fs, h⟩ cached
    rw [parse_answer]
    exact ((h.withCache cached).parseTraced _).1
  · intro cached hc
    obtain ⟨fs, h⟩ := derivable_of_clean (m := m.withCache cached) hm hg hname hc
    exact ⟨fs, h.withCache m.cached⟩

/-- Letters, each with what follows it. -/
def letters : Matcher Unit String where
  grammar := ⟨[⟨"letters", none, .choice [.action (.sequence [.labeled "x" .any, .labeled "rest" (.ref "letters")])
    ⟨"", ["x", "rest"], 0⟩, .literal [] false]⟩], "letters", []⟩
  actions := [⟨2, fun _ _ _ labels w => .ok (.tuple labels) w⟩]
  cached := true
  text := ['a', 'b']

theorem letters_conform : letters.Derivable (.ref "letters") 0
      (.ok (.matched 2 (.tuple [.text "a", .tuple [.text "b", .text ""]]))) ∧
    ∀ cached, answer ((letters.withCache cached).parse "letters" 0 (State.initial ())) =
      .ok (.matched 2 (.tuple [.text "a", .tuple [.text "b", .text ""]])) := by
  have hpure : letters.Pure := by
    intro a ha text start stop labels
    rw [List.mem_singleton.1 ha]
    exact ⟨_, fun _ => rfl⟩
  have hname : letters.grammar.hasRule "letters" = true := by decide
  have h := Matcher.parse_conforms hpure (by decide) hname 0 (State.initial ())
  have hd := h.2 true (by decide)
  exact ⟨hd, h.1 _ hd⟩

end

end PegTemplate
