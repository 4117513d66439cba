import PegTemplate.Proofs.Match.Parts
import PegTemplate.Proofs.Match.Record

/-!
# What expressions come to

* `Matcher.Derives` : the big-step relation of an expression, a position and what the expression comes to there,
  with the failures that it notes. A reference comes to what the body of its rule comes to; no application is in
  progress, and nothing is remembered;
* `Matcher.Derivable` : the relation without the failures;
* `Matcher.Derives.unique` : that is one thing at most;
* `Matcher.Derives.ref_inv` : what is derived of an application is derived without that application;
* `Matcher.Derives.endsIn`, `Matcher.Derives.ne_exhausted` : where matches end, and that derivations have no bounds.
-/

namespace PegTemplate

/-! ## Results made of results -/

/-- The value is the text of the match. -/
def Result.asText (text : List Char) (pos : Nat) : Result → Result
  | .failed => .failed
  | .matched stop _ => .matched stop (.text (String.ofList (slice text pos stop)))

/-- A match takes nothing. -/
def Result.ahead (pos : Nat) : Result → Result
  | .failed => .failed
  | .matched .. => .matched pos .none

/-- A failure is a match that takes nothing, and a match is a failure. -/
def Result.negated (pos : Nat) : Result → Result
  | .failed => .matched pos .none
  | .matched .. => .failed

/-- A failure is a match that takes nothing. -/
def Result.orNothing (pos : Nat) : Result → Result
  | .failed => .matched pos .none
  | .matched stop v => .matched stop v

section
variable {σ ε : Type}

/-! ## Derivations -/

/-- The failures that a rule notes, from what its body comes to and notes. -/
def Rule.failures (r : Rule) (pos : Nat) (a : Except (Halt ε) Result) (fs : Failures) : Failures :=
  match r.display, a with
  | none, _ => fs
  | some d, .ok .failed => [(pos, d)]
  | some _, _ => []

/-- In a derivation the expression `n` comes to `a` at `p` and notes the failures `fs`, and no application that is
`barred` stands in the derivation. -/
inductive Matcher.Derives (m : Matcher σ ε) (barred : List Application) :
    (n : Node) → (p : Nat) → (a : Except (Halt ε) Result) → (fs : Failures) → Prop
  | literal_matched {t i p} (h : literalAccepts t i (slice m.text p (p + t.length)) = true) :
    Derives m barred (.literal t i) p
      (.ok (.matched (p + t.length) (.text (String.ofList (slice m.text p (p + t.length)))))) []
  | literal_failed {t i p} (h : literalAccepts t i (slice m.text p (p + t.length)) = false) :
    Derives m barred (.literal t i) p (.ok .failed) [(p, literalDescription t i)]
  | class_matched {c p x} (h : m.text[p]? = some x) (hc : c.accepts x = true) :
    Derives m barred (.charClass c) p (.ok (.matched (p + 1) (.text (String.singleton x)))) []
  | class_failed {c p} (h : ∀ x, m.text[p]? = some x → c.accepts x = false) :
    Derives m barred (.charClass c) p (.ok .failed) [(p, c.description)]
  | any_matched {p x} (h : m.text[p]? = some x) :
    Derives m barred .any p (.ok (.matched (p + 1) (.text (String.singleton x)))) []
  | any_failed {p} (h : m.text[p]? = none) : Derives m barred .any p (.ok .failed) [(p, "any character")]
  | ref {r rule p a fs} (hb : (r, p) ∉ barred) (hr : m.grammar.rule? r = some rule)
    (h : Derives m barred rule.body p a fs) : Derives m barred (.ref r) p a (rule.failures p a fs)
  | labeled {l n p a fs} (h : Derives m barred n p a fs) : Derives m barred (.labeled l n) p a fs
  | text {n p a fs} (h : Derives m barred n p a fs) : Derives m barred (.text n) p (a.map (.asText m.text p)) fs
  | followedBy {n p a fs} (h : Derives m barred n p a fs) : Derives m barred (.followedBy n) p (a.map (.ahead p)) []
  | notFollowedBy {n p a fs} (h : Derives m barred n p a fs) :
    Derives m barred (.notFollowedBy n) p (a.map (.negated p)) []
  | optional {n p a fs} (h : Derives m barred n p a fs) :
    Derives m barred (.repeated .optional n) p (a.map (.orNothing p)) fs
  | star_done {n p fs} (h : Derives m barred n p (.ok .failed) fs) :
    Derives m barred (.repeated .star n) p (.ok (.matched p (.list []))) fs
  | star_empty {n p v fs} (h : Derives m barred n p (.ok (.matched p v)) fs) :
    Derives m barred (.repeated .star n) p (.ok (.matched p (.list [v]))) fs
  | star_more {n p stop v fs a gs} (h : Derives m barred n p (.ok (.matched stop v)) fs) (hs : stop ≠ p)
    (hmore : Derives m barred (.repeated .star n) stop a gs) :
    Derives m barred (.repeated .star n) p (a.map (.after v)) (fs ++ gs)
  | star_raised {n p e fs} (h : Derives m barred n p (.error e) fs) :
    Derives m barred (.repeated .star n) p (.error e) fs
  | plus {n p a fs} (h : Derives m barred (.repeated .star n) p a fs) :
    Derives m barred (.repeated .plus n) p (a.map .nonempty) fs
  | sequence_nil {p} : Derives m barred (.sequence []) p (.ok (.matched p (.list []))) []
  | sequence_next {n ns p stop v fs a gs} (h : Derives m barred n p (.ok (.matched stop v)) fs)
    (hnext : Derives m barred (.sequence ns) stop a gs) :
    Derives m barred (.sequence (n :: ns)) p (a.map (.after v)) (fs ++ gs)
  | sequence_failed {n ns p fs} (h : Derives m barred n p (.ok .failed) fs) :
    Derives m barred (.sequence (n :: ns)) p (.ok .failed) fs
  | sequence_raised {n ns p e fs} (h : Derives m barred n p (.error e) fs) :
    Derives m barred (.sequence (n :: ns)) p (.error e) fs
  | choice_nil {p} : Derives m barred (.choice []) p (.ok .failed) []
  | choice_first {n ns p stop v fs} (h : Derives m barred n p (.ok (.matched stop v)) fs) :
    Derives m barred (.choice (n :: ns)) p (.ok (.matched stop v)) fs
  | choice_next {n ns p fs a gs} (h : Derives m barred n p (.ok .failed) fs)
    (hnext : Derives m barred (.choice ns) p a gs) : Derives m barred (.choice (n :: ns)) p a (fs ++ gs)
  | choice_raised {n ns p e fs} (h : Derives m barred n p (.error e) fs) :
    Derives m barred (.choice (n :: ns)) p (.error e) fs
  | action {n b p stop vs a fs} (h : Derives m barred (.sequence n.items) p (.ok (.matched stop (.list vs))) fs)
    (ha : m.Acts b p stop (labelValues n.items vs) a) :
    Derives m barred (.action n b) p (a.map (.matched stop)) fs
  | action_failed {n b p fs} (h : Derives m barred (.sequence n.items) p (.ok .failed) fs) :
    Derives m barred (.action n b) p (.ok .failed) fs
  | action_raised {n b p e fs} (h : Derives m barred (.sequence n.items) p (.error e) fs) :
    Derives m barred (.action n b) p (.error e) fs

/-- It is derived that an expression comes to `a` at `p`. -/
def Matcher.Derivable (m : Matcher σ ε) (n : Node) (p : Nat) (a : Except (Halt ε) Result) : Prop :=
  ∃ fs, m.Derives [] n p a fs

namespace Matcher.Derives
variable {m : Matcher σ ε} {barred barred' : List Application} {n : Node} {p : Nat} {a a' : Except (Halt ε) Result}
  {fs fs' : Failures}

/-- A derivation bars other applications if those of its references may be barred instead. Whether results are
remembered makes no difference. -/
theorem rebar {c : Bool} (h : m.Derives barred n p a fs)
    (href : ∀ {r rule p a fs}, (r, p) ∉ barred → m.grammar.rule? r = some rule →
      (m.withCache c).Derives barred' rule.body p a fs → (r, p) ∉ barred') :
    (m.withCache c).Derives barred' n p a fs := by
  induction h with
  | literal_matched h => exact .literal_matched h
  | literal_failed h => exact .literal_failed h
  | class_matched h hc => exact .class_matched h hc
  | class_failed h => exact .class_failed h
  | any_matched h => exact .any_matched h
  | any_failed h => exact .any_failed h
  | ref hb hr _ ih => exact .ref (href hb hr ih) hr ih
  | labeled _ ih => exact .labeled ih
  | text _ ih => exact .text ih
  | followedBy _ ih => exact .followedBy ih
  | notFollowedBy _ ih => exact .notFollowedBy ih
  | optional _ ih => exact .optional ih
  | star_done _ ih => exact .star_done ih
  | star_empty _ ih => exact .star_empty ih
  | star_more _ hs _ ih ih' => exact .star_more ih hs ih'
  | star_raised _ ih => exact .star_raised ih
  | plus _ ih => exact .plus ih
  | sequence_nil => exact .sequence_nil
  | sequence_next _ _ ih ih' => exact .sequence_next ih ih'
  | sequence_failed _ ih => exact .sequence_failed ih
  | sequence_raised _ ih => exact .sequence_raised ih
  | choice_nil => exact .choice_nil
  | choice_first _ ih => exact .choice_first ih
  | choice_next _ _ ih ih' => exact .choice_next ih ih'
  | choice_raised _ ih => exact .choice_raised ih
  | action _ ha ih => exact .action ih ha
  | action_failed _ ih => exact .action_failed ih
  | action_raised _ ih => exact .action_raised ih

/-- What is derived with applications barred is derived with none barred. -/
theorem unbar (h : m.Derives barred n p a fs) : m.Derives [] n p a fs :=
  h.rebar (c := m.cached) fun _ _ _ => List.not_mem_nil

theorem withCache (h : m.Derives barred n p a fs) (cached : Bool) : (m.withCache cached).Derives barred n p a fs :=
  h.rebar fun hb _ _ => hb

/-- What is derived of an application is derived of the body of the rule without that application. -/
theorem ref_inv {r : String} (h : m.Derives barred (.ref r) p a fs) : ∃ rule b gs,
    (r, p) ∉ barred ∧ m.grammar.rule? r = some rule ∧ m.Derives ((r, p) :: barred) rule.body p b gs := by
  by_contra hno
  cases h with
  | @ref _ rule _ _ gs hb hr h =>
    -- `rebar` goes from the inside out: the innermost derivation of the application does without it
    refine hno ⟨rule, a, gs, hb, hr, h.rebar (c := m.cached) fun {r' rule' p' a' gs'} hb' hr' h' hmem => ?_⟩
    rcases List.mem_cons.1 hmem with he | hmem
    · obtain ⟨rfl, rfl⟩ := Prod.mk.inj he
      exact hno ⟨rule', a', gs', hb, hr', h'⟩
    · exact hb' hmem

/-- An expression comes to one thing, and notes the same failures. -/
theorem unique [Nonempty σ] (h : m.Derives barred n p a fs) (h' : m.Derives barred' n p a' fs') :
    a = a' ∧ fs = fs' := by
  induction h generalizing a' fs' with
  | literal_matched h =>
    cases h' with
    | literal_matched => exact ⟨rfl, rfl⟩
    | literal_failed h' => rw [h] at h'; cases h'
  | literal_failed h =>
    cases h' with
    | literal_matched h' => rw [h] at h'; cases h'
    | literal_failed => exact ⟨rfl, rfl⟩
  | class_matched h hc =>
    cases h' with
    | class_matched h' => rw [h] at h'; cases h'; exact ⟨rfl, rfl⟩
    | class_failed h' => rw [h' _ h] at hc; cases hc
  | class_failed h =>
    cases h' with
    | class_matched h' hc => rw [h _ h'] at hc; cases hc
    | class_failed => exact ⟨rfl, rfl⟩
  | any_matched h =>
    cases h' with
    | any_matched h' => rw [h] at h'; cases h'; exact ⟨rfl, rfl⟩
    | any_failed h' => rw [h] at h'; cases h'
  | any_failed h =>
    cases h' with
    | any_matched h' => rw [h] at h'; cases h'
    | any_failed => exact ⟨rfl, rfl⟩
  | ref _ hr _ ih =>
    cases h' with
    | ref _ hr' h' =>
      rw [hr] at hr'
      cases hr'
      obtain ⟨rfl, rfl⟩ := ih h'
      exact ⟨rfl, rfl⟩
  | labeled _ ih =>
    cases h' with
    | labeled h' => exact ih h'
  | text _ ih =>
    cases h' with
    | text h' => obtain ⟨rfl, rfl⟩ := ih h'; exact ⟨rfl, rfl⟩
  | followedBy _ ih =>
    cases h' with
    | followedBy h' => obtain ⟨rfl, rfl⟩ := ih h'; exact ⟨rfl, rfl⟩
  | notFollowedBy _ ih =>
    cases h' with
    | notFollowedBy h' => obtain ⟨rfl, rfl⟩ := ih h'; exact ⟨rfl, rfl⟩
  | optional _ ih =>
    cases h' with
    | optional h' => obtain ⟨rfl, rfl⟩ := ih h'; exact ⟨rfl, rfl⟩
  | star_done _ ih =>
    cases h' with
    | star_done h' => exact ⟨rfl, (ih h').2⟩
    | star_empty h' => cases (ih h').1
    | star_more h' => cases (ih h').1
    | star_raised h' => cases (ih h').1
  | star_empty _ ih =>
    cases h' with
    | star_done h' => cases (ih h').1
    | star_empty h' => obtain ⟨he, rfl⟩ := ih h'; cases he; exact ⟨rfl, rfl⟩
    | star_more h' hs' => obtain ⟨he, rfl⟩ := ih h'; cases he; exact absurd rfl hs'
    | star_raised h' => cases (ih h').1
  | star_more _ hs _ ih ih' =>
    cases h' with
    | star_done h' => cases (ih h').1
    | star_empty h' => obtain ⟨he, rfl⟩ := ih h'; cases he; exact absurd rfl hs
    | star_more h' _ hmore =>
      obtain ⟨he, rfl⟩ := ih h'
      cases he
      obtain ⟨rfl, rfl⟩ := ih' hmore
      exact ⟨rfl, rfl⟩
    | star_raised h' => cases (ih h').1
  | star_raised _ ih =>
    cases h' with
    | star_done h' => cases (ih h').1
    | star_empty h' => cases (ih h').1
    | star_more h' => cases (ih h').1
    | star_raised h' => exact ih h'
  | plus _ ih =>
    cases h' with
    | plus h' => obtain ⟨rfl, rfl⟩ := ih h'; exact ⟨rfl, rfl⟩
  | sequence_nil =>
    cases h' with
    | sequence_nil => exact ⟨rfl, rfl⟩
  | sequence_next _ _ ih ih' =>
    cases h' with
    | sequence_next h' hnext =>
      obtain ⟨he, rfl⟩ := ih h'
      cases he
      obtain ⟨rfl, rfl⟩ := ih' hnext
      exact ⟨rfl, rfl⟩
    | sequence_failed h' => cases (ih h').1
    | sequence_raised h' => cases (ih h').1
  | sequence_failed _ ih =>
    cases h' with
    | sequence_next h' => cases (ih h').1
    | sequence_failed h' => exact ih h'
    | sequence_raised h' => cases (ih h').1
  | sequence_raised _ ih =>
    cases h' with
    | sequence_next h' => cases (ih h').1
    | sequence_failed h' => cases (ih h').1
    | sequence_raised h' => exact ih h'
  | choice_nil =>
    cases h' with
    | choice_nil => exact ⟨rfl, rfl⟩
  | choice_first _ ih =>
    cases h' with
    | choice_first h' => exact ih h'
    | choice_next h' => cases (ih h').1
    | choice_raised h' => cases (ih h').1
  | choice_next _ _ ih ih' =>
    cases h' with
    | choice_first h' => cases (ih h').1
    | choice_next h' hnext =>
      obtain ⟨-, rfl⟩ := ih h'
      obtain ⟨rfl, rfl⟩ := ih' hnext
      exact ⟨rfl, rfl⟩
    | choice_raised h' => cases (ih h').1
  | choice_raised _ ih =>
    cases h' with
    | choice_first h' => cases (ih h').1
    | choice_next h' => cases (ih h').1
    | choice_raised h' => exact ih h'
  | action _ ha ih =>
    cases h' with
    | action h' ha' =>
      obtain ⟨he, rfl⟩ := ih h'
      cases he
      exact ⟨congrArg (Except.map _) (ha.unique ha'), rfl⟩
    | action_failed h' => cases (ih h').1
    | action_raised h' => cases (ih h').1
  | action_failed _ ih =>
    cases h' with
    | action h' => cases (ih h').1
    | action_failed h' => exact ih h'
    | action_raised h' => cases (ih h').1
  | action_raised _ ih =>
    cases h' with
    | action h' => cases (ih h').1
    | action_failed h' => cases (ih h').1
    | action_raised h' => exact ih h'

theorem map_endsIn {f : Result → Result} {p q hi : Nat} (ha : ∀ r, a = .ok r → r.EndsIn p hi)
    (hf : ∀ r : Result, r.EndsIn p hi → (f r).EndsIn q hi) : ∀ r, a.map f = .ok r → r.EndsIn q hi := by
  intro r hr
  cases a with
  | ok b =>
    cases hr
    exact hf b (ha b rfl)
  | error e => cases hr

/-- What goes on where a match ends, with the value of that in front. -/
theorem after_endsIn {v : Value} {p stop hi : Nat} (hp : p ≤ stop) (hfs : ∀ f ∈ fs, p ≤ f.1)
    (h : (∀ r, a = .ok r → r.EndsIn stop hi) ∧ ∀ f ∈ fs', stop ≤ f.1) :
    (∀ r, a.map (Result.after v) = .ok r → r.EndsIn p hi) ∧ ∀ f ∈ fs ++ fs', p ≤ f.1 := by
  refine ⟨map_endsIn h.1 fun r hr => ?_, fun f hf => ?_⟩
  · unfold Result.after
    split
    · exact hr.mono hp
    · exact hr.mono hp
  · rcases List.mem_append.1 hf with hf | hf
    · exact hfs f hf
    · exact Nat.le_trans hp (h.2 f hf)

/-- Matches go forward and end by `hi`, and failures are noted at the start or after it. -/
theorem endsIn {hi : Nat} (hm : m.Bound hi) (h : m.Derives barred n p a fs) (hp : p ≤ hi) (hn : n.FitsIn m.text hi) :
    (∀ r, a = .ok r → r.EndsIn p hi) ∧ ∀ f ∈ fs, p ≤ f.1 := by
  have hfit : ∀ {p x}, m.text[p]? = some x → p + 1 ≤ hi := fun h =>
    Nat.le_trans (List.getElem?_eq_some_iff.1 h).1 hm.length_le
  induction h with
  | literal_matched h =>
    refine ⟨fun r hr => ?_, by simp⟩
    cases hr
    exact ⟨Nat.le_add_right .., hn _ _ .self _ hp h⟩
  | literal_failed h => exact ⟨fun r hr => by cases hr; trivial, by simp⟩
  | class_matched h hc => exact ⟨fun r hr => by cases hr; exact ⟨Nat.le_add_right .., hfit h⟩, by simp⟩
  | class_failed h => exact ⟨fun r hr => by cases hr; trivial, by simp⟩
  | any_matched h => exact ⟨fun r hr => by cases hr; exact ⟨Nat.le_add_right .., hfit h⟩, by simp⟩
  | any_failed h => exact ⟨fun r hr => by cases hr; trivial, by simp⟩
  | @ref r rule p a fs hb hr h ih =>
    obtain ⟨hres, hfs⟩ := ih hp (hm.fits r rule hr)
    refine ⟨hres, fun f hf => ?_⟩
    unfold Rule.failures at hf
    split at hf
    · exact hfs f hf
    · exact Nat.le_of_eq (List.mem_singleton.1 hf ▸ rfl)
    · cases hf
  | labeled _ ih => exact ih hp (hn.child (List.mem_singleton_self _))
  | text _ ih =>
    obtain ⟨hres, hfs⟩ := ih hp (hn.child (List.mem_singleton_self _))
    exact ⟨map_endsIn hres fun r hr => by cases r <;> exact hr, hfs⟩
  | followedBy _ ih =>
    obtain ⟨hres, -⟩ := ih hp (hn.child (List.mem_singleton_self _))
    refine ⟨map_endsIn hres fun r hr => ?_, by simp⟩
    cases r with
    | failed => trivial
    | matched stop v => exact ⟨Nat.le_refl _, hp⟩
  | notFollowedBy _ ih =>
    obtain ⟨hres, -⟩ := ih hp (hn.child (List.mem_singleton_self _))
    refine ⟨map_endsIn hres fun r hr => ?_, by simp⟩
    cases r with
    | failed => exact ⟨Nat.le_refl _, hp⟩
    | matched stop v => trivial
  | optional _ ih =>
    obtain ⟨hres, hfs⟩ := ih hp (hn.child (List.mem_singleton_self _))
    refine ⟨map_endsIn hres fun r hr => ?_, hfs⟩
    cases r with
    | failed => exact ⟨Nat.le_refl _, hp⟩
    | matched stop v => exact hr
  | star_done _ ih =>
    obtain ⟨-, hfs⟩ := ih hp (hn.child (List.mem_singleton_self _))
    exact ⟨fun r hr => by cases hr; exact ⟨Nat.le_refl _, hp⟩, hfs⟩
  | star_empty _ ih =>
    obtain ⟨-, hfs⟩ := ih hp (hn.child (List.mem_singleton_self _))
    exact ⟨fun r hr => by cases hr; exact ⟨Nat.le_refl _, hp⟩, hfs⟩
  | star_more _ hs _ ih ih' =>
    obtain ⟨hres, hfs⟩ := ih hp (hn.child (List.mem_singleton_self _))
    obtain ⟨hps, hsh⟩ := hres _ rfl
    exact after_endsIn hps hfs (ih' hsh hn)
  | star_raised _ ih => exact ⟨nofun, (ih hp (hn.child (List.mem_singleton_self _))).2⟩
  | plus _ ih =>
    obtain ⟨hres, hfs⟩ := ih hp (.of_children nofun fun c hc => hn.child hc)
    refine ⟨map_endsIn hres fun r hr => ?_, hfs⟩
    unfold Result.nonempty
    split
    · trivial
    · exact hr
  | sequence_nil => exact ⟨fun r hr => by cases hr; exact ⟨Nat.le_refl _, hp⟩, by simp⟩
  | sequence_next _ _ ih ih' =>
    obtain ⟨hres, hfs⟩ := ih hp (hn.child (List.mem_cons_self ..))
    obtain ⟨hps, hsh⟩ := hres _ rfl
    exact after_endsIn hps hfs (ih' hsh (.of_children nofun fun c hc => hn.child (List.mem_cons_of_mem _ hc)))
  | sequence_failed _ ih => exact ih hp (hn.child (List.mem_cons_self ..))
  | sequence_raised _ ih => exact ih hp (hn.child (List.mem_cons_self ..))
  | choice_nil => exact ⟨fun r hr => by cases hr; trivial, by simp⟩
  | choice_first _ ih => exact ih hp (hn.child (List.mem_cons_self ..))
  | choice_next _ _ ih ih' =>
    obtain ⟨-, hfs⟩ := ih hp (hn.child (List.mem_cons_self ..))
    obtain ⟨hres', hfs'⟩ := ih' hp (.of_children nofun fun c hc => hn.child (List.mem_cons_of_mem _ hc))
    exact ⟨hres', fun f hf => (List.mem_append.1 hf).elim (hfs f) (hfs' f)⟩
  | choice_raised _ ih => exact ih hp (hn.child (List.mem_cons_self ..))
  | action _ ha ih =>
    obtain ⟨hres, hfs⟩ := ih hp (hn.child (List.mem_singleton_self _)).items
    have hend := hres _ rfl
    refine ⟨fun r hr => ?_, hfs⟩
    cases ‹Except (Halt ε) Value› with
    | ok v => cases hr; exact hend
    | error e => cases hr
  | action_failed _ ih => exact ih hp (hn.child (List.mem_singleton_self _)).items
  | action_raised _ ih => exact ih hp (hn.child (List.mem_singleton_self _)).items

/-- No derivation is stopped by a bound. -/
theorem ne_exhausted [Nonempty σ] (h : m.Derives barred n p a fs) : a ≠ .error .exhausted := by
  have hmap : ∀ {α : Type} {a : Except (Halt ε) α} {f : α → Result}, a ≠ .error .exhausted →
      a.map f ≠ .error .exhausted := by
    intro α a f ha
    cases a with
    | ok r => nofun
    | error e => exact fun he => ha (congrArg _ (Except.error.inj he))
  induction h with
  | ref _ _ _ ih | labeled _ ih | star_raised _ ih | sequence_raised _ ih | choice_raised _ ih
  | action_raised _ ih | choice_next _ _ _ ih => exact ih
  | text _ ih | followedBy _ ih | notFollowedBy _ ih | optional _ ih | star_more _ _ _ _ ih | plus _ ih
  | sequence_next _ _ _ ih => exact hmap ih
  | action _ ha => exact hmap ha.ne_exhausted
  | _ => nofun

end Matcher.Derives

end

end PegTemplate
