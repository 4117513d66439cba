import PegTemplate.Proofs.Match.Halting
import PegTemplate.Proofs.Match.Lossless
import PegTemplate.Proofs.Match.Session

/-!
# The rest of a text

* `Result.shift`, `Memo.shift`, `State.shift`, `shifted` : what a run on the rest of a text comes to, as it is seen from
  the whole text;
* `Shifts` : a computation on the whole text does what another one does on the rest of it;
* `Node.eval_shifts`, `Matcher.apply_shifts` : so do expressions without actions, and the rules made of them;
* `Matcher.parse_rest` : **a parse depends on nothing of the text before it.**
-/

namespace PegTemplate

/-! ## Shifts -/

/-- The match ends `k` characters later. -/
def Result.shift (k : Nat) : Result → Result
  | .failed => .failed
  | .matched stop v => .matched (stop + k) v

/-- What is known of an application that is `k` characters later. -/
def Entry.shift (k : Nat) : Entry → Entry
  | .begun => .begun
  | .done r => .done (r.shift k)

/-- The row of an application that is `k` characters later. -/
def Memo.Row.shift (k : Nat) (r : Memo.Row) : Memo.Row := ⟨r.rule, r.position + k, r.entry.shift k⟩

/-- All positions of a table `k` characters later. -/
def Memo.shift (k : Nat) (m : Memo) : Memo := m.map (Row.shift k)

namespace Memo

theorem Row.isFor_shift (k : Nat) (r : Row) (rule : String) (p : Nat) :
    (r.shift k).isFor rule (p + k) = r.isFor rule p := by
  rw [Bool.eq_iff_iff, isFor_iff, isFor_iff]
  simp only [shift, Nat.add_right_cancel_iff]

theorem find?_shift (k : Nat) (m : Memo) (rule : String) (p : Nat) :
    (m.shift k).find? rule (p + k) = (m.find? rule p).map (Entry.shift k) := by
  induction m with
  | nil => rfl
  | cons r m ih =>
    rw [shift, List.map_cons, find?_cons, find?_cons, Row.isFor_shift]
    split_ifs
    · rfl
    · exact ih

theorem enter_shift (k : Nat) (m : Memo) (rule : String) (p : Nat) :
    (m.shift k).enter rule (p + k) = (m.enter rule p).shift k := rfl

theorem insert_shift (k : Nat) (m : Memo) (rule : String) (p : Nat) (e : Entry) :
    (m.shift k).insert rule (p + k) (e.shift k) = (m.insert rule p e).shift k := by
  induction m with
  | nil => rfl
  | cons r m ih =>
    rw [shift, List.map_cons, insert, insert, Row.isFor_shift]
    split_ifs
    · rfl
    · exact congrArg (r.shift k :: ·) ih

theorem erase_shift (k : Nat) (m : Memo) (rule : String) (p : Nat) :
    (m.shift k).erase rule (p + k) = (m.erase rule p).shift k := by
  unfold erase shift
  rw [List.filter_map]
  exact congrArg _ (List.filter_congr fun r _ => congrArg (!·) (r.isFor_shift k rule p))

end Memo

section
variable {σ ε α β γ δ : Type}

/-- All positions of a state `k` characters later. -/
def State.shift (k : Nat) (s : State σ) : State σ := { s with memo := s.memo.shift k, farthest := s.farthest + k }

/-- What a run comes to, with all positions `k` characters later; `f` does that to what it returns. -/
def shiftedBy (k : Nat) (f : α → β) : EStateM.Result (Halt ε) (State σ) α → EStateM.Result (Halt ε) (State σ) β
  | .ok a s => .ok (f a) (s.shift k)
  | .error e s => .error e (s.shift k)

/-- What a match comes to, with all positions `k` characters later: where it ends, the farthest failures, and the memo
table. -/
def shifted (k : Nat) (x : EStateM.Result (Halt ε) (State σ) Result) : EStateM.Result (Halt ε) (State σ) Result :=
  shiftedBy k (Result.shift k) x

theorem State.note_shift (k : Nat) (s : State σ) (p : Nat) (d : String) :
    (s.shift k).note (p + k) d = (s.note p d).shift k := by
  unfold State.note State.shift
  simp only [Nat.add_lt_add_iff_right, Nat.add_right_cancel_iff]
  split_ifs <;> rfl

/-! ## Computations -/

/-- From a state with all positions `k` characters later, `y` does what `x` does, with all positions as much later. -/
def Shifts (k : Nat) (f : α → β) (x : Run σ ε α) (y : Run σ ε β) : Prop := ∀ s, y (s.shift k) = shiftedBy k f (x s)

namespace Shifts
variable {k : Nat} {f : α → β} {g : γ → δ}

theorem pure (a : α) {b : β} (h : f a = b) : Shifts (σ := σ) (ε := ε) k f (Pure.pure a) (Pure.pure b) := fun s =>
  congrArg (EStateM.Result.ok · (s.shift k)) h.symm

theorem bind {x : Run σ ε α} {y : Run σ ε β} {F : α → Run σ ε γ} {G : β → Run σ ε δ} (hx : Shifts k f x y)
    (hF : ∀ a, Shifts k g (F a) (G (f a))) : Shifts k g (x >>= F) (y >>= G) := by
  intro s
  have hy := hx s
  cases h : x s with
  | ok a t =>
    rw [h] at hy
    rw [bind_ok h, bind_ok hy]
    exact hF a t
  | error e t =>
    rw [h] at hy
    rw [bind_error h, bind_error hy]
    rfl

theorem silently {x : Run σ ε α} {y : Run σ ε β} (hx : Shifts k f x y) : Shifts k f (silently x) (silently y) := by
  intro s
  have hy : y (s.shift k).hush = _ := hx s.hush
  cases h : x s.hush with
  | ok a t =>
    rw [h] at hy
    rw [silently_ok h, silently_ok hy]
    rfl
  | error e t =>
    rw [h] at hy
    rw [silently_error h, silently_error hy]
    rfl

theorem failAt (p : Nat) (d : String) :
    Shifts (σ := σ) (ε := ε) k (Result.shift k) (failAt p d) (failAt (p + k) d) := by
  intro s
  change EStateM.Result.ok Result.failed ((s.shift k).note (p + k) d) = _
  rw [s.note_shift k p d]
  rfl

end Shifts

/-! ## Expressions -/

theorem getElem?_drop_add (text : List Char) (k p : Nat) : (text.drop k)[p]? = text[p + k]? := by
  rw [List.getElem?_drop, Nat.add_comm]

section
variable {m : Matcher σ ε} {k limit : Nat} {call call' : String → Nat → Run σ ε Result}

/-- Where the items of a sequence end, `k` characters later. -/
def shiftEnd (k : Nat) (q : Nat × List Value) : Nat × List Value := (q.1 + k, q.2)

theorem repetitionResult_shift (kind : Repetition) (q : Nat × List Value) :
    (repetitionResult kind q).shift k = repetitionResult kind (shiftEnd k q) := by
  obtain ⟨stop, vs⟩ := q
  cases kind <;> cases vs <;> rfl

/-- The turns of a repetition. -/
theorem repeatFrom_shifts {step step' : Nat → Run σ ε Result}
    (h : ∀ p, Shifts k (Result.shift k) (step p) (step' (p + k))) (turns : Nat) :
    ∀ p, Shifts k (shiftEnd k) (repeatFrom step turns p) (repeatFrom step' turns (p + k)) := by
  induction turns with
  | zero => exact fun _ _ => rfl
  | succ turns ih =>
    intro p
    rw [repeatFrom, repeatFrom]
    refine (h p).bind fun r => ?_
    cases r with
    | failed => exact .pure _ rfl
    | matched stop v =>
      dsimp only [Result.shift]
      simp only [Nat.add_right_cancel_iff]
      split_ifs
      · exact .pure _ rfl
      · exact (ih stop).bind fun q => .pure _ rfl

section
variable {ns : List Node}
  (hns : ∀ n ∈ ns, ∀ p, Shifts k (Result.shift k) (n.eval (m.withText (m.text.drop k)) limit call p)
    (n.eval m (limit + k) call' (p + k)))
include hns

theorem evalAll_shifts (p : Nat) : Shifts k (Option.map (shiftEnd k))
    (evalAll (m.withText (m.text.drop k)) limit call ns p) (evalAll m (limit + k) call' ns (p + k)) := by
  induction ns generalizing p with
  | nil => exact .pure _ rfl
  | cons n ns ih =>
    rw [evalAll, evalAll]
    refine (hns n List.mem_cons_self p).bind fun r => ?_
    cases r with
    | failed => exact .pure _ rfl
    | matched stop v =>
      refine (ih (fun i hi => hns i (List.mem_cons_of_mem n hi)) stop).bind fun q => ?_
      cases q with
      | none => exact .pure _ rfl
      | some q => exact .pure _ rfl

theorem evalFirst_shifts (p : Nat) : Shifts k (Result.shift k)
    (evalFirst (m.withText (m.text.drop k)) limit call ns p) (evalFirst m (limit + k) call' ns (p + k)) := by
  induction ns with
  | nil => exact .pure _ rfl
  | cons n ns ih =>
    rw [evalFirst, evalFirst]
    refine (hns n List.mem_cons_self p).bind fun r => ?_
    cases r with
    | failed => exact ih fun i hi => hns i (List.mem_cons_of_mem n hi)
    | matched stop v => exact .pure _ rfl

end

/-- **An expression without actions does the same on the rest of the text**, if the rules that it refers to do. -/
theorem Node.eval_shifts (hcall : ∀ r p, Shifts k (Result.shift k) (call r p) (call' r (p + k))) (n : Node)
    (hn : n.blocks = []) : ∀ p, Shifts k (Result.shift k) (n.eval (m.withText (m.text.drop k)) limit call p)
      (n.eval m (limit + k) call' (p + k)) := by
  have htext : (m.withText (m.text.drop k)).text = m.text.drop k := rfl
  induction n using Node.induction with
  | literal t i =>
    intro p
    simp only [Node.eval, htext, slice_drop, Nat.add_right_comm p t.length k]
    split_ifs
    · exact .pure _ (by rw [Result.shift, Nat.add_right_comm])
    · exact .failAt p _
  | charClass c =>
    intro p
    simp only [Node.eval, htext, getElem?_drop_add]
    split
    · split_ifs
      · exact .pure _ (by rw [Result.shift, Nat.add_right_comm])
      · exact .failAt p _
    · exact .failAt p _
  | any =>
    intro p
    simp only [Node.eval, htext, getElem?_drop_add]
    split
    · exact .pure _ (by rw [Result.shift, Nat.add_right_comm])
    · exact .failAt p _
  | ref r =>
    intro p
    simp only [Node.eval]
    exact hcall r p
  | followedBy n ih | notFollowedBy n ih =>
    intro p
    simp only [Node.eval]
    refine (ih (blocks_of_child hn List.mem_cons_self) p).silently.bind fun r => ?_
    cases r <;> exact .pure _ rfl
  | text n ih =>
    intro p
    simp only [Node.eval, htext]
    refine (ih (blocks_of_child hn List.mem_cons_self) p).bind fun r => ?_
    cases r with
    | failed => exact .pure _ rfl
    | matched stop v => exact .pure _ (by rw [slice_drop]; rfl)
  | labeled l n ih =>
    intro p
    simp only [Node.eval]
    exact ih (blocks_of_child hn List.mem_cons_self) p
  | repeated kind n ih =>
    intro p
    have hturn := ih (blocks_of_child hn List.mem_cons_self)
    have hturns : limit + k + 1 - (p + k) = limit + 1 - p := by omega
    cases kind with
    | optional =>
      simp only [Node.eval]
      refine (hturn p).bind fun r => ?_
      cases r <;> exact .pure _ rfl
    | star | plus =>
      simp only [Node.eval, hturns]
      exact (repeatFrom_shifts hturn _ p).bind fun q => .pure _ (repetitionResult_shift _ q)
  | sequence ns ih =>
    intro p
    simp only [Node.eval]
    refine (evalAll_shifts (fun n h => ih n h (blocks_of_child hn h)) p).bind fun q => ?_
    cases q <;> exact .pure _ rfl
  | choice ns ih =>
    intro p
    simp only [Node.eval]
    exact evalFirst_shifts (fun n h => ih n h (blocks_of_child hn h)) p
  | action n b _ _ => exact absurd hn (List.append_ne_nil_of_right_ne_nil _ (List.cons_ne_nil b []))

theorem Rule.evalWith_shifts {r : Rule} {eval eval' : Node → Nat → Run σ ε Result} {p : Nat}
    (h : Shifts k (Result.shift k) (eval r.body p) (eval' r.body (p + k))) :
    Shifts k (Result.shift k) (r.evalWith eval p) (r.evalWith eval' (p + k)) := by
  unfold Rule.evalWith
  cases r.display with
  | none => exact h
  | some d =>
    refine h.silently.bind fun q => ?_
    cases q with
    | failed => exact .failAt p d
    | matched stop v => exact .pure _ rfl

end

/-! ## Rules -/

theorem State.entered_shift (k : Nat) (name : String) (p : Nat) (s : State σ) :
    (s.shift k).entered name (p + k) = (s.entered name p).shift k := rfl

theorem Matcher.settled_shift (m : Matcher σ ε) (text : List Char) (k : Nat) (name : String) (p : Nat) (r : Result)
    (s : State σ) : m.settled name (p + k) (r.shift k) (s.shift k) = ((m.withText text).settled name p r s).shift k := by
  have hcached : (m.withText text).cached = m.cached := rfl
  have hinsert := s.memo.insert_shift k name p (.done r)
  have herase := s.memo.erase_shift k name p
  unfold settled
  rw [hcached]
  cases m.cached with
  | true => exact congrArg (fun memo => { s.shift k with memo := memo }) hinsert
  | false => exact congrArg (fun memo => { s.shift k with memo := memo }) herase

/-- **A rule without actions does the same on the rest of the text**, whatever is in progress and remembered. -/
theorem Matcher.apply_shifts {m : Matcher σ ε} (hm : m.grammar.Plain) (k limit depth : Nat) : ∀ name p,
    Shifts k (Result.shift k) ((m.withText (m.text.drop k)).apply limit depth name p)
      (m.apply (limit + k) depth name (p + k)) := by
  induction depth with
  | zero => exact fun _ _ _ => rfl
  | succ depth ih =>
    intro name p s
    have hfind : (s.shift k).memo.find? name (p + k) = (s.memo.find? name p).map (Entry.shift k) :=
      s.memo.find?_shift k name p
    cases hf : s.memo.find? name p with
    | some known =>
      rw [hf] at hfind
      cases known with
      | begun =>
        rw [apply_begun hf, apply_begun hfind]
        rfl
      | done r =>
        rw [apply_done hf, apply_done hfind]
        rfl
    | none =>
      rw [hf] at hfind
      cases hr : m.grammar.rule? name with
      | none =>
        have hr' : (m.withText (m.text.drop k)).grammar.rule? name = none := hr
        rw [apply_undefined hf hr', apply_undefined hfind hr]
        rfl
      | some rule =>
        have hr' : (m.withText (m.text.drop k)).grammar.rule? name = some rule := hr
        have hplain : rule.body.blocks = [] := hm rule (List.mem_of_find?_eq_some hr)
        have hrule : Shifts k (Result.shift k)
            (rule.evalWith (Node.eval (m.withText (m.text.drop k)) limit
              ((m.withText (m.text.drop k)).apply limit depth)) p)
            (rule.evalWith (Node.eval m (limit + k) (m.apply (limit + k) depth)) (p + k)) :=
          Rule.evalWith_shifts (Node.eval_shifts ih rule.body hplain p)
        have hbody := hrule (s.entered name p)
        rw [← s.entered_shift k name p] at hbody
        cases hx : rule.evalWith (Node.eval (m.withText (m.text.drop k)) limit
            ((m.withText (m.text.drop k)).apply limit depth)) p (s.entered name p) with
        | ok r t =>
          rw [hx] at hbody
          rw [apply_ok hf hr' hx, apply_ok hfind hr hbody, m.settled_shift (m.text.drop k) k name p r t]
          rfl
        | error e t =>
          rw [hx] at hbody
          rw [apply_error hf hr' hx, apply_error hfind hr hbody]
          rfl

/-! ## Parses -/

theorem State.restart_shift (s : State σ) (pos : Nat) : s.restart pos = (s.restart 0).shift pos := by
  unfold restart shift
  rw [Nat.zero_add]
  rfl

/-- **Without actions a parse depends on the rest of the text only.** On the text from `pos` on, the parse that starts
there comes to the same: it matches or fails with the same value, the same was expected at the farthest failures, and the
same is remembered, with all positions `pos` characters later. -/
theorem Matcher.parse_rest {m : Matcher σ ε} (hm : m.grammar.Plain) (name : String) (pos : Nat) (s : State σ) :
    m.parse name pos s = shifted pos ((m.withText (m.text.drop pos)).parse name 0 s) := by
  have hlength : (m.withText (m.text.drop pos)).text.length = m.text.length - pos := List.length_drop
  have hlimit : m.limit pos = (m.withText (m.text.drop pos)).limit 0 + pos := by
    unfold limit
    rw [hlength]
    change _ = max (m.text.length - pos) 0 + m.grammar.longestLiteral + pos
    omega
  -- the longer text allows for more applications inside each other than the rest needs
  have hdepth : (m.withText (m.text.drop pos)).depth ((m.withText (m.text.drop pos)).limit 0) ≤ m.depth (m.limit pos) := by
    rw [hlimit]
    exact Nat.succ_le_succ (Nat.mul_le_mul_left _ (Nat.succ_le_succ (Nat.le_add_right ..)))
  have hparse := ((m.withText (m.text.drop pos)).parse_halts name 0 s).unbounded _ _ (Nat.le_refl _) hdepth
  have hrun := apply_shifts hm pos ((m.withText (m.text.drop pos)).limit 0) (m.depth (m.limit pos)) name 0 (s.restart 0)
  rw [Nat.zero_add, ← hlimit, ← s.restart_shift pos, hparse] at hrun
  exact hrun

end

/-- A rule that refers to itself first, in front of a literal that ignores case and is longer than what it matches. -/
def dottedSum : Matcher Unit Unit where
  grammar := ⟨[⟨"s", none, .choice [.sequence [.ref "s", .literal [0x2B] false, .ref "i"], .ref "i"]⟩,
    ⟨"i", none, .literal [0x69, 0x307] true⟩], "s", []⟩
  actions := []
  cached := true
  text := ['-', '-', Char.ofNat 0x130]

theorem dottedSum_rest : dottedSum.grammar.Plain ∧ dottedSum.parse "s" 2 (State.initial ()) =
    shifted 2 ((dottedSum.withText [Char.ofNat 0x130]).parse "s" 0 (State.initial ())) := by
  have hplain : dottedSum.grammar.Plain := by decide
  exact ⟨hplain, Matcher.parse_rest hplain "s" 2 (State.initial ())⟩

end PegTemplate
