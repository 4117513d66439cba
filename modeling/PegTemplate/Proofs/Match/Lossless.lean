import PegTemplate.Match.Report
import PegTemplate.Proofs.Match.Parts
import PegTemplate.Proofs.Match.Step
import PegTemplate.Stock

/-!
# Values that spell the text

* `Result.Spells` : the texts in the value of a match, one after the other, are what the match passed over;
* `Memo.Spells` : so it is for all that is remembered;
* `Spelling` : a computation that keeps that, and what holds of its result;
* `Node.eval_spelling`, `Matcher.apply_spelling` : expressions without actions, and rules made of them, spell what they
  pass over;
* `Matcher.lossless_of_plain` : **without actions, parsing loses nothing of the text.**
-/

namespace PegTemplate

/-! ## Matches -/

/-- What the values of a row of matches spell is what they passed over, from `p` on. -/
def SpellsAll (text : List Char) (p : Nat) (q : Nat × List Value) : Prop :=
  p ≤ q.1 ∧ Value.textsInAll q.2 = String.ofList (slice text p q.1)

/-- The texts in the value of a match, one after the other, are what it passed over, from `p` on. -/
def Result.Spells (text : List Char) (p : Nat) : Result → Prop
  | .failed => True
  | .matched stop v => p ≤ stop ∧ v.textsIn = String.ofList (slice text p stop)

section
variable {text : List Char} {p q stop : Nat} {v : Value} {vs : List Value}

theorem SpellsAll.nil : SpellsAll text p (p, []) := by
  refine ⟨Nat.le_refl p, ?_⟩
  rw [slice_self]
  rfl

/-- A match in front of others. -/
theorem SpellsAll.cons (h : (Result.matched q v).Spells text p) (h' : SpellsAll text q (stop, vs)) :
    SpellsAll text p (stop, v :: vs) := by
  refine ⟨Nat.le_trans h.1 h'.1, ?_⟩
  rw [Value.textsInAll, h.2, h'.2, ← String.ofList_append, slice_append text h.1 h'.1]

theorem SpellsAll.list (h : SpellsAll text p (stop, vs)) : (Result.matched stop (.list vs)).Spells text p := h

/-- A match of nothing without a value. -/
theorem Result.spells_none : (Result.matched p .none).Spells text p := by
  refine ⟨Nat.le_refl p, ?_⟩
  rw [slice_self]
  rfl

/-- A match whose value is what it passed over. -/
theorem Result.spells_text (h : p ≤ stop) :
    (Result.matched stop (.text (String.ofList (slice text p stop)))).Spells text p :=
  ⟨h, rfl⟩

theorem Result.spells_char {c : Char} (h : text[p]? = some c) :
    (Result.matched (p + 1) (.text (String.singleton c))).Spells text p := by
  refine ⟨Nat.le_succ p, ?_⟩
  rw [slice_succ h]
  rfl

/-- A repetition spells what its turns do. -/
theorem SpellsAll.repetition (h : SpellsAll text p (stop, vs)) (kind : Repetition) :
    (repetitionResult kind (stop, vs)).Spells text p := by
  cases kind with
  | plus =>
    cases vs with
    | nil => trivial
    | cons v vs => exact h.list
  | _ => exact h.list

end

/-- Every remembered match spells what it passed over. -/
def Memo.Spells (text : List Char) (m : Memo) : Prop :=
  ∀ row ∈ m, ∀ r, row.entry = .done r → r.Spells text row.position

namespace Memo.Spells
variable {text : List Char} {m : Memo}

theorem nil : Spells text [] := List.forall_mem_nil _

theorem enter (h : m.Spells text) (rule : String) (position : Nat) : (m.enter rule position).Spells text :=
  List.forall_mem_cons.2 ⟨nofun, h⟩

theorem insert (h : m.Spells text) {rule : String} {position : Nat} {r : Result} (hr : r.Spells text position) :
    (m.insert rule position (.done r)).Spells text := by
  intro row hrow r' hr'
  rcases mem_insert hrow with rfl | hrow
  · cases hr'
    exact hr
  · exact h row hrow r' hr'

theorem erase (h : m.Spells text) (rule : String) (position : Nat) : (m.erase rule position).Spells text :=
  fun row hrow => h row (List.mem_filter.1 hrow).1

theorem find? (h : m.Spells text) {rule : String} {position : Nat} {r : Result}
    (hr : m.find? rule position = some (.done r)) : r.Spells text position := h _ (mem_of_find? hr) r rfl

end Memo.Spells

/-! ## Computations -/

section
variable {σ ε α β : Type} {text : List Char}

/-- A computation whose result is one of `Q`, and that keeps what is remembered in order. -/
def Spelling (text : List Char) (Q : α → Prop) (x : Run σ ε α) : Prop :=
  ∀ s a t, s.memo.Spells text → x s = .ok a t → Q a ∧ t.memo.Spells text

namespace Spelling
variable {Q : α → Prop} {R : β → Prop}

theorem pure {a : α} (h : Q a) : Spelling text Q (Pure.pure a : Run σ ε α) := by
  intro s a t hs hx
  cases hx
  exact ⟨h, hs⟩

theorem bind {x : Run σ ε α} {f : α → Run σ ε β} (hx : Spelling text Q x) (hf : ∀ a, Q a → Spelling text R (f a)) :
    Spelling text R (x >>= f) := by
  intro s b t hs h
  obtain ⟨a, u, ha, hb⟩ := bind_eq_ok h
  obtain ⟨hq, hu⟩ := hx s a u hs ha
  exact hf a hq u b t hu hb

theorem silently {x : Run σ ε α} (hx : Spelling text Q x) : Spelling text Q (silently x) := by
  intro s a t hs h
  cases hy : x s.hush with
  | ok b u =>
    rw [silently_ok hy] at h
    cases h
    exact hx s.hush a u hs hy
  | error e u =>
    rw [silently_error hy] at h
    cases h

theorem throw (e : Halt ε) : Spelling text Q (MonadExcept.throw e : Run σ ε α) := nofun

theorem failAt (p q : Nat) (d : String) : Spelling text (·.Spells text p) (failAt q d : Run σ ε Result) := by
  intro s r t hs h
  cases h
  exact ⟨trivial, (s.memo_note q d).symm ▸ hs⟩

/-- The turns of a repetition. -/
theorem repeatFrom {step : Nat → Run σ ε Result} (h : ∀ p, Spelling text (·.Spells text p) (step p)) (turns : Nat) :
    ∀ p, Spelling text (SpellsAll text p) (repeatFrom step turns p) := by
  induction turns with
  | zero => exact fun _ => throw .exhausted
  | succ turns ih =>
    intro p
    refine (h p).bind fun r hr => ?_
    cases r with
    | failed => exact .pure .nil
    | matched stop v =>
      dsimp only
      split_ifs with hstop
      · subst hstop
        exact .pure (SpellsAll.nil.cons hr)
      · exact (ih stop).bind fun q hq => .pure (hq.cons hr)

section
variable {m : Matcher σ ε} {limit : Nat} {call : String → Nat → Run σ ε Result} {ns : List Node}
  (h : ∀ n ∈ ns, ∀ p, Spelling text (·.Spells text p) (n.eval m limit call p))
include h

theorem evalAll (p : Nat) :
    Spelling text (fun q => ∀ a, q = some a → SpellsAll text p a) (evalAll m limit call ns p) := by
  induction ns generalizing p with
  | nil =>
    refine .pure fun a ha => ?_
    cases ha
    exact .nil
  | cons n ns ih =>
    rw [PegTemplate.evalAll]
    refine (h n List.mem_cons_self p).bind fun r hr => ?_
    cases r with
    | failed => exact .pure (by simp)
    | matched stop v =>
      refine (ih (fun k hk => h k (List.mem_cons_of_mem n hk)) stop).bind fun q hq => ?_
      cases q with
      | none => exact .pure (by simp)
      | some q =>
        refine .pure fun a ha => ?_
        cases ha
        exact (hq q rfl).cons hr

theorem evalFirst (p : Nat) : Spelling text (·.Spells text p) (evalFirst m limit call ns p) := by
  induction ns with
  | nil => exact .pure trivial
  | cons n ns ih =>
    rw [PegTemplate.evalFirst]
    refine (h n List.mem_cons_self p).bind fun r hr => ?_
    cases r with
    | failed => exact ih fun k hk => h k (List.mem_cons_of_mem n hk)
    | matched stop v => exact .pure hr

end

end Spelling

/-! ## Expressions -/

/-- **An expression without actions spells what it passes over**, if the rules that it refers to do. -/
theorem Node.eval_spelling {m : Matcher σ ε} {limit : Nat} {call : String → Nat → Run σ ε Result}
    (hcall : ∀ r p, Spelling m.text (·.Spells m.text p) (call r p)) (n : Node) (hn : n.blocks = []) :
    ∀ p, Spelling m.text (·.Spells m.text p) (n.eval m limit call p) := by
  induction n using Node.induction with
  | literal t i =>
    intro p
    simp only [Node.eval]
    split_ifs
    · exact .pure (Result.spells_text (Nat.le_add_right p _))
    · exact .failAt p p _
  | charClass c =>
    intro p
    simp only [Node.eval]
    split
    · rename_i hc
      split_ifs
      · exact .pure (Result.spells_char hc)
      · exact .failAt p p _
    · exact .failAt p p _
  | any =>
    intro p
    simp only [Node.eval]
    split
    · rename_i hc
      exact .pure (Result.spells_char hc)
    · exact .failAt p p _
  | ref r =>
    intro p
    simp only [Node.eval]
    exact hcall r p
  | followedBy n ih =>
    intro p
    simp only [Node.eval]
    refine (ih (blocks_of_child hn List.mem_cons_self) p).silently.bind fun r _ => ?_
    cases r with
    | failed => exact .pure trivial
    | matched stop v => exact .pure Result.spells_none
  | notFollowedBy n ih =>
    intro p
    simp only [Node.eval]
    refine (ih (blocks_of_child hn List.mem_cons_self) p).silently.bind fun r _ => ?_
    cases r with
    | failed => exact .pure Result.spells_none
    | matched stop v => exact .pure trivial
  | text n ih =>
    intro p
    simp only [Node.eval]
    refine (ih (blocks_of_child hn List.mem_cons_self) p).bind fun r hr => ?_
    cases r with
    | failed => exact .pure trivial
    | matched stop v => exact .pure (Result.spells_text hr.1)
  | labeled l n ih =>
    intro p
    simp only [Node.eval]
    exact ih (blocks_of_child hn List.mem_cons_self) p
  | repeated kind n ih =>
    intro p
    have hturn := ih (blocks_of_child hn List.mem_cons_self)
    cases kind with
    | optional =>
      simp only [Node.eval]
      refine (hturn p).bind fun r hr => ?_
      cases r with
      | failed => exact .pure Result.spells_none
      | matched stop v => exact .pure hr
    | star | plus =>
      simp only [Node.eval]
      exact (Spelling.repeatFrom hturn _ p).bind fun q hq => .pure (hq.repetition _)
  | sequence ns ih =>
    intro p
    simp only [Node.eval]
    refine (Spelling.evalAll (fun n hk => ih n hk (blocks_of_child hn hk)) p).bind fun q hq => ?_
    cases q with
    | none => exact .pure trivial
    | some q => exact .pure (hq q rfl).list
  | choice ns ih =>
    intro p
    simp only [Node.eval]
    exact .evalFirst (fun n hk => ih n hk (blocks_of_child hn hk)) p
  | action n b _ _ => exact absurd hn (List.append_ne_nil_of_right_ne_nil _ (List.cons_ne_nil b []))

theorem Rule.evalWith_spelling {r : Rule} {eval : Node → Nat → Run σ ε Result} {p : Nat}
    (h : Spelling text (·.Spells text p) (eval r.body p)) : Spelling text (·.Spells text p) (r.evalWith eval p) := by
  unfold Rule.evalWith
  cases r.display with
  | none => exact h
  | some d =>
    refine h.silently.bind fun q hq => ?_
    cases q with
    | failed => exact .failAt p p d
    | matched stop v => exact .pure hq

/-! ## Rules -/

/-- A grammar without actions. -/
def Grammar.Plain (g : Grammar) : Prop := ∀ r ∈ g.rules, r.body.blocks = []

instance (g : Grammar) : Decidable g.Plain := inferInstanceAs (Decidable (∀ r ∈ g.rules, r.body.blocks = []))

/-- Rules without actions spell what they pass over, whichever of them are in progress. -/
theorem Matcher.apply_spelling {m : Matcher σ ε} (hm : m.grammar.Plain) (limit depth : Nat) :
    ∀ name p, Spelling m.text (·.Spells m.text p) (m.apply limit depth name p) := by
  induction depth with
  | zero => exact fun _ _ => .throw .exhausted
  | succ depth ih =>
    intro name p s r t hs h
    cases hf : s.memo.find? name p with
    | some known =>
      cases known with
      | begun =>
        rw [apply_begun hf] at h
        cases h
        exact ⟨trivial, hs⟩
      | done q =>
        rw [apply_done hf] at h
        cases h
        exact ⟨hs.find? hf, hs⟩
    | none =>
      cases hr : m.grammar.rule? name with
      | none =>
        rw [apply_undefined hf hr] at h
        cases h
      | some rule =>
        have hplain : rule.body.blocks = [] := hm rule (List.mem_of_find?_eq_some hr)
        have hbody : Spelling m.text (·.Spells m.text p) (rule.evalWith (Node.eval m limit (m.apply limit depth)) p) :=
          Rule.evalWith_spelling (Node.eval_spelling ih rule.body hplain p)
        cases hx : rule.evalWith (Node.eval m limit (m.apply limit depth)) p (s.entered name p) with
        | error e u =>
          rw [apply_error hf hr hx] at h
          cases h
        | ok q u =>
          rw [apply_ok hf hr hx] at h
          cases h
          obtain ⟨hq, hu⟩ := hbody _ _ _ (hs.enter name p) hx
          refine ⟨hq, ?_⟩
          unfold settled
          dsimp only
          split_ifs
          · exact hu.insert hq
          · exact hu.erase name p

/-- What is parsed can be put together again from the texts in its value, whether it is a parse, the application of a
rule in the middle of one, or a whole text. -/
structure Matcher.Lossless (m : Matcher σ ε) : Prop where
  parse : ∀ name pos s stop v s', m.parse name pos s = .ok (.matched stop v) s' →
    pos ≤ stop ∧ v.textsIn = String.ofList (slice m.text pos stop)
  application : ∀ limit depth name pos s stop v s', s.memo.Spells m.text →
    m.apply limit depth name pos s = .ok (.matched stop v) s' →
    pos ≤ stop ∧ v.textsIn = String.ofList (slice m.text pos stop) ∧ s'.memo.Spells m.text
  whole : ∀ name s v s', m.parseAll name s = .ok v s' → v.textsIn = String.ofList m.text

/-- **Without actions, parsing loses nothing of the text.** -/
theorem Matcher.lossless_of_plain {m : Matcher σ ε} (hm : m.grammar.Plain) : m.Lossless := by
  have hparse : ∀ name pos s stop v s', m.parse name pos s = .ok (.matched stop v) s' →
      pos ≤ stop ∧ v.textsIn = String.ofList (slice m.text pos stop) := fun name pos s stop v s' h =>
    (apply_spelling hm _ _ name pos (s.restart pos) _ s' .nil h).1
  refine ⟨hparse, ?_, ?_⟩
  · intro limit depth name pos s stop v s' hs h
    obtain ⟨⟨hle, htexts⟩, hs'⟩ := apply_spelling hm limit depth name pos s _ s' hs h
    exact ⟨hle, htexts, hs'⟩
  · intro name s v s' h
    unfold parseAll at h
    cases hx : m.parse name 0 s with
    | error e t =>
      rw [hx] at h
      cases h
    | ok r t =>
      rw [hx] at h
      cases r with
      | failed => cases h
      | matched stop w =>
        dsimp only at h
        split_ifs at h with hstop
        cases h
        rw [(hparse name 0 s stop v _ hx).2, hstop, slice, List.drop_zero, Nat.sub_zero, List.take_length]

end

/-- A rule that refers to itself first, a literal that ignores case, and a repetition of nothing. -/
def woven : Matcher Unit Unit where
  grammar := ⟨[⟨"s", some "a sum", .choice [.sequence [.ref "s", .literal [0x2B] false],
      .sequence [.labeled "l" (.literal [0x69, 0x307] true), .repeated .star (.notFollowedBy .any),
        .repeated .optional (.literal [0x2D] false)]]⟩], "s", []⟩
  actions := []
  cached := true
  text := [Char.ofNat 0x130]

/-- The literal is longer than the text that it matches, and the value is that text. -/
theorem woven_lossless : woven.grammar.Plain ∧ woven.Lossless ∧ ∃ s', woven.parse "s" 0 (State.initial ()) =
    .ok (.matched 2 (.list [.text "İ", .list [.none], .none])) s' := by
  have hplain : woven.grammar.Plain := by decide
  exact ⟨hplain, Matcher.lossless_of_plain hplain, _, by rfl⟩

end PegTemplate
