import PegTemplate.Match.Report
import PegTemplate.Proofs.Match.Coupling
import PegTemplate.Proofs.Match.Step

/-!
# Bounds

* `State.Inside` : remembered matches and the farthest failures lie before a position;
* `Matcher.apply_bounds` : applications keep that, and the applications in progress are those at the start again;
* `Matcher.parse_ne_exhausted` : a parse is never stopped by the bounds of `Matcher.apply` and `repeatFrom`;
* `Matcher.StaysInside`, `Matcher.Overhangs`, `Matcher.staysInside_iff` : **matches stay inside the text unless what
  is left of it is matched by a longer literal that ignores case.**
-/

namespace PegTemplate

section
variable {σ ε : Type}

/-- What is remembered lies before `last`, each application is known once, and failures are not past `last`. -/
structure State.Inside (last : Nat) (s : State σ) : Prop where
  distinct : s.memo.Distinct
  endsBy : s.memo.EndsBy last
  farthest : s.farthest ≤ last

theorem State.Inside.note {last p : Nat} {s : State σ} (h : s.Inside last) (hp : p ≤ last) (d : String) :
    (s.note p d).Inside last where
  distinct := by
    rw [memo_note]
    exact h.distinct
  endsBy := by
    rw [memo_note]
    exact h.endsBy
  farthest := by
    have hf := h.farthest
    unfold State.note
    split_ifs
    · exact hf
    · exact hp
    · exact hf
    · exact hf

theorem State.Inside.entered {last : Nat} {s : State σ} (h : s.Inside last) {name : String} {pos : Nat}
    (hf : s.memo.find? name pos = none) : (s.entered name pos).Inside last :=
  ⟨h.distinct.enter hf, h.endsBy.enter name pos, h.farthest⟩

theorem State.Inside.settled {last : Nat} {s : State σ} (h : s.Inside last) {name : String} {pos : Nat}
    {stack : List Application} (hb : s.memo.begun = (name, pos) :: stack) {r : Result} (hr : r.EndsIn pos last)
    (m : Matcher σ ε) : (m.settled name pos r s).Inside last ∧ (m.settled name pos r s).memo.begun = stack := by
  obtain ⟨hdistinct, hbegun⟩ := m.begun_settled h.distinct hb r
  exact ⟨⟨hdistinct, m.endsBy_settled h.endsBy hr, h.farthest⟩, hbegun⟩

theorem State.Inside.restart {last pos : Nat} (hp : pos ≤ last) (s : State σ) : (s.restart pos).Inside last :=
  ⟨List.nodup_nil, fun _ h => absurd h List.not_mem_nil, hp⟩

/-- A run that keeps what is remembered before `last`, with `stack` in progress; if there is `room`, it is not
stopped by a bound. -/
def bounds (σ ε : Type) (last : Nat) (stack : List Application) (room : Prop) : Coupling σ σ ε where
  sound s := s.Inside last ∧ s.memo.begun = stack
  le _ _ := True
  halts e s := s.farthest ≤ last ∧ (room → e ≠ .exhausted)
  linked _ _ := False
  parted _ _ := False
  excused _ := False

theorem bounds_lawful (last : Nat) (stack : List Application) (room : Prop) :
    (bounds σ ε last stack room).Lawful 0 last where
  refl _ := trivial
  trans _ _ := trivial
  excused_le h _ := h
  le_note _ _ _ := trivial
  le_hush _ := trivial
  le_unhush _ := trivial
  sound_note {s p} d _ hp h := by
    refine ⟨h.1.note hp d, ?_⟩
    rw [State.memo_note]
    exact h.2
  sound_hush h := ⟨⟨h.1.distinct, h.1.endsBy, h.1.farthest⟩, h.2⟩
  sound_unhush h := ⟨⟨h.1.distinct, h.1.endsBy, h.1.farthest⟩, h.2⟩
  halts_unhush h := h
  linked_note _ _ _ h := h
  linked_hush h := h
  linked_unhush h := h
  parted_unhush h := h

theorem Matcher.act_bounds (m : Matcher σ ε) (last : Nat) (stack : List Application) (room : Prop) (b : Block)
    (i j : Nat) (ls : List Value) :
    Coupled (bounds σ ε last stack room) (fun _ => True) (m.act b i j ls) (m.act b i j ls) := by
  intro s hs
  obtain ⟨a, w, hne, hw⟩ := m.act_outcome b i j ls s
  rw [hw]
  cases a with
  | ok v => exact ⟨trivial, ⟨⟨hs.1.distinct, hs.1.endsBy, hs.1.farthest⟩, hs.2⟩, trivial, fun _ ht => ht.elim⟩
  | error e =>
    exact ⟨⟨hs.1.farthest, fun _ he => hne (congrArg Except.error he)⟩, trivial, fun _ ht => ht.elim⟩

/-- The applications in progress differ, are of defined rules and lie before `last`: so there is an end to them. -/
theorem Matcher.apply_bounds {m : Matcher σ ε} {limit last : Nat} (hm : m.Bound last) (hlimit : last ≤ limit)
    {room : Prop} (depth : Nat) : ∀ stack : List Application, (room → m.Room last depth stack) → ∀ name pos, 0 ≤ pos →
      pos ≤ last → Coupled (bounds σ ε last stack room) (·.EndsIn pos last) (m.apply limit depth name pos)
        (m.apply limit depth name pos) := by
  induction depth with
  | zero =>
    intro stack hroom name pos _ hp s hs
    exact ⟨⟨hs.1.farthest, fun h => absurd rfl ((hroom h).ne_zero (hs.2 ▸ hs.1.distinct.begun_nodup))⟩, trivial,
      fun t ht => ht.elim⟩
  | succ depth ih =>
    intro stack hroom name pos hlo hp s hs
    cases hf : s.memo.find? name pos with
    | some e =>
      cases e with
      | begun =>
        rw [apply_begun hf]
        exact ⟨trivial, hs, trivial, fun t ht => ht.elim⟩
      | done r =>
        rw [apply_done hf]
        exact ⟨hs.1.endsBy.find? hf, hs, trivial, fun t ht => ht.elim⟩
    | none =>
      cases hr : m.grammar.rule? name with
      | none =>
        rw [apply_undefined hf hr]
        exact ⟨⟨hs.1.farthest, fun _ => nofun⟩, trivial, fun t ht => ht.elim⟩
      | some rule =>
        have hC := bounds_lawful (σ := σ) (ε := ε) last ((name, pos) :: stack) room
        have hbody := Rule.evalWith_coupled hC hlo hp
          (Node.eval_coupled hC rfl hm.length_le hlimit hlimit (m.act_bounds last _ room)
            (ih _ fun h => (hroom h).push hr hp) rule.body (hm.fits name rule hr) pos hlo hp) (s.entered name pos)
          ⟨hs.1.entered hf, Memo.begun_enter hs.2 name pos⟩
        cases hx : rule.evalWith (Node.eval m limit (m.apply limit depth)) pos (s.entered name pos) with
        | ok r s' =>
          rw [hx] at hbody
          obtain ⟨hend, hs', -, -⟩ := hbody
          rw [apply_ok hf hr hx]
          exact ⟨hend, hs'.1.settled hs'.2 hend m, trivial, fun t ht => ht.elim⟩
        | error e s' =>
          rw [hx] at hbody
          rw [apply_error hf hr hx]
          exact ⟨hbody.1, trivial, fun t ht => ht.elim⟩

/-! ## Parses -/

theorem Matcher.parse_bounds {m : Matcher σ ε} {last pos : Nat} (hm : m.Bound last) (hp : pos ≤ last)
    (hlimit : last ≤ m.limit pos) (name : String) (s : State σ) :
    (bounds σ ε last [] True).Agree (·.EndsIn pos last) (s.restart pos)
      (m.apply (m.limit pos) (m.depth (m.limit pos)) name pos) (m.parse name pos s) := by
  exact apply_bounds hm hlimit (m.depth (m.limit pos)) [] (fun _ => .start hlimit) name pos (Nat.zero_le pos) hp
    (s.restart pos) ⟨State.Inside.restart hp s, rfl⟩

/-- **The bounds of matching are never reached.** -/
theorem Matcher.parse_ne_exhausted (m : Matcher σ ε) (name : String) (pos : Nat) (s : State σ) :
    answer (m.parse name pos s) ≠ .error .exhausted := by
  have h := parse_bounds (m.bound_limit pos) (m.start_le_limit pos) (Nat.le_refl _) name s
  cases hx : m.parse name pos s with
  | ok r s' => nofun
  | error e s' =>
    rw [hx] at h
    intro he
    exact h.1.2 trivial (Except.error.inj he)

/-! ## Inside the text -/

/-- From states inside the text a run that starts at `pos` ends inside the text, in such a state. -/
def Matcher.KeepsInside (m : Matcher σ ε) (pos : Nat) (x : Run σ ε Result) : Prop :=
  ∀ s : State σ, s.Inside m.text.length → match x s with
    | .ok r s' => r.EndsIn pos m.text.length ∧ s'.Inside m.text.length
    | .error _ s' => s'.farthest ≤ m.text.length

/-- What starts inside the text ends inside it, whether it is a parse, the application of a rule or a part of the
body of a rule; and so do the reports. -/
structure Matcher.StaysInside (m : Matcher σ ε) : Prop where
  parse : ∀ name, ∀ pos ≤ m.text.length, ∀ s, match m.parse name pos s with
    | .ok r s' => r.EndsIn pos m.text.length ∧ s'.Inside m.text.length
    | .error _ s' => s'.farthest ≤ m.text.length
  application : ∀ start depth name, ∀ pos ≤ m.text.length, m.KeepsInside pos (m.apply (m.limit start) depth name pos)
  part : ∀ name r (n : Node), m.grammar.rule? name = some r → n.Part r.body → ∀ start depth, ∀ pos ≤ m.text.length,
    m.KeepsInside pos (n.eval m (m.limit start) (m.apply (m.limit start) depth) pos)
  location : ∀ name s e s', m.parseAll name s = .error (.mismatch e) s' →
    e.location.start.offset ≤ m.text.length ∧ e.location.stop.offset ≤ m.text.length
  /-- The end of the text is expected where a character is left. -/
  endOfInput : ∀ name s stop v s', m.parse name 0 s = .ok (.matched stop v) s' → stop ≠ m.text.length →
    stop < m.text.length

/-- In lower case what is left of the text is a longer literal of a rule that ignores case. -/
def Matcher.Overhangs (m : Matcher σ ε) : Prop :=
  ∃ name r t pos, m.grammar.rule? name = some r ∧ Node.Part (.literal t true) r.body ∧ pos ≤ m.text.length ∧
    Unicode.lower (codes (m.text.drop pos)) = Unicode.lower t ∧ m.text.length < pos + t.length

theorem Matcher.bound_of_not_overhangs {m : Matcher σ ε} (h : ¬m.Overhangs) : m.Bound m.text.length where
  length_le := Nat.le_refl _
  fits := by
    intro name r hr t i ht p hp ha
    by_contra hlt
    cases i with
    | false => exact hlt (length_le_of_literalAccepts hp ha)
    | true =>
      rw [slice_of_length_le (by omega), literalAccepts_ignoreCase] at ha
      exact h ⟨name, r, t, p, hr, ht, hp, ha, Nat.lt_of_not_le hlt⟩

theorem inputErrorAt_inside {text : List Char} {p : Nat} (hp : p ≤ text.length) (ds : List String) :
    (inputErrorAt text p ds).location.start.offset ≤ text.length ∧
      (inputErrorAt text p ds).location.stop.offset ≤ text.length := by
  refine ⟨hp, ?_⟩
  change p + (if p < text.length then 1 else 0) ≤ text.length
  split_ifs <;> omega

theorem Matcher.length_le_limit (m : Matcher σ ε) (start : Nat) : m.text.length ≤ m.limit start :=
  (m.bound_limit start).length_le

section
variable {m : Matcher σ ε} (hm : m.Bound m.text.length)
include hm

theorem Matcher.Bound.application (start depth : Nat) (name : String) {pos : Nat} (hp : pos ≤ m.text.length) :
    m.KeepsInside pos (m.apply (m.limit start) depth name pos) := by
  intro s hs
  have h := apply_bounds hm (m.length_le_limit start) depth s.memo.begun (fun h : False => h.elim) name pos
    (Nat.zero_le pos) hp s ⟨hs, rfl⟩
  cases hx : m.apply (m.limit start) depth name pos s with
  | ok r s' =>
    rw [hx] at h
    exact ⟨h.1, h.2.1.1⟩
  | error e s' =>
    rw [hx] at h
    exact h.1.1

theorem Matcher.Bound.part {name : String} {r : Rule} {n : Node} (hr : m.grammar.rule? name = some r)
    (hn : n.Part r.body) (start depth : Nat) {pos : Nat} (hp : pos ≤ m.text.length) :
    m.KeepsInside pos (n.eval m (m.limit start) (m.apply (m.limit start) depth) pos) := by
  intro s hs
  have hlimit := m.length_le_limit start
  have h := Node.eval_coupled (bounds_lawful m.text.length s.memo.begun False) rfl hm.length_le hlimit hlimit
    (m.act_bounds _ _ _) (apply_bounds hm hlimit depth s.memo.begun False.elim) n
    (fun t i ht => hm.fits name r hr t i (ht.trans hn)) pos (Nat.zero_le pos) hp s ⟨hs, rfl⟩
  cases hx : n.eval m (m.limit start) (m.apply (m.limit start) depth) pos s with
  | ok r s' =>
    rw [hx] at h
    exact ⟨h.1, h.2.1.1⟩
  | error e s' =>
    rw [hx] at h
    exact h.1.1

theorem Matcher.Bound.parse (name : String) {pos : Nat} (hp : pos ≤ m.text.length) (s : State σ) :
    match m.parse name pos s with
    | .ok r s' => r.EndsIn pos m.text.length ∧ s'.Inside m.text.length
    | .error _ s' => s'.farthest ≤ m.text.length :=
  hm.application pos (m.depth (m.limit pos)) name hp (s.restart pos) (State.Inside.restart hp s)

theorem Matcher.Bound.endOfInput {name : String} {s s' : State σ} {stop : Nat} {v : Value}
    (h : m.parse name 0 s = .ok (.matched stop v) s') (hstop : stop ≠ m.text.length) : stop < m.text.length := by
  have hp := hm.parse name (Nat.zero_le _) s
  rw [h] at hp
  exact Nat.lt_of_le_of_ne hp.1.2 hstop

theorem Matcher.Bound.location {name : String} {s s' : State σ} {e : InputError}
    (h : m.parseAll name s = .error (.mismatch e) s') :
    e.location.start.offset ≤ m.text.length ∧ e.location.stop.offset ≤ m.text.length := by
  have hp := hm.parse name (Nat.zero_le _) s
  unfold parseAll at h
  cases hx : m.parse name 0 s with
  | error e' t =>
    rw [hx] at h
    cases h
  | ok r t =>
    rw [hx] at h hp
    cases r with
    | failed =>
      cases h
      exact inputErrorAt_inside hp.2.farthest _
    | matched stop v =>
      dsimp only at h
      split_ifs at h with hstop
      cases h
      exact inputErrorAt_inside (hp.2.note hp.1.2 _).farthest _

end

/-- **Matches stay inside the text, unless what is left of it is in lower case a longer literal that ignores case.** -/
theorem Matcher.staysInside_iff [Inhabited σ] (m : Matcher σ ε) : m.StaysInside ↔ ¬m.Overhangs := by
  constructor
  · rintro h ⟨name, r, t, pos, hr, ht, hp, hl, hlt⟩
    have hs : (State.initial (default : σ)).Inside m.text.length :=
      ⟨List.nodup_nil, fun _ h => absurd h List.not_mem_nil, Nat.zero_le _⟩
    have hlit := h.part name r _ hr ht 0 0 pos hp _ hs
    have ha : literalAccepts t true (slice m.text pos (pos + t.length)) = true := by
      rw [slice_of_length_le (Nat.le_of_lt hlt), literalAccepts_ignoreCase]
      exact hl
    simp only [Node.eval, if_pos ha] at hlit
    exact absurd hlit.1.2 (Nat.not_le_of_lt hlt)
  · intro h
    have hm := bound_of_not_overhangs h
    exact {
      parse := fun name pos hp s => hm.parse name hp s
      application := fun start depth name pos hp => hm.application start depth name hp
      part := fun name r n hr hn start depth pos hp => hm.part hr hn start depth hp
      location := fun name s e s' h => hm.location h
      endOfInput := fun name s stop v s' h => hm.endOfInput h }

/-- A letter of one character, and a literal of the two characters that are its lower case. -/
def dottedI : Matcher Unit Unit where
  grammar := ⟨[⟨"s", none, .literal [0x69, 0x307] true⟩], "s", []⟩
  actions := []
  cached := true
  text := [Char.ofNat 0x130]

theorem dottedI_leaves : (∃ v s, dottedI.parse "s" 0 (State.initial ()) = .ok (.matched 2 v) s) ∧
    dottedI.text.length = 1 ∧ ¬dottedI.StaysInside := by
  have h : ∃ v s, dottedI.parse "s" 0 (State.initial ()) = .ok (.matched 2 v) s := ⟨_, _, by rfl⟩
  refine ⟨h, rfl, fun hi => ?_⟩
  obtain ⟨v, s, hs⟩ := h
  have hp := hi.parse "s" 0 (Nat.zero_le _) (State.initial ())
  rw [hs] at hp
  exact absurd hp.1.2 (by decide)

end

end PegTemplate
