import PegTemplate.Proofs.Match.Bounds
import PegTemplate.Proofs.Match.Trace

/-!
# Remembering is transparent

* `reliances` : which applications rely on the failure of which ones that are in progress, directly or through what
  they recall;
* `Stale` : a result is recalled that relies on an application which is not in progress any more;
* `Matcher.Replays` : a remembered result is what the application comes to without memory;
* `Matcher.applyTraced_replaying` : with memory and without an application comes to the same, unless something stale
  is recalled;
* `Matcher.parse_withCache` : **so does a parse**;
* `Matcher.parse_withCache_of_direct` : it does if rules begin with themselves only directly.

A result is remembered in the middle of applications in progress, and recalled in the middle of others. So the two
runs are compared with different ones below a common part: those of the run with memory are `above ++ below`, and
those of the run without are `above ++ below'`.
-/

namespace PegTemplate

/-! ## Reliances -/

/-- The applications in progress that began after `d`. -/
def Event.above (e : Event) (d : Application) : List Application := e.active.takeWhile (· ≠ d)

/-- Pairs of an application and one in progress on whose failure its result relies. -/
def reliances : List Event → List (Application × Application)
  | [] => []
  | e :: log => match e.kind with
    | .entered | .left => reliances log
    | .reentered => (e.above e.application).map (·, e.application) ++ reliances log
    | .recalled =>
      ((reliances log).filter (·.1 = e.application)).flatMap (fun x => (e.above x.2).map (·, x.2)) ++ reliances log

/-- A result is recalled that relies on an application not in progress any more. -/
def Stale : List Event → Prop
  | [] => False
  | e :: log => Stale log ∨ e.kind = .recalled ∧ ∃ x ∈ reliances log, x.1 = e.application ∧ x.2 ∉ e.active

instance decidableStale : (log : List Event) → Decidable (Stale log)
  | [] => inferInstanceAs (Decidable False)
  | e :: log =>
    have := decidableStale log
    inferInstanceAs (Decidable (Stale log ∨
      e.kind = .recalled ∧ ∃ x ∈ reliances log, x.1 = e.application ∧ x.2 ∉ e.active))

theorem reliances_cons (e : Event) (log : List Event) : reliances log ⊆ reliances (e :: log) := by
  intro x hx
  unfold reliances
  split
  · exact hx
  · exact hx
  · exact List.mem_append_right _ hx
  · exact List.mem_append_right _ hx

theorem reliances_subset {log log' : List Event} (h : log <:+ log') : reliances log ⊆ reliances log' := by
  obtain ⟨new, rfl⟩ := h
  induction new with
  | nil => exact fun _ h => h
  | cons e new ih => exact fun x hx => reliances_cons e _ (ih hx)

theorem Stale.mono {log log' : List Event} (hs : Stale log) (h : log <:+ log') : Stale log' := by
  obtain ⟨new, rfl⟩ := h
  induction new with
  | nil => exact hs
  | cons e new ih => exact Or.inl ih

theorem mem_above {e : Event} {above below : List Application} {x d : Application} (he : e.active = above ++ below)
    (hx : x ∈ above) (hd : d ∉ above) : x ∈ e.above d := by
  have hall : ∀ b ∈ above, decide (b ≠ d) = true := fun b hb => decide_eq_true fun h => hd (h ▸ hb)
  rw [Event.above, he, List.takeWhile_append_of_pos hall]
  exact List.mem_append_left _ hx

theorem mem_reliances_reentered {e : Event} {log : List Event} {x : Application} (hk : e.kind = .reentered)
    (hx : x ∈ e.above e.application) : (x, e.application) ∈ reliances (e :: log) := by
  rw [reliances, hk]
  exact List.mem_append_left _ (List.mem_map_of_mem hx)

theorem mem_reliances_recalled {e : Event} {log : List Event} {x d : Application} (hk : e.kind = .recalled)
    (hd : (e.application, d) ∈ reliances log) (hx : x ∈ e.above d) : (x, d) ∈ reliances (e :: log) := by
  rw [reliances, hk]
  refine List.mem_append_left _ (List.mem_flatMap.2 ⟨(e.application, d), ?_, List.mem_map_of_mem hx⟩)
  exact List.mem_filter.2 ⟨hd, decide_eq_true rfl⟩

/-- If every application that is met in progress is the newest one, nothing relies on another. -/
theorem reliances_of_direct {log : List Event}
    (h : ∀ e ∈ log, e.kind = .reentered → e.active.head? = some e.application) : reliances log = [] := by
  induction log with
  | nil => rfl
  | cons e log ih =>
    have ih := ih fun e' he' => h e' (List.mem_cons_of_mem _ he')
    unfold reliances
    split
    · exact ih
    · exact ih
    · rename_i hk
      obtain ⟨active, ha⟩ := List.head?_eq_some_iff.1 (h e (List.mem_cons_self ..) hk)
      rw [ih, Event.above, ha, List.takeWhile_cons_of_neg (by simp)]
      rfl
    · rw [ih]
      rfl

theorem not_stale_of_direct {log : List Event}
    (h : ∀ e ∈ log, e.kind = .reentered → e.active.head? = some e.application) : ¬Stale log := by
  induction log with
  | nil => exact id
  | cons e log ih =>
    have h' : ∀ e' ∈ log, e'.kind = .reentered → e'.active.head? = some e'.application := fun e' he' =>
      h e' (List.mem_cons_of_mem _ he')
    rintro (hs | ⟨-, x, hx, -⟩)
    · exact ih h' hs
    · rw [reliances_of_direct h'] at hx
      cases hx

section
variable {σ ε : Type}

/-! ## Replays -/

/-- Without memory the application comes to `r`, whatever is in progress, as long as that is all that the application
relies on, and nothing that is done. -/
def Matcher.Replays (m : Matcher σ ε) (limit hi : Nat) (log : List Event) (memo : Memo) (a : Application)
    (r : Result) : Prop :=
  ¬Stale log → ∀ depth stack, stack.Nodup → m.Room hi depth stack → (∀ d, (a, d) ∈ reliances log → d ∈ stack) →
    (∀ b ∈ stack, ∀ q, memo.find? b.1 b.2 ≠ some (.done q)) → ∀ t : State σ, t.memo = .ofStack stack →
      ∃ t', (m.withCache false).apply limit depth a.1 a.2 t = .ok r t' ∧ t'.memo = .ofStack stack

theorem Matcher.Replays.mono {m : Matcher σ ε} {limit hi : Nat} {log log' : List Event} {memo memo' : Memo}
    {a : Application} {r : Result} (h : m.Replays limit hi log memo a r) (hlog : log <:+ log')
    (hdone : ∀ name pos q, memo.find? name pos = some (.done q) → ∃ q', memo'.find? name pos = some (.done q')) :
    m.Replays limit hi log' memo' a r := by
  intro hs depth stack hn hroom hrel hnot t ht
  refine h (fun h => hs (h.mono hlog)) depth stack hn hroom (fun d hd => hrel d (reliances_subset hlog hd))
    (fun b hb q hq => ?_) t ht
  obtain ⟨q', hq'⟩ := hdone b.1 b.2 q hq
  exact hnot b hb q' hq'

/-- The applications of `stack` are in progress, and what is remembered replays. -/
structure Matcher.Replayable (m : Matcher σ ε) (limit hi : Nat) (stack : List Application) (s : State (Traced σ)) :
    Prop where
  inside : s.Inside hi
  begun : s.memo.begun = stack
  replays : ∀ name pos r, s.memo.find? name pos = some (.done r) → m.Replays limit hi s.log s.memo (name, pos) r

namespace Matcher.Replayable
variable {m : Matcher σ ε} {limit hi : Nat} {stack : List Application} {s s' : State (Traced σ)}

theorem congr (h : m.Replayable limit hi stack s) (hmemo : s'.memo = s.memo) (hlog : s'.log = s.log)
    (hf : s'.farthest ≤ hi) : m.Replayable limit hi stack s' := by
  refine ⟨⟨hmemo ▸ h.inside.distinct, hmemo ▸ h.inside.endsBy, hf⟩, hmemo ▸ h.begun, ?_⟩
  rw [hmemo, hlog]
  exact h.replays

theorem emit (h : m.Replayable limit hi stack s) (kind : Happening) (name : String) (pos : Nat) :
    m.Replayable limit hi stack (s.emit kind name pos) :=
  ⟨⟨h.inside.distinct, h.inside.endsBy, h.inside.farthest⟩, h.begun, fun name' pos' r hr =>
    (h.replays name' pos' r hr).mono (List.suffix_cons ..) fun _ _ q hq => ⟨q, hq⟩⟩

theorem entered (h : m.Replayable limit hi stack s) {name : String} {pos : Nat} (hf : s.memo.find? name pos = none) :
    m.Replayable limit hi ((name, pos) :: stack) (s.entered name pos) := by
  have hfind : ∀ name' pos' q, (s.memo.enter name pos).find? name' pos' = some (.done q) →
      s.memo.find? name' pos' = some (.done q) := by
    intro name' pos' q hq
    by_cases hk : name = name' ∧ pos = pos'
    · obtain ⟨rfl, rfl⟩ := hk
      rw [Memo.find?_enter_self] at hq
      cases hq
    · rwa [Memo.find?_enter_of_ne hk] at hq
  have hfind' : ∀ name' pos' q, s.memo.find? name' pos' = some (.done q) →
      (s.memo.enter name pos).find? name' pos' = some (.done q) := by
    intro name' pos' q hq
    rw [Memo.find?_enter_of_ne fun hk => by rw [← hk.1, ← hk.2, hf] at hq; cases hq]
    exact hq
  refine ⟨h.inside.entered hf, Memo.begun_enter h.begun name pos, fun name' pos' r hr => ?_⟩
  exact (h.replays name' pos' r (hfind name' pos' r hr)).mono List.suffix_rfl fun _ _ q hq => ⟨q, hfind' _ _ q hq⟩

/-- The newest application is done. -/
theorem settled {name : String} {pos : Nat} (h : m.Replayable limit hi ((name, pos) :: stack) s) {r : Result}
    (hr : r.EndsIn pos hi) (hx : m.Replays limit hi s.log (s.memo.insert name pos (.done r)) (name, pos) r) :
    m.Replayable limit hi stack ((m.withCache true).traced.settled name pos r s) := by
  obtain ⟨hinside, hbegun⟩ := h.inside.settled h.begun hr (m.withCache true).traced
  refine ⟨hinside, hbegun, fun name' pos' r' hr' => ?_⟩
  change (s.memo.insert name pos (.done r)).find? name' pos' = some (.done r') at hr'
  change m.Replays limit hi s.log (s.memo.insert name pos (.done r)) (name', pos') r'
  by_cases hk : name = name' ∧ pos = pos'
  · obtain ⟨rfl, rfl⟩ := hk
    rw [Memo.find?_insert_self] at hr'
    cases hr'
    exact hx
  · rw [Memo.find?_insert_of_ne hk] at hr'
    refine (h.replays name' pos' r' hr').mono List.suffix_rfl fun name'' pos'' q hq => ?_
    by_cases hk' : name = name'' ∧ pos = pos''
    · obtain ⟨rfl, rfl⟩ := hk'
      exact ⟨r, Memo.find?_insert_self ..⟩
    · exact ⟨q, by rw [Memo.find?_insert_of_ne hk']; exact hq⟩

end Matcher.Replayable

/-! ## The runs side by side -/

/-- Without memory, an application is unknown unless it is in progress. -/
theorem State.find?_of_ofStack {t : State σ} {stack : List Application} (ht : t.memo = .ofStack stack) {name : String}
    {pos : Nat} (h : (name, pos) ∉ stack) : t.memo.find? name pos = none := by
  rw [ht]
  exact Memo.find?_ofStack_of_notMem h

/-- A run with memory beside a run without. The first is excused if it recalls something stale, if it knows an
application that is in progress below the second one only, or if its oldest application above relies on one that is in
progress below the first one only. -/
def Matcher.replaying (m : Matcher σ ε) (limit hi : Nat) (above below below' : List Application) :
    Coupling (Traced σ) σ ε where
  sound := m.Replayable limit hi (above ++ below)
  le s s' := s.log <:+ s'.log ∧ s.memo.keys ⊆ s'.memo.keys
  halts _ _ := True
  linked _ t := t.memo = .ofStack (above ++ below')
  parted _ _ := True
  excused s := Stale s.log ∨ (∃ a ∈ below', a ∉ below ∧ a ∈ s.memo.keys) ∨
    ∃ d ∈ below, d ∉ below' ∧ ∃ x ∈ above.getLast?, (x, d) ∈ reliances s.log

theorem Matcher.replaying_lawful (m : Matcher σ ε) (limit hi : Nat) (above below below' : List Application) :
    (m.replaying limit hi above below below').Lawful 0 hi where
  refl s := ⟨List.suffix_rfl, fun _ h => h⟩
  trans h h' := ⟨h.1.trans h'.1, fun _ ha => h'.2 (h.2 ha)⟩
  excused_le := by
    rintro s t (h | ⟨a, ha, hb, hk⟩ | ⟨d, hd, hn, x, hx, hr⟩) hl
    · exact Or.inl (h.mono hl.1)
    · exact Or.inr (Or.inl ⟨a, ha, hb, hl.2 hk⟩)
    · exact Or.inr (Or.inr ⟨d, hd, hn, x, hx, reliances_subset hl.1 hr⟩)
  le_note s p d := by
    change s.log <:+ (s.note p d).log ∧ s.memo.keys ⊆ (s.note p d).memo.keys
    rw [State.log_note, State.memo_note]
    exact ⟨List.suffix_rfl, fun _ h => h⟩
  le_hush s := ⟨List.suffix_rfl, fun _ h => h⟩
  le_unhush s := ⟨List.suffix_rfl, fun _ h => h⟩
  sound_note {s p} d _ hp h := h.congr (s.memo_note p d) (s.log_note p d) (h.inside.note hp d).farthest
  sound_hush h := h.congr rfl rfl h.inside.farthest
  sound_unhush h := h.congr rfl rfl h.inside.farthest
  halts_unhush _ := trivial
  linked_note {s t p} d _ _ h := by
    change (t.note p d).memo = _
    rw [State.memo_note]
    exact h
  linked_hush h := h
  linked_unhush h := h
  parted_unhush _ := trivial

theorem Matcher.act_replaying {m : Matcher σ ε} (hm : m.Pure) (limit hi : Nat) (above below below' : List Application)
    (b : Block) (i j : Nat) (ls : List Value) : Coupled (m.replaying limit hi above below below') (fun _ => True)
      ((m.withCache true).traced.act b i j ls) ((m.withCache false).act b i j ls) := by
  intro s hs
  obtain ⟨a, ha⟩ := hm.acts b i j ls
  obtain ⟨w, hw⟩ := (show (m.withCache true).Acts b i j ls a from ha).run s.untraced
  have hright := (show (m.withCache false).Acts b i j ls a from ha).run
  rw [act_traced hw]
  cases a with
  | ok v =>
    refine ⟨trivial, hs.congr rfl rfl hs.inside.farthest, ⟨List.suffix_rfl, fun _ h => h⟩, fun t ht => Or.inr ?_⟩
    obtain ⟨w', hw'⟩ := hright t
    exact ⟨_, hw', ht⟩
  | error e =>
    refine ⟨trivial, ⟨List.suffix_rfl, fun _ h => h⟩, fun t ht => Or.inr ?_⟩
    obtain ⟨w', hw'⟩ := hright t
    exact ⟨_, hw', trivial⟩

section
variable {m : Matcher σ ε} {limit hi : Nat}

/-- The body of a rule, with and without memory. -/
theorem Matcher.body_replaying (hm : m.Bound hi) (hp : m.Pure) (hlimit : hi ≤ limit) {name : String} {pos : Nat}
    {rule : Rule} (hr : m.grammar.rule? name = some rule) (hpos : pos ≤ hi) {above below below' : List Application}
    {depth depth' : Nat} (hcall : ∀ name pos, 0 ≤ pos → pos ≤ hi →
      Coupled (m.replaying limit hi above below below') (·.EndsIn pos hi)
        ((m.withCache true).applyTraced limit depth name pos) ((m.withCache false).apply limit depth' name pos)) :
    Coupled (m.replaying limit hi above below below') (·.EndsIn pos hi)
      (rule.evalWith (Node.eval (m.withCache true).traced limit ((m.withCache true).applyTraced limit depth)) pos)
      (rule.evalWith (Node.eval (m.withCache false) limit ((m.withCache false).apply limit depth')) pos) := by
  have hC := m.replaying_lawful limit hi above below below'
  exact Rule.evalWith_coupled hC (Nat.zero_le pos) hpos (Node.eval_coupled hC rfl hm.length_le hlimit hlimit
    (act_replaying hp limit hi above below below') hcall rule.body (hm.fits name rule hr) pos (Nat.zero_le pos) hpos)

/-- What is remembered of an application replays, if its body comes to the same without memory. -/
theorem Matcher.replays_of_body {name : String} {pos : Nat} {rule : Rule} (hr : m.grammar.rule? name = some rule)
    (hpos : pos ≤ hi) {stack : List Application} {x : Run (Traced σ) ε Result}
    (hbody : ∀ depth' stack', ((name, pos) :: stack').Nodup → m.Room hi depth' ((name, pos) :: stack') →
      Coupled (m.replaying limit hi [(name, pos)] stack stack') (·.EndsIn pos hi) x
        (rule.evalWith (Node.eval (m.withCache false) limit ((m.withCache false).apply limit depth')) pos))
    {s s' : State (Traced σ)} (hs : m.Replayable limit hi ((name, pos) :: stack) s) {r : Result} (hx : x s = .ok r s')
    (hs' : m.Replayable limit hi ((name, pos) :: stack) s') :
    m.Replays limit hi s'.log (s'.memo.insert name pos (.done r)) (name, pos) r := by
  intro hstale depth stack' hn hroom hrel hnot t ht
  have hnew : (name, pos) ∉ stack' := fun h => hnot _ h r (Memo.find?_insert_self ..)
  obtain ⟨depth, rfl⟩ := Nat.exists_eq_succ_of_ne_zero (hroom.ne_zero hn)
  have hc := hbody depth stack' (List.nodup_cons.2 ⟨hnew, hn⟩) (hroom.push hr hpos) s hs
  rw [hx] at hc
  have hlinked : (t.entered name pos).memo = .ofStack ((name, pos) :: stack') := by
    change t.memo.enter name pos = _
    rw [ht, Memo.enter_ofStack]
  -- none of the three excuses holds: for the second, what is known and not in progress would be done
  rcases hc.2.2.2 (t.entered name pos) hlinked with (hex | ⟨a, ha, hb, hk⟩ | ⟨d, hd, hd', y, hy, hrel'⟩) | ⟨t', hy, ht'⟩
  · exact absurd hex hstale
  · have hne : (name, pos) ≠ a := fun h => hnew (h ▸ ha)
    have hbegun : a ∉ s'.memo.begun := by
      rw [hs'.begun, List.mem_cons]
      rintro (h | h)
      · exact hne h.symm
      · exact hb h
    obtain ⟨q, hq⟩ := Memo.exists_done hk hbegun
    refine absurd ?_ (hnot a ha q)
    rw [Memo.find?_insert_of_ne fun h => hne (Prod.ext h.1 h.2)]
    exact hq
  · obtain rfl : (name, pos) = y := by simpa using hy
    exact absurd (hrel d hrel') hd'
  · refine ⟨_, apply_ok (State.find?_of_ofStack ht hnew) hr hy, ?_⟩
    change t'.memo.erase name pos = .ofStack stack'
    rw [show t'.memo = .ofStack ((name, pos) :: stack') from ht', Memo.erase_ofStack hnew]

theorem exists_getLast? {above below : List Application} (h : above = [] → below = []) {d : Application}
    (hd : d ∈ below) : ∃ x ∈ above.getLast?, x ∈ above := by
  cases above with
  | nil => exact absurd (h rfl ▸ hd) List.not_mem_nil
  | cons a above => exact ⟨_, List.getLast?_eq_some_getLast (List.cons_ne_nil a above), List.getLast_mem _⟩

/-- The oldest application above began after one that is in progress in the first run only. -/
theorem exists_above {above below below' : List Application} (h : above = [] → below = []) {e : Event}
    (he : e.active = above ++ below) {d : Application} (hd : d ∈ above ++ below) (hnot : d ∉ above ++ below') :
    d ∈ below ∧ d ∉ below' ∧ ∃ x ∈ above.getLast?, x ∈ e.above d := by
  have hd' : d ∉ above := fun h => hnot (List.mem_append_left _ h)
  have hb := (List.mem_append.1 hd).resolve_left hd'
  obtain ⟨x, hx, hxa⟩ := exists_getLast? h hb
  exact ⟨hb, fun h => hnot (List.mem_append_right _ h), x, hx, mem_above he hxa hd'⟩

/-- The oldest application above is the same with a newer one. -/
theorem Matcher.excused_of_cons {above below below' : List Application} (h : above = [] → below = []) {a : Application}
    {s : State (Traced σ)} (hs : (m.replaying limit hi (a :: above) below below').excused s) :
    (m.replaying limit hi above below below').excused s := by
  rcases hs with hs | hs | ⟨d, hd, hd', x, hx, hrel⟩
  · exact Or.inl hs
  · exact Or.inr (Or.inl hs)
  · obtain ⟨y, hy, -⟩ := exists_getLast? h hd
    have hyx : y = x := by
      rw [Option.mem_def] at hx hy
      rw [List.getLast?_cons, hy] at hx
      exact Option.some.inj hx
    exact Or.inr (Or.inr ⟨d, hd, hd', y, hy, hyx ▸ hrel⟩)

section
variable {above below below' : List Application} (habove : above = [] → below = []) {depth depth' : Nat}
  {name : String} {pos : Nat} {s : State (Traced σ)} (hs : m.Replayable limit hi (above ++ below) s)
include habove hs

/-- An application that is in progress in the run with memory. -/
theorem Matcher.begun_replaying (hf : s.memo.find? name pos = some .begun) :
    (m.replaying limit hi above below below').Agree (·.EndsIn pos hi) s
      ((m.withCache false).apply limit (depth' + 1) name pos)
      ((m.withCache true).applyTraced limit (depth + 1) name pos s) := by
  rw [applyTraced_begun hf]
  refine ⟨trivial, hs.emit .., ⟨List.suffix_cons .., fun _ h => h⟩, fun t ht => ?_⟩
  by_cases hright : (name, pos) ∈ above ++ below'
  · refine Or.inr ⟨t, apply_begun ?_, ht⟩
    rw [show t.memo = _ from ht]
    exact Memo.find?_ofStack_of_mem hright
  · have hmem : (name, pos) ∈ above ++ below := hs.begun ▸ (Memo.mem_begun_iff hs.inside.distinct).2 hf
    obtain ⟨hb, hb', x, hx, hxa⟩ := exists_above (e := s.event .reentered name pos) habove hs.begun hmem hright
    exact Or.inl (Or.inr (Or.inr ⟨(name, pos), hb, hb', x, hx, mem_reliances_reentered rfl hxa⟩))

/-- An application whose result is recalled. -/
theorem Matcher.done_replaying (hroom : m.Room hi (depth' + 1) (above ++ below')) (hnodup : (above ++ below').Nodup)
    {r : Result} (hf : s.memo.find? name pos = some (.done r)) :
    (m.replaying limit hi above below below').Agree (·.EndsIn pos hi) s
      ((m.withCache false).apply limit (depth' + 1) name pos)
      ((m.withCache true).applyTraced limit (depth + 1) name pos s) := by
  rw [applyTraced_done hf]
  refine ⟨hs.inside.endsBy.find? hf, hs.emit .., ⟨List.suffix_cons .., fun _ h => h⟩, fun t ht => ?_⟩
  by_contra hcon
  obtain ⟨hexc, hcon⟩ := not_or.1 hcon
  obtain ⟨hstale, hexc⟩ := not_or.1 hexc
  obtain ⟨hkeys, hlost⟩ := not_or.1 hexc
  -- as nothing stale is recalled, what the result relies on is in progress, and then it is so in both runs
  have hrel : ∀ d, ((name, pos), d) ∈ reliances s.log → d ∈ above ++ below' := by
    intro d hd
    by_contra hright
    have hactive : d ∈ above ++ below := by
      by_contra h
      exact hstale (Or.inr ⟨rfl, _, hd, rfl, fun h' => h (hs.begun ▸ h')⟩)
    obtain ⟨hb, hb', x, hx, hxa⟩ := exists_above (e := s.event .recalled name pos) habove hs.begun hactive hright
    exact hlost ⟨d, hb, hb', x, hx, mem_reliances_recalled rfl hd hxa⟩
  have hdone : ∀ b ∈ above ++ below', ∀ q, s.memo.find? b.1 b.2 ≠ some (.done q) := by
    intro b hb q hq
    by_cases hleft : b ∈ above ++ below
    · rw [(Memo.mem_begun_iff hs.inside.distinct).1 (hs.begun ▸ hleft)] at hq
      cases hq
    · have hb' := (List.mem_append.1 hb).resolve_left fun h => hleft (List.mem_append_left _ h)
      exact hkeys ⟨b, hb', fun h => hleft (List.mem_append_right _ h), Memo.mem_keys_of_find? hq⟩
  exact hcon (hs.replays name pos r hf (fun h => hstale (Or.inl h)) _ _ hnodup hroom hrel hdone t ht)

omit habove in
/-- The run without memory is not in the middle of an application that the other one knows from now on. -/
theorem Matcher.excused_of_entered (hf : s.memo.find? name pos = none) (h : (name, pos) ∈ above ++ below')
    {s' : State (Traced σ)} (hk : (name, pos) ∈ s'.memo.keys) :
    (m.replaying limit hi above below below').excused s' := by
  have hnot : (name, pos) ∉ above ++ below := fun h =>
    Memo.find?_eq_none_iff.1 hf (s.memo.begun_subset_keys (hs.begun ▸ h))
  exact Or.inr (Or.inl ⟨(name, pos), (List.mem_append.1 h).resolve_left fun h => hnot (List.mem_append_left _ h),
    fun h => hnot (List.mem_append_right _ h), hk⟩)

omit habove in
/-- An application of a rule that is not defined. -/
theorem Matcher.undefined_replaying (hf : s.memo.find? name pos = none) (hr : m.grammar.rule? name = none) :
    (m.replaying limit hi above below below').Agree (·.EndsIn pos hi) s
      ((m.withCache false).apply limit (depth' + 1) name pos)
      ((m.withCache true).applyTraced limit (depth + 1) name pos s) := by
  rw [applyTraced_undefined (m := m.withCache true) hf hr]
  refine ⟨trivial, ⟨List.suffix_cons .., fun _ h => List.mem_cons_of_mem _ h⟩, fun t ht => ?_⟩
  by_cases hright : (name, pos) ∈ above ++ below'
  · exact Or.inl (excused_of_entered hs hf hright (List.mem_cons_self ..))
  · exact Or.inr ⟨_, apply_undefined (State.find?_of_ofStack ht hright) hr, trivial⟩

/-- An application that begins in the run with memory, if its body comes to the same in the middle of it, whatever is
in progress below in the run without. -/
theorem Matcher.entered_replaying (hroom : m.Room hi (depth' + 1) (above ++ below')) (hnodup : (above ++ below').Nodup)
    (hlimit : hi ≤ limit) (hpos : pos ≤ hi) {rule : Rule} (hf : s.memo.find? name pos = none)
    (hr : m.grammar.rule? name = some rule)
    (hbody : ∀ depth' above' below₁ below₂, above' ++ below₁ = (name, pos) :: (above ++ below) → above' ≠ [] →
      m.Room hi depth' (above' ++ below₂) → (above' ++ below₂).Nodup →
      Coupled (m.replaying limit hi above' below₁ below₂) (·.EndsIn pos hi)
        (rule.evalWith (Node.eval (m.withCache true).traced limit ((m.withCache true).applyTraced limit depth)) pos)
        (rule.evalWith (Node.eval (m.withCache false) limit ((m.withCache false).apply limit depth')) pos)) :
    (m.replaying limit hi above below below').Agree (·.EndsIn pos hi) s
      ((m.withCache false).apply limit (depth' + 1) name pos)
      ((m.withCache true).applyTraced limit (depth + 1) name pos s) := by
  have hs₁ : m.Replayable limit hi ((name, pos) :: (above ++ below)) ((s.emit .entered name pos).entered name pos) :=
    (hs.emit .entered name pos).entered hf
  have hstart : s.log <:+ ((s.emit .entered name pos).entered name pos).log := List.suffix_cons ..
  have hroom₀ : m.Room hi (m.grammar.rules.length * (limit + 1) + 1) [] := .start hlimit
  -- the body with the application alone above is for what is remembered, with all others above for the second run
  have hself := hbody _ [(name, pos)] (above ++ below) [] rfl (List.cons_ne_nil _ _) (hroom₀.push hr hpos)
    (List.nodup_singleton _) _ hs₁
  have hpush (hright : (name, pos) ∉ above ++ below') := hbody depth' ((name, pos) :: above) below below' rfl
    (List.cons_ne_nil _ _) (hroom.push hr hpos) (List.nodup_cons.2 ⟨hright, hnodup⟩) _ hs₁
  have hlinked : ∀ t : State σ, t.memo = .ofStack (above ++ below') →
      (t.entered name pos).memo = .ofStack ((name, pos) :: above ++ below') := by
    intro t ht
    change t.memo.enter name pos = _
    rw [ht]
    rfl
  cases hx : rule.evalWith (Node.eval (m.withCache true).traced limit
      ((m.withCache true).applyTraced limit depth)) pos ((s.emit .entered name pos).entered name pos) with
  | error e s' =>
    rw [hx] at hself hpush
    rw [applyTraced_error (m := m.withCache true) hf hr hx]
    refine ⟨trivial, ⟨hstart.trans hself.2.1.1, fun a ha => hself.2.1.2 (List.mem_cons_of_mem _ ha)⟩, fun t ht => ?_⟩
    by_cases hright : (name, pos) ∈ above ++ below'
    · exact Or.inl (excused_of_entered hs hf hright (hself.2.1.2 (List.mem_cons_self ..)))
    · rcases (hpush hright).2.2 (t.entered name pos) (hlinked t ht) with hexc | ⟨t', hy, -⟩
      · exact Or.inl (excused_of_cons habove hexc)
      · exact Or.inr ⟨t', apply_error (State.find?_of_ofStack ht hright) hr hy, trivial⟩
  | ok r s' =>
    rw [hx] at hself hpush
    obtain ⟨hend, hs', hle, -⟩ := hself
    rw [applyTraced_ok (m := m.withCache true) hf hr hx]
    have hknown : (name, pos) ∈ s'.memo.keys := hle.2 (List.mem_cons_self ..)
    have hsettled : (m.replaying limit hi above below below').le s'
        (((m.withCache true).traced.settled name pos r s').emit .left name pos) := by
      refine ⟨List.suffix_cons .., ?_⟩
      change s'.memo.keys ⊆ (s'.memo.insert name pos (.done r)).keys
      rw [Memo.keys_insert hknown]
      exact fun _ h => h
    refine ⟨hend, (hs'.settled hend ?_).emit .., ⟨(hstart.trans hle.1).trans hsettled.1,
      fun a ha => hsettled.2 (hle.2 (List.mem_cons_of_mem _ ha))⟩, fun t ht => ?_⟩
    · exact replays_of_body hr hpos (fun depth' stack' hn hroom₂ => hbody depth' [(name, pos)] (above ++ below)
        stack' rfl (List.cons_ne_nil _ _) hroom₂ hn) hs₁ hx hs'
    · by_cases hright : (name, pos) ∈ above ++ below'
      · exact Or.inl (excused_of_entered hs hf hright (hsettled.2 hknown))
      · rcases (hpush hright).2.2.2 (t.entered name pos) (hlinked t ht) with hexc | ⟨t', hy, ht'⟩
        · exact Or.inl ((m.replaying_lawful limit hi above below below').excused_le (excused_of_cons habove hexc)
            hsettled)
        · refine Or.inr ⟨_, apply_ok (State.find?_of_ofStack ht hright) hr hy, ?_⟩
          change t'.memo.erase name pos = .ofStack (above ++ below')
          rw [show t'.memo = .ofStack ((name, pos) :: (above ++ below')) from ht', Memo.erase_ofStack hright]

end

/-- **With memory and without, an application comes to the same**, unless something stale is recalled. -/
theorem Matcher.applyTraced_replaying (hm : m.Bound hi) (hp : m.Pure) (hlimit : hi ≤ limit) (depth : Nat) :
    ∀ depth' above below below', (above = [] → below = []) → m.Room hi depth (above ++ below) →
      m.Room hi depth' (above ++ below') → (above ++ below').Nodup → ∀ name pos, 0 ≤ pos → pos ≤ hi →
        Coupled (m.replaying limit hi above below below') (·.EndsIn pos hi)
          ((m.withCache true).applyTraced limit depth name pos) ((m.withCache false).apply limit depth' name pos) := by
  induction depth with
  | zero =>
    intro depth' above below below' _ hroom _ _ name pos _ _ s hs
    exact absurd rfl (hroom.ne_zero (hs.begun ▸ hs.inside.distinct.begun_nodup))
  | succ depth ih =>
    intro depth' above below below' habove hroom hroom' hnodup name pos hlo hpos s hs
    obtain ⟨depth', rfl⟩ := Nat.exists_eq_succ_of_ne_zero (hroom'.ne_zero hnodup)
    cases hf : s.memo.find? name pos with
    | some e =>
      cases e with
      | begun => exact begun_replaying habove hs hf
      | done r => exact done_replaying habove hs hroom' hnodup hf
    | none =>
      cases hr : m.grammar.rule? name with
      | none => exact undefined_replaying hs hf hr
      | some rule =>
        refine entered_replaying habove hs hroom' hnodup hlimit hpos hf hr ?_
        intro depth' above' below₁ below₂ he hne hroom₂ hn₂
        exact body_replaying hm hp hlimit hr hpos
          (ih depth' above' below₁ below₂ (fun h => absurd h hne) (he ▸ hroom.push hr hpos) hroom₂ hn₂)

/-! ## Parses -/

/-- **With memory and without, a parse comes to the same**, unless something stale is recalled. -/
theorem Matcher.parse_withCache {m : Matcher σ ε} (hm : m.Pure) {name : String} {pos : Nat} {s : State σ}
    (h : ¬Stale ((m.withCache true).trace name pos s)) (t : State σ) :
    answer ((m.withCache true).parse name pos s) = answer ((m.withCache false).parse name pos t) := by
  have hc := applyTraced_replaying (m.bound_limit pos) hm (Nat.le_refl _) (m.depth (m.limit pos))
    (m.depth (m.limit pos)) [] [] [] (fun _ => rfl) (.start (Nat.le_refl _)) (.start (Nat.le_refl _)) List.nodup_nil
    name pos (Nat.zero_le pos) (m.start_le_limit pos) ((s.withLog []).restart pos)
    ⟨State.Inside.restart (m.start_le_limit pos) _, rfl, nofun⟩
  have hexc : ∀ {s' : State (Traced σ)}, s'.log = (m.withCache true).trace name pos s →
      ¬(m.replaying (m.limit pos) (m.limit pos) [] [] []).excused s' := by
    rintro s' hl (hs | ⟨a, ha, -⟩ | ⟨d, hd, -⟩)
    · exact h (hl ▸ hs)
    · cases ha
    · cases hd
  rw [parse_answer]
  change answer ((m.withCache true).applyTraced (m.limit pos) (m.depth (m.limit pos)) name pos
    ((s.withLog []).restart pos)) = answer ((m.withCache false).apply (m.limit pos) (m.depth (m.limit pos)) name pos
    (t.restart pos))
  have htrace : (m.withCache true).trace name pos s = (endState ((m.withCache true).applyTraced (m.limit pos)
    (m.depth (m.limit pos)) name pos ((s.withLog []).restart pos))).log := rfl
  cases hx : (m.withCache true).applyTraced (m.limit pos) (m.depth (m.limit pos)) name pos
      ((s.withLog []).restart pos) with
  | ok r s' =>
    rw [hx] at hc htrace
    obtain ⟨t', hy, -⟩ := (hc.2.2.2 (t.restart pos) rfl).resolve_left (hexc htrace.symm)
    rw [hy]
    rfl
  | error e s' =>
    rw [hx] at hc htrace
    obtain ⟨t', hy, -⟩ := (hc.2.2 (t.restart pos) rfl).resolve_left (hexc htrace.symm)
    rw [hy]
    rfl

/-- **With memory and without, a parse comes to the same**, if all applications that it meets in progress are the
newest ones: rules may begin with themselves, but not through others. -/
theorem Matcher.parse_withCache_of_direct {m : Matcher σ ε} (hm : m.Pure) {name : String} {pos : Nat} {s : State σ}
    (h : ∀ e ∈ (m.withCache true).trace name pos s, e.kind = .reentered → e.active.head? = some e.application)
    (t : State σ) : answer ((m.withCache true).parse name pos s) = answer ((m.withCache false).parse name pos t) :=
  parse_withCache hm (not_stale_of_direct h) t

end

end

end PegTemplate
