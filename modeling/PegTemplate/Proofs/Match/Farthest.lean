import PegTemplate.Proofs.Match.Moments

/-!
# The farthest failures

* `Failures.farthest`, `Failures.expectedAt` : the largest position of failures, and what was expected at a position;
* `Matcher.failures`, `Matcher.failuresInAll` : the failures that a parse meets, and a parse of a whole text, outside of
  lookaheads and of rules with a display name;
* `State.Records`, `InputError.Tells` : a record, and a report, of the farthest of these failures;
* `State.noteAll_records` : what is noted one after the other comes to that record;
* `Matcher.reports_farthest` : **a parse records and reports the farthest of the failures that it meets.**
-/

namespace PegTemplate

/-! ## Failures -/

/-- The largest position among failures; it is `start` if there are none. -/
def Failures.farthest (start : Nat) (fs : Failures) : Nat := (fs.map (·.1)).max?.getD start

/-- What was expected at a position, each description once, in the order in which they were first met. -/
def Failures.expectedAt (p : Nat) (fs : Failures) : List String := ((fs.filter (·.1 = p)).map (·.2)).eraseDups

namespace Failures
variable {fs : Failures} {start p : Nat} {d : String}

theorem le_farthest {f : Nat × String} (h : f ∈ fs) : f.1 ≤ fs.farthest start :=
  List.le_max?_getD_of_mem (List.mem_map_of_mem h)

theorem farthest_append (hp : start ≤ p) :
    Failures.farthest start (fs ++ [(p, d)]) = max (fs.farthest start) p := by
  have hmax : ((fs ++ [(p, d)]).map (·.1)).max? = some (max (fs.farthest start) p) := by
    rw [List.max?_eq_some_iff, List.map_append, List.map_singleton]
    constructor
    · -- without failures the largest position is the start, which is not past `p`
      cases hfs : (fs.map (·.1)).max? with
      | none =>
        rw [farthest, hfs, Option.getD_none, Nat.max_eq_right hp]
        exact List.mem_append_right _ (List.mem_singleton_self p)
      | some q =>
        rw [farthest, hfs, Option.getD_some]
        rcases Nat.le_total q p with h | h
        · rw [Nat.max_eq_right h]
          exact List.mem_append_right _ (List.mem_singleton_self p)
        · rw [Nat.max_eq_left h]
          exact List.mem_append_left _ (List.max?_eq_some_iff.1 hfs).1
    · intro q hq
      rcases List.mem_append.1 hq with hq | hq
      · obtain ⟨f, hf, rfl⟩ := List.mem_map.1 hq
        exact Nat.le_trans (le_farthest hf) (Nat.le_max_left ..)
      · rw [List.mem_singleton.1 hq]
        exact Nat.le_max_right ..
  rw [farthest, hmax, Option.getD_some]

theorem expectedAt_append_of_ne {q : Nat} (h : p ≠ q) : Failures.expectedAt q (fs ++ [(p, d)]) = fs.expectedAt q := by
  rw [expectedAt, expectedAt, List.filter_append, List.filter_cons_of_neg (by simpa using h), List.filter_nil,
    List.append_nil]

theorem expectedAt_append_self : Failures.expectedAt p (fs ++ [(p, d)]) = addDescription d (fs.expectedAt p) := by
  have hself : List.filter (fun f : Nat × String => f.1 = p) [(p, d)] = [(p, d)] :=
    List.filter_cons_of_pos (decide_eq_true rfl)
  rw [expectedAt, List.filter_append, hself, List.map_append, List.map_singleton, List.eraseDups_append, addDescription]
  have hmem : (fs.expectedAt p).contains d = ((fs.filter (·.1 = p)).map (·.2)).contains d := by
    rw [Bool.eq_iff_iff, List.contains_iff_mem, List.contains_iff_mem, expectedAt, List.mem_eraseDups]
  rw [hmem]
  split_ifs with h
  · rw [List.removeAll, List.filter_cons_of_neg (by simpa using h), List.filter_nil, List.eraseDups_nil, List.append_nil]
    rfl
  · rw [List.removeAll, List.filter_cons_of_pos (by simpa using h), List.filter_nil, List.eraseDups_cons, List.filter_nil,
      List.eraseDups_nil]
    rfl

/-- Where nothing has failed yet, nothing was expected. -/
theorem expectedAt_eq_nil (h : ∀ f ∈ fs, f.1 < p) : fs.expectedAt p = [] := by
  rw [expectedAt, List.filter_eq_nil_iff.2 fun f hf => by simpa using Nat.ne_of_lt (h f hf)]
  rfl

end Failures

section
variable {σ ε : Type}

/-! ## Records -/

/-- The state is a record of the farthest of these failures, from `start` on, and failures are noted again. -/
structure State.Records (s : State σ) (start : Nat) (fs : Failures) : Prop where
  silence : s.silence = 0
  farthest : s.farthest = fs.farthest start
  expected : s.expected = fs.expectedAt s.farthest

/-- One more failure. -/
theorem State.Records.note {s : State σ} {start p : Nat} {fs : Failures} (h : s.Records start fs) (hp : start ≤ p)
    (d : String) : (s.note p d).Records start (fs ++ [(p, d)]) := by
  obtain ⟨hsilence, hfarthest, hexpected⟩ := h
  have hmax : Failures.farthest start (fs ++ [(p, d)]) = max s.farthest p := by
    rw [hfarthest]
    exact Failures.farthest_append hp
  unfold State.note
  rw [if_neg (Nat.not_lt_of_le (Nat.le_of_eq hsilence))]
  split_ifs with hlt heq
  · -- the record begins anew
    have hnone : fs.expectedAt p = [] := Failures.expectedAt_eq_nil fun f hf =>
      Nat.lt_of_le_of_lt (hfarthest ▸ Failures.le_farthest hf) hlt
    refine ⟨hsilence, ?_, ?_⟩
    · rw [hmax, Nat.max_eq_right (Nat.le_of_lt hlt)]
    · rw [Failures.expectedAt_append_self, hnone]
      rfl
  · subst heq
    refine ⟨hsilence, ?_, ?_⟩
    · rw [hmax, Nat.max_self]
    · rw [Failures.expectedAt_append_self, ← hexpected]
  · refine ⟨hsilence, ?_, ?_⟩
    · rw [hmax, Nat.max_eq_left (Nat.le_of_not_lt hlt)]
    · rw [Failures.expectedAt_append_of_ne heq, ← hexpected]

/-- **Failures that are noted one after the other leave a record of the farthest of them.** -/
theorem State.noteAll_records {s : State σ} {start : Nat} (hs : s.silence = 0) (fs : Failures)
    (hfs : ∀ f ∈ fs, start ≤ f.1) : ((s.restart start).noteAll fs).Records start fs := by
  induction fs using List.reverseRecOn with
  | nil => exact ⟨hs, rfl, rfl⟩
  | append_singleton fs f ih =>
    obtain ⟨hinit, hlast⟩ := List.forall_mem_append.1 hfs
    rw [noteAll_append]
    exact (ih hinit).note (hlast f (List.mem_singleton_self f)) f.2

/-! ## Reports -/

/-- The failures that a parse meets outside of lookaheads and of rules with a display name, in order. -/
def Matcher.failures (m : Matcher σ ε) (name : String) (pos : Nat) (s : State σ) : Failures := heard (m.moments name pos s)

/-- The failures that the parse of a whole text meets; the last one is that the match ends before the text does. -/
def Matcher.failuresInAll (m : Matcher σ ε) (name : String) (s : State σ) : Failures :=
  m.failures name 0 s ++ match m.parse name 0 s with
    | .ok (.matched stop _) _ => if stop = m.text.length then [] else [(stop, "end of input")]
    | _ => []

/-- A report of the farthest of these failures: where it is, what was expected there, in order, and what was found. -/
structure InputError.Tells (e : InputError) (text : List Char) (fs : Failures) : Prop where
  location : e.location =
    locationOf text (fs.farthest 0) (fs.farthest 0 + if fs.farthest 0 < text.length then 1 else 0)
  expected : e.expected.Perm (fs.expectedAt (fs.farthest 0))
  sorted : e.expected.Pairwise (· ≤ ·)
  /-- Past the end of the text nothing was found. -/
  found : e.found = text[fs.farthest 0]?

/-- From `s` every parse records the farthest of the failures that it meets, and reports them. -/
structure Matcher.ReportsFarthest (m : Matcher σ ε) (s : State σ) : Prop where
  parse : ∀ name pos, (endState (m.parse name pos s)).Records pos (m.failures name pos s)
  parseAll : ∀ name, (endState (m.parseAll name s)).Records 0 (m.failuresInAll name s)
  report : ∀ name e t, m.parseAll name s = .error (.mismatch e) t → e.Tells m.text (m.failuresInAll name s)

theorem Matcher.parse_records (m : Matcher σ ε) {s : State σ} (hs : s.silence = 0) (name : String) (pos : Nat) :
    (endState (m.parse name pos s)).Records pos (m.failures name pos s) := by
  have hw := m.parse_watched name pos s
  have honward : ∀ f ∈ m.failures name pos s, pos ≤ f.1 := by
    intro f hf
    obtain ⟨q, hq, hheard⟩ := List.mem_filterMap.1 hf
    unfold Moment.heard? at hheard
    split_ifs at hheard
    exact hw.onward q hq f hheard
  have hrecords := State.noteAll_records hs (m.failures name pos s) honward
  have hfarthest := hw.noted.farthest.trans hrecords.farthest
  refine ⟨hw.noted.silence.trans hs, hfarthest, ?_⟩
  rw [hw.noted.expected, hw.noted.farthest]
  exact hrecords.expected

/-- The report that a record makes. -/
theorem State.Records.tells {s : State σ} {fs : Failures} (h : s.Records 0 fs) (text : List Char) :
    (inputErrorAt text s.farthest s.expected).Tells text fs := by
  rw [h.expected, h.farthest]
  exact ⟨rfl, List.mergeSort_perm _ _, pairwise_mergeSort _, rfl⟩

/-- **A parse records the farthest of the failures that it meets**, outside of lookaheads and of rules with a display
name, whatever it comes to; and where the text does not match, they are what it reports. -/
theorem Matcher.reports_farthest (m : Matcher σ ε) {s : State σ} (hs : s.silence = 0) : m.ReportsFarthest s := by
  have hall : ∀ name, (endState (m.parseAll name s)).Records 0 (m.failuresInAll name s) ∧
      ∀ e t, m.parseAll name s = .error (.mismatch e) t → e.Tells m.text (m.failuresInAll name s) := by
    intro name
    have hrecords := m.parse_records hs name 0
    unfold parseAll failuresInAll
    cases hx : m.parse name 0 s with
    | error e t =>
      rw [hx] at hrecords
      rw [List.append_nil]
      exact ⟨hrecords, fun _ _ h => nomatch h⟩
    | ok r t =>
      rw [hx] at hrecords
      cases r with
      | failed =>
        rw [List.append_nil]
        refine ⟨hrecords, fun e u h => ?_⟩
        cases h
        exact hrecords.tells m.text
      | matched stop v =>
        dsimp only
        split_ifs
        · rw [List.append_nil]
          exact ⟨hrecords, fun _ _ h => nomatch h⟩
        · have hnote := State.Records.note hrecords (Nat.zero_le stop) "end of input"
          refine ⟨hnote, fun e u h => ?_⟩
          cases h
          exact hnote.tells m.text
  exact ⟨m.parse_records hs, fun name => (hall name).1, fun name => (hall name).2⟩

end

/-- A rule with a display name behind a lookahead for it, a rule that is recalled, and one that refers to itself. -/
def hedged : Matcher Unit Unit where
  grammar := ⟨[⟨"s", none, .sequence [.notFollowedBy (.ref "word"), .choice [.ref "s", .ref "word", .ref "mark"],
      .repeated .optional (.ref "mark")]⟩,
    ⟨"word", some "a word", .literal [0x61] false⟩,
    ⟨"mark", none, .choice [.literal [0x2B] false, .literal [0x2D] false]⟩], "s", []⟩
  actions := []
  cached := true
  text := ['+', '*']

theorem hedged_reports : (State.initial ()).silence = 0 ∧ hedged.ReportsFarthest (State.initial ()) :=
  ⟨rfl, Matcher.reports_farthest hedged rfl⟩

example : hedged.failuresInAll "s" (State.initial ()) = [(1, "'+'"), (1, "'-'"), (1, "end of input")] := by decide +kernel

end PegTemplate
