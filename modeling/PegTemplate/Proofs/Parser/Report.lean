import PegTemplate.Proofs.Match.Conformance
import PegTemplate.Proofs.Parser.Cache

/-!
# Reports of parsers with and without a cache

* `InputError.Same` : two reports give the same place, expect the same and found the same;
* `InputError.Covers` : a report tells of a failure, or of failures farther to the right;
* `Matcher.Told` : a report tells of what the results that were recalled for it expect by themselves;
* `Parser.same_iff_told` : **without re-entry the reports with and without a cache are the same exactly then**;
* `overlooked` : a grammar for which they are not.

A result that is recalled does not note the failures that it came from. They were noted when it was remembered,
unless that was inside a predicate or a rule with a display name.
-/

namespace PegTemplate

/-! ## Reports -/

/-- The same place, the same expectations, and the same character found. -/
def InputError.Same (e e' : InputError) : Prop :=
  e.location = e'.location ∧ e.expected = e'.expected ∧ e.found = e'.found

/-- A report tells of a failure, or of failures farther to the right. -/
def InputError.Covers (e : InputError) (f : Nat × String) : Prop :=
  f.1 < e.location.start.offset ∨ f.1 = e.location.start.offset ∧ f.2 ∈ e.expected

instance (e : InputError) (f : Nat × String) : Decidable (e.Covers f) :=
  inferInstanceAs (Decidable (_ ∨ _ ∧ _))

theorem mergeSort_eq_of_perm {ds es : List String} (h : ds.Perm es) : ds.mergeSort = es.mergeSort :=
  List.Perm.eq_of_pairwise (fun a b _ _ => String.le_antisymm) (pairwise_mergeSort ds) (pairwise_mergeSort es)
    (((List.mergeSort_perm _ _).trans h).trans (List.mergeSort_perm _ _).symm)

section
variable {σ ε : Type}

/-- The report that a state makes. -/
def State.report (text : List Char) (s : State σ) : InputError := inputErrorAt text s.farthest s.expected

theorem State.covers_report {text : List Char} {s : State σ} {f : Nat × String} :
    (s.report text).Covers f ↔ s.Covers f :=
  or_congr Iff.rfl (and_congr Iff.rfl List.mem_mergeSort)

/-- Two reports are the same if the records cover the same. -/
theorem State.same_report_iff {text : List Char} {s t : State σ} (hs : s.expected.Nodup) (ht : t.expected.Nodup) :
    (s.report text).Same (t.report text) ↔ ∀ f, s.Covers f ↔ t.Covers f := by
  constructor
  · rintro ⟨hloc, hexp, -⟩ f
    have hs : (s.report text).Covers f ↔ s.Covers f := covers_report
    have ht : (t.report text).Covers f ↔ t.Covers f := covers_report
    rw [← hs, ← ht, InputError.Covers, InputError.Covers, hloc, hexp]
  · intro h
    obtain ⟨hf, he⟩ := eq_of_covers h
    have hperm := mergeSort_eq_of_perm ((List.perm_ext_iff_of_nodup hs ht).2 he)
    unfold report inputErrorAt InputError.Same
    rw [hf, hperm]
    exact ⟨rfl, rfl, rfl⟩

/-! ## Records -/

/-- The record of failures of an application by itself, with nothing remembered. -/
def Matcher.recordOf (m : Matcher σ ε) (w : σ) (a : Application) : State σ :=
  endState ((m.withCache false).parse a.1 a.2 (State.initial w))

/-- A report tells of whatever is expected, by itself, by a result that was recalled while failures were noted. -/
def Matcher.Told (m : Matcher σ ε) (w : σ) (log : List Event) (e : InputError) : Prop :=
  ∀ ev ∈ log, ev.kind = .recalled → ev.silent = false →
    ∀ d ∈ (m.recordOf w ev.application).expected, e.Covers ((m.recordOf w ev.application).farthest, d)

instance (m : Matcher σ ε) (w : σ) (log : List Event) (e : InputError) : Decidable (m.Told w log e) :=
  inferInstanceAs (Decidable (∀ ev ∈ log, ev.kind = .recalled → ev.silent = false →
    ∀ d ∈ (m.recordOf w ev.application).expected, e.Covers ((m.recordOf w ev.application).farthest, d)))

/-- What a parse records is, together with what is recalled, what the derivation notes. -/
theorem Matcher.Derives.record {m : Matcher σ ε} {name : String} {pos : Nat} {a : Except (Halt ε) Result}
    {fs : Failures} (h : m.Derives [] (.ref name) pos a fs) (w : σ) :
    answer (m.parse name pos (State.initial w)) = a ∧
      (endState (m.parse name pos (State.initial w))).silence = 0 ∧
      (endState (m.parse name pos (State.initial w))).expected.Nodup ∧
      (∀ ev ∈ m.trace name pos (State.initial w), ev.kind = .recalled →
        m.cached = true ∧ ∃ b gs, m.Derives [] (.ref ev.application.1) ev.application.2 b gs) ∧
      ∀ f, (endState (m.parse name pos (State.initial w))).Covers f ∨
        m.Recalled (m.trace name pos (State.initial w)) f ↔ f.1 < pos ∨ fs.Cover f := by
  have : Nonempty σ := ⟨w⟩
  obtain ⟨ha, hg⟩ := h.parseTraced ((State.initial w).withLog [])
  have hend : endState (m.parse name pos (State.initial w)) =
      (endState (m.parseTraced name pos ((State.initial w).withLog []))).untraced :=
    (m.parseTraced_untraced name pos ((State.initial w).withLog [])).2
  obtain ⟨new, hl, hnew, hf⟩ := hg.log
  have htrace : m.trace name pos (State.initial w) = new := hl.trans (List.append_nil new)
  rw [hend, htrace]
  refine ⟨(m.parse_answer ..).trans ha, hg.silence, hg.nodup List.nodup_nil, fun ev hev => (hnew ev hev).2,
    fun f => (hf f).trans ?_⟩
  rw [State.covers_restart]
  exact or_congr Iff.rfl (and_iff_right rfl)

/-- Without a cache a parse records what the derivation notes. -/
theorem Matcher.Derives.recordOf {m : Matcher σ ε} {a : Application} {b : Except (Halt ε) Result} {fs : Failures}
    (h : m.Derives [] (.ref a.1) a.2 b fs) (w : σ) (f : Nat × String) :
    (m.recordOf w a).Covers f ↔ f.1 < a.2 ∨ fs.Cover f := by
  obtain ⟨-, -, -, hrecalled, hf⟩ := (h.withCache false).record w
  -- without a cache nothing is recalled
  have hnone : ¬(m.withCache false).Recalled ((m.withCache false).trace a.1 a.2 (State.initial w)) f := by
    rintro ⟨ev, hev, hk, -⟩
    cases (hrecalled ev hev hk).1
  exact (or_iff_left hnone).symm.trans (hf f)

/-- A record covers what is recalled if the report that it makes tells of it. -/
theorem Matcher.told_iff {m : Matcher σ ε} {w : σ} {log : List Event} (text : List Char) {s : State σ}
    (h : ∀ ev ∈ log, ev.kind = .recalled → ∃ b gs, m.Derives [] (.ref ev.application.1) ev.application.2 b gs) :
    m.Told w log (s.report text) ↔ ∀ f, m.Recalled log f → s.Covers f := by
  have : Nonempty σ := ⟨w⟩
  have hev : ∀ ev ∈ log, ev.kind = .recalled → ∀ b gs, m.Derives [] (.ref ev.application.1) ev.application.2 b gs →
      ((∀ f, gs.Cover f → s.Covers f) ↔ ∀ d ∈ (m.recordOf w ev.application).expected,
        s.Covers ((m.recordOf w ev.application).farthest, d)) := by
    intro ev _ _ b gs hd
    exact State.covers_all_iff (hd.recordOf w) (hd.endsIn (m.bound_limit ev.application.2)
      (m.start_le_limit ev.application.2) (.of_children nofun nofun)).2
  constructor
  · rintro ht f ⟨ev, hmem, hk, hs, b, gs, hd, hf⟩
    refine (hev ev hmem hk b gs hd).2 (fun d hd' => ?_) f hf
    exact State.covers_report.1 (ht ev hmem hk hs d hd')
  · intro hr ev hmem hk hs d hd'
    obtain ⟨b, gs, hd⟩ := h ev hmem hk
    refine State.covers_report.2 ((hev ev hmem hk b gs hd).1 (fun f hf => ?_) d hd')
    exact hr f ⟨ev, hmem, hk, hs, b, gs, hd, hf⟩

/-! ## Parsers -/

/-- If what a record lacks of another one was recalled, the reports are the same if the first one tells of that. -/
theorem Matcher.same_report_iff_told {m : Matcher σ ε} {w : σ} {log : List Event} (text : List Char) {s t : State σ}
    (hs : s.expected.Nodup) (ht : t.expected.Nodup)
    (h : ∀ ev ∈ log, ev.kind = .recalled → ∃ b gs, m.Derives [] (.ref ev.application.1) ev.application.2 b gs)
    (hcovers : ∀ f, t.Covers f ↔ s.Covers f ∨ m.Recalled log f) :
    (t.report text).Same (s.report text) ↔ m.Told w log (s.report text) := by
  rw [State.same_report_iff ht hs, told_iff text h]
  constructor
  · exact fun hsame f hf => (hsame f).1 ((hcovers f).2 (Or.inr hf))
  · exact fun htold f => (hcovers f).trans ⟨fun hf => hf.elim id (htold f), Or.inl⟩

/-- **Without re-entry the reports with and without a cache are the same** exactly if the first one tells of what is
expected by what was recalled for it. -/
theorem Parser.same_iff_told {p : Parser} (hp : p.Closed) {host : Host σ} {text : String}
    {options : List (Value × Value)} {start : Option String} {w : σ}
    (hm : (p.matcher host options true text.toList).Pure) {cached : Bool}
    (hc : Clean ((p.matcher host options cached text.toList).trace (p.startRule start) 0 (State.initial w)))
    {e : InputError} {w' : σ} (h : (p.withCache true).parse host text options start w = .error (.mismatch e) w') :
    ∃ e' w'', (p.withCache false).parse host text options start w = .error (.mismatch e') w'' ∧
      (e'.Same e ↔ (p.matcher host options true text.toList).Told w
        ((p.matcher host options true text.toList).trace (p.startRule start) 0 (State.initial w)) e) := by
  have : Nonempty σ := ⟨w⟩
  by_cases hallowed : p.allowed.contains (p.startRule start) = true
  · have hname := hp.allowed _ (List.contains_iff_mem.1 hallowed)
    obtain ⟨fs₀, hd₀⟩ := Matcher.derivable_of_clean (m := p.matcher host options cached text.toList) hm hp.grammar
      hname hc
    obtain ⟨a, fs, hd⟩ : ∃ a fs, (p.matcher host options true text.toList).Derives [] (.ref (p.startRule start)) 0
        a fs := ⟨_, fs₀, hd₀.withCache true⟩
    have hd' : (p.matcher host options false text.toList).Derives [] (.ref (p.startRule start)) 0 a fs :=
      hd.withCache false
    obtain ⟨ha, hsilent, hnodup, hrecalled, hcovers⟩ := hd.record w
    obtain ⟨ha', hsilent', hnodup', -⟩ := hd'.record w
    have hcov : ∀ f, (endState ((p.matcher host options false text.toList).parse (p.startRule start) 0
        (State.initial w))).Covers f ↔ _ :=
      fun f => (hd.recordOf (a := (p.startRule start, 0)) w f).trans (hcovers f).symm
    have hder := fun ev hev hk => (hrecalled ev hev hk).2
    rw [parse_eq p true host text options start w hallowed] at h
    rw [parse_eq p false host text options start w hallowed]
    cases hx : (p.matcher host options true text.toList).parse (p.startRule start) 0 (State.initial w) with
    | error e' s =>
      rw [hx] at h
      cases h
    | ok r s =>
      rw [hx] at h ha hsilent hnodup hcov
      cases hy : (p.matcher host options false text.toList).parse (p.startRule start) 0 (State.initial w) with
      | error e' t =>
        rw [hy, ← ha] at ha'
        cases ha'
      | ok r' t =>
        rw [hy] at ha' hsilent' hnodup' hcov
        obtain rfl : r' = r := Except.ok.inj (ha'.trans ha.symm)
        cases r' with
        | failed =>
          cases h
          exact ⟨_, _, rfl, Matcher.same_report_iff_told text.toList hnodup hnodup' hder hcov⟩
        | matched stop v =>
          dsimp only at h ⊢
          split_ifs at h ⊢ with hstop
          cases h
          refine ⟨_, _, rfl, Matcher.same_report_iff_told text.toList (State.nodup_note hnodup _ _)
            (State.nodup_note hnodup' _ _) hder fun f => ?_⟩
          rw [State.covers_note (s := t) hsilent', State.covers_note (s := s) hsilent, show t.Covers f ↔ _ from hcov f]
          exact or_right_comm
  · rw [parse_disallowed p true host text options start w hallowed] at h
    cases h

end

/-- What fails inside a predicate is tried again after it. -/
def overlooked : Parser where
  source := "start = &x 'z' / x\nx = 'a' 'b'\n"
  grammar := ⟨[⟨"start", none, .choice [.sequence [.followedBy (.ref "x"), .literal [0x7A] false], .ref "x"]⟩,
    ⟨"x", none, .sequence [.literal [0x61] false, .literal [0x62] false]⟩], "start", []⟩
  actions := []
  context := []
  allowed := ["start"]
  cached := true

/-- With a cache nothing is expected at the first character, without one it is the second letter at the second. -/
theorem overlooked_differs : ∃ e w e' w',
    (overlooked.withCache true).parse (stockHost []) "ac" [] none (Stock.initial 0) = .error (.mismatch e) w ∧
    (overlooked.withCache false).parse (stockHost []) "ac" [] none (Stock.initial 0) = .error (.mismatch e') w' ∧
    (∀ cached, Clean ((overlooked.matcher (stockHost []) [] cached "ac".toList).trace "start" 0
      (State.initial (Stock.initial 0)))) ∧
    e.location.start.offset = 0 ∧ e.expected = [] ∧
    e'.location.start.offset = 1 ∧ e'.expected = [literalDescription [0x62] false] := by
  refine ⟨_, _, _, _, by rfl, by rfl, by decide, by rfl, List.mergeSort_nil, by rfl, List.mergeSort_singleton _⟩

/-- What is recalled went on to a failure that is not the farthest. -/
def retried : Parser where
  source := "start = x 'b' / x 'd' 'e'\nx = 'a'*\n"
  grammar := ⟨[⟨"start", none, .choice [.sequence [.ref "x", .literal [0x62] false],
      .sequence [.ref "x", .literal [0x64] false, .literal [0x65] false]]⟩,
    ⟨"x", none, .repeated .star (.literal [0x61] false)⟩], "start", []⟩
  actions := []
  context := []
  allowed := ["start"]
  cached := true

theorem retried_same : ∃ e w e' w',
    (retried.withCache true).parse (stockHost []) "adf" [] none (Stock.initial 0) = .error (.mismatch e) w ∧
    (retried.withCache false).parse (stockHost []) "adf" [] none (Stock.initial 0) = .error (.mismatch e') w' ∧
    e'.Same e := by
  have hclosed : retried.Closed := ⟨by decide, by decide⟩
  have hclean : Clean ((retried.matcher (stockHost []) [] true "adf".toList).trace (retried.startRule none) 0
      (State.initial (Stock.initial 0))) := by decide
  obtain ⟨e', w', h', hsame⟩ := Parser.same_iff_told hclosed nofun hclean (by rfl)
  exact ⟨_, _, e', w', by rfl, h', hsame.2 (by decide)⟩

end PegTemplate
