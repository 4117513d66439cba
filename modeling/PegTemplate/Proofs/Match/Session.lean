import PegTemplate.Match.Report
import PegTemplate.Proofs.Match.Kept

/-!
# Sessions

* `Query`, `Matcher.serve` : one step of a matcher that is used again and again, with a text of its own;
* `Observation`, `Matcher.serveAll` : what can be seen after each step of a session;
* `Matcher.Pure.serve_alike` : what a step comes to hangs on how silent the matcher is, which no step changes;
* `Matcher.serveAll_eq` : **a step comes to the same whatever went before it.**
-/

namespace PegTemplate

/-- A step of a session. -/
inductive Query where
  | parse (rule : String) (text : List Char) (pos : Nat)
  | parseAll (rule : String) (text : List Char)
  deriving DecidableEq, Inhabited

/-- What a step comes to. -/
inductive Reply (ε : Type) where
  | result (r : Except (Halt ε) Result)
  | value (v : Except (ParseError ε) Value)

/-- What can be seen after a step: what it came to, the record of failures, and the memo table. -/
structure Observation (ε : Type) where
  reply : Reply ε
  farthest : Nat
  expected : List String
  memo : Memo

section
variable {σ ε : Type}

/-- The matcher for another text. -/
def Matcher.withText (m : Matcher σ ε) (text : List Char) : Matcher σ ε := { m with text := text }

/-- One step, and the state that it leaves behind, also when it stops without a result. -/
def Matcher.serve (m : Matcher σ ε) (q : Query) (s : State σ) : Reply ε × State σ :=
  match q with
  | .parse rule text pos =>
    let x := (m.withText text).parse rule pos s
    (.result (answer x), endState x)
  | .parseAll rule text =>
    let x := (m.withText text).parseAll rule s
    (.value (answer x), endState x)

/-- What can be seen after a step. -/
def Matcher.observe (m : Matcher σ ε) (q : Query) (s : State σ) : Observation ε :=
  let (reply, s) := m.serve q s
  ⟨reply, s.farthest, s.expected, s.memo⟩

/-- What can be seen after each step of a session. A step begins in the state that the one before it leaves behind. -/
def Matcher.serveAll (m : Matcher σ ε) : List Query → State σ → List (Observation ε)
  | [], _ => []
  | q :: qs, s => m.observe q s :: m.serveAll qs (m.serve q s).2

/-! ## One step -/

theorem Matcher.Pure.withText {m : Matcher σ ε} (hm : m.Pure) (text : List Char) : (m.withText text).Pure := hm

/-- When a step begins, only the world and the silence are left of the steps before it. -/
theorem State.alike_restart {s t : State σ} (h : s.silence = t.silence) (pos : Nat) :
    (s.restart pos).Alike (t.restart pos) := by
  refine ⟨t.world, ?_⟩
  unfold State.restart
  rw [h]

/-- Two computations come to the same, in states that are alike and as silent as `s`. -/
def SameEnd {δ α : Type} (s : State σ) (x y : EStateM.Result δ (State σ) α) : Prop :=
  answer x = answer y ∧ (endState x).Alike (endState y) ∧ (endState x).silence = s.silence

theorem Matcher.Pure.parse_sameEnd {m : Matcher σ ε} (hm : m.Pure) (name : String) (pos : Nat) {s t : State σ}
    (h : s.silence = t.silence) : SameEnd s (m.parse name pos s) (m.parse name pos t) :=
  hm.apply_blind (m.limit pos) (m.depth (m.limit pos)) name pos _ _ (State.alike_restart h pos)

theorem Matcher.Pure.parseAll_sameEnd {m : Matcher σ ε} (hm : m.Pure) (name : String) {s t : State σ}
    (h : s.silence = t.silence) : SameEnd s (m.parseAll name s) (m.parseAll name t) := by
  obtain ⟨hanswer, hend, hsilence⟩ := hm.parse_sameEnd name 0 h
  unfold parseAll
  cases hs : m.parse name 0 s with
  | error e s' =>
    cases ht : m.parse name 0 t with
    | ok r t' =>
      rw [hs, ht] at hanswer
      cases hanswer
    | error e' t' =>
      rw [hs, ht] at hanswer hend
      rw [hs] at hsilence
      obtain rfl : e = e' := Except.error.inj hanswer
      exact ⟨rfl, hend, hsilence⟩
  | ok r s' =>
    cases ht : m.parse name 0 t with
    | error e t' =>
      rw [hs, ht] at hanswer
      cases hanswer
    | ok r' t' =>
      rw [hs, ht] at hanswer hend
      rw [hs] at hsilence
      obtain rfl : r = r' := Except.ok.inj hanswer
      have hreport : ∀ u v : State σ, u.Alike v → u.silence = s.silence →
          SameEnd s (.error (.mismatch (inputErrorAt m.text u.farthest u.expected)) u :
              EStateM.Result (ParseError ε) (State σ) Value)
            (.error (.mismatch (inputErrorAt m.text v.farthest v.expected)) v) := by
        rintro u _ ⟨w, rfl⟩ hu
        exact ⟨rfl, ⟨w, rfl⟩, hu⟩
      cases r with
      | failed => exact hreport s' t' hend hsilence
      | matched stop v =>
        dsimp only
        split_ifs
        · exact ⟨rfl, hend, hsilence⟩
        · exact hreport _ _ (hend.note stop _) ((s'.silence_note stop _).trans hsilence)

/-- **What a step comes to hangs on how silent the matcher is**, and the step leaves it as silent as it was. -/
theorem Matcher.Pure.serve_alike {m : Matcher σ ε} (hm : m.Pure) (q : Query) {s t : State σ}
    (h : s.silence = t.silence) : m.observe q s = m.observe q t ∧ (m.serve q s).2.silence = s.silence := by
  have hstate : ∀ u v : State σ, u.Alike v → u.farthest = v.farthest ∧ u.expected = v.expected ∧ u.memo = v.memo := by
    rintro u _ ⟨w, rfl⟩
    exact ⟨rfl, rfl, rfl⟩
  unfold observe serve
  cases q with
  | parse rule text pos =>
    obtain ⟨hanswer, hend, hsilence⟩ := (hm.withText text).parse_sameEnd rule pos h
    obtain ⟨hfarthest, hexpected, hmemo⟩ := hstate _ _ hend
    dsimp only
    rw [hanswer, hfarthest, hexpected, hmemo]
    exact ⟨rfl, hsilence⟩
  | parseAll rule text =>
    obtain ⟨hanswer, hend, hsilence⟩ := (hm.withText text).parseAll_sameEnd rule h
    obtain ⟨hfarthest, hexpected, hmemo⟩ := hstate _ _ hend
    dsimp only
    rw [hanswer, hfarthest, hexpected, hmemo]
    exact ⟨rfl, hsilence⟩

/-! ## Sessions -/

/-- **Nothing is carried over from one step to the next.** If the actions are pure, each step of a session comes to what
it comes to by itself on a fresh matcher, with the same record of failures and the same memo table. -/
theorem Matcher.serveAll_eq {m : Matcher σ ε} (hm : m.Pure) (qs : List Query) (w fresh : σ) :
    m.serveAll qs (State.initial w) = qs.map fun q => m.observe q (State.initial fresh) := by
  have hrun : ∀ s : State σ, s.silence = 0 → m.serveAll qs s = qs.map fun q => m.observe q (State.initial fresh) := by
    induction qs with
    | nil => exact fun _ _ => rfl
    | cons q qs ih =>
      intro s hs
      obtain ⟨hobserve, hsilence⟩ := hm.serve_alike q (t := State.initial fresh) hs
      rw [serveAll, List.map_cons, hobserve, ih _ (hsilence.trans hs)]
  exact hrun _ rfl

end

/-- A matcher whose action raises an error inside of a lookahead, in a rule with a display name. -/
def startled : Matcher Unit String where
  grammar := ⟨[⟨"start", none, .sequence [.followedBy (.ref "word"), .any]⟩,
    ⟨"word", some "a word", .notFollowedBy (.action (.sequence [.literal [0x61] false, .ref "tail"]) ⟨"", [], 0⟩)⟩,
    ⟨"tail", none, .charClass ⟨false, [(0x61, 0x7A)], [], false, "[a-z]"⟩⟩], "start", []⟩
  actions := [⟨0, fun _ _ _ _ => throw "boom"⟩]
  cached := true
  text := []

/-- The steps of a session in which the first step is stopped by an action, and the second one by a missing rule. -/
def startledQueries : List Query :=
  [.parse "start" ['a', 'b'] 0, .parse "missing" [] 3, .parseAll "start" ['a', '0'], .parse "tail" ['a'] 0]

theorem startled_serveAll : startled.Pure ∧ startled.serveAll startledQueries (State.initial ()) =
    startledQueries.map fun q => startled.observe q (State.initial ()) := by
  have hpure : startled.Pure := List.forall_mem_singleton.mpr fun _ _ _ _ => ⟨.error "boom", fun _ => rfl⟩
  exact ⟨hpure, Matcher.serveAll_eq hpure startledQueries () ()⟩

/-- The applications that the action interrupts are still in progress in the memo table. -/
example : (startled.observe (.parse "start" ['a', 'b'] 0) (State.initial ())).memo =
    [⟨"tail", 1, .done (.matched 2 (.text "b"))⟩, ⟨"word", 0, .begun⟩, ⟨"start", 0, .begun⟩] := by rfl

end PegTemplate
