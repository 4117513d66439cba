import Mathlib.Data.List.Dedup
import Mathlib.Data.List.Induction
import PegTemplate.Proofs.Alternation.Turns

/-!
# Many rounds over the same sources

* `Move`, `MoveReply`, `Play` : rounds over the same sources that begin and are asked for values in any order;
* `Play.answers`, `Play.handed` : what one round has answered, and what one source has handed out;
* `play_induction` : what holds at the start and is kept by each move holds after all moves;
* `Source.Gave` : what a source has given, and what it has become by that;
* `Play.Undisturbed`, `play_undisturbed` : **rounds over the same sources do not get in each other's way.**
-/

namespace PegTemplate

variable {α : Type}

/-- What is done with rounds over the same sources: another one begins, or one is asked for its next value. -/
inductive Move where
  | start
  | ask (round : Nat)
  deriving DecidableEq, Inhabited

/-- What a round has answered: a value with the number of its lane, or that it has ended, or of what type something is
that is no source. -/
structure MoveReply (α : Type) where
  round : Nat
  answer : Except String (Option (Nat × α))

/-- The sources, the rounds over them as they began, and all that has been answered, the oldest first. -/
structure Play (α : Type) where
  store : List (Source α)
  rounds : List Round
  replies : List (MoveReply α)

/-- The value that has been answered, if it is one. -/
def MoveReply.given (r : MoveReply α) : List (Nat × α) :=
  match r.answer with
  | .ok (some v) => [v]
  | _ => []

namespace Play

/-- Round `r`, which is round number `i`, has its turn. -/
def asked (p : Play α) (i : Nat) (r : Round) : Play α :=
  let t := r.turn p.store
  ⟨t.2.2, p.rounds.set i t.2.1, p.replies ++ [⟨i, t.1⟩]⟩

/-- Makes a move. A round that has not begun is not asked. -/
def move (sources : List Nat) (p : Play α) : Move → Play α
  | .start => { p with rounds := p.rounds ++ [.fresh sources] }
  | .ask i => match p.rounds[i]? with
    | some r => p.asked i r
    | none => p

/-- What one of the rounds has answered. -/
def answers (p : Play α) (i : Nat) : List (Except String (Option (Nat × α))) :=
  (p.replies.filter (·.round = i)).map MoveReply.answer

/-- The values that all rounds have given, with the numbers of the lanes. -/
def values (p : Play α) : List (Nat × α) := p.replies.flatMap MoveReply.given

/-- The values that lanes over one of the sources have given, in whatever rounds. -/
def handed (p : Play α) (sources : List Nat) (i : Nat) : List α :=
  (p.values.filter (sources[·.1]? = some i)).map Prod.snd

end Play

/-- What has become of sources when moves have been made with rounds over them. -/
def play (store : List (Source α)) (sources : List Nat) (moves : List Move) : Play α :=
  moves.foldl (Play.move sources) ⟨store, [], []⟩

section Play
variable {store : List (Source α)} {sources : List Nat}

/-- **What holds at the start and is kept by each move holds after all moves.** All rounds are rounds over the sources. -/
theorem play_induction {P : Play α → Prop} (hinit : P ⟨store, [], []⟩)
    (hstart : ∀ p, P p → P { p with rounds := p.rounds ++ [.fresh sources] })
    (hask : ∀ p i r, P p → p.rounds[i]? = some r → r.Over sources → P (p.asked i r)) (moves : List Move) :
    P (play store sources moves) := by
  suffices h : P (play store sources moves) ∧ ∀ r ∈ (play store sources moves).rounds, r.Over sources from h.1
  induction moves using List.reverseRecOn with
  | nil => exact ⟨hinit, nofun⟩
  | append_singleton moves m ih =>
    have hlast : play store sources (moves ++ [m]) = (play store sources moves).move sources m :=
      List.foldl_append
    rw [hlast]
    obtain ⟨hp, hover⟩ := ih
    generalize play store sources moves = p at hp hover ⊢
    cases m with
    | start =>
      refine ⟨hstart p hp, fun r hr => ?_⟩
      rcases List.mem_append.mp hr with hr | hr
      · exact hover r hr
      · rw [List.mem_singleton.mp hr]
        rfl
    | ask i =>
      rw [Play.move]
      cases hi : p.rounds[i]? with
      | none => exact ⟨hp, hover⟩
      | some r =>
        have hr := hover r (List.mem_of_getElem? hi)
        refine ⟨hask p i r hp hi hr, fun r' hr' => ?_⟩
        rcases List.mem_or_eq_of_mem_set hr' with hr' | rfl
        · exact hover r' hr'
        · exact (Round.turn_turnsTo hr p.store).over

theorem Play.answers_asked_self (p : Play α) (i : Nat) (r : Round) :
    (p.asked i r).answers i = p.answers i ++ [(r.turn p.store).1] := by
  simp [answers, asked]

theorem Play.answers_asked_of_ne (p : Play α) {i j : Nat} (hij : i ≠ j) (r : Round) :
    (p.asked i r).answers j = p.answers j := by
  simp [answers, asked, hij]

theorem Play.values_asked (p : Play α) (i : Nat) (r : Round) :
    (p.asked i r).values = p.values ++ MoveReply.given ⟨i, (r.turn p.store).1⟩ := by
  rw [values, asked, List.flatMap_append, List.flatMap_singleton]
  rfl

end Play

/-! ## Rounds over collections -/

/-- Each round has answered the first members of one and the same list, and has still to give the others. -/
structure Play.Follows (seq : List (Nat × α)) (store : List (Source α)) (p : Play α) : Prop where
  store_eq : p.store = store
  answers_eq : ∀ i, p.answers i = (List.range (p.answers i).length).map fun k => .ok seq[k]?
  rest_eq : ∀ i r, p.rounds[i]? = some r → r.rest store = seq.drop (p.answers i).length
  unasked : ∀ i, p.rounds.length ≤ i → p.answers i = []

theorem Collections.play_follows {store : List (Source α)} {sources : List Nat} {xss : List (List α)}
    (h : Collections store sources xss) (moves : List Move) :
    (play store sources moves).Follows (columns (numberedFrom 0 xss)) store := by
  refine play_induction ⟨rfl, fun _ => rfl, nofun, fun _ _ => rfl⟩ ?_ ?_ moves
  · intro p hp
    refine ⟨hp.store_eq, hp.answers_eq, fun i r hi => ?_, fun i hi => hp.unasked i ?_⟩
    · rcases Nat.lt_or_ge i p.rounds.length with hlt | hge
      · rw [List.getElem?_append_left hlt] at hi
        exact hp.rest_eq i r hi
      · -- the round that has just begun
        have hnone : p.answers i = [] := hp.unasked i hge
        rw [List.getElem?_append_right hge] at hi
        obtain rfl : r = .fresh sources := List.mem_singleton.mp (List.mem_of_getElem? hi)
        change _ = (columns (numberedFrom 0 xss)).drop (p.answers i).length
        rw [h.rest_fresh, hnone]
        rfl
    · rw [List.length_append] at hi
      exact Nat.le_trans (Nat.le_add_right _ _) hi
  · intro p i r hp hi hr
    obtain ⟨r', hturn, -, hrest⟩ := Round.turn_of_collections h hr
    have hself := p.answers_asked_self i r
    rw [hp.store_eq, hturn, hp.rest_eq i r hi, List.head?_drop] at hself
    refine ⟨?_, fun j => ?_, fun j r'' hj => ?_, fun j hj => ?_⟩
    · rw [Play.asked, hp.store_eq, hturn]
    · rcases eq_or_ne i j with rfl | hij
      · rw [hself, List.length_append, List.length_singleton, List.range_succ, List.map_append, ← hp.answers_eq i]
        rfl
      · rw [p.answers_asked_of_ne hij r]
        exact hp.answers_eq j
    · rw [Play.asked, hp.store_eq, hturn] at hj
      rcases eq_or_ne i j with rfl | hij
      · have hlt : i < p.rounds.length := (List.getElem?_eq_some_iff.mp hi).1
        rw [List.getElem?_set_self hlt] at hj
        obtain rfl : r' = r'' := Option.some.inj hj
        rw [hself, List.length_append, List.length_singleton, ← List.tail_drop, ← hp.rest_eq i r hi, hrest]
      · rw [p.answers_asked_of_ne hij r]
        rw [List.getElem?_set_ne hij] at hj
        exact hp.rest_eq j r'' hj
    · rw [Play.asked, List.length_set] at hj
      have hij : i ≠ j := Nat.ne_of_lt (Nat.lt_of_lt_of_le (List.getElem?_eq_some_iff.mp hi).1 hj)
      rw [p.answers_asked_of_ne hij r]
      exact hp.unasked j hj

/-! ## Shared streams -/

/-- A source has given these values, one after the other, and has become another one by that. -/
inductive Source.Gave (s : Source α) : List α → Source α → Prop
  | nothing : Gave s [] s
  | value {xs : List α} {s' s'' : Source α} {n : Nat} {x : α} (h : Gave s xs s') (hread : s'.read? n = some (x, s'')) :
    Gave s (xs ++ [x]) s''

/-- What a stream gives is taken from its front. -/
theorem Source.Gave.of_stream {xs ys : List α} {s : Source α} (h : (Source.stream xs).Gave ys s) :
    ∃ zs, s = .stream zs ∧ ys ++ zs = xs := by
  induction h with
  | nothing => exact ⟨xs, rfl, rfl⟩
  | value _ hread ih =>
    obtain ⟨zs, rfl, rfl⟩ := ih
    cases zs with
    | nil => cases hread
    | cons z zs =>
      cases hread
      exact ⟨zs, rfl, (List.append_cons _ _ _).symm⟩

/-- A stream without end gives the values whose numbers follow. -/
theorem Source.Gave.of_endless {f : Nat → α} {n : Nat} {ys : List α} {s : Source α} (h : (Source.endless f n).Gave ys s) :
    s = .endless f (n + ys.length) ∧ ys = (List.range ys.length).map fun k => f (n + k) := by
  induction h with
  | nothing => exact ⟨rfl, rfl⟩
  | @value ys s' s'' k x _ hread ih =>
    obtain ⟨rfl, hys⟩ := ih
    cases hread
    rw [List.length_append, List.length_singleton, List.range_succ, List.map_append, ← hys]
    exact ⟨rfl, rfl⟩

/-- Only the source that a value comes from has given one more. -/
theorem Play.handed_asked {p : Play α} {sources : List Nat} {n m j : Nat} {r : Round} {x : α}
    (hvalue : (r.turn p.store).1 = .ok (some (m, x))) (hlane : sources[m]? = some j) (i : Nat) :
    (p.asked n r).handed sources i = if j = i then p.handed sources i ++ [x] else p.handed sources i := by
  rw [handed, handed, values_asked, hvalue]
  by_cases hij : j = i <;> simp [MoveReply.given, hlane, hij]

theorem Play.handed_asked_of_nil {p : Play α} {n : Nat} {r : Round} (h : MoveReply.given ⟨n, (r.turn p.store).1⟩ = [])
    (sources : List Nat) (i : Nat) : (p.asked n r).handed sources i = p.handed sources i := by
  rw [handed, handed, values_asked, h, List.append_nil]

section Shared
variable (store : List (Source α)) (sources : List Nat) (moves : List Move)

/-- **What a source has become is what it has become by all that it has given**, in whatever rounds. -/
theorem play_gave {i : Nat} {s : Source α} (hs : store[i]? = some s) :
    ∃ s', (play store sources moves).store[i]? = some s' ∧ s.Gave ((play store sources moves).handed sources i) s' := by
  refine play_induction (P := fun p => ∃ s', p.store[i]? = some s' ∧ s.Gave (p.handed sources i) s')
    ⟨s, hs, .nothing⟩ (fun p hp => hp) (fun p n r hp _ hr => ?_) moves
  obtain ⟨s', hs', hgave⟩ := hp
  have hcases := Round.turn_turnsTo hr p.store
  cases hturn : r.turn p.store with
  | mk answer after =>
  have hafter : (p.asked n r).store = after.2 := by rw [Play.asked, hturn]
  have hanswer : (r.turn p.store).1 = answer := by rw [hturn]
  rw [hturn] at hcases
  rw [hafter]
  cases hcases with
  | ends => exact ⟨s', hs', by rwa [Play.handed_asked_of_nil (by rw [hanswer]; rfl)]⟩
  | refuses type => exact ⟨s', hs', by rwa [Play.handed_asked_of_nil (by rw [hanswer]; rfl)]⟩
  | @gives m j k x t r' hlane hread _ =>
    rw [Play.handed_asked hanswer hlane]
    split_ifs with hij
    · subst hij
      rw [hs'] at hread
      exact ⟨t, List.getElem?_set_self (List.getElem?_eq_some_iff.mp hs').1, hgave.value hread⟩
    · exact ⟨s', (List.getElem?_set_ne hij).trans hs', hgave⟩

/-- Each value comes from one of the sources. -/
theorem play_values : ∀ v ∈ (play store sources moves).values, ∃ i ∈ sources, sources[v.1]? = some i := by
  refine play_induction (P := fun p => ∀ v ∈ p.values, ∃ i ∈ sources, sources[v.1]? = some i)
    nofun (fun p hp => hp) (fun p n r hp _ hr v hv => ?_) moves
  rw [Play.values_asked] at hv
  rcases List.mem_append.mp hv with hv | hv
  · exact hp v hv
  · have hcases := Round.turn_turnsTo hr p.store
    cases hturn : r.turn p.store with
    | mk answer after =>
    rw [hturn] at hcases hv
    cases hcases with
    | ends => cases hv
    | refuses => cases hv
    | @gives m j k x t r' hlane _ _ =>
      rw [List.mem_singleton.mp hv]
      exact ⟨j, List.mem_of_getElem? hlane, hlane⟩

/-- **A round that has ended stays ended**: it has nothing else to answer any more. -/
theorem play_ended : (play store sources moves).replies.Pairwise fun a b =>
    a.round = b.round → a.answer = .ok none → b.answer = .ok none := by
  suffices h : (play store sources moves).replies.Pairwise (fun a b =>
      a.round = b.round → a.answer = .ok none → b.answer = .ok none) ∧
      ∀ a ∈ (play store sources moves).replies, a.answer = .ok none →
        (play store sources moves).rounds[a.round]? = some .finished from h.1
  refine play_induction (P := fun p => p.replies.Pairwise (fun a b =>
    a.round = b.round → a.answer = .ok none → b.answer = .ok none) ∧
    ∀ a ∈ p.replies, a.answer = .ok none → p.rounds[a.round]? = some .finished) ⟨.nil, nofun⟩ ?_ ?_ moves
  · rintro p ⟨hpairs, hfinished⟩
    refine ⟨hpairs, fun a ha hend => ?_⟩
    have ha' := hfinished a ha hend
    rwa [List.getElem?_append_left (List.getElem?_eq_some_iff.mp ha').1]
  · rintro p n r ⟨hpairs, hfinished⟩ hn hr
    have hlt := (List.getElem?_eq_some_iff.mp hn).1
    constructor
    · refine List.pairwise_append.mpr ⟨hpairs, List.pairwise_singleton _ _, fun a ha b hb hround hend => ?_⟩
      -- the round that answers now has been finished before
      rw [List.mem_singleton.mp hb] at hround ⊢
      have ha' := hfinished a ha hend
      rw [hround, hn] at ha'
      obtain rfl : r = .finished := Option.some.inj ha'
      rfl
    · intro a ha hend
      rw [Play.asked]
      rcases List.mem_append.mp ha with ha | ha
      · have ha' := hfinished a ha hend
        rcases eq_or_ne n a.round with rfl | hne
        · rw [hn] at ha'
          obtain rfl : r = .finished := Option.some.inj ha'
          exact List.getElem?_set_self hlt
        · exact (List.getElem?_set_ne hne).trans ha'
      · rw [List.mem_singleton.mp ha] at hend ⊢
        refine (List.getElem?_set_self hlt).trans ?_
        have hcases := Round.turn_turnsTo hr p.store
        cases hturn : r.turn p.store with
        | mk answer after =>
        rw [hturn] at hcases hend
        cases hcases with
        | ends => rfl
        | gives => cases hend
        | refuses => cases hend

end Shared

/-! ## All rounds together -/

/-- A list is a rearrangement of its members, put together by what they are for. -/
theorem perm_flatMap_filter {κ : Type} [DecidableEq κ] (key : α → Option κ) {ks : List κ} (hks : ks.Nodup) {xs : List α}
    (h : ∀ x ∈ xs, ∃ k ∈ ks, key x = some k) : xs.Perm (ks.flatMap fun k => xs.filter (key · = some k)) := by
  induction ks generalizing xs with
  | nil =>
    cases xs with
    | nil => rfl
    | cons x xs =>
      obtain ⟨k, hk, -⟩ := h x List.mem_cons_self
      cases hk
  | cons k ks ih =>
    obtain ⟨hk, hks⟩ := List.nodup_cons.mp hks
    have hothers : ∀ x ∈ xs.filter fun x => !decide (key x = some k), ∃ k' ∈ ks, key x = some k' := by
      intro x hx
      obtain ⟨hx, hne⟩ := List.mem_filter.mp hx
      obtain ⟨k', hk', hkey⟩ := h x hx
      rcases List.mem_cons.mp hk' with rfl | hk'
      · simp [hkey] at hne
      · exact ⟨k', hk', hkey⟩
    have hsame : (ks.flatMap fun k' => (xs.filter fun x => !decide (key x = some k)).filter (key · = some k')) =
        ks.flatMap fun k' => xs.filter (key · = some k') := by
      refine List.flatMap_congr fun k' hk' => ?_
      rw [List.filter_filter]
      refine List.filter_congr fun x _ => ?_
      have hne : k' ≠ k := fun h => hk (h ▸ hk')
      by_cases hkey : key x = some k' <;> simp [hkey, hne]
    rw [List.flatMap_cons]
    refine (List.filter_append_perm (fun x => decide (key x = some k)) xs).symm.trans (List.Perm.append_left _ ?_)
    rw [← hsame]
    exact ih hks hothers

/-- What is true of rounds over the same sources, in whatever order they have begun and have been asked. -/
structure Play.Undisturbed (store : List (Source α)) (sources : List Nat) (p : Play α) : Prop where
  /-- Over collections, each round has answered the members of one and the same list from its start, and behind its end
  that there is nothing more. -/
  collections : ∀ xss, Collections store sources xss → ∀ n,
    p.answers n = (List.range (p.answers n).length).map fun k => .ok (columns (numberedFrom 0 xss))[k]?
  /-- A stream had at first what it has given to all rounds together, in that order, and then what it still has. -/
  streams : ∀ i xs, store[i]? = some (.stream xs) →
    ∃ ys, p.store[i]? = some (.stream ys) ∧ p.handed sources i ++ ys = xs
  /-- The same of a stream without end. -/
  endless : ∀ i f n, store[i]? = some (.endless f n) →
    p.store[i]? = some (.endless f (n + (p.handed sources i).length)) ∧
      p.handed sources i = (List.range (p.handed sources i).length).map fun k => f (n + k)
  /-- All values together are those that the sources have given, each source counted once. -/
  values : (p.values.map Prod.snd).Perm (sources.dedup.flatMap (p.handed sources))
  /-- A round that has ended has nothing else to answer any more. -/
  ended : p.replies.Pairwise fun a b => a.round = b.round → a.answer = .ok none → b.answer = .ok none

/-- **Rounds over the same sources do not get in each other's way.** -/
theorem play_undisturbed (store : List (Source α)) (sources : List Nat) (moves : List Move) :
    (play store sources moves).Undisturbed store sources where
  collections xss h := (h.play_follows moves).answers_eq
  streams i xs hi := by
    obtain ⟨s, hs, hgave⟩ := play_gave store sources moves hi
    obtain ⟨ys, rfl, hys⟩ := hgave.of_stream
    exact ⟨ys, hs, hys⟩
  endless i f n hi := by
    obtain ⟨s, hs, hgave⟩ := play_gave store sources moves hi
    obtain ⟨rfl, hvalues⟩ := hgave.of_endless
    exact ⟨hs, hvalues⟩
  values := by
    have hsource : ∀ v ∈ (play store sources moves).values, ∃ i ∈ sources.dedup, sources[v.1]? = some i := by
      intro v hv
      obtain ⟨i, hi, hlane⟩ := play_values store sources moves v hv
      exact ⟨i, List.mem_dedup.mpr hi, hlane⟩
    have hperm := (perm_flatMap_filter (fun v : Nat × α => sources[v.1]?) sources.nodup_dedup hsource).map Prod.snd
    rwa [List.map_flatMap] at hperm
  ended := play_ended store sources moves

/-- Three rounds; the second begins while the first is in the middle of a pass, and goes on when the first has ended. -/
def threeRounds : List Move :=
  [.start, .ask 0, .start, .ask 1, .ask 0, .ask 1, .ask 0, .ask 0, .ask 1, .start, .ask 2, .ask 0]

/-- Over a stream that is given twice and another one, the three rounds share four values; over collections, the second
round gets its own. -/
theorem threeRounds_undisturbed :
    (play [.stream [1, 2, 3], .stream [7]] [0, 0, 1] threeRounds).values.map Prod.snd = [1, 2, 3, 7] ∧
    (play [.stream [1, 2, 3], .stream [7]] [0, 0, 1] threeRounds).store[0]? = some (.stream []) ∧
    (play [.items [1, 2], .items [7]] [0, 1] threeRounds).answers 1 =
      [.ok (some (0, 1)), .ok (some (1, 7)), .ok (some (0, 2))] := by
  refine ⟨by decide, ?_, ?_⟩
  · obtain ⟨ys, hstore, hys⟩ :=
      (play_undisturbed [.stream [1, 2, 3], .stream [7]] [0, 0, 1] threeRounds).streams 0 [1, 2, 3] rfl
    have hhanded : (play [.stream [1, 2, 3], .stream [7]] [0, 0, 1] threeRounds).handed [0, 0, 1] 0 = [1, 2, 3] := by
      decide
    rw [hhanded] at hys
    rwa [List.append_cancel_left hys] at hstore
  · have hcollections : Collections [.items [1, 2], .items [7]] [0, 1] [[1, 2], [7]] := .cons rfl (.cons rfl .nil)
    rw [(play_undisturbed [.items [1, 2], .items [7]] [0, 1] threeRounds).collections [[1, 2], [7]] hcollections 1]
    decide

end PegTemplate
