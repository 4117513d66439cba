import PegTemplate.Proofs.Alternation.Columns

/-!
# The turns of a round

* `Lane.value?` : what a lane gives when its turn comes;
* `readLanes_passesTo`, `advance_advancesTo` : all that a pass and a round can come to;
* `Round.turn`, `Round.turn_turnsTo` : the next value of a round with the number of its lane, and where it comes from;
* `Round.rest`, `Round.turn_of_collections` : what a round over collections has still to give, and that it gives it;
* `drain_columns` : **a round over collections gives their columns, and nothing is changed by it.**
-/

namespace PegTemplate

variable {α : Type}

/-! ## Lanes -/

namespace Lane

/-- What a lane gives when its turn comes, with its source after that. -/
def value? (store : List (Source α)) (l : Lane) : Option (α × Source α) :=
  if l.ended then none else store[l.source]?.bind (·.read? l.read)

/-- The lane after a turn in which it gave nothing. -/
def close (l : Lane) : Lane := { l with ended := true }

/-- The lane after a turn in which it gave a value. -/
def pass (l : Lane) : Lane := { l with read := l.read + 1 }

theorem close_of_ended {l : Lane} (h : l.ended = true) : l.close = l := by
  rw [close, ← h]

end Lane

/-- What the rest of a pass can come to: the first lane that has a value gives it, or no lane has one. -/
inductive PassesTo (store : List (Source α)) (behind ahead : List Lane) :
    Option α × List Lane × List Lane × List (Source α) → Prop
  | gives {skipped rest : List Lane} {l : Lane} {x : α} {s : Source α} (hahead : ahead = skipped ++ l :: rest)
    (hskipped : ∀ k ∈ skipped, k.value? store = none) (hl : l.value? store = some (x, s)) :
    PassesTo store behind ahead (some x, behind ++ skipped.map Lane.close ++ [l.pass], rest, store.set l.source s)
  | ends (hahead : ∀ k ∈ ahead, k.value? store = none) :
    PassesTo store behind ahead (none, behind ++ ahead.map Lane.close, [], store)

/-- A lane without a value is left behind. -/
theorem PassesTo.skip {store : List (Source α)} {behind ahead : List Lane} {l : Lane}
    {r : Option α × List Lane × List Lane × List (Source α)} (hl : l.value? store = none)
    (h : PassesTo store (behind ++ [l.close]) ahead r) : PassesTo store behind (l :: ahead) r := by
  cases h with
  | @gives skipped rest k x s hahead hskipped hk =>
    subst hahead
    have hgives := @PassesTo.gives α store behind (l :: (skipped ++ k :: rest)) (l :: skipped) rest k x s rfl
      (List.forall_mem_cons.mpr ⟨hl, hskipped⟩) hk
    rwa [List.map_cons, List.append_cons behind] at hgives
  | ends hahead =>
    have hends := @PassesTo.ends α store behind (l :: ahead) (List.forall_mem_cons.mpr ⟨hl, hahead⟩)
    rwa [List.map_cons, List.append_cons] at hends

theorem readLanes_passesTo (behind ahead : List Lane) (store : List (Source α)) :
    PassesTo store behind ahead (readLanes behind ahead store) := by
  induction ahead generalizing behind with
  | nil =>
    rw [readLanes]
    have hends := @PassesTo.ends α store behind [] nofun
    rwa [List.map_nil, List.append_nil] at hends
  | cons l ls ih =>
    rw [readLanes]
    split
    · rename_i hended
      refine .skip (if_pos hended) ?_
      rw [Lane.close_of_ended hended]
      exact ih (behind ++ [l])
    · rename_i hopen
      split
      · rename_i x s hread
        have hgives := @PassesTo.gives α store behind (l :: ls) [] ls l x s rfl nofun ((if_neg hopen).trans hread)
        rwa [List.map_nil, List.append_nil] at hgives
      · rename_i hread
        exact .skip ((if_neg hopen).trans hread) (ih (behind ++ [l.close]))

/-- The lanes among which a round looks for its next value: those of this pass, or those of the next one if there is
nothing left in this one. -/
inductive Reaches (store : List (Source α)) (behind ahead : List Lane) : List Lane → List Lane → Prop
  | here : Reaches store behind ahead behind ahead
  | again (h : ∀ k ∈ ahead, k.value? store = none) : Reaches store behind ahead [] (behind ++ ahead.map Lane.close)

/-- What the next step of a round can come to: a lane gives a value in this pass or in the next, or the round ends with a
pass in which no lane does. -/
inductive AdvancesTo (store : List (Source α)) (behind ahead : List Lane) : Option α × Round × List (Source α) → Prop
  | gives {behind' skipped rest : List Lane} {l : Lane} {x : α} {s : Source α}
    (hreach : Reaches store behind ahead behind' (skipped ++ l :: rest))
    (hskipped : ∀ k ∈ skipped, k.value? store = none) (hl : l.value? store = some (x, s)) :
    AdvancesTo store behind ahead
      (some x, .under (behind' ++ skipped.map Lane.close ++ [l.pass]) rest, store.set l.source s)
  | ends {lanes : List Lane} (hreach : Reaches store behind ahead [] lanes)
    (hlanes : ∀ k ∈ lanes, k.value? store = none) : AdvancesTo store behind ahead (none, .finished, store)

theorem advance_advancesTo (behind ahead : List Lane) (store : List (Source α)) :
    AdvancesTo store behind ahead (advance behind ahead store) := by
  have hpass := readLanes_passesTo behind ahead store
  rw [advance]
  cases hread : readLanes behind ahead store with
  | mk x lanes =>
  rw [hread] at hpass
  cases hpass with
  | gives hahead hskipped hl => exact .gives (hahead ▸ .here) hskipped hl
  | ends hnone =>
    dsimp only
    have hnext := readLanes_passesTo [] (behind ++ ahead.map Lane.close) store
    cases hagain : readLanes [] (behind ++ ahead.map Lane.close) store with
    | mk x lanes =>
    rw [hagain] at hnext
    cases hnext with
    | gives hahead hskipped hl => exact .gives (hahead ▸ .again hnone) hskipped hl
    | ends hall => exact .ends (.again hnone) hall

/-! ## Rounds -/

namespace Round

/-- The number of the lane that had its turn last. -/
def lastLane : Round → Nat
  | under behind _ => behind.length - 1
  | _ => 0

/-- The next value of a round, with the number of the lane that gives it. -/
def turn (store : List (Source α)) (r : Round) : Except String (Option (Nat × α)) × Round × List (Source α) :=
  let t := r.next store
  (t.1.map (·.map (t.2.1.lastLane, ·)), t.2)

/-- The lanes of the round lead to these sources. -/
def Over (sources : List Nat) : Round → Prop
  | fresh is => is = sources
  | under behind ahead => (behind ++ ahead).map Lane.source = sources
  | finished => True

end Round

theorem Reaches.map_source {store : List (Source α)} {behind ahead behind' ahead' : List Lane}
    (h : Reaches store behind ahead behind' ahead') :
    (behind' ++ ahead').map Lane.source = (behind ++ ahead).map Lane.source := by
  cases h with
  | here => rfl
  | again _ =>
    rw [List.nil_append, List.map_append, List.map_append, List.map_map]
    rfl

/-- What the turn of a round over some sources can come to: the source of a lane is read, or the round is over. -/
inductive Round.TurnsTo (sources : List Nat) (store : List (Source α)) :
    Except String (Option (Nat × α)) × Round × List (Source α) → Prop
  | gives {n i k : Nat} {x : α} {s : Source α} {r : Round} (hlane : sources[n]? = some i)
    (hread : store[i]?.bind (·.read? k) = some (x, s)) (hr : r.Over sources) :
    TurnsTo sources store (.ok (some (n, x)), r, store.set i s)
  | ends : TurnsTo sources store (.ok none, .finished, store)
  | refuses (type : String) : TurnsTo sources store (.error type, .finished, store)

theorem Round.TurnsTo.over {sources : List Nat} {store : List (Source α)}
    {t : Except String (Option (Nat × α)) × Round × List (Source α)} (h : TurnsTo sources store t) : t.2.1.Over sources := by
  cases h with
  | gives _ _ hr => exact hr
  | ends => trivial
  | refuses => trivial

theorem Lane.read?_of_value? {store : List (Source α)} {l : Lane} {v : α × Source α} (h : l.value? store = some v) :
    l.ended = false ∧ store[l.source]?.bind (·.read? l.read) = some v := by
  rw [value?] at h
  split at h
  · cases h
  · rename_i hopen
    exact ⟨Bool.not_eq_true _ ▸ hopen, h⟩

/-- The lanes of a round that begins. -/
theorem map_source_start (sources : List Nat) :
    ([] ++ sources.map fun i => (⟨i, 0, false⟩ : Lane)).map Lane.source = sources := by
  rw [List.nil_append, List.map_map]
  exact List.map_id' sources

section Advance
variable {sources : List Nat} {store : List (Source α)} {behind ahead : List Lane} {t : Option α × Round × List (Source α)}
  (hsources : (behind ++ ahead).map Lane.source = sources) (h : AdvancesTo store behind ahead t)
include hsources h

theorem AdvancesTo.over : t.2.1.Over sources := by
  cases h with
  | ends => trivial
  | gives hreach =>
    rw [Round.Over, ← hsources, ← hreach.map_source]
    simp only [List.map_append, List.map_cons, List.map_nil, List.append_assoc, List.map_map]
    rfl

theorem AdvancesTo.turnsTo : Round.TurnsTo sources store ((Except.ok t.1).map (·.map (t.2.1.lastLane, ·)), t.2) := by
  have hover := h.over hsources
  cases h with
  | @gives behind' skipped rest l x s hreach _ hl =>
    have hlanes := hreach.map_source.trans hsources
    have hlane : sources[(behind' ++ skipped.map Lane.close ++ [l.pass]).length - 1]? = some l.source := by
      rw [← hlanes, List.length_append, List.length_append, List.length_map, List.length_singleton, Nat.add_sub_cancel,
        ← List.append_assoc, List.getElem?_map, ← List.length_append, List.getElem?_append_right (Nat.le_refl _),
        Nat.sub_self]
      rfl
    exact .gives hlane (Lane.read?_of_value? hl).2 hover
  | ends => exact .ends

end Advance

/-- **All that the turn of a round can come to.** -/
theorem Round.turn_turnsTo {sources : List Nat} {r : Round} (hr : r.Over sources) (store : List (Source α)) :
    Round.TurnsTo sources store (r.turn store) := by
  cases r with
  | finished => exact .ends
  | under behind ahead => exact (advance_advancesTo behind ahead store).turnsTo hr
  | fresh is =>
    obtain rfl : is = sources := hr
    rw [turn, next]
    cases absentType? store is with
    | some t => exact .refuses t
    | none =>
      exact (advance_advancesTo [] (is.map fun i => ⟨i, 0, false⟩) store).turnsTo (map_source_start is)

/-! ## Rounds over collections -/

/-- The sources are collections of these values. -/
def Collections (store : List (Source α)) (sources : List Nat) (xss : List (List α)) : Prop :=
  List.Forall₂ (fun i xs => store[i]? = some (.items xs)) sources xss

/-- The values that a lane over a collection has still to give. -/
def Lane.left (store : List (Source α)) (l : Lane) : List α :=
  if l.ended then [] else match store[l.source]? with
    | some (.items xs) => xs.drop l.read
    | _ => []

/-- The values that a round over collections has still to give, with the numbers of the lanes. -/
def remaining (store : List (Source α)) (behind ahead : List Lane) : List (Nat × α) :=
  numberedUpcoming (behind.map (·.left store)) (ahead.map (·.left store))

def Round.rest (store : List (Source α)) : Round → List (Nat × α)
  | fresh sources => remaining store [] (sources.map fun i => ⟨i, 0, false⟩)
  | under behind ahead => remaining store behind ahead
  | finished => []

section Collections
variable {store : List (Source α)}

theorem Lane.left_close (l : Lane) : l.close.left store = [] := if_pos rfl

/-- A lane over a collection gives the first value that it has left, which changes nothing. -/
theorem Lane.value?_eq {l : Lane} {xs : List α} (h : store[l.source]? = some (.items xs)) :
    l.value? store = (l.left store).head?.map fun x => (x, .items xs) := by
  rw [value?, left, h]
  split
  · rfl
  · rw [List.head?_drop]
    rfl

theorem Lane.left_eq_nil {l : Lane} (hl : ∃ xs, store[l.source]? = some (.items xs)) (h : l.value? store = none) :
    l.left store = [] := by
  obtain ⟨xs, hxs⟩ := hl
  rw [Lane.value?_eq hxs, Option.map_eq_none_iff, List.head?_eq_none_iff] at h
  exact h

theorem Lane.left_eq_cons {l : Lane} {x : α} {s : Source α} (hl : ∃ xs, store[l.source]? = some (.items xs))
    (h : l.value? store = some (x, s)) : l.left store = x :: l.pass.left store ∧ store.set l.source s = store := by
  obtain ⟨xs, hxs⟩ := hl
  have hopen := (Lane.read?_of_value? h).1
  rw [Lane.value?_eq hxs, Option.map_eq_some_iff] at h
  obtain ⟨y, hy, hv⟩ := h
  obtain ⟨rfl, rfl⟩ : y = x ∧ Source.items xs = s := Prod.mk.inj hv
  constructor
  · have htail : l.pass.left store = (l.left store).tail := by
      rw [left, left, pass, hopen, hxs]
      exact List.tail_drop.symm
    rw [htail]
    exact (List.cons_head?_tail hy).symm
  · obtain ⟨hi, hget⟩ := List.getElem?_eq_some_iff.mp hxs
    rw [← hget]
    exact List.set_getElem_self hi

/-- A lane that has nothing to give has nothing left, before and after its turn. -/
theorem map_left_close {lanes : List Lane} (hlanes : ∀ k ∈ lanes, ∃ xs, store[k.source]? = some (.items xs))
    (h : ∀ k ∈ lanes, k.value? store = none) :
    (lanes.map Lane.close).map (·.left store) = lanes.map (·.left store) ∧ ∀ xs ∈ lanes.map (·.left store), xs = [] := by
  have hleft : ∀ k ∈ lanes, k.left store = [] := fun k hk => Lane.left_eq_nil (hlanes k hk) (h k hk)
  constructor
  · rw [List.map_map]
    refine List.map_congr_left fun k hk => ?_
    rw [Function.comp_apply, Lane.left_close, hleft k hk]
  · intro xs hxs
    obtain ⟨k, hk, rfl⟩ := List.mem_map.mp hxs
    exact hleft k hk

/-- A lane that gives a value gives the first one of those that are left. -/
theorem remaining_gives {behind skipped rest : List Lane} {l : Lane} {x : α} {s : Source α}
    (hlanes : ∀ k ∈ skipped ++ l :: rest, ∃ xs, store[k.source]? = some (.items xs))
    (hskipped : ∀ k ∈ skipped, k.value? store = none) (hl : l.value? store = some (x, s)) :
    remaining store behind (skipped ++ l :: rest) = ((behind ++ skipped.map Lane.close ++ [l.pass]).length - 1, x) ::
      remaining store (behind ++ skipped.map Lane.close ++ [l.pass]) rest := by
  obtain ⟨hclose, hnone⟩ := map_left_close (fun k hk => hlanes k (List.mem_append_left _ hk)) hskipped
  have hleft := (Lane.left_eq_cons (hlanes l (List.mem_append_right _ List.mem_cons_self)) hl).1
  rw [remaining, remaining, List.map_append, List.map_cons, numberedUpcoming_skip hnone, hleft, numberedUpcoming_read]
  simp only [List.map_append, List.map_cons, List.map_nil, hclose, List.length_append, List.length_map,
    List.length_singleton, Nat.add_sub_cancel]

/-- If nothing is left of a pass, all is left to the next one. -/
theorem remaining_ends {behind ahead : List Lane} (hlanes : ∀ k ∈ ahead, ∃ xs, store[k.source]? = some (.items xs))
    (h : ∀ k ∈ ahead, k.value? store = none) :
    remaining store behind ahead = remaining store [] (behind ++ ahead.map Lane.close) := by
  obtain ⟨hclose, hnone⟩ := map_left_close hlanes h
  have hskip := @numberedUpcoming_skip α (behind.map (·.left store)) _ [] hnone
  rw [List.append_nil] at hskip
  rw [remaining, remaining, hskip, numberedUpcoming_end, List.map_append, hclose, List.map_nil, numberedUpcoming_start]

theorem remaining_reaches {behind ahead behind' ahead' : List Lane}
    (hlanes : ∀ k ∈ behind ++ ahead, ∃ xs, store[k.source]? = some (.items xs))
    (h : Reaches store behind ahead behind' ahead') : remaining store behind ahead = remaining store behind' ahead' := by
  cases h with
  | here => rfl
  | again hnone => exact remaining_ends (fun k hk => hlanes k (List.mem_append_right _ hk)) hnone

section Rounds
variable {sources : List Nat} {xss : List (List α)} (h : Collections store sources xss)
include h

theorem Collections.exists_items : ∀ i ∈ sources, ∃ xs, store[i]? = some (.items xs) := by
  induction h with
  | nil => exact nofun
  | cons hi _ ih => exact List.forall_mem_cons.mpr ⟨⟨_, hi⟩, ih⟩

theorem Collections.exists_lane {lanes : List Lane} (hlanes : lanes.map Lane.source = sources) :
    ∀ k ∈ lanes, ∃ xs, store[k.source]? = some (.items xs) :=
  fun _ hk => h.exists_items _ (hlanes ▸ List.mem_map_of_mem hk)

theorem Collections.absentType?_eq : absentType? store sources = none := by
  rw [absentType?, List.findSome?_eq_none_iff]
  intro i hi
  obtain ⟨xs, hxs⟩ := h.exists_items i hi
  rw [hxs]
  rfl

theorem Collections.rest_fresh : (Round.fresh sources).rest store = columns (numberedFrom 0 xss) := by
  have hleft : (sources.map fun i => (⟨i, 0, false⟩ : Lane)).map (·.left store) = xss := by
    induction h with
    | nil => rfl
    | cons hi _ ih =>
      rw [List.map_cons, List.map_cons, ih, Lane.left, hi]
      rfl
  rw [Round.rest, remaining, hleft, List.map_nil, numberedUpcoming_start]

theorem AdvancesTo.rest {behind ahead : List Lane} {t : Option α × Round × List (Source α)}
    (hlanes : (behind ++ ahead).map Lane.source = sources) (ht : AdvancesTo store behind ahead t) :
    t.1 = (remaining store behind ahead).head?.map Prod.snd ∧ t.2.2 = store ∧
      t.2.1.rest store = (remaining store behind ahead).tail ∧
      ∀ v, (remaining store behind ahead).head? = some v → t.2.1.lastLane = v.1 := by
  cases ht with
  | @gives behind' skipped rest l x s hreach hskipped hl =>
    have hitems := h.exists_lane (hreach.map_source.trans hlanes)
    have hahead : ∀ k ∈ skipped ++ l :: rest, ∃ xs, store[k.source]? = some (.items xs) :=
      fun k hk => hitems k (List.mem_append_right _ hk)
    rw [remaining_reaches (h.exists_lane hlanes) hreach, remaining_gives hahead hskipped hl]
    have hset := (Lane.left_eq_cons (hahead l (List.mem_append_right _ List.mem_cons_self)) hl).2
    exact ⟨rfl, hset, rfl, fun v hv => Option.some.inj hv ▸ rfl⟩
  | @ends lanes hreach hnone =>
    have hitems := h.exists_lane (hreach.map_source.trans hlanes)
    have hempty : remaining store [] lanes = [] := by
      rw [remaining, List.map_nil, numberedUpcoming_start]
      exact columns_of_forall_nil (numberedFrom_of_forall_nil (map_left_close hitems hnone).2)
    rw [remaining_reaches (h.exists_lane hlanes) hreach, hempty]
    exact ⟨rfl, rfl, rfl, nofun⟩

/-- **A round over collections gives what it has still to give**, and nothing else changes. -/
theorem Round.next_of_collections {r : Round} (hr : r.Over sources) :
    ∃ r', r.next store = (.ok ((r.rest store).head?.map Prod.snd), r', store) ∧ r'.Over sources ∧
      r'.rest store = (r.rest store).tail ∧ ∀ v, (r.rest store).head? = some v → r'.lastLane = v.1 := by
  have hadvance : ∀ behind ahead, (behind ++ ahead).map Lane.source = sources →
      ∃ r', advance behind ahead store = ((remaining store behind ahead).head?.map Prod.snd, r', store) ∧
        r'.Over sources ∧ r'.rest store = (remaining store behind ahead).tail ∧
        ∀ v, (remaining store behind ahead).head? = some v → r'.lastLane = v.1 := by
    intro behind ahead hlanes
    have ht := advance_advancesTo behind ahead store
    obtain ⟨hvalue, hstore, hrest⟩ := ht.rest h hlanes
    exact ⟨_, Prod.ext hvalue (Prod.ext rfl hstore), ht.over hlanes, hrest⟩
  cases r with
  | finished => exact ⟨finished, rfl, trivial, rfl, nofun⟩
  | under behind ahead =>
    obtain ⟨r', hnext, hr'⟩ := hadvance behind ahead hr
    exact ⟨r', by rw [next, hnext]; rfl, hr'⟩
  | fresh is =>
    obtain rfl : is = sources := hr
    obtain ⟨r', hnext, hr'⟩ := hadvance [] _ (map_source_start is)
    exact ⟨r', by rw [next, h.absentType?_eq, hnext]; rfl, hr'⟩

theorem Round.turn_of_collections {r : Round} (hr : r.Over sources) :
    ∃ r', r.turn store = (.ok (r.rest store).head?, r', store) ∧ r'.Over sources ∧
      r'.rest store = (r.rest store).tail := by
  obtain ⟨r', hnext, hover, hrest, hlane⟩ := Round.next_of_collections h hr
  refine ⟨r', ?_, hover, hrest⟩
  rw [turn, hnext]
  cases hhead : (r.rest store).head? with
  | none => rfl
  | some v =>
    change (Except.ok (some (r'.lastLane, v.2)), r', store) = _
    rw [hlane v hhead]

/-- All that a number of turns give, and whether the round has ended before. -/
theorem Round.take_of_collections {r : Round} (hr : r.Over sources) (n : Nat) :
    (r.take store n).1 = .ok (((r.rest store).map Prod.snd).take n, decide ((r.rest store).length < n)) ∧
      (r.take store n).2.2 = store := by
  induction n generalizing r with
  | zero => exact ⟨rfl, rfl⟩
  | succ n ih =>
    obtain ⟨r', hnext, hover, hrest, -⟩ := Round.next_of_collections h hr
    obtain ⟨htake, hstore⟩ := ih hover
    rw [take, hnext]
    cases hcases : r.rest store with
    | nil => exact ⟨rfl, rfl⟩
    | cons v vs =>
      rw [hrest, hcases] at htake
      dsimp only [List.head?_cons, Option.map_some]
      cases hend : r'.take store n with
      | mk answer after =>
      rw [hend] at htake hstore
      cases answer with
      | error t => cases htake
      | ok answer =>
        obtain rfl := Except.ok.inj htake
        exact ⟨congrArg Except.ok (Prod.ext rfl (decide_eq_decide.mpr Nat.succ_lt_succ_iff.symm)), hstore⟩

/-- The sizes of the sources are those of the lists. -/
theorem Collections.map_size : (sources.map fun i => (store[i]?.map Source.size).getD 0) = xss.map List.length := by
  induction h with
  | nil => rfl
  | cons hi _ ih =>
    rw [List.map_cons, List.map_cons, ih, hi]
    rfl

end Rounds

end Collections

/-- **Taking turns goes column by column.** Of any number of turns over collections the first values are those of the
columns, for `k = 0, 1, …` the member number `k` of each list that has one, in the order of the lists; and when these have
been given, the next turn ends the round. So a complete round gives all columns. It changes nothing, and a second one gives
the same. Its values are a rearrangement of all members, in which those of each list, told apart by the number of the list,
keep their order. -/
theorem drain_columns {store : List (Source α)} {sources : List Nat} {xss : List (List α)}
    (h : Collections store sources xss) :
    (∀ n, ((Round.fresh sources).take store n).1 =
        .ok ((columns xss).take n, decide ((columns xss).length < n)) ∧
      ((Round.fresh sources).take store n).2.2 = store) ∧
    drain store sources = (.ok (columns xss), store) ∧
    drain (drain store sources).2 sources = drain store sources ∧
    (columns xss).Perm xss.flatten ∧
    (columns (numberedFrom 0 xss)).map Prod.snd = columns xss ∧
    ∀ i xs, xss[i]? = some xs → ((columns (numberedFrom 0 xss)).filter (·.1 = i)).map Prod.snd = xs := by
  have htake : ∀ n, ((Round.fresh sources).take store n).1 =
      .ok ((columns xss).take n, decide ((columns xss).length < n)) ∧
      ((Round.fresh sources).take store n).2.2 = store := by
    intro n
    have hrest := Round.take_of_collections h (r := .fresh sources) rfl n
    rwa [h.rest_fresh, map_snd_columns_numberedFrom, ← List.length_map (f := Prod.snd), map_snd_columns_numberedFrom]
      at hrest
  have hdrain : drain store sources = (.ok (columns xss), store) := by
    rw [drain, h.map_size]
    obtain ⟨hvalues, hstore⟩ := htake ((xss.map List.length).foldr (· + ·) 0 + 1)
    have hlength : (columns xss).length ≤ (xss.map List.length).foldr (· + ·) 0 + 1 := by
      rw [(columns_perm xss).length_eq, List.length_flatten]
      exact Nat.le_succ _
    cases hend : (Round.fresh sources).take store ((xss.map List.length).foldr (· + ·) 0 + 1) with
    | mk answer after =>
    rw [hend] at hvalues hstore
    obtain rfl : answer = _ := hvalues
    rw [List.take_of_length_le hlength]
    exact Prod.ext rfl hstore
  refine ⟨htake, hdrain, ?_, columns_perm xss, map_snd_columns_numberedFrom 0 xss, fun i xs => filter_columns_numberedFrom⟩
  rw [hdrain]
  exact hdrain

/-- Lists of different lengths, an empty one among them, and one that is given twice. -/
theorem unequal_drain : Collections [.items [1, 2], .items [], .items [10, 20, 30]] [2, 0, 1, 2]
      [[10, 20, 30], [1, 2], [], [10, 20, 30]] ∧
    drain [.items [1, 2], .items [], .items [10, 20, 30]] [2, 0, 1, 2] =
      (.ok [10, 1, 10, 20, 2, 20, 30, 30], [.items [1, 2], .items [], .items [10, 20, 30]]) := by
  have h : Collections [.items [1, 2], .items [], .items [10, 20, 30]] [2, 0, 1, 2]
      [[10, 20, 30], [1, 2], [], [10, 20, 30]] := .cons rfl (.cons rfl (.cons rfl (.cons rfl .nil)))
  exact ⟨h, (drain_columns h).2.1⟩

end PegTemplate
