/-!
# Taking turns

* `Source` : a collection, a stream that can be read once, or one without end;
* `Round` : a round over several sources, which gives each its turn until all of them have ended;
* `Round.next` : the next value of a round;
* `Round.drain` : all values that are left in a round;
* `columns` : the first members of all lists, then the second ones, and so on.

Rounds over the same sources share the streams among them. A source is looked at only when its turn comes.
-/

namespace PegTemplate

variable {α : Type}

/-- Where values come from. -/
inductive Source (α : Type) where
  /-- A collection, which each round reads from its start. -/
  | items (xs : List α)
  /-- A stream, which all rounds read on from where it is. -/
  | stream (xs : List α)
  /-- A stream without end; its next value is number `n`. -/
  | endless (values : Nat → α) (n : Nat)
  /-- No source of values. -/
  | absent (type : String)

/-- The next value of a source, for a reader that has read `n` values, and the source after that. -/
def Source.read? : Source α → (n : Nat) → Option (α × Source α)
  | items xs, n => xs[n]?.map fun x => (x, items xs)
  | stream [], _ => none
  | stream (x :: xs), _ => some (x, stream xs)
  | endless f n, _ => some (f n, endless f (n + 1))
  | absent _, _ => none

/-- How many values may still be read; a stream without end counts as none. -/
def Source.size : Source α → Nat
  | items xs | stream xs => xs.length
  | endless _ _ | absent _ => 0

/-- The type of something that is no source of values. -/
def Source.absentType? : Source α → Option String
  | absent t => some t
  | _ => none

/-- The place of a round in one of its sources. -/
structure Lane where
  source : Nat
  /-- How many values were read here. -/
  read : Nat
  ended : Bool
  deriving DecidableEq, Inhabited

/-- A round over several sources. -/
inductive Round where
  /-- A round over these sources, which nothing has been read from. -/
  | fresh (sources : List Nat)
  /-- A pass over the lanes: those that had their turn, and those that wait for it. -/
  | under (behind ahead : List Lane)
  | finished
  deriving DecidableEq, Inhabited

/-- The rest of a pass: the first value that is read in it, and the lanes and the sources then. -/
def readLanes : (behind ahead : List Lane) → (store : List (Source α)) →
    Option α × List Lane × List Lane × List (Source α)
  | behind, [], store => (none, behind, [], store)
  | behind, l :: ls, store =>
    if l.ended then readLanes (behind ++ [l]) ls store
    else match store[l.source]?.bind (·.read? l.read) with
      | some (x, s) => (some x, behind ++ [{ l with read := l.read + 1 }], ls, store.set l.source s)
      | none => readLanes (behind ++ [{ l with ended := true }]) ls store

/-- The next value of a round that is under way. A pass without a value is the last one. -/
def advance (behind ahead : List Lane) (store : List (Source α)) : Option α × Round × List (Source α) :=
  match readLanes behind ahead store with
  | (some x, behind, ahead, store) => (some x, .under behind ahead, store)
  | (none, lanes, _, store) => match readLanes [] lanes store with
    | (some x, behind, ahead, store) => (some x, .under behind ahead, store)
    | (none, _, _, store) => (none, .finished, store)

/-- The type of the first of some sources that is none. -/
def absentType? (store : List (Source α)) (sources : List Nat) : Option String :=
  sources.findSome? fun i => store[i]?.bind (·.absentType?)

/-- The next value of a round; the error is the type of something that is no source. -/
def Round.next (store : List (Source α)) : Round → Except String (Option α) × Round × List (Source α)
  | finished => (.ok none, finished, store)
  | under behind ahead =>
    let (x, r, store) := advance behind ahead store
    (.ok x, r, store)
  | fresh sources => match absentType? store sources with
    | some t => (.error t, finished, store)
    | none =>
      let (x, r, store) := advance [] (sources.map fun i => ⟨i, 0, false⟩) store
      (.ok x, r, store)

/-- Up to `n` values of a round; the flag says that it ended before. -/
def Round.take (store : List (Source α)) :
    Round → (n : Nat) → Except String (List α × Bool) × Round × List (Source α)
  | r, 0 => (.ok ([], false), r, store)
  | r, n + 1 => match r.next store with
    | (.error t, r, store) => (.error t, r, store)
    | (.ok none, r, store) => (.ok ([], true), r, store)
    | (.ok (some x), r, store) => match r.take store n with
      | (.error t, r, store) => (.error t, r, store)
      | (.ok (xs, ended), r, store) => (.ok (x :: xs, ended), r, store)

/-- All values of a new round over some sources. -/
def drain (store : List (Source α)) (sources : List Nat) : Except String (List α) × List (Source α) :=
  let bound := (sources.map fun i => (store[i]?.map Source.size).getD 0).foldr (· + ·) 0
  match (Round.fresh sources).take store (bound + 1) with
  | (.ok (xs, _), _, store) => (.ok xs, store)
  | (.error t, _, store) => (.error t, store)

/-- The first members of all lists, then the second ones, and so on. -/
def columns (xss : List (List α)) : List α :=
  (List.range ((xss.map List.length).foldr (· + ·) 0)).flatMap fun k => xss.filterMap (·[k]?)

end PegTemplate
