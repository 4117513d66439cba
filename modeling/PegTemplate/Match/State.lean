import PegTemplate.Match.Memo

/-!
# The state of a match

* `State` : the memo table, the record of failures, and the state `σ` of the actions;
* `Halt` : why matching stops without a result;
* `Run` : a computation on the state, which keeps what it did to the state when it stops;
* `record` : notes a failure. Only those farthest to the right are kept;
* `silently` : runs without noting failures.
-/

namespace PegTemplate

/-- Why matching stops without a result. -/
inductive Halt (ε : Type) where
  | undefinedRule (name : String)
  | missingAction (index : Nat)
  /-- An action has not as many parameters as there are labels. -/
  | wrongArity (index : Nat)
  /-- An action raised an error. -/
  | raised (error : ε)
  /-- More rules are being applied, or a repetition goes on longer, than is possible. -/
  | exhausted
  deriving BEq, Inhabited

/-- What a match has done so far. -/
structure State (σ : Type) where
  memo : Memo
  /-- How many expressions are being matched whose failures are not noted. -/
  silence : Nat
  /-- The position of the farthest failures. -/
  farthest : Nat
  /-- What was expected there, in the order of the failures. -/
  expected : List String
  /-- What the actions did. -/
  world : σ
  deriving Inhabited

/-- The state before anything is matched. -/
def State.initial {σ : Type} (world : σ) : State σ := ⟨[], 0, 0, [], world⟩

/-- Forgets the last match; the next one starts at `position`. -/
def State.restart {σ : Type} (s : State σ) (position : Nat) : State σ :=
  { s with memo := [], farthest := position, expected := [] }

/-- Adds a description that is not there yet. -/
def addDescription (description : String) (expected : List String) : List String :=
  if expected.contains description then expected else expected ++ [description]

/-- Notes that `description` was expected at `position`. -/
def State.note {σ : Type} (s : State σ) (position : Nat) (description : String) : State σ :=
  if 0 < s.silence then s
  else if s.farthest < position then { s with farthest := position, expected := [description] }
  else if position = s.farthest then { s with expected := addDescription description s.expected }
  else s

/-- A computation on the state. -/
abbrev Run (σ ε α : Type) := EStateM (Halt ε) (State σ) α

section
variable {σ ε α : Type}

/-- Notes a failure. -/
def record (position : Nat) (description : String) : Run σ ε Unit :=
  modify (·.note position description)

/-- Notes a failure and fails. -/
def failAt (position : Nat) (description : String) : Run σ ε Result := do
  record position description
  return .failed

/-- Runs without noting failures. -/
def silently (x : Run σ ε α) : Run σ ε α := fun s =>
  match x { s with silence := s.silence + 1 } with
  | .ok a s => .ok a { s with silence := s.silence - 1 }
  | .error e s => .error e { s with silence := s.silence - 1 }

/-- Lets an action change its own part of the state. -/
def inWorld (x : EStateM ε σ α) : Run σ ε α := fun s =>
  match x s.world with
  | .ok a w => .ok a { s with world := w }
  | .error e w => .error (.raised e) { s with world := w }

end

end PegTemplate
