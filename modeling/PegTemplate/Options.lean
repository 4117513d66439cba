import PegTemplate.Value.Operator

/-!
# Contexts and their options

* `Table`, `Table.get`, `Table.set`, `Table.erase` : tables that can be changed;
* `GivenOptions` : what a context is given as options: a table, or a view that only reads one;
* `Method` : a function without parameters, or the method of a context that calls one;
* `Context`, `Context.make` : a context copies the table it is given, and keeps a view as it is;
* `ContextState`, `ContextStep`, `ContextState.step` : what can be done with a context and with the table that
  its options came from.

Tables are known by their number, so that a view shows each change of its table.
-/

namespace PegTemplate

/-! ## Tables -/

/-- Values by their keys. -/
abbrev Table := List (Value × Value)

/-- The value of a key. -/
def Table.get (t : Table) (k : Value) : Except Fault Value :=
  k.asKey.bind fun k => match lookupEntry t k with
    | some v => .ok v
    | none => .error (.missingKey k)

/-- A table with a value for a key. -/
def Table.set (t : Table) (k v : Value) : Except Fault Table := k.asKey.map fun k => setEntry k v t

/-- A table without a key that is in it. -/
def Table.erase (t : Table) (k : Value) : Except Fault Table :=
  k.asKey.bind fun k => match lookupEntry t k with
    | some _ => .ok (t.eraseP fun e => e.1.sameKey k)
    | none => .error (.missingKey k)

/-- The table of a number. -/
def tableAt (tables : List Table) (n : Nat) : Table := tables.getD n []

/-! ## Contexts -/

/-- What a context is given as its options. -/
inductive GivenOptions where
  | table (number : Nat)
  /-- A view that only reads a table. -/
  | view (number : Nat)
  deriving DecidableEq, Inhabited

/-- What can be called without arguments for a text, or for where it is. -/
inductive Method (α : Type) where
  | function (result : α)
  /-- The method of a context, which calls what the context was given. -/
  | bound (given : Method α)
  deriving Inhabited

/-- The result of a call. -/
def Method.call {α : Type} : Method α → α
  | function result => result
  | bound given => given.call

/-- A context. Its options are a view of a table. -/
structure Context where
  text : Method String
  location : Method Location
  /-- The number of the table that the options show. -/
  options : Nat
  deriving Inhabited

/-- Makes a context. A table is copied, and the context gets a view of the copy; a view is kept. -/
def Context.make (tables : List Table) (text : Method String) (location : Method Location) :
    GivenOptions → Context × List Table
  | .table n => (⟨text, location, tables.length⟩, tables ++ [tableAt tables n])
  | .view n => (⟨text, location, n⟩, tables)

/-- How a context is written. -/
def Context.shown (c : Context) : String := "ActionContext(text=" ++ quoteString c.text.call ++ ")"

/-! ## Steps -/

/-- A context and all tables, with the number of the one that its options came from. -/
structure ContextState where
  tables : List Table
  source : Nat
  context : Context
  deriving Inhabited

/-- What can be done with a context, and with the table that its options came from. -/
inductive ContextStep where
  | text
  | location
  /-- Asks how the context is written. -/
  | shown
  | options
  | get (key : Value)
  | set (key value : Value)
  | delete (key : Value)
  /-- Sets a key of the source. -/
  | change (key value : Value)
  /-- Deletes a key of the source. -/
  | erase (key : Value)
  /-- Makes a context of the text, the location and the options of this one, and puts it in its place. -/
  | rebuild
  deriving BEq, Inhabited

namespace ContextState

/-- A context whose options are a table, or a view of it. -/
def initial (table : Table) (viewed : Bool) (text : Method String) (location : Method Location) : ContextState :=
  let made := Context.make [table] text location (if viewed then .view 0 else .table 0)
  ⟨made.2, 0, made.1⟩

/-- What the options of the context show. -/
def shownOptions (s : ContextState) : Table := tableAt s.tables s.context.options

/-- What the source holds. -/
def sourceTable (s : ContextState) : Table := tableAt s.tables s.source

/-- Puts a changed table in the place of the source, if the change succeeds. -/
def putSource (s : ContextState) : Except Fault Table → Except Fault Value × ContextState
  | .ok t => (.ok .none, { s with tables := s.tables.set s.source t })
  | .error f => (.error f, s)

/-- Makes a context of the text, the location and the options of this one. -/
def rebuilt (s : ContextState) : ContextState :=
  let made := Context.make s.tables (.bound s.context.text) (.bound s.context.location) (.view s.context.options)
  ⟨made.2, s.source, made.1⟩

/-- Does a step. -/
def step (s : ContextState) : ContextStep → Except Fault Value × ContextState
  | .text => (.ok (.text s.context.text.call), s)
  | .location => (.ok (.location s.context.location.call), s)
  | .shown => (.ok (.text s.context.shown), s)
  | .options => (.ok (.view s.shownOptions), s)
  | .get k => (s.shownOptions.get k, s)
  | .set .. => (.error .readOnlyAssignment, s)
  | .delete _ => (.error .readOnlyDeletion, s)
  | .change k v => s.putSource (s.sourceTable.set k v)
  | .erase k => s.putSource (s.sourceTable.erase k)
  | .rebuild => (.ok .none, s.rebuilt)

/-- The state after steps. -/
def after (s : ContextState) (steps : List ContextStep) : ContextState := steps.foldl (fun s x => (s.step x).2) s

/-- What steps answer. -/
def answers (s : ContextState) : List ContextStep → List (Except Fault Value)
  | [] => []
  | x :: xs => (s.step x).1 :: (s.step x).2.answers xs

end ContextState

end PegTemplate
