import PegTemplate.Options

/-!
# Options can only be read

* `ContextStep.onSource`, `sourceAfter` : what steps make of the table that options came from;
* `ContextState.Over` : the options show the source itself, or they show another table;
* `ContextState.Over.shows_step` : what the options show after a step;
* `ContextState.Alike`, `ContextState.Alike.answers_eq` : contexts that cannot be told apart;
* `ContextState.ReadOnly`, `ContextState.options_isolated` : **a context reads its options and changes nothing: a copy
  stays as it was made, a view shows the source as it is.**
-/

namespace PegTemplate

/-! ## The source -/

/-- What a step makes of the source. Only a change of the source itself that succeeds makes a difference to it. -/
def ContextStep.onSource : ContextStep → Table → Table
  | .change k v, t => (t.set k v).toOption.getD t
  | .erase k, t => (t.erase k).toOption.getD t
  | _, t => t

/-- What steps make of the source. -/
def sourceAfter (source : Table) (steps : List ContextStep) : Table :=
  steps.foldl (fun t x => x.onSource t) source

theorem tableAt_set_self {tables : List Table} {n : Nat} (h : n < tables.length) (t : Table) :
    tableAt (tables.set n t) n = t := by
  rw [tableAt, List.getD_eq_getElem?_getD, List.getElem?_set_self h]
  rfl

theorem tableAt_set_of_ne {m n : Nat} (h : n ≠ m) (tables : List Table) (t : Table) :
    tableAt (tables.set n t) m = tableAt tables m := by
  rw [tableAt, tableAt, List.getD_eq_getElem?_getD, List.getD_eq_getElem?_getD, List.getElem?_set_ne h]

theorem Context.shown_of_call {c : Context} {text : String} (h : c.text.call = text) :
    c.shown = "ActionContext(text=" ++ quoteString text ++ ")" := by
  subst h
  rfl

namespace ContextState
variable {s s' : ContextState} {viewed : Bool}

/-- A change of the source leaves everything else as it is. -/
theorem putSource_source (s : ContextState) (r : Except Fault Table) :
    (s.putSource r).2.source = s.source ∧ (s.putSource r).2.context = s.context ∧
      (s.putSource r).2.tables.length = s.tables.length := by
  cases r with
  | ok t => exact ⟨rfl, rfl, List.length_set⟩
  | error f => exact ⟨rfl, rfl, rfl⟩

theorem tableAt_putSource_of_ne {n : Nat} (h : s.source ≠ n) (r : Except Fault Table) :
    tableAt (s.putSource r).2.tables n = tableAt s.tables n := by
  cases r with
  | ok t => exact tableAt_set_of_ne h s.tables t
  | error f => rfl

theorem sourceTable_putSource (h : s.source < s.tables.length) (r : Except Fault Table) :
    (s.putSource r).2.sourceTable = r.toOption.getD s.sourceTable := by
  cases r with
  | ok t => exact tableAt_set_self h t
  | error f => rfl

/-! ## Copies and views -/

/-- The source is one of the tables, and the options show it if they are a view of it, else another table. -/
structure Over (viewed : Bool) (s : ContextState) : Prop where
  inside : s.source < s.tables.length
  shows_iff : s.source = s.context.options ↔ viewed = true

theorem over_initial (table : Table) (viewed : Bool) (text : Method String) (location : Method Location) :
    (initial table viewed text location).Over viewed := by
  cases viewed with
  | false => exact ⟨by simp [initial, Context.make], by simp [initial, Context.make]⟩
  | true => exact ⟨by simp [initial, Context.make], by simp [initial, Context.make]⟩

theorem Over.step (h : s.Over viewed) (x : ContextStep) : (s.step x).2.Over viewed := by
  have hput (r : Except Fault Table) : (s.putSource r).2.Over viewed := by
    obtain ⟨hsource, hcontext, hlength⟩ := s.putSource_source r
    exact ⟨by rw [hsource, hlength]; exact h.inside, by rw [hsource, hcontext]; exact h.shows_iff⟩
  cases x with
  | change k v => exact hput _
  | erase k => exact hput _
  | rebuild => exact ⟨h.inside, h.shows_iff⟩
  | _ => exact h

theorem Over.sourceTable_step (h : s.Over viewed) (x : ContextStep) :
    (s.step x).2.sourceTable = x.onSource s.sourceTable := by
  cases x with
  | change k v => exact sourceTable_putSource h.inside _
  | erase k => exact sourceTable_putSource h.inside _
  | _ => rfl

/-- A view of the source shows what the source holds. -/
theorem Over.shownOptions_eq (h : s.Over true) : s.shownOptions = s.sourceTable := by
  rw [shownOptions, sourceTable, h.shows_iff.mpr rfl]

/-- A copy is what it was, whatever a step does. -/
theorem Over.shownOptions_step (h : s.Over false) (x : ContextStep) : (s.step x).2.shownOptions = s.shownOptions := by
  have hne : s.source ≠ s.context.options := fun heq => Bool.false_ne_true (h.shows_iff.mp heq)
  have hput (r : Except Fault Table) : (s.putSource r).2.shownOptions = s.shownOptions := by
    rw [shownOptions, (s.putSource_source r).2.1]
    exact tableAt_putSource_of_ne hne r
  cases x with
  | change k v => exact hput _
  | erase k => exact hput _
  | _ => rfl

/-- Text and location stay: a new context asks the old one for them. -/
theorem call_step (s : ContextState) (x : ContextStep) :
    (s.step x).2.context.text.call = s.context.text.call ∧
      (s.step x).2.context.location.call = s.context.location.call := by
  have hput (r : Except Fault Table) := (s.putSource_source r).2.1
  cases x with
  | change k v => exact ⟨by rw [step, hput], by rw [step, hput]⟩
  | erase k => exact ⟨by rw [step, hput], by rw [step, hput]⟩
  | _ => exact ⟨rfl, rfl⟩

/-! ## All steps -/

/-- A context with that text and location, whose options show `seen`, over a source that holds `source`. -/
structure Shows (s : ContextState) (text : String) (location : Location) (source seen : Table) : Prop where
  text_eq : s.context.text.call = text
  location_eq : s.context.location.call = location
  source_eq : s.sourceTable = source
  seen_eq : s.shownOptions = seen

theorem shows_initial (table : Table) (viewed : Bool) (text : Method String) (location : Method Location) :
    (initial table viewed text location).Shows text.call location.call table table := by
  cases viewed with
  | false => exact ⟨rfl, rfl, rfl, rfl⟩
  | true => exact ⟨rfl, rfl, rfl, rfl⟩

/-- What is seen of a table that was `table` and has become `source`. -/
def seenOf (viewed : Bool) (table source : Table) : Table := if viewed then source else table

variable {text : String} {location : Location} {table source : Table}

theorem Over.shows_step (h : s.Over viewed) (hs : s.Shows text location source (seenOf viewed table source))
    (x : ContextStep) :
    (s.step x).2.Shows text location (x.onSource source) (seenOf viewed table (x.onSource source)) := by
  obtain ⟨htext, hlocation⟩ := s.call_step x
  have hsource : (s.step x).2.sourceTable = x.onSource source := by rw [h.sourceTable_step, hs.source_eq]
  refine ⟨htext.trans hs.text_eq, hlocation.trans hs.location_eq, hsource, ?_⟩
  -- a copy is another table than the one that steps change; a view is told by the source itself
  cases viewed with
  | false => exact (h.shownOptions_step x).trans hs.seen_eq
  | true => exact (h.step x).shownOptions_eq.trans hsource

theorem Over.shows_after (h : s.Over viewed) (hs : s.Shows text location source (seenOf viewed table source))
    (steps : List ContextStep) :
    (s.after steps).Shows text location (sourceAfter source steps) (seenOf viewed table (sourceAfter source steps)) := by
  induction steps generalizing s source with
  | nil => exact hs
  | cons x xs ih => exact ih (h.step x) (h.shows_step hs x)

/-! ## Contexts made of contexts -/

/-- Contexts over the same tables that call different functions, but with the same results. -/
structure Alike (s s' : ContextState) : Prop where
  tables_eq : s'.tables = s.tables
  source_eq : s'.source = s.source
  options_eq : s'.context.options = s.context.options
  text_eq : s'.context.text.call = s.context.text.call
  location_eq : s'.context.location.call = s.context.location.call

theorem alike_rebuilt (s : ContextState) : s.Alike s.rebuilt := ⟨rfl, rfl, rfl, rfl, rfl⟩

theorem Alike.putSource (h : s.Alike s') (r : Except Fault Table) :
    (s'.putSource r).1 = (s.putSource r).1 ∧ (s.putSource r).2.Alike (s'.putSource r).2 := by
  cases r with
  | ok t => exact ⟨rfl, by simp [ContextState.putSource, h.tables_eq, h.source_eq], h.source_eq, h.options_eq,
      h.text_eq, h.location_eq⟩
  | error f => exact ⟨rfl, h⟩

theorem Alike.step (h : s.Alike s') (x : ContextStep) :
    (s'.step x).1 = (s.step x).1 ∧ (s.step x).2.Alike (s'.step x).2 := by
  have hshown : s'.shownOptions = s.shownOptions := by rw [shownOptions, h.tables_eq, h.options_eq, shownOptions]
  have hsource : s'.sourceTable = s.sourceTable := by rw [sourceTable, h.tables_eq, h.source_eq, sourceTable]
  cases x with
  | text => exact ⟨congrArg (fun t => Except.ok (Value.text t)) h.text_eq, h⟩
  | location => exact ⟨congrArg (fun l => Except.ok (Value.location l)) h.location_eq, h⟩
  | shown => exact ⟨congrArg (fun t => Except.ok (Value.text t)) (Context.shown_of_call h.text_eq), h⟩
  | options => exact ⟨congrArg (fun t => Except.ok (Value.view t)) hshown, h⟩
  | get k => exact ⟨congrArg (·.get k) hshown, h⟩
  | set k v => exact ⟨rfl, h⟩
  | delete k => exact ⟨rfl, h⟩
  | change k v => rw [ContextState.step, hsource, ContextState.step]; exact h.putSource _
  | erase k => rw [ContextState.step, hsource, ContextState.step]; exact h.putSource _
  | rebuild => exact ⟨rfl, h.tables_eq, h.source_eq, h.options_eq, h.text_eq, h.location_eq⟩

theorem Alike.answers_eq (h : s.Alike s') (steps : List ContextStep) : s'.answers steps = s.answers steps := by
  induction steps generalizing s s' with
  | nil => rfl
  | cons x xs ih =>
    obtain ⟨hanswer, hnext⟩ := h.step x
    rw [answers, answers, hanswer, ih hnext]

/-! ## The main result -/

/-- What a context answers that has this text, this location and options of these contents. What it is asked leaves
everything as it is, and a context made of it cannot be told from it. -/
structure ReadOnly (s : ContextState) (text : String) (location : Location) (seen : Table) : Prop where
  text_eq : s.step .text = (.ok (.text text), s)
  location_eq : s.step .location = (.ok (.location location), s)
  shown : s.step .shown = (.ok (.text ("ActionContext(text=" ++ quoteString text ++ ")")), s)
  options : s.step .options = (.ok (.view seen), s)
  get : ∀ k, s.step (.get k) = (seen.get k, s)
  set : ∀ k v, s.step (.set k v) = (.error .readOnlyAssignment, s)
  delete : ∀ k, s.step (.delete k) = (.error .readOnlyDeletion, s)
  rebuild : ∀ later, (s.step .rebuild).2.answers later = s.answers later

theorem Shows.readOnly {seen : Table} (h : s.Shows text location source seen) : s.ReadOnly text location seen where
  text_eq := congrArg (fun t => (Except.ok (Value.text t), s)) h.text_eq
  location_eq := congrArg (fun l => (Except.ok (Value.location l), s)) h.location_eq
  shown := congrArg (fun t => (Except.ok (Value.text t), s)) (Context.shown_of_call h.text_eq)
  options := congrArg (fun t => (Except.ok (Value.view t), s)) h.seen_eq
  get k := congrArg (fun t => (t.get k, s)) h.seen_eq
  set _ _ := rfl
  delete _ := rfl
  rebuild later := s.alike_rebuilt.answers_eq later

/-- **A context only reads its options.** After any steps it has the text and the location that it was made with.
Options that were given as a table are what they were then, whatever has become of that table; options that were given
as a view are what the table is now. To set or to delete one is a `TypeError` that changes nothing, and a context made
of the text, the location and the options of another one answers as that one does. -/
theorem options_isolated (table : Table) (viewed : Bool) (text : Method String) (location : Method Location)
    (steps : List ContextStep) :
    ((initial table viewed text location).after steps).ReadOnly text.call location.call
        (if viewed then sourceAfter table steps else table) ∧
      ((initial table viewed text location).after steps).sourceTable = sourceAfter table steps ∧
      Fault.readOnlyAssignment.kind = "TypeError" ∧ Fault.readOnlyDeletion.kind = "TypeError" := by
  have hinitial : (initial table viewed text location).Shows text.call location.call table (seenOf viewed table table) := by
    rw [seenOf, ite_self]
    exact shows_initial table viewed text location
  have hafter := (over_initial table viewed text location).shows_after hinitial steps
  exact ⟨hafter.readOnly, hafter.source_eq, rfl, rfl⟩

example : (initial [(.text "k", .int 1)] false (.function "") (.function (locationOf [] 0 0))).answers
    [.change (.text "k") (.int 2), .rebuild, .get (.text "k")] = [.ok .none, .ok .none, .ok (.int 1)] := rfl

example : (initial [(.text "k", .int 1)] true (.function "") (.function (locationOf [] 0 0))).answers
    [.change (.text "k") (.int 2), .rebuild, .get (.text "k")] = [.ok .none, .ok .none, .ok (.int 2)] := rfl

end ContextState

end PegTemplate
