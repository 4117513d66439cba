import Mathlib.Data.List.Nodup
import PegTemplate.Proofs.Template.Generated

/-!
# The names in the block of an action

* `Scope.find_own`, `Scope.find_global` : names that the function has itself, and names that it looks up;
* `forwarded_function` : the names that the call passes on without binding them;
* `ActionEntry.Named.bound` : in the block of an action with labels for parameters, all of them are bound;
* `startScope`, `boundValue` : the names as the block starts, and their values once the context is made;
* `ActionEntry.function_run` : **a run looks up the class of contexts, makes the context, looks up the action and calls
  it with the values of its parameters.**
-/

namespace PegTemplate
open Unicode

/-! ## Looking up names -/

theorem Scope.find_own {s : Scope} {n : String} {v : Value} (h : n ∈ s.own) (hv : s.locals.lookup n = some v) :
    s.find n = .ok v := by
  rw [Scope.find, if_pos (List.contains_iff_mem.mpr h), hv]

theorem Scope.find_unassigned {s : Scope} {n : String} (h : n ∈ s.own) (hv : s.locals.lookup n = none) :
    s.find n = .error (.unassigned n) := by
  rw [Scope.find, if_pos (List.contains_iff_mem.mpr h), hv]

theorem Scope.find_global {s : Scope} {n : String} {v : Value} (h : n ∉ s.own) (hv : s.globals.lookup n = some v) :
    s.find n = .ok v := by
  rw [Scope.find, if_neg (by rwa [List.contains_iff_mem]), hv]

/-- In a table without repeats each entry is found. -/
theorem lookup_of_mem {table : List (String × Value)} (hn : (table.map Prod.fst).Nodup) {n : String} {v : Value}
    (h : (n, v) ∈ table) : table.lookup n = some v := by
  induction table with
  | nil => cases h
  | cons a table ih =>
    rw [List.map_cons, List.nodup_cons] at hn
    rcases List.mem_cons.mp h with rfl | h
    · exact List.lookup_cons_self
    · have hne : (n == a.1) = false := by
        rw [beq_eq_false_iff_ne]
        exact fun e => hn.1 (e ▸ List.mem_map_of_mem h)
      rw [List.lookup_cons, hne]
      exact ih hn.2 h

/-- Of the values that a function is called with, each is found under its parameter. -/
theorem lookup_arguments {names : List String} {values : List Value} (hlen : names.length = values.length)
    (hn : names.Nodup) {n : String} {v : Value} (h : (n, v) ∈ names.zip values) :
    (names.zip values).reverse.lookup n = some v := by
  apply lookup_of_mem
  · rw [List.map_reverse, List.nodup_reverse, List.map_fst_zip (Nat.le_of_eq hlen)]
    exact hn
  · exact List.mem_reverse.mpr h

theorem lookup_arguments_eq_none {names : List String} {values : List Value} {n : String} (h : n ∉ names) :
    (names.zip values).reverse.lookup n = none := by
  rw [List.lookup_eq_none_iff]
  intro a ha
  rw [bne_iff_ne]
  rintro rfl
  exact h (List.of_mem_zip (List.mem_reverse.mp ha)).1

/-- What is in the first of two lists of one length stands for something in the other. -/
theorem exists_mem_zip {α β : Type} {as : List α} {bs : List β} (hlen : as.length = bs.length) {a : α} (h : a ∈ as) :
    ∃ b, (a, b) ∈ as.zip bs := by
  rw [← List.map_fst_zip (Nat.le_of_eq hlen)] at h
  obtain ⟨⟨_, b⟩, hb, rfl⟩ := List.mem_map.mp h
  exact ⟨b, hb⟩

/-! ## Names that are passed on -/

theorem addForwarded_ne_nil {bound acc : List String} {es : List Expr} (h : acc ≠ []) :
    addForwarded bound acc es ≠ [] := by
  induction es generalizing acc with
  | nil => exact h
  | cons e es ih =>
    cases e with
    | name n =>
      rw [addForwarded]
      split
      · exact ih h
      · exact ih (by simp)
    | _ => exact ih h

/-- No name is passed on if all are bound. -/
theorem addForwarded_names {bound ns : List String} :
    addForwarded bound [] (ns.map .name) = [] ↔ ∀ n ∈ ns, n ∈ bound := by
  induction ns with
  | nil => simp [addForwarded]
  | cons n ns ih =>
    rw [List.map_cons, addForwarded, List.forall_mem_cons]
    by_cases hn : n ∈ bound
    · rw [if_pos (by simp [hn]), ih]
      exact ⟨fun h => ⟨hn, h⟩, fun h => h.2⟩
    · rw [if_neg (by simp [hn])]
      exact ⟨fun h => absurd h (addForwarded_ne_nil (by simp)), fun h => absurd h.1 hn⟩

theorem callsIn_names (ns : List String) : callsIn (ns.map .name) = [] := by
  induction ns with
  | nil => rw [List.map_nil, callsIn]
  | cons n ns ih => rw [List.map_cons, callsIn, ih, Expr.calls, mergeLevels]

/-- The calls in the block: first the context is made, and then the action is called. -/
theorem calls_function (e : ActionEntry) (b : Block) :
    (e.function b).calls =
      [⟨contextClass, []⟩, ⟨e.name, (e.parameters.map normalName).map .name⟩] := by
  have hcontext : (contextStatement e.context).calls = [[⟨contextClass, []⟩], []] := rfl
  have hcall : (callStatement e.name e.parameters).calls = [[⟨e.name, (e.parameters.map normalName).map .name⟩]] := by
    rw [callStatement, Statement.calls, ← Function.comp_def, ← List.map_map, Expr.calls, callsIn_names]
    rfl
  show ([contextStatement e.context, callStatement e.name e.parameters].foldr
    (fun s ls => mergeLevels s.calls ls) []).flatten = _
  rw [List.foldr_cons, List.foldr_cons, List.foldr_nil, hcontext, hcall]
  rfl

/-- **A block passes on just the parameters that are no labels, in their normal form.** -/
theorem forwarded_function {e : ActionEntry} {b : Block} {context : List String} (hc : contextClass ∈ context)
    (hn : e.name ∈ context) :
    forwarded context b.labels (e.function b) = [] ↔
      ∀ p ∈ e.parameters, normalName p ∈ b.labels ∨ normalName p = normalName e.context := by
  have hassigned : (e.function b).assigned = [normalName e.context] := rfl
  rw [forwarded, calls_function, List.filter_cons_of_pos (by simpa using hc), List.filter_cons_of_pos (by simpa using hn),
    List.filter_nil, List.foldl_cons, List.foldl_cons, List.foldl_nil, addForwarded, addForwarded_names, hassigned]
  simp

/-! ## The parameters of the block -/

theorem Block.map_parameters (b : Block) :
    b.parameters.map normalName = contextParameters ++ b.labels.map normalName := rfl

theorem Block.zip_parameters (b : Block) (t l o : Value) (values : List Value) :
    (b.parameters.map normalName).zip (t :: l :: o :: values) =
      ("text", t) :: ("location", l) :: ("options", o) :: (b.labels.map normalName).zip values := rfl

theorem Block.length_parameters {b : Block} {values : List Value} (h : values.length = b.labels.length) (t l o : Value) :
    (b.parameters.map normalName).length = (t :: l :: o :: values).length := by
  simp [Block.map_parameters, contextParameters, h]

/-- The parameters of an action are bound in its block, if all but the first are labels. -/
theorem ActionEntry.Named.bound {e : ActionEntry} {b : Block} (he : e.Named)
    (h : ∀ p ∈ e.parameters.tail, p ∈ b.labels) :
    ∀ p ∈ e.parameters, normalName p ∈ b.parameters.map normalName ∨ normalName p = normalName e.context :=
  he.forall_parameters.mpr
    ⟨.inr rfl, fun p hp => .inl (List.mem_map_of_mem (List.mem_append_right contextParameters (h p hp)))⟩

/-! ## Running the block -/

section
variable {σ : Type}

theorem lookUp_of_find {s : Scope} {n : String} {v : Value} (h : s.find n = .ok v) :
    (lookUp s n : Running σ Value) = pure v := by
  rw [lookUp, h]

theorem lookUp_of_error {s : Scope} {n : String} {e : NameFault} (h : s.find n = .error e) :
    (lookUp s n : Running σ Value) = throw (.name e) := by
  rw [lookUp, h]

theorem evalArguments_names (host : Host σ) {s : Scope} {ns : List String} {value : String → Value}
    (h : ∀ n ∈ ns, s.find n = .ok (value n)) :
    evalArguments host s (ns.map .name) = pure (ns.map value) := by
  induction ns with
  | nil =>
    rw [List.map_nil, evalArguments]
    rfl
  | cons n ns ih =>
    rw [List.map_cons, evalArguments, Expr.eval, lookUp_of_find (h n List.mem_cons_self), pure_bind,
      ih fun m hm => h m (List.mem_cons_of_mem n hm), pure_bind]
    · rfl
    · intro e he
      cases he

/-- The class of contexts is called with the context parameters by name. -/
theorem eval_contextCall (host : Host σ) {s : Scope} {t l o : Value} (ht : s.find "text" = .ok t)
    (hl : s.find "location" = .ok l) (ho : s.find "options" = .ok o) :
    (Expr.call (.name contextClass) [] contextKeywords).eval host s =
      (lookUp s contextClass >>= fun f => raising (f.call host [] [("text", t), ("location", l), ("options", o)])) := by
  have hkeywords : evalKeywords host s contextKeywords = pure [("text", t), ("location", l), ("options", o)] := by
    simp only [contextKeywords, evalKeywords, evalKeyword, Expr.eval, lookUp_of_find ht, lookUp_of_find hl,
      lookUp_of_find ho, pure_bind]
  rw [Expr.eval]
  · simp only [Expr.eval, evalArguments, hkeywords, pure_bind]
  · intro e he
    cases he

/-- The action is called with the values of names. -/
theorem eval_actionCall (host : Host σ) {s : Scope} (f : String) {ns : List String} {value : String → Value}
    (h : ∀ n ∈ ns, s.find n = .ok (value n)) :
    (Expr.call (.name f) (ns.map .name) []).eval host s =
      (lookUp s f >>= fun f => raising (f.call host (ns.map value) [])) := by
  rw [Expr.eval]
  · simp only [Expr.eval, evalArguments_names host h, evalKeywords, pure_bind]
  · intro e he
    cases ns <;> cases he

/-- The names of the block as it starts. -/
def startScope (e : ActionEntry) (b : Block) (globals : List (String × Value)) (arguments : List Value) : Scope :=
  ⟨b.parameters.map normalName ++ [normalName e.context], ((b.parameters.map normalName).zip arguments).reverse, globals⟩

/-- The value of a name once the context is made. -/
def boundValue (e : ActionEntry) (b : Block) (arguments : List Value) (context : Value) (n : String) : Value :=
  if n = normalName e.context then context
  else (((b.parameters.map normalName).zip arguments).reverse.lookup n).getD .none

variable {e : ActionEntry} {b : Block} {arguments : List Value}

/-- Each parameter of the block has its value as the block starts. -/
theorem find_startScope (hlen : (b.parameters.map normalName).length = arguments.length)
    (hn : (b.parameters.map normalName).Nodup) (globals : List (String × Value)) {n : String} {v : Value}
    (h : (n, v) ∈ (b.parameters.map normalName).zip arguments) : (startScope e b globals arguments).find n = .ok v :=
  Scope.find_own (List.mem_append_left _ (List.of_mem_zip h).1) (lookup_arguments hlen hn h)

/-- Once the context is made, its parameter and those of the block have values. -/
theorem find_set (hlen : (b.parameters.map normalName).length = arguments.length)
    (hn : (b.parameters.map normalName).Nodup) (globals : List (String × Value)) (context : Value) {n : String}
    (h : n ∈ b.parameters.map normalName ∨ n = normalName e.context) :
    ((startScope e b globals arguments).set (normalName e.context) context).find n =
      .ok (boundValue e b arguments context n) := by
  by_cases hc : n = normalName e.context
  · refine Scope.find_own (List.mem_append_right _ (List.mem_singleton.mpr hc)) ?_
    rw [boundValue, if_pos hc, hc]
    exact List.lookup_cons_self
  · have hmem := h.resolve_right hc
    obtain ⟨v, hv⟩ := exists_mem_zip hlen hmem
    refine Scope.find_own (List.mem_append_left _ hmem) ?_
    have hne : (n == normalName e.context) = false := beq_eq_false_iff_ne.mpr hc
    show List.lookup n ((normalName e.context, context) :: _) = _
    rw [List.lookup_cons, hne, boundValue, if_neg hc, lookup_arguments hlen hn hv]
    exact lookup_arguments hlen hn hv

/-- **A run looks up the class of contexts, makes the context, looks up the action and calls it with the values of its
parameters.** -/
theorem ActionEntry.function_run {t l o : Value} {values : List Value} (hlen : values.length = b.labels.length)
    (hn : (b.parameters.map normalName).Nodup)
    (hp : ∀ p ∈ e.parameters, normalName p ∈ b.parameters.map normalName ∨ normalName p = normalName e.context)
    (host : Host σ) (globals : List (String × Value)) :
    (e.function b).run host globals (t :: l :: o :: values) =
      (lookUp (startScope e b globals (t :: l :: o :: values)) contextClass >>= fun k =>
        raising (k.call host [] [("text", t), ("location", l), ("options", o)]) >>= fun context =>
        lookUp ((startScope e b globals (t :: l :: o :: values)).set (normalName e.context) context) e.name >>= fun f =>
        raising (f.call host
          (e.parameters.map fun p => boundValue e b (t :: l :: o :: values) context (normalName p)) [])) := by
  have hlength := Block.length_parameters hlen t l o
  have hfind : ∀ n v, (n, v) ∈ (b.parameters.map normalName).zip (t :: l :: o :: values) →
      (startScope e b globals (t :: l :: o :: values)).find n = .ok v :=
    fun n v => find_startScope hlength hn globals
  have hcontext := eval_contextCall host (hfind "text" t (by simp [b.zip_parameters]))
    (hfind "location" l (by simp [b.zip_parameters])) (hfind "options" o (by simp [b.zip_parameters]))
  show runStatements host (startScope e b globals (t :: l :: o :: values)) _ = _
  rw [ActionEntry.function, contextStatement, runStatements, hcontext, bind_assoc]
  refine congrArg _ (funext fun k => congrArg _ (funext fun context => ?_))
  have hbound : ∀ n ∈ e.parameters.map normalName,
      ((startScope e b globals (t :: l :: o :: values)).set (normalName e.context) context).find n =
        .ok (boundValue e b (t :: l :: o :: values) context n) := by
    intro n hmem
    obtain ⟨p, hpm, rfl⟩ := List.mem_map.mp hmem
    exact find_set hlength hn globals context (hp p hpm)
  have hcall := eval_actionCall host e.name hbound
  simp only [assignAll, Target.assign, ofExcept, pure_bind]
  rw [callStatement, runStatements]
  simpa only [List.map_map, Function.comp_def] using hcall

/-- If the context is taken by the name of the class of contexts, the class is not found. -/
theorem ActionEntry.function_run_of_hidden {t l o : Value} {values : List Value} (hlen : values.length = b.labels.length)
    (hn : (b.parameters.map normalName).Nodup)
    (hp : ∀ p ∈ e.parameters, normalName p ∈ b.parameters.map normalName ∨ normalName p = normalName e.context)
    (hcontext : normalName e.context = contextClass) (hlabels : contextClass ∉ b.parameters.map normalName)
    (host : Host σ) (globals : List (String × Value)) :
    (e.function b).run host globals (t :: l :: o :: values) = throw (.name (.unassigned contextClass)) := by
  have hfind : (startScope e b globals (t :: l :: o :: values)).find contextClass = .error (.unassigned contextClass) :=
    Scope.find_unassigned (List.mem_append_right _ (List.mem_singleton.mpr hcontext.symm))
      (lookup_arguments_eq_none hlabels)
  rw [e.function_run hlen hn hp, lookUp_of_error hfind]
  rfl

end

end PegTemplate
