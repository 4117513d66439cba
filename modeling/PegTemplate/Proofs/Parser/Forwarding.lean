import PegTemplate.Proofs.Block.Forwarded
import PegTemplate.Proofs.Block.Plain
import PegTemplate.Proofs.Parser.Exception
import PegTemplate.Proofs.Template.Written

/-!
# Actions that only report a name

* `BlockAction.Fails` : every run of an action reports that the block passes on a name, and nothing of the block runs;
* `BlockAction.fails_iff_missing` : that is so for the first name that is missing, and for no other;
* `ActionEntry.Spelled.parameter_cases` : a parameter of an action that is no label is passed on unbound;
* `BlockAction.fails_exactly` : **an action fails if and only if its block passes on an unbound name, and reports the first
  one.**
-/

namespace PegTemplate
open SyntaxNode

/-! ## Failing actions -/

/-- Every run of an action reports that its block passes on a name, and leaves the world as it is. -/
def BlockAction.Fails (a : BlockAction) (n : String) : Prop :=
  ∀ (σ : Type) (host : Host σ) (globals : List (String × Value)) (options : Value) (text : List Char) (start stop : Nat)
    (labels : List Value) (w : σ),
    (a.action host globals options).run text start stop labels w = .error (.forwarded a.block n) w

/-- Only an action of the host reports a name that is passed on, once the code runs. -/
theorem BlockAction.Raises.of_forwarded {σ : Type} {host : Host σ} {a : BlockAction} {globals : List (String × Value)}
    {arguments : List Value} {b : Block} {n : String} {w w' : σ} (hm : a.missing = [])
    (h : a.Raises host globals arguments w (.forwarded b n) w') : host.Raises (.forwarded b n) := by
  generalize hf : Fault.forwarded b n = f at h
  cases h with
  | forwarding h =>
    rw [hm] at h
    cases h
  | @code i w w' _ hi =>
    cases i with
    | name m => cases hf
    | raised f =>
      obtain rfl : Fault.forwarded b n = f := hf
      exact hi.plain_or_host.resolve_left Bool.false_ne_true

/-- A name is reported on every run just if it is the first one that is missing. -/
theorem BlockAction.fails_iff_missing {a : BlockAction} {n : String} : a.Fails n ↔ a.missing.head? = some n := by
  constructor
  · intro h
    -- A host whose actions all return can't be the one that reports the name.
    have hrun := h Unit ⟨fun _ _ _ => pure .none⟩ [] .none [] 0 0 [] ()
    have hraises := BlockAction.raises_iff.mpr hrun
    cases hm : a.missing with
    | nil =>
      obtain ⟨id, args, kws, w, w', hhost⟩ := hraises.of_forwarded hm
      cases hhost
    | cons m ms =>
      rw [BlockAction.action, hm] at hrun
      cases hrun
      rfl
  · intro h σ host globals options text start stop labels w
    obtain ⟨ms, hm⟩ := List.head?_eq_some_iff.mp h
    rw [BlockAction.action, hm]
    rfl

/-! ## Parameters of templates -/

namespace ActionEntry.Spelled

variable {e : ActionEntry} {b : Block} {c : Code}

/-- The code of an action assigns only the name that takes the context. -/
theorem mem_assigned (he : e.Spelled) {args : List Expr} {n : String}
    (hc : c.statements = (e.parameters.take 1).map contextStatement ++ [.result (some (.call (.name e.name) args []))])
    (hn : n ∈ c.assigned) : n = normalName e.context := by
  rw [Code.assigned, hc, List.flatMap_append, List.mem_append, List.flatMap_map, List.mem_flatMap] at hn
  rcases hn with ⟨p, hp, hn⟩ | hn
  · cases hps : e.parameters with
    | nil =>
      rw [hps] at hp
      cases hp
    | cons q qs =>
      rw [hps] at hp
      obtain rfl := List.mem_singleton.mp hp
      rw [he.context, hps, List.headD_cons]
      exact List.mem_singleton.mp hn
  · cases hn

/-- A parameter is a constant, a label or the one that takes the context, or else the block passes it on unbound. -/
theorem parameter_cases {context : List String} (he : e.Spelled) (hb : b.code = e.code) (hc : b.code? = some c)
    (hname : e.name ∈ context) {p : String} (hp : p ∈ e.parameters) :
    p ∈ ["None", "True", "False"] ∨ normalName p ∈ b.labels ∨ normalName p = normalName e.context ∨
      c.Forwards context b.labels (normalName p) := by
  obtain ⟨args, hargs, hstatements⟩ := he.statements_eq hb hc
  by_cases hconstant : p ∈ ["None", "True", "False"]
  · exact .inl hconstant
  by_cases hlabel : normalName p ∈ b.labels
  · exact .inr (.inl hlabel)
  by_cases hcontext : normalName p = normalName e.context
  · exact .inr (.inr (.inl hcontext))
  refine .inr (.inr (.inr ⟨⟨e.name, args, [], ?_, hname, ?_⟩, hlabel, ?_⟩))
  · have hmem : Statement.result (some (.call (.name e.name) args [])) ∈ c.statements := by
      rw [hstatements]
      exact List.mem_append_right _ (List.mem_singleton_self _)
    exact .child (List.mem_map_of_mem hmem) (.child (List.mem_singleton_self _) .self)
  · obtain ⟨x, hx, hword⟩ := exists_wordExpr? hargs hp
    rwa [← eq_name_of_wordExpr? hword hconstant]
  · rw [← Code.mem_assigned_iff]
    exact fun hn => hcontext (he.mem_assigned hstatements hn)

end ActionEntry.Spelled

/-! ## The main result -/

section
variable {context : List (String × Value)} {b : Block} {a : BlockAction}

/-- **An action fails if and only if its block passes on an unbound name.** That is so if at any depth of the code that the
block compiles to, a function of the context is called by its bare name and gets, by its place, a bare name that is no
label as it is written and no target anywhere inside the block. The name that every run then reports, before anything of
the block runs, is the first of these in breadth-first order. No other run reports this unless the host does. So in the
block of an action of a template no parameter is looked up that is no label: it is one of the three constants or takes the
context, or every run of the action fails. -/
theorem BlockAction.fails_exactly (h : BlockAction.compile context b = .ok a) :
    (a.block = b ∧ b.code? = some a.code) ∧
    (∀ n, a.Fails n ↔ a.code.ForwardsFirst (context.map (·.1)) b.labels n) ∧
    ((∃ n, a.Fails n) ↔ ∃ n, a.code.Forwards (context.map (·.1)) b.labels n) ∧
    ((¬∃ n, a.Fails n) → ∀ (σ : Type) (host : Host σ) (globals : List (String × Value)) (options : Value)
      (text : List Char) (start stop : Nat) (labels : List Value),
      (a.action host globals options).run text start stop labels =
        reportingNames b (a.code.run host globals (contextArguments text start stop options ++ labels)) ∧
      ∀ n w w', (a.action host globals options).run text start stop labels w = .error (.forwarded b n) w' →
        host.Raises (.forwarded b n)) ∧
    (∀ n, (Fault.forwarded b n).kind = "RuntimeBindingError" ∧ (Fault.forwarded b n).name? = some n ∧
      (Fault.forwarded b n).message = "action block #" ++ toString b.index ++ " forwards " ++ quoteString n ++
        " which is not a label of its rule (" ++ Fault.labelsText b.labels ++ ")") ∧
    ∀ (parts : List Part) (source : String) (k : Nat) (i : Insertion) (e : ActionEntry),
      assembleTemplate parts = .ok (source, context) → (split parts).2[k]? = some i → i.signature.Named →
      i.entry k = .ok e → e.block = "\x7b" ++ b.code ++ "\x7d" → ∀ p ∈ e.parameters,
        p ∈ ["None", "True", "False"] ∨ normalName p ∈ b.labels ∨ normalName p = normalName e.context ∨
          ∃ n, a.Fails n := by
  obtain ⟨code, hcode, rfl⟩ := BlockAction.compile_eq.mp h
  dsimp only at *
  have hfirst : ∀ n, BlockAction.Fails ⟨b, code, forwarded (context.map (·.1)) b.labels code⟩ n ↔
      code.ForwardsFirst (context.map (·.1)) b.labels n := fun n => by
    rw [fails_iff_missing, head?_forwarded_iff]
  have hexists : (∃ n, BlockAction.Fails ⟨b, code, forwarded (context.map (·.1)) b.labels code⟩ n) ↔
      ∃ n, code.Forwards (context.map (·.1)) b.labels n := (exists_congr hfirst).trans exists_forwardsFirst_iff
  refine ⟨⟨rfl, hcode⟩, hfirst, hexists, ?_, fun n => ⟨rfl, rfl, rfl⟩, ?_⟩
  · intro hnone σ host globals options text start stop labels
    have hm : forwarded (context.map (·.1)) b.labels code = [] := by
      rw [← List.head?_eq_none_iff, Option.eq_none_iff_forall_ne_some]
      exact fun n hn => hnone ⟨n, fails_iff_missing.mpr hn⟩
    exact ⟨BlockAction.run_eq hm host globals options text start stop labels,
      fun n w w' hrun => (BlockAction.raises_iff.mpr hrun).of_forwarded hm⟩
  · intro parts source k i e hassembled hi hnamed he hb p hp
    obtain ⟨es, hes, -, rfl⟩ := assembleTemplate_eq hassembled
    have hname : e.name ∈ (actionTable es).map (·.1) :=
      List.mem_map_of_mem (List.mem_cons_of_mem _ (List.mem_map_of_mem (mem_of_entry hes hi he)))
    rw [hexists]
    have hcases := (i.spelled hnamed he).parameter_cases (ActionEntry.code_eq_iff.mpr hb) hcode hname hp
    exact hcases.imp_right (Or.imp_right (Or.imp_right fun h => ⟨_, h⟩))

end

/-- An action that takes the text, in a rule whose only label is another name. -/
def strayInsertion : Insertion :=
  ⟨.callable 0 "<act all>", .declared [⟨"c", .plain, none⟩, ⟨"text", .plain, none⟩], false, none⟩

/-- The block that calls it. -/
def strayBlock : Block :=
  ⟨"\n    c = ActionContext(text=text, location=location, options=options)\n    return action0(c, text)\n", ["n"], 0⟩

/-- The parameter does not get the context parameter of its name: every run reports it. -/
theorem strayBlock_fails : ∃ a, BlockAction.compile oneTable strayBlock = .ok a ∧ a.Fails "text" ∧
    a.code.ForwardsFirst (oneTable.map (·.1)) ["n"] "text" ∧
    (∃ n, a.code.Forwards (oneTable.map (·.1)) ["n"] n) ∧
    ("text" ∈ ["None", "True", "False"] ∨ normalName "text" ∈ ["n"] ∨ normalName "text" = normalName "c" ∨
      ∃ n, a.Fails n) := by
  have hcompiled : (BlockAction.compile oneTable strayBlock).toOption.map (·.missing) = some ["text"] := by
    decide +kernel
  cases h : BlockAction.compile oneTable strayBlock with
  | error e =>
    rw [h] at hcompiled
    cases hcompiled
  | ok a =>
    rw [h] at hcompiled
    have hm : a.missing = ["text"] := Option.some.inj hcompiled
    have hfails : a.Fails "text" := BlockAction.fails_iff_missing.mpr (by rw [hm, List.head?_cons])
    obtain ⟨-, hfirst, hexists, -, -, hparameter⟩ := BlockAction.fails_exactly h
    obtain ⟨source, hassembled⟩ : ∃ source,
        assembleTemplate [.text "start = n : 'x' ", .insertion strayInsertion] = .ok (source, oneTable) := ⟨_, rfl⟩
    have hnamed : strayInsertion.signature.Named := by
      show ∀ p ∈ [_, _], _
      rw [List.forall_mem_cons, List.forall_mem_singleton]
      exact ⟨by decide +kernel, by decide +kernel⟩
    exact ⟨a, rfl, hfails, (hfirst "text").mp hfails, hexists.mp ⟨_, hfails⟩,
      hparameter _ _ 0 strayInsertion ⟨"action0", .callable 0 "<act all>", ["c", "text"], "c"⟩ hassembled rfl hnamed rfl
        (by decide +kernel) "text" (by decide)⟩

end PegTemplate
