import PegTemplate.Proofs.Grammar.RoundTrip
import PegTemplate.Proofs.Match.Step
import PegTemplate.Proofs.Template.Registered

/-!
# The actions of a template are called

* `TemplateAction` : an action of a template that takes a context, and a block that calls it;
* `ActionEntry.Fits` : no name that the block of an action uses captures another one;
* `Parser.Calls` : a run of a block is one call of the action, with the context and the values of the labels;
* `TemplateAction.called` : **that is what a run is, exactly if the names fit.**
-/

namespace PegTemplate
open Unicode

/-! ## Actions and their blocks -/

/-- Action number `k` of a template takes a context, and `b` is a block that calls it in the grammar of the template. All
its other parameters are labels of the block. -/
structure TemplateAction (parts : List Part) (k : Nat) (e : ActionEntry) (source : String)
    (table : List (String × Value)) (g : Grammar) (b : Block) : Prop where
  assembled : assembleTemplate parts = .ok (source, table)
  entry : ∃ i, (split parts).2[k]? = some i ∧ i.signature.Named ∧ i.entry k = .ok e
  read : Grammar.read source = .ok g
  block : b ∈ g.blocks
  code : e.block = "\x7b" ++ b.code ++ "\x7d"
  takesContext : e.parameters ≠ []
  labels : ∀ p ∈ e.parameters.tail, p ∈ b.labels

/-- No name that the block of an action uses stands for another one, and each can be assigned. -/
structure ActionEntry.Fits (e : ActionEntry) (labels : List String) : Prop where
  /-- The parameters of the block are different names. -/
  distinct : ((contextParameters ++ labels).map normalName).Nodup
  plain : ∀ l ∈ labels, normalName l ≠ constantName
  context : Assignable e.context
  /-- Nothing hides the class of contexts, or the action. -/
  free : ∀ n ∈ e.context :: labels, normalName n ≠ contextClass ∧ normalName n ≠ e.name
  /-- What the block passes on, in its normal form, is a label or has just been assigned. -/
  bound : ∀ p ∈ e.parameters.tail, normalName p ∈ labels ∨ normalName p = normalName e.context

/-- The context of a match. -/
def matchContext (text : List Char) (start stop : Nat) (options : List (Value × Value)) : Value :=
  .context (.matchedText (String.ofList (slice text start stop))) (.matchedLocation (locationOf text start stop)) options

/-- What a parameter gets: the value of its label, unless the parameter that takes the context is the same name. -/
def ActionEntry.argument (e : ActionEntry) (labels : List String) (values : List Value) (context : Value) (p : String) :
    Value :=
  if normalName p = normalName e.context then context else ((labels.zip values).lookup p).getD .none

/-- Wherever the block closes a sequence with its labels, a match of the sequence calls the action once, with the context
of the match and the values of the labels, and has the value that the action returns. -/
def Parser.Calls (p : Parser) (b : Block) (e : ActionEntry) : Prop :=
  ∀ {σ : Type} (host : Host σ) (options : List (Value × Value)) (cached : Bool) (text : List Char) (n : Node),
    n.itemLabels = b.labels → ∀ (limit : Nat) (call : String → Nat → Run σ Fault Result) (start : Nat),
    (Node.action n b).eval (p.matcher host options cached text) limit call start = (do
      match ← evalAll (p.matcher host options cached text) limit call n.items start with
      | none => return .failed
      | some (stop, vs) =>
        let context := matchContext text start stop options
        return .matched stop (← inWorld (e.value.call host
          (context :: e.parameters.tail.map (e.argument b.labels (labelValues n.items vs) context)) [])))

namespace TemplateAction

variable {parts : List Part} {k : Nat} {e : ActionEntry} {source : String} {table : List (String × Value)} {g : Grammar}
  {b : Block}

theorem table_eq (h : TemplateAction parts k e source table g b) :
    ∃ is es, entriesFrom 0 is = .ok es ∧ table = actionTable es ∧ e ∈ es := by
  obtain ⟨i, hi, -, he⟩ := h.entry
  obtain ⟨es, hes, -, htable⟩ := assembleTemplate_eq h.assembled
  exact ⟨_, es, hes, htable, mem_of_entry hes hi he⟩

theorem label (h : TemplateAction parts k e source table g b) :
    b.labels.Nodup ∧ ∀ l ∈ b.labels, isName l.toList = true ∧ isReserved l = false :=
  (Grammar.read_formed h.read).label h.block

theorem named (h : TemplateAction parts k e source table g b) : e.Named := by
  obtain ⟨i, -, hi, he⟩ := h.entry
  obtain ⟨hpositional, heq⟩ := Insertion.entry_eq he
  refine ⟨⟨k, by rw [heq]⟩, i.isName_positional hi hpositional, ?_, fun p hp hk => ?_⟩
  · obtain ⟨c, ps, hps⟩ := List.exists_cons_of_ne_nil h.takesContext
    rw [heq, hps]
    rfl
  · have hreserved := (h.label.2 p (h.labels p hp)).2
    rw [isReserved, List.contains_iff_mem.mpr hk, Bool.or_true] at hreserved
    cases hreserved

theorem lookup_table (h : TemplateAction parts k e source table g b) :
    table.lookup contextClass = some (.builtin .context) ∧ table.lookup e.name = some e.value := by
  obtain ⟨is, es, hes, rfl, hmem⟩ := h.table_eq
  exact ⟨(lookup_actionTable hes).1, (lookup_actionTable hes).2 e hmem⟩

/-- What a block passes on, in this table of actions. -/
theorem forwarded_eq_nil (h : TemplateAction parts k e source table g b) :
    forwarded (table.map (·.1)) b.labels (e.function b) = [] ↔
      ∀ p ∈ e.parameters, normalName p ∈ b.labels ∨ normalName p = normalName e.context := by
  have hmem : ∀ {n v}, table.lookup n = some v → n ∈ table.map (·.1) := by
    intro n v hv
    obtain ⟨before, after, htable, -⟩ := List.lookup_eq_some_iff.mp hv
    rw [htable]
    simp
  exact forwarded_function (hmem h.lookup_table.1) (hmem h.lookup_table.2)

/-- The block of an action in a compiled parser. -/
theorem compiled (h : TemplateAction parts k e source table g b) {allowed : List String} {cached : Bool} {p : Parser}
    (hp : Parser.compile source table allowed cached = .ok p) :
    ∃ a, BlockAction.compile table b = .ok a ∧ p.actions[b.index]? = some a ∧ p.globals = table := by
  obtain ⟨hgrammar, hcontext, hactions⟩ := Parser.compile_eq h.read hp
  obtain ⟨a, ha, hindex⟩ := getElem?_of_mapM hactions ((Grammar.read_formed h.read).getElem?_blocks h.block)
  obtain ⟨is, es, hes, htable, -⟩ := h.table_eq
  exact ⟨a, ha, hindex, (Parser.globals_eq hes (hcontext.trans htable)).trans hcontext⟩

end TemplateAction

/-! ## Running a block -/

section
variable {σ : Type}

/-- A computation that does not look up names reports no name. -/
theorem reportingNames_raising {α : Type} (b : Block) (x : EStateM Fault σ α) : reportingNames b (raising x) = x := by
  funext w
  unfold reportingNames raising
  cases x w <;> rfl

theorem BlockAction.compile_eq {table : List (String × Value)} {b : Block} {a : BlockAction} :
    BlockAction.compile table b = .ok a ↔
      ∃ code, b.code? = some code ∧ a = ⟨b, code, forwarded (table.map (·.1)) b.labels code⟩ := by
  rw [BlockAction.compile]
  cases b.code? with
  | none => simp
  | some code => simp [eq_comm]

/-- An action that passes on nothing that it does not bind runs its code. -/
theorem BlockAction.run_eq {a : BlockAction} (ha : a.missing = []) (host : Host σ) (globals : List (String × Value))
    (options : Value) (text : List Char) (start stop : Nat) (values : List Value) :
    (a.action host globals options).run text start stop values =
      reportingNames a.block (a.code.run host globals (contextArguments text start stop options ++ values)) := by
  simp only [BlockAction.action, ha]

/-- The matcher runs the action that the block was compiled to. -/
theorem Parser.act_eq {p : Parser} {b : Block} {a : BlockAction} (ha : p.actions[b.index]? = some a) (hb : a.block = b)
    (host : Host σ) (options : List (Value × Value)) (cached : Bool) (text : List Char) (start stop : Nat)
    {values : List Value} (hlen : values.length = b.labels.length) :
    (p.matcher host options cached text).act b start stop values =
      inWorld ((a.action host p.globals (.dict options)).run text start stop values) := by
  have hget : (p.matcher host options cached text).actions[b.index]? =
      some (a.action host p.globals (.dict options)) := by
    rw [Parser.matcher, List.getElem?_map, ha, Option.map_some]
  have harity : (a.action host p.globals (.dict options)).arity = values.length := by
    rw [BlockAction.action, hb, hlen]
  unfold Matcher.act
  rw [hget]
  exact if_pos harity

/-- The names of a block are the context parameters, its labels and the name of its context. -/
theorem mem_own_iff {e : ActionEntry} {b : Block} {n : String} (hn : n ∉ contextParameters) :
    n ∈ b.parameters.map normalName ++ [normalName e.context] ↔ ∃ m ∈ e.context :: b.labels, normalName m = n := by
  rw [b.map_parameters]
  simp only [List.mem_append, hn, false_or, List.mem_map, List.mem_cons, List.not_mem_nil, or_false]
  constructor
  · rintro (⟨l, hl, rfl⟩ | rfl)
    · exact ⟨l, .inr hl, rfl⟩
    · exact ⟨_, .inl rfl, rfl⟩
  · rintro ⟨m, rfl | hm, rfl⟩
    · exact .inr rfl
    · exact .inl ⟨m, hm, rfl⟩

/-- What a parameter is bound to is what it should get. -/
theorem boundValue_eq {e : ActionEntry} {b : Block} {t l o : Value} {values : List Value}
    (hlen : values.length = b.labels.length) (hlabels : b.labels.Nodup) (hn : (b.parameters.map normalName).Nodup)
    (context : Value) {p : String} (hp : p ∈ b.labels) :
    boundValue e b (t :: l :: o :: values) context (normalName p) = e.argument b.labels values context p := by
  obtain ⟨v, hv⟩ := exists_mem_zip hlen.symm hp
  have hmem : (normalName p, v) ∈ (b.parameters.map normalName).zip (t :: l :: o :: values) := by
    rw [b.zip_parameters, List.zip_map_left]
    exact List.mem_cons_of_mem _ (List.mem_cons_of_mem _ (List.mem_cons_of_mem _ (List.mem_map.mpr ⟨_, hv, rfl⟩)))
  have hdistinct : ((b.labels.zip values).map Prod.fst).Nodup := by
    rw [List.map_fst_zip (Nat.le_of_eq hlen.symm)]
    exact hlabels
  rw [boundValue, ActionEntry.argument, lookup_arguments (Block.length_parameters hlen t l o) hn hmem,
    lookup_of_mem hdistinct hv]

theorem contextClass_notMem : contextClass ∉ contextParameters := by decide

theorem ActionEntry.Named.name_notMem {e : ActionEntry} (he : e.Named) : e.name ∉ contextParameters := by
  obtain ⟨k, hk⟩ := he.name
  have hall : ∀ n ∈ contextParameters, "action".toList.isPrefixOf n.toList = false := by decide
  exact fun hmem => syntheticName_ne (hall _ hmem) k hk.symm

/-- **If the names fit, the function calls the action with the context and the values of the labels.** -/
theorem ActionEntry.Fits.function_run {e : ActionEntry} {b : Block} {table : List (String × Value)}
    (hf : e.Fits b.labels) (he : e.Named) (hlabels : b.labels.Nodup) (hps : ∀ p ∈ e.parameters.tail, p ∈ b.labels)
    (hclass : table.lookup contextClass = some (.builtin .context)) (hvalue : table.lookup e.name = some e.value)
    (host : Host σ) (options : List (Value × Value)) (text : List Char) (start stop : Nat) {values : List Value}
    (hlen : values.length = b.labels.length) :
    (e.function b).run host table (contextArguments text start stop (.dict options) ++ values) =
      raising (e.value.call host (matchContext text start stop options ::
        e.parameters.tail.map (e.argument b.labels values (matchContext text start stop options))) []) := by
  have harguments : contextArguments text start stop (.dict options) ++ values =
      .matchedText (String.ofList (slice text start stop)) :: .matchedLocation (locationOf text start stop) ::
        .dict options :: values := rfl
  have hnotOwn : ∀ n ∉ contextParameters, (∀ m ∈ e.context :: b.labels, normalName m ≠ n) →
      n ∉ b.parameters.map normalName ++ [normalName e.context] := by
    intro n hn hne hmem
    obtain ⟨m, hm, hmn⟩ := (mem_own_iff hn).mp hmem
    exact hne m hm hmn
  have hclassFind : (startScope e b table (contextArguments text start stop (.dict options) ++ values)).find
      contextClass = .ok (.builtin .context) :=
    Scope.find_global (hnotOwn _ contextClass_notMem fun m hm => (hf.free m hm).1) hclass
  have hvalueFind : ((startScope e b table (contextArguments text start stop (.dict options) ++ values)).set
      (normalName e.context) (matchContext text start stop options)).find e.name = .ok e.value :=
    Scope.find_global (hnotOwn _ he.name_notMem fun m hm => (hf.free m hm).2) hvalue
  have hmake : (raising ((Value.builtin .context).call host []
      [("text", .matchedText (String.ofList (slice text start stop))),
        ("location", .matchedLocation (locationOf text start stop)), ("options", .dict options)]) :
      Running σ Value) = pure (matchContext text start stop options) := rfl
  rw [harguments] at hclassFind hvalueFind ⊢
  rw [e.function_run hlen hf.distinct (he.bound hps) host table, lookUp_of_find hclassFind, pure_bind, hmake, pure_bind,
    lookUp_of_find hvalueFind, pure_bind, he.map_parameters]
  have hfirst : ∀ arguments context, boundValue e b arguments context (normalName e.context) = context := by
    intro arguments context
    rw [boundValue, if_pos rfl]
  rw [hfirst, List.map_congr_left fun p hp => boundValue_eq hlen hlabels hf.distinct _ (hps p hp)]

/-! ## Runs with labels that hold nothing -/

theorem lookUp_eq_ok {s : Scope} {n : String} {v : Value} {w w' : σ} (h : lookUp s n w = .ok v w') :
    s.find n = .ok v := by
  cases hfind : s.find n with
  | error e =>
    rw [lookUp_of_error hfind] at h
    cases h
  | ok u =>
    rw [lookUp_of_find hfind] at h
    cases h
    rfl

theorem raising_eq_ok {x : EStateM Fault σ Value} {v : Value} {w w' : σ} (h : raising x w = .ok v w') :
    x w = .ok v w' := by
  unfold raising at h
  split at h
  · rename_i hx
    cases h
    exact hx
  · cases h

theorem reportingNames_eq_ok {b : Block} {x : Running σ Value} {v : Value} {w w' : σ}
    (h : reportingNames b x w = .ok v w') : x w = .ok v w' := by
  unfold reportingNames at h
  split at h
  · rename_i hx
    cases h
    exact hx
  · cases h
  · cases h

theorem inWorld_eq_ok {α : Type} {x : EStateM Fault σ α} {s s' : State σ} {v : α} (h : inWorld x s = .ok v s') :
    x s.world = .ok v s'.world := by
  unfold inWorld at h
  split at h
  · rename_i hx
    cases h
    exact hx
  · cases h

/-- A name that the function has itself is among its values. -/
theorem Scope.mem_of_find {s : Scope} {n : String} {v : Value} (h : s.find n = .ok v) (hn : n ∈ s.own) :
    (n, v) ∈ s.locals := by
  rw [Scope.find, if_pos (List.contains_iff_mem.mpr hn)] at h
  split at h
  · rename_i hlookup
    cases h
    obtain ⟨before, after, heq, -⟩ := List.lookup_eq_some_iff.mp hlookup
    rw [heq]
    simp
  · cases h

/-- If all labels hold nothing, so does every name of the block, apart from the context parameters. -/
theorem eq_none_of_mem_locals {e : ActionEntry} {b : Block} {globals : List (String × Value)} {t l o v : Value}
    {n : String} (hn : n ∉ contextParameters)
    (h : (n, v) ∈ (startScope e b globals (t :: l :: o :: List.replicate b.labels.length .none)).locals) : v = .none := by
  rw [startScope, b.zip_parameters, List.mem_reverse] at h
  simp only [List.mem_cons, Prod.mk.injEq] at h
  rcases h with ⟨rfl, -⟩ | ⟨rfl, -⟩ | ⟨rfl, -⟩ | h
  · exact absurd (by decide) hn
  · exact absurd (by decide) hn
  · exact absurd (by decide) hn
  · exact List.eq_of_mem_replicate (List.of_mem_zip h).2

/-- **If the function returns although all labels hold nothing, the class of contexts and the action are found
outside.** -/
theorem ActionEntry.free_of_run {e : ActionEntry} {b : Block} {table : List (String × Value)} (he : e.Named)
    (hn : (b.parameters.map normalName).Nodup) (hps : ∀ p ∈ e.parameters.tail, p ∈ b.labels)
    (hclass : table.lookup contextClass = some (.builtin .context)) {host : Host σ} {t l : Value}
    {os : List (Value × Value)} {v : Value} {w w' : σ}
    (hrun : (e.function b).run host table (t :: l :: .dict os :: List.replicate b.labels.length .none) w = .ok v w') :
    ∀ n ∈ e.context :: b.labels, normalName n ≠ contextClass ∧ normalName n ≠ e.name := by
  rw [e.function_run List.length_replicate hn (he.bound hps) host table] at hrun
  obtain ⟨class', w₁, hlookup, hrest⟩ := bind_eq_ok hrun
  have hclassFind := lookUp_eq_ok hlookup
  obtain ⟨context, w₂, hmake, hlast⟩ := bind_eq_ok hrest
  have hmade := raising_eq_ok hmake
  -- a name of the block itself would hold nothing, and that can't be called
  have hclassFree : contextClass ∉ b.parameters.map normalName ++ [normalName e.context] := by
    intro hmem
    rw [eq_none_of_mem_locals contextClass_notMem (Scope.mem_of_find hclassFind hmem)] at hmade
    cases hmade
  rw [Scope.find_global hclassFree hclass] at hclassFind
  cases hclassFind
  have hcontext : context = .context t l os := by
    cases hmade
    rfl
  obtain ⟨value, w₃, hlookup', hcall⟩ := bind_eq_ok hlast
  have hvalueFind := lookUp_eq_ok hlookup'
  have hcalled := raising_eq_ok hcall
  have hnameFree : e.name ∉ b.parameters.map normalName ++ [normalName e.context] := by
    intro hmem
    rcases List.mem_cons.mp (Scope.mem_of_find hvalueFind hmem) with heq | hlocal
    · rw [(Prod.mk.inj heq).2, hcontext] at hcalled
      cases hcalled
    · rw [eq_none_of_mem_locals he.name_notMem hlocal] at hcalled
      cases hcalled
  intro n hmem
  exact ⟨fun hn => hclassFree ((mem_own_iff contextClass_notMem).mpr ⟨n, hmem, hn⟩),
    fun hn => hnameFree ((mem_own_iff he.name_notMem).mpr ⟨n, hmem, hn⟩)⟩

end

/-! ## Calls and names that fit -/

namespace TemplateAction

variable {parts : List Part} {k : Nat} {e : ActionEntry} {source : String} {table : List (String × Value)} {g : Grammar}
  {b : Block}

/-- If the names fit, the block compiles, and passes on nothing that it does not bind. -/
theorem compile_of_fits (h : TemplateAction parts k e source table g b) (hf : e.Fits b.labels) :
    BlockAction.compile table b = .ok ⟨b, e.function b, []⟩ := by
  have hconstant : constantName ∉ b.parameters.map normalName := by
    rw [b.map_parameters, List.mem_append, List.mem_map]
    rintro (hmem | ⟨l, hl, heq⟩)
    · revert hmem
      decide
    · exact hf.plain l hl heq
  have hcode := (code?_eq_some_iff h.named h.code).mpr ⟨⟨hf.distinct, hconstant, hf.context⟩, rfl⟩
  have hforwarded : forwarded (table.map (·.1)) b.labels (e.function b) = [] :=
    h.forwarded_eq_nil.mpr (h.named.forall_parameters.mpr ⟨.inr rfl, hf.bound⟩)
  exact BlockAction.compile_eq.mpr ⟨_, hcode, by rw [hforwarded]⟩

/-- If the names fit, running the block is calling the action. -/
theorem act_of_fits (h : TemplateAction parts k e source table g b) (hf : e.Fits b.labels) {allowed : List String}
    {cached : Bool} {p : Parser} (hp : Parser.compile source table allowed cached = .ok p) {σ : Type} (host : Host σ)
    (options : List (Value × Value)) (cached' : Bool) (text : List Char) (start stop : Nat) {values : List Value}
    (hlen : values.length = b.labels.length) :
    (p.matcher host options cached' text).act b start stop values =
      inWorld (e.value.call host (matchContext text start stop options ::
        e.parameters.tail.map (e.argument b.labels values (matchContext text start stop options))) []) := by
  obtain ⟨a, ha, hindex, hglobals⟩ := h.compiled hp
  rw [h.compile_of_fits hf] at ha
  cases ha
  have hrun := hf.function_run h.named h.label.1 h.labels h.lookup_table.1 h.lookup_table.2 host options text start stop
    hlen
  rw [Parser.act_eq hindex rfl host options cached' text start stop hlen, hglobals, BlockAction.run_eq rfl, hrun,
    reportingNames_raising]

/-- **If the names fit, every match calls the action.** -/
theorem calls_of_fits (h : TemplateAction parts k e source table g b) (hf : e.Fits b.labels) {allowed : List String}
    {cached : Bool} {p : Parser} (hp : Parser.compile source table allowed cached = .ok p) : p.Calls b e := by
  intro σ host options cached' text n hn limit call start
  rw [Node.eval_action]
  funext s
  cases hitems : evalAll (p.matcher host options cached' text) limit call n.items start s with
  | error fault s' => rw [bind_error hitems, bind_error hitems]
  | ok matched s' =>
    rw [bind_ok hitems, bind_ok hitems]
    cases matched with
    | none => rfl
    | some matched =>
      have hlen : (labelValues n.items matched.2).length = b.labels.length := by
        rw [length_labelValues (length_evalAll _ _ _ hitems), ← hn, Node.itemLabels]
      simp only [h.act_of_fits hf hp host options cached' text start matched.1 hlen]

end TemplateAction

/-! ## Labels that hold nothing -/

/-- A sequence with labels that matches without taking anything, and whose labels hold nothing. -/
def hollow (labels : List String) : Node := .sequence (labels.map fun l => .labeled l (.followedBy (.sequence [])))

theorem itemLabels_hollow (labels : List String) : (hollow labels).itemLabels = labels := by
  rw [hollow, Node.itemLabels, Node.items, List.filterMap_map]
  exact List.filterMap_some

theorem evalAll_hollow {σ ε : Type} (m : Matcher σ ε) (limit : Nat) (call : String → Nat → Run σ ε Result)
    (labels : List String) (start : Nat) (s : State σ) :
    evalAll m limit call (hollow labels).items start s =
      .ok (some (start, List.replicate labels.length .none)) s := by
  rw [hollow, Node.items]
  induction labels with
  | nil => rfl
  | cons l labels ih =>
    have hitem : (Node.labeled l (.followedBy (.sequence []))).eval m limit call start s =
        .ok (.matched start .none) s := by
      simp only [Node.eval, evalAll]
      rfl
    rw [List.map_cons, evalAll]
    exact (bind_ok hitem).trans ((bind_ok ih).trans rfl)

theorem labelValues_hollow (labels : List String) :
    labelValues (hollow labels).items (List.replicate labels.length .none) = List.replicate labels.length .none := by
  rw [hollow, Node.items]
  induction labels with
  | nil => rfl
  | cons l labels ih =>
    rw [List.map_cons, List.length_cons, List.replicate_succ, labelValues, ih]
    rfl

namespace TemplateAction

variable {parts : List Part} {k : Nat} {e : ActionEntry} {source : String} {table : List (String × Value)} {g : Grammar}
  {b : Block}

/-- If every match calls a host's action, a run of the block returns what the action does. -/
theorem act_of_calls {p : Parser} (hc : p.Calls b e) {id : Nat} {shown : String} (hvalue : e.value = .callable id shown) :
    ∃ s, (p.matcher ⟨fun _ _ _ => pure .none⟩ [] p.cached []).act b 0 0 (List.replicate b.labels.length .none)
      (State.initial ()) = .ok .none s := by
  have heval := congrFun (hc (σ := Unit) ⟨fun _ _ _ => pure .none⟩ [] p.cached [] (hollow b.labels)
    (itemLabels_hollow b.labels) 0 (fun _ _ => pure .failed) 0) (State.initial ())
  rw [Node.eval_action, bind_ok (evalAll_hollow _ _ _ b.labels 0 _), bind_ok (evalAll_hollow _ _ _ b.labels 0 _)] at heval
  dsimp only at heval
  rw [labelValues_hollow, hvalue] at heval
  obtain ⟨v, t, hact, hmatched⟩ := bind_eq_ok (heval.trans rfl)
  cases hmatched
  exact ⟨_, hact⟩

/-- **If every match calls a host's action, the names fit.** -/
theorem fits_of_calls (h : TemplateAction parts k e source table g b) {id : Nat} {shown : String}
    (hvalue : e.value = .callable id shown) {allowed : List String} {cached : Bool} {p : Parser}
    (hp : Parser.compile source table allowed cached = .ok p) (hc : p.Calls b e) : e.Fits b.labels := by
  obtain ⟨a, ha, hindex, hglobals⟩ := h.compiled hp
  obtain ⟨code, hcode, rfl⟩ := BlockAction.compile_eq.mp ha
  obtain ⟨⟨hdistinct, hconstant, hassignable⟩, rfl⟩ := (code?_eq_some_iff h.named h.code).mp hcode
  obtain ⟨s, hact⟩ := act_of_calls hc hvalue
  rw [Parser.act_eq hindex rfl _ _ _ _ _ _ List.length_replicate, hglobals] at hact
  have hrun := inWorld_eq_ok hact
  have hforwarded : forwarded (table.map (·.1)) b.labels (e.function b) = [] := by
    cases hmissing : forwarded (table.map (·.1)) b.labels (e.function b) with
    | nil => rfl
    | cons n ns =>
      rw [hmissing] at hrun
      cases hrun
  rw [hforwarded] at hrun
  refine ⟨hdistinct, ?_, hassignable, ?_, fun p hp => h.forwarded_eq_nil.mp hforwarded p (List.mem_of_mem_tail hp)⟩
  · exact fun l hl heq => hconstant (List.mem_map.mpr ⟨l, List.mem_append_right _ hl, heq⟩)
  · exact e.free_of_run h.named hdistinct h.labels h.lookup_table.1 (reportingNames_eq_ok hrun)

end TemplateAction

/-! ## A template with one action -/

/-- A template with one action, which takes the context as `c` and the value of the label `n`. -/
def oneAction (c : String) : List Part :=
  [.text "start = n : 'x' ",
    .insertion ⟨.callable 0 "<act all>", .declared [⟨c, .plain, none⟩, ⟨"n", .plain, none⟩], false, none⟩]

/-- The action of the template. -/
def oneEntry (c : String) : ActionEntry := ⟨"action0", .callable 0 "<act all>", [c, "n"], c⟩

/-- The block that calls it. -/
def oneBlock (c : String) : Block where
  code := "\n    " ++ c ++ " = ActionContext(text=text, location=location, options=options)\n    return action0("
    ++ ", ".intercalate [c, "n"] ++ ")\n"
  labels := ["n"]
  index := 0

/-- The grammar of the template. -/
def oneGrammar (c : String) : Grammar where
  rules := [⟨"start", none, .action (.labeled "n" (.literal [0x78] false)) (oneBlock c)⟩]
  start := "start"
  blocks := [oneBlock c]

/-- The text of the grammar. -/
def oneSource (c : String) : String := (oneGrammar c).written fun _ => ⟨false, false, false⟩

/-- The table of the action. -/
def oneTable : List (String × Value) := [("ActionContext", .builtin .context), ("action0", .callable 0 "<act all>")]

theorem oneEntry_block {c : String} (hc : c.isEmpty = false) :
    (oneEntry c).block = "\x7b" ++ (oneBlock c).code ++ "\x7d" := by
  rw [← String.toList_inj]
  simp [ActionEntry.block, oneEntry, oneBlock, hc, contextClass, Builtin.name]

theorem oneSource_eq (c : String) : oneSource c = "start = n : 'x' \x7b" ++ (oneBlock c).code ++ "\x7d" := by
  have hline : ∀ r ∈ (oneGrammar c).rules, r.line ⟨false, false, false⟩ =
      "start = n : 'x' \x7b".toList ++ (oneBlock c).code.toList ++ ['}'] := by
    simp only [oneGrammar, List.forall_mem_singleton, Rule.line, Rule.tokens, displayTokens, Node.written]
    rfl
  rw [← String.toList_inj, oneSource, Grammar.written, String.toList_ofList, String.toList_append, String.toList_append]
  exact hline _ List.mem_cons_self

theorem oneAction_assembled {c : String} (hc : c.isEmpty = false) :
    assembleTemplate (oneAction c) = .ok (oneSource c, oneTable) := by
  have hassembled : assembleTemplate (oneAction c) =
      .ok ("start = n : 'x' " ++ "" ++ ((oneEntry c).block ++ "" ++ ""), oneTable) := by rfl
  rw [hassembled, oneSource_eq, oneEntry_block hc]
  congr 2
  rw [← String.toList_inj]
  simp

theorem oneGrammar_formed (c : String) : (oneGrammar c).Formed where
  named := by
    rw [oneGrammar, List.forall_mem_singleton]
    show isName "start".toList = true
    decide +kernel
  distinct := List.nodup_singleton _
  closed := by
    rw [oneGrammar, Grammar.Closed, List.forall_mem_singleton]
    exact nofun
  formed := by
    rw [oneGrammar, List.forall_mem_singleton]
    refine Node.Formed.of_children ⟨rfl, List.nodup_singleton _⟩ (List.forall_mem_singleton.mpr ?_)
    refine Node.Formed.of_children ⟨by decide +kernel, by decide⟩ (List.forall_mem_singleton.mpr ?_)
    exact Node.Formed.of_children trivial nofun
  start := rfl
  blocks := rfl
  numbered := rfl

theorem oneEntry_named {c : String} (hc : isName c.toList = true) : (oneEntry c).Named where
  name := ⟨0, by rfl⟩
  parameters := by
    rw [oneEntry, List.forall_mem_cons, List.forall_mem_singleton]
    exact ⟨hc, by decide +kernel⟩
  context := rfl
  rest := by
    show ∀ p ∈ ["n"], p ∉ keywords
    decide

theorem oneGrammar_read {c : String} (hc : isName c.toList = true) :
    Grammar.read (oneSource c) = .ok (oneGrammar c) := by
  have hnamed := oneEntry_named hc
  have hordinary := hnamed.isOrdinary_code (oneEntry_block hnamed.context_isEmpty)
  have hwritable : (oneGrammar c).Writable := by
    rw [Grammar.Writable, oneGrammar, List.forall_mem_singleton]
    refine Node.Part.all hordinary (List.forall_mem_singleton.mpr ?_)
    refine Node.Part.all trivial (List.forall_mem_singleton.mpr ?_)
    exact Node.Part.all (show ∀ x ∈ [0x78], x < 0x110000 by decide) nofun
  exact Grammar.read_of_lists (oneGrammar_formed c) (Grammar.lists_written (oneGrammar_formed c) hwritable _)

theorem oneAction_action {c : String} (hc : isName c.toList = true) :
    TemplateAction (oneAction c) 0 (oneEntry c) (oneSource c) oneTable (oneGrammar c) (oneBlock c) where
  assembled := oneAction_assembled (oneEntry_named hc).context_isEmpty
  entry := by
    refine ⟨_, rfl, ?_, by rfl⟩
    show ∀ p ∈ [_, _], _
    rw [List.forall_mem_cons, List.forall_mem_singleton]
    exact ⟨hc, by decide +kernel⟩
  read := oneGrammar_read hc
  block := List.mem_singleton_self _
  code := oneEntry_block (oneEntry_named hc).context_isEmpty
  takesContext := List.cons_ne_nil _ _
  labels := by
    show ∀ p ∈ ["n"], p ∈ ["n"]
    decide

theorem oneAction_compiles {c : String} (hc : isName c.toList = true) (ha : Assignable c) :
    ∃ p, Parser.compile (oneSource c) oneTable [] true = .ok p := by
  have hnamed := oneEntry_named hc
  have hcode := (code?_eq_some_iff hnamed (oneEntry_block hnamed.context_isEmpty)).mpr
    ⟨⟨(by decide : (["text", "location", "options", "n"].map normalName).Nodup),
      (by decide : constantName ∉ ["text", "location", "options", "n"].map normalName), ha⟩, rfl⟩
  obtain ⟨a, hblock⟩ : ∃ a, BlockAction.compile oneTable (oneBlock c) = .ok a :=
    ⟨_, BlockAction.compile_eq.mpr ⟨_, hcode, rfl⟩⟩
  have hblocks : (oneGrammar c).blocks.mapM (BlockAction.compile oneTable) = .ok [a] := by
    rw [oneGrammar, List.mapM_cons, hblock]
    rfl
  exact ⟨_, Parser.compile_of_read (oneGrammar_read hc) rfl hblocks true⟩

/-- **The action of a template is called whenever its sequence matches, if the names fit**: its block is read back
exactly, compiles, and every match calls the action once. Where the names don't fit, no parser does that. -/
theorem TemplateAction.called {parts : List Part} {k : Nat} {e : ActionEntry} {source : String}
    {table : List (String × Value)} {g : Grammar} {b : Block} (h : TemplateAction parts k e source table g b) :
    ReadExactly b.code.toList ∧
    (e.Fits b.labels → (∃ a, BlockAction.compile table b = .ok a) ∧
      ∀ allowed cached p, Parser.compile source table allowed cached = .ok p → p.Calls b e) ∧
    ∀ id shown allowed cached p, e.value = .callable id shown →
      Parser.compile source table allowed cached = .ok p → p.Calls b e → e.Fits b.labels :=
  ⟨h.named.readExactly h.code, fun hf => ⟨⟨_, h.compile_of_fits hf⟩, fun _ _ _ hp => h.calls_of_fits hf hp⟩,
    fun _ _ _ _ _ hvalue hp hc => h.fits_of_calls hvalue hp hc⟩

/-- The context may be taken as `text`, which is also a parameter of the block. -/
theorem reservedContext_called : ∃ p, Parser.compile (oneSource "text") oneTable [] true = .ok p ∧
    TemplateAction (oneAction "text") 0 (oneEntry "text") (oneSource "text") oneTable (oneGrammar "text")
      (oneBlock "text") ∧
    ReadExactly (oneBlock "text").code.toList ∧ (oneEntry "text").Fits ["n"] ∧
    p.Calls (oneBlock "text") (oneEntry "text") := by
  have h := oneAction_action (c := "text") (by decide +kernel)
  have hfits : (oneEntry "text").Fits ["n"] := {
    distinct := by decide
    plain := by decide
    context := ⟨by decide, by decide⟩
    free := by decide
    bound := by decide }
  obtain ⟨p, hp⟩ := oneAction_compiles (c := "text") (by decide +kernel) hfits.context
  obtain ⟨hread, hcalls, -⟩ := h.called
  exact ⟨p, hp, h, hread, hfits, (hcalls hfits).2 _ _ p hp⟩

/-- If the context is taken as `ActionContext`, that hides the class of contexts. No run of the block calls the action. -/
theorem hiddenClass_uncalled : ∃ p, Parser.compile (oneSource "ActionContext") oneTable [] true = .ok p ∧
    TemplateAction (oneAction "ActionContext") 0 (oneEntry "ActionContext") (oneSource "ActionContext") oneTable
      (oneGrammar "ActionContext") (oneBlock "ActionContext") ∧
    (∀ {σ : Type} (host : Host σ) options cached text start stop value,
      (p.matcher host options cached text).act (oneBlock "ActionContext") start stop [value] =
        inWorld (throw (.unresolved (oneBlock "ActionContext") (.unassigned "ActionContext")))) ∧
    ¬p.Calls (oneBlock "ActionContext") (oneEntry "ActionContext") := by
  have h := oneAction_action (c := "ActionContext") (by decide +kernel)
  obtain ⟨p, hp⟩ := oneAction_compiles (c := "ActionContext") (by decide +kernel) ⟨by decide, by decide⟩
  refine ⟨p, hp, h, fun host options cached text start stop value => ?_, fun hcalls => ?_⟩
  · obtain ⟨a, ha, hindex, hglobals⟩ := h.compiled hp
    obtain ⟨code, hcode, rfl⟩ := BlockAction.compile_eq.mp ha
    obtain ⟨⟨hdistinct, -, -⟩, rfl⟩ := (code?_eq_some_iff h.named h.code).mp hcode
    have hforwarded : forwarded (oneTable.map (·.1)) ["n"]
        ((oneEntry "ActionContext").function (oneBlock "ActionContext")) = [] :=
      h.forwarded_eq_nil.mpr (by decide)
    have hrun : ((oneEntry "ActionContext").function (oneBlock "ActionContext")).run host oneTable
        (contextArguments text start stop (.dict options) ++ [value]) = throw (.name (.unassigned "ActionContext")) :=
      ActionEntry.function_run_of_hidden rfl hdistinct (by decide) rfl (by decide) host oneTable
    rw [Parser.act_eq hindex rfl host options cached text start stop rfl, hglobals, BlockAction.run_eq hforwarded, hrun]
    rfl
  · exact ((h.fits_of_calls rfl hp hcalls).free _ List.mem_cons_self).1 rfl

end PegTemplate
