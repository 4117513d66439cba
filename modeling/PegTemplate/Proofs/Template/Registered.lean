import PegTemplate.Parser
import PegTemplate.Proofs.Grammar.Shape
import PegTemplate.Proofs.Template.Scope

/-!
# The actions and the blocks of a parser

* `getElem?_of_mapM`, `mapM_eq_error_iff` : what a list of computations gives, and which of them fails first;
* `Grammar.Formed.block` : the block of an action is one of the grammar, and has the labels of the sequence before it;
* `Grammar.Formed.label` : the labels of a block are distinct names that are not reserved;
* `Signature.Named`, `Insertion.isName_positional` : an action whose declared parameters are names has names only;
* `entriesFrom_eq`, `lookup_actionTable` : every insertion becomes an action, which is found under its name;
* `assembleTemplate_eq` : what an assembled template consists of;
* `Grammar.Formed.getElem?_blocks` : each block has its own number;
* `Parser.compile_eq`, `Parser.compile_of_read` : what a compiled parser is made of;
* `Parser.globals_eq` : its code finds the whole table of actions.
-/

namespace PegTemplate
open Unicode

/-! ## Lists of computations -/

theorem getElem?_of_mapM {ε α β : Type} {f : α → Except ε β} {as : List α} {bs : List β} (h : as.mapM f = .ok bs)
    {i : Nat} {a : α} (ha : as[i]? = some a) : ∃ b, f a = .ok b ∧ bs[i]? = some b := by
  induction as generalizing bs i with
  | nil => simp at ha
  | cons x as ih =>
    rw [List.mapM_cons] at h
    cases hx : f x with
    | error e =>
      rw [hx] at h
      cases h
    | ok y =>
      cases has : as.mapM f with
      | error e =>
        rw [hx, has] at h
        cases h
      | ok ys =>
        rw [hx, has] at h
        cases h
        cases i with
        | zero =>
          cases ha
          exact ⟨y, hx, rfl⟩
        | succ i => exact ih has ha

/-- The first failure of a list of computations. -/
theorem mapM_eq_error_iff {ε α β : Type} {f : α → Except ε β} {as : List α} {e : ε} :
    as.mapM f = .error e ↔
      ∃ before a after, as = before ++ a :: after ∧ (∀ b ∈ before, (f b).isOk = true) ∧ f a = .error e := by
  constructor
  · intro h
    induction as with
    | nil => cases h
    | cons a as ih =>
      rw [List.mapM_cons] at h
      cases ha : f a with
      | error e' =>
        rw [ha] at h
        cases h
        exact ⟨[], a, as, rfl, nofun, ha⟩
      | ok b =>
        cases has : as.mapM f with
        | error e' =>
          rw [ha, has] at h
          cases h
          obtain ⟨before, a', after, rfl, hbefore, ha'⟩ := ih has
          exact ⟨a :: before, a', after, rfl, List.forall_mem_cons.mpr ⟨by rw [ha]; rfl, hbefore⟩, ha'⟩
        | ok bs =>
          rw [ha, has] at h
          cases h
  · rintro ⟨before, a, after, rfl, hbefore, ha⟩
    induction before with
    | nil =>
      rw [List.nil_append, List.mapM_cons, ha]
      rfl
    | cons b before ih =>
      rw [List.forall_mem_cons] at hbefore
      cases hb : f b with
      | error e' =>
        rw [hb] at hbefore
        cases hbefore.1
      | ok c =>
        rw [List.cons_append, List.mapM_cons, hb, ih hbefore.2]
        rfl

/-! ## Labels -/

namespace Node

theorem label?_eq_some {n : Node} {l : String} (h : n.label? = some l) : ∃ m, n = .labeled l m := by
  cases n with
  | labeled l' m =>
    cases h
    exact ⟨m, rfl⟩
  | _ => cases h

end Node

/-- The block of an action is one of those of the grammar, and has the labels of the sequence before it. -/
theorem Grammar.Formed.block {g : Grammar} (hg : g.Formed) {r : Rule} (hr : r ∈ g.rules) {n : Node} {b : Block}
    (h : Node.Part (.action n b) r.body) : b ∈ g.blocks ∧ b.labels = n.itemLabels := by
  have hlabels : b.labels = n.itemLabels ∧ b.labels.Nodup := hg.formed r hr _ h
  refine ⟨?_, hlabels.1⟩
  rw [hg.blocks, List.mem_flatMap]
  exact ⟨r, hr, h.mem_blocks⟩

/-- The labels of a block are distinct names that are not reserved. -/
theorem Grammar.Formed.label {g : Grammar} (hg : g.Formed) {b : Block} (hb : b ∈ g.blocks) :
    b.labels.Nodup ∧ ∀ l ∈ b.labels, isName l.toList = true ∧ isReserved l = false := by
  rw [hg.blocks, List.mem_flatMap] at hb
  obtain ⟨r, hr, hb⟩ := hb
  obtain ⟨n, hn⟩ := Node.exists_action hb
  obtain ⟨hlabels, hdistinct⟩ : b.labels = n.itemLabels ∧ b.labels.Nodup := hg.formed r hr _ hn
  refine ⟨hdistinct, fun l hl => ?_⟩
  rw [hlabels, Node.itemLabels, List.mem_filterMap] at hl
  obtain ⟨i, hi, hlabel⟩ := hl
  obtain ⟨m, rfl⟩ := Node.label?_eq_some hlabel
  exact hg.formed r hr _ ((Node.Part.of_items hi .self).trans hn)

/-! ## Registered actions -/

/-- The parameters that a value declares are names. -/
def Signature.Named : Signature → Prop
  | declared ps => ∀ p ∈ ps, isName p.name.toList = true
  | missing _ => True

theorem positionalNames_eq {ps : List Parameter} {names : List String} (h : positionalNames ps = .ok names) :
    names = ps.map (·.name) := by
  induction ps generalizing names with
  | nil =>
    cases h
    rfl
  | cons p ps ih =>
    rw [positionalNames] at h
    split at h
    · cases hps : positionalNames ps with
      | error fault =>
        rw [hps] at h
        cases h
      | ok names' =>
        rw [hps] at h
        cases h
        rw [ih hps, List.map_cons]
    · cases h

theorem isName_of_givenNames {names names' : List String} (h : givenNames names = .ok names') :
    ∀ p ∈ names', isName p.toList = true := by
  rw [givenNames] at h
  split at h
  · cases h
  · rename_i hfind
    cases h
    intro p hp
    simpa using List.find?_eq_none.mp hfind p hp

theorem Insertion.isName_positional {i : Insertion} (hi : i.signature.Named) {names : List String}
    (h : i.positional = .ok names) : ∀ p ∈ names, isName p.toList = true := by
  rw [Insertion.positional] at h
  split at h
  · exact isName_of_givenNames h
  · cases hs : i.signature with
    | missing reason =>
      rw [hs] at h
      cases h
    | declared ps =>
      rw [hs] at h hi
      rw [positionalNames_eq h]
      intro p hp
      obtain ⟨q, hq, rfl⟩ := List.mem_map.mp hp
      exact hi q hq

/-- What an insertion becomes. -/
theorem Insertion.entry_eq {i : Insertion} {k : Nat} {e : ActionEntry} (h : i.entry k = .ok e) :
    i.positional = .ok e.parameters ∧ e = ⟨syntheticName k, i.value, e.parameters, e.parameters.headD ""⟩ := by
  rw [Insertion.entry] at h
  split at h
  · cases hp : i.positional with
    | error fault =>
      rw [hp] at h
      cases h
    | ok names =>
      rw [hp] at h
      cases h
      exact ⟨rfl, rfl⟩
  · cases h

/-- The first insertion becomes the first action, and the others become the others. -/
theorem entriesFrom_cons_iff {index : Nat} {i : Insertion} {is : List Insertion} {es : List ActionEntry} :
    entriesFrom index (i :: is) = .ok es ↔
      ∃ e es', i.entry index = .ok e ∧ entriesFrom (index + 1) is = .ok es' ∧ es = e :: es' := by
  rw [entriesFrom]
  cases i.entry index with
  | error fault => exact ⟨nofun, nofun⟩
  | ok e =>
    cases entriesFrom (index + 1) is with
    | error fault => exact ⟨nofun, nofun⟩
    | ok es' =>
      constructor
      · rintro ⟨⟩
        exact ⟨e, es', rfl, rfl, rfl⟩
      · rintro ⟨_, _, ⟨⟩, ⟨⟩, rfl⟩
        rfl

/-- Insertions become actions that are numbered from `index`. -/
theorem entriesFrom_eq {index : Nat} {is : List Insertion} {es : List ActionEntry} (h : entriesFrom index is = .ok es) :
    es.map (·.name) = (List.range' index is.length).map syntheticName ∧
      ∀ (n : Nat) (i : Insertion), is[n]? = some i → ∃ e, i.entry (index + n) = .ok e ∧ es[n]? = some e := by
  induction is generalizing index es with
  | nil =>
    cases h
    exact ⟨rfl, nofun⟩
  | cons i is ih =>
    obtain ⟨e, es', he, hes, rfl⟩ := entriesFrom_cons_iff.mp h
    obtain ⟨hnames, hentries⟩ := ih hes
    constructor
    · rw [List.map_cons, hnames, (Insertion.entry_eq he).2, List.length_cons, List.range'_succ, List.map_cons]
    · intro n j hj
      cases n with
      | zero =>
        cases hj
        exact ⟨e, he, rfl⟩
      | succ n =>
        obtain ⟨e', he', hn⟩ := hentries n j hj
        exact ⟨e', by rwa [Nat.add_assoc, Nat.add_comm 1 n] at he', hn⟩

/-- Every action was an insertion. -/
theorem exists_of_mem_entriesFrom {index : Nat} {is : List Insertion} {es : List ActionEntry}
    (h : entriesFrom index is = .ok es) {e : ActionEntry} (he : e ∈ es) : ∃ i ∈ is, ∃ k, i.entry k = .ok e := by
  induction is generalizing index es with
  | nil =>
    cases h
    cases he
  | cons i is ih =>
    obtain ⟨e', es', hi, his, rfl⟩ := entriesFrom_cons_iff.mp h
    rcases List.mem_cons.mp he with rfl | he
    · exact ⟨i, List.mem_cons_self, index, hi⟩
    · obtain ⟨j, hj, k, hk⟩ := ih his he
      exact ⟨j, List.mem_cons_of_mem i hj, k, hk⟩

/-- What registration gives. -/
theorem register_eq_ok_iff {is : List Insertion} {es : List ActionEntry} {table : List (String × Value)} :
    register is = .ok (es, table) ↔ entriesFrom 0 is = .ok es ∧ table = actionTable es := by
  rw [register]
  cases entriesFrom 0 is with
  | error fault => exact ⟨nofun, nofun⟩
  | ok es' =>
    constructor
    · rintro ⟨⟩
      exact ⟨rfl, rfl⟩
    · rintro ⟨⟨⟩, rfl⟩
      rfl

/-- No two entries of the table have one name. -/
theorem nodup_actionTable {is : List Insertion} {es : List ActionEntry} (h : entriesFrom 0 is = .ok es) :
    ((actionTable es).map Prod.fst).Nodup := by
  have hnames : (actionTable es).map Prod.fst = contextClass :: (List.range' 0 is.length).map syntheticName := by
    rw [actionTable, List.map_cons, List.map_map, ← (entriesFrom_eq h).1]
    rfl
  rw [hnames, List.nodup_cons]
  constructor
  · intro hmem
    obtain ⟨k, -, hk⟩ := List.mem_map.mp hmem
    exact syntheticName_ne (by decide) k hk
  · exact (List.nodup_range' ..).map fun j k => syntheticName_injective

/-- **Every action is found under its name, and so is the class of contexts.** -/
theorem lookup_actionTable {is : List Insertion} {es : List ActionEntry} (h : entriesFrom 0 is = .ok es) :
    (actionTable es).lookup contextClass = some (.builtin .context) ∧
      ∀ e ∈ es, (actionTable es).lookup e.name = some e.value := by
  refine ⟨lookup_of_mem (nodup_actionTable h) List.mem_cons_self, fun e he => lookup_of_mem (nodup_actionTable h) ?_⟩
  exact List.mem_cons_of_mem _ (List.mem_map.mpr ⟨e, he, rfl⟩)

/-- What an assembled template consists of. -/
theorem assembleTemplate_eq {parts : List Part} {source : String} {table : List (String × Value)}
    (h : assembleTemplate parts = .ok (source, table)) :
    ∃ es, entriesFrom 0 (split parts).2 = .ok es ∧ assemble (split parts).1 es = .ok source ∧ table = actionTable es := by
  unfold assembleTemplate at h
  cases hes : entriesFrom 0 (split parts).2 with
  | error fault =>
    simp only [register, hes] at h
    cases h
  | ok es =>
    simp only [register, hes, Except.map, bind, Except.bind] at h
    split at h
    · cases h
    · rename_i hsource
      cases h
      exact ⟨es, rfl, hsource, rfl⟩

/-- Every insertion of a template is one of its actions. -/
theorem mem_of_entry {is : List Insertion} {es : List ActionEntry} (h : entriesFrom 0 is = .ok es) {k : Nat} {i : Insertion}
    (hi : is[k]? = some i) {e : ActionEntry} (he : i.entry k = .ok e) : e ∈ es := by
  obtain ⟨e', he', hk⟩ := (entriesFrom_eq h).2 k i hi
  rw [Nat.zero_add, he] at he'
  cases he'
  exact List.mem_of_getElem? hk

/-! ## Compiled blocks -/

/-- Each block has its own number among the blocks. -/
theorem Grammar.Formed.getElem?_blocks {g : Grammar} (hg : g.Formed) {b : Block} (hb : b ∈ g.blocks) :
    g.blocks[b.index]? = some b := by
  obtain ⟨i, hi⟩ := List.getElem?_of_mem hb
  have hindex : (g.blocks.map (·.index))[i]? = some b.index := by rw [List.getElem?_map, hi, Option.map_some]
  have hlt : i < g.blocks.length := (List.getElem?_eq_some_iff.mp hi).1
  rw [hg.numbered, List.getElem?_range' hlt] at hindex
  have heq : i = b.index := by simpa using hindex
  rwa [heq] at hi

/-- What a compiled parser is made of. -/
theorem Parser.compile_eq {source : String} {context : List (String × Value)} {allowed : List String} {cached : Bool}
    {p : Parser} {g : Grammar} (hg : Grammar.read source = .ok g)
    (h : Parser.compile source context allowed cached = .ok p) :
    p.grammar = g ∧ p.context = context ∧ g.blocks.mapM (BlockAction.compile context) = .ok p.actions := by
  unfold Parser.compile at h
  rw [hg] at h
  dsimp only [bind, Except.bind] at h
  split at h
  · cases h
  · split at h
    · cases h
    · rename_i hblocks
      cases h
      exact ⟨rfl, rfl, hblocks⟩

/-- Where all blocks of a grammar compile, so does the grammar. -/
theorem Parser.compile_of_read {source : String} {g : Grammar} (hg : Grammar.read source = .ok g)
    (hstart : g.hasRule g.start = true) {context : List (String × Value)} {actions : List BlockAction}
    (hblocks : g.blocks.mapM (BlockAction.compile context) = .ok actions) (cached : Bool) :
    Parser.compile source context [] cached = .ok ⟨source, g, actions, context, [g.start], cached⟩ := by
  have hmissing : g.missingRule? [g.start] = none := by simp [Grammar.missingRule?, hstart]
  rw [Parser.compile, hg]
  dsimp only [bind, Except.bind]
  rw [if_pos List.isEmpty_nil, hmissing, hblocks]
  rfl

/-- No function of a block is named like an action, so the code finds the whole table. -/
theorem Parser.globals_eq {p : Parser} {is : List Insertion} {es : List ActionEntry} (h : entriesFrom 0 is = .ok es)
    (hp : p.context = actionTable es) : p.globals = p.context := by
  rw [Parser.globals, List.filter_eq_self, hp]
  intro a ha
  have hfirst : ∀ n, (actionName n).toList.head? = some '_' := by
    intro n
    rw [actionName, String.toList_append]
    rfl
  have hne : ∀ n, actionName n ≠ a.1 := by
    intro n hn
    have hunderscore : a.1.toList.head? = some '_' := hn ▸ hfirst n
    rcases List.mem_cons.mp ha with rfl | ha
    · revert hunderscore
      decide
    · obtain ⟨e, he, rfl⟩ := List.mem_map.mp ha
      have hname : e.name ∈ es.map (·.name) := List.mem_map_of_mem he
      rw [(entriesFrom_eq h).1] at hname
      obtain ⟨k, -, hk⟩ := List.mem_map.mp hname
      rw [← hk, toList_syntheticName] at hunderscore
      revert hunderscore
      simp
  simpa using fun (b : Block) _ => hne b.index

end PegTemplate
