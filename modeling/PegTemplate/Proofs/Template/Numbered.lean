import PegTemplate.Proofs.Grammar.Order
import PegTemplate.Proofs.Grammar.Whole
import PegTemplate.Proofs.Template.Written

/-!
# The actions of a template are those of its grammar

* `insertions` : the actions of a template, in order;
* `WholeTexts` : the texts around them are whole;
* `codes_interleave` : the blocks in the source of the grammar are those of the actions;
* `assembleTemplate_numbered` : **no action is lost, doubled or moved.** Each has the number of its block, which calls it.
-/

namespace PegTemplate
open Unicode

/-- The insertion that a part is. -/
def Part.insertion? : Part → Option Insertion
  | .insertion i => some i
  | .text _ => none

/-- The insertions of a template, in order. -/
def insertions (parts : List Part) : List Insertion := parts.filterMap Part.insertion?

/-- The texts around insertions are whole. Only behind the last one there is no block. -/
def WholeTexts : List String → Prop
  | [] => True
  | [s] => Whole true s.toList
  | s :: ss => Whole false s.toList ∧ WholeTexts ss

theorem split_eq_insertions (parts : List Part) : (split parts).2 = insertions parts := by
  induction parts with
  | nil => rfl
  | cons p parts ih =>
    cases p with
    | text s => exact ih
    | insertion i => exact congrArg (i :: ·) ih

/-- The blocks in a text with the blocks of actions between whole texts. -/
theorem codes_interleave {es : List ActionEntry} (hes : ∀ e ∈ es, e.Spelled) {s : String} {ss : List String}
    (hlen : ss.length = es.length) (hs : WholeTexts (s :: ss)) (pos : Nat) :
    (tokensFrom pos (s ++ interleave es ss).toList).codes.map (·.2) = es.map (·.code) := by
  induction es generalizing s ss pos with
  | nil =>
    obtain rfl := List.length_eq_zero_iff.mp hlen
    have hwhole : Whole true s.toList := hs
    obtain ⟨p, hp⟩ := hwhole.codes Bounded.nil.apart (fun _ => rfl) pos
    rw [interleave, String.append_empty, ← List.append_nil s.toList, hp, tokensFrom_done rfl]
    · rfl
    · exact nofun
  | cons e es ih =>
    cases ss with
    | nil => cases hlen
    | cons s' ss =>
      obtain ⟨hwhole, hrest⟩ : Whole false s.toList ∧ WholeTexts (s' :: ss) := hs
      have hblock : (s ++ interleave (e :: es) (s' :: ss)).toList =
          s.toList ++ '{' :: (e.code.toList ++ '}' :: (s' ++ interleave es ss).toList) := by
        rw [interleave, e.block_eq_code]
        simp
      have happart : Apart ('{' :: (e.code.toList ++ '}' :: (s' ++ interleave es ss).toList)) := by
        rintro c r h
        cases h
        exact .inr rfl
      obtain ⟨p, hp⟩ := hwhole.codes happart nofun pos
      have hafter := ih (fun f hf => hes f (List.mem_cons_of_mem e hf)) (Nat.succ.inj hlen) hrest
        (p + e.code.toList.length + 2)
      rw [hblock, hp, (hes e List.mem_cons_self).readExactly_code.tokensFrom, Tokens.codes, List.map_cons, List.map_cons,
        hafter, String.ofList_toList]

/-- The blocks of the grammar of a template have the code of its actions, in order. -/
theorem codes_of_assembled {parts : List Part} {source : String} {es : List ActionEntry} {g : Grammar}
    (hes : ∀ e ∈ es, e.Spelled) (hsource : assemble (split parts).1 es = .ok source) (hwhole : WholeTexts (split parts).1)
    (hread : Grammar.read source = .ok g) : g.blocks.map (·.code) = es.map (·.code) := by
  cases hsplit : (split parts).1 with
  | nil =>
    rw [hsplit] at hsource
    cases hsource
  | cons s ss =>
    rw [hsplit, assemble] at hsource
    split_ifs at hsource with hlen
    cases hsource
    rw [Grammar.codes_of_read hread, tokenize, codes_interleave hes hlen (hsplit ▸ hwhole)]

/-- **No action of a template is lost, doubled or moved.** If the texts around the actions are whole and the grammar that
is made of the template can be read, it has one block for each action, in the order of the template, and these are the
blocks of its rules. The block of action number `k` has the index `k`, and its code is what the block of the `k`-th
registered action has between its braces. That code returns a call of the name by which the table has the value of this
action. -/
theorem assembleTemplate_numbered {parts : List Part} {source : String} {table : List (String × Value)} {g : Grammar}
    (hassembled : assembleTemplate parts = .ok (source, table)) (hnamed : ∀ i ∈ insertions parts, i.signature.Named)
    (hwhole : WholeTexts (split parts).1) (hread : Grammar.read source = .ok g) :
    ∃ es, register (insertions parts) = .ok (es, table) ∧ es.length = (insertions parts).length ∧
      g.blocks.length = (insertions parts).length ∧ g.rules.flatMap (·.body.blocks) = g.blocks ∧
      ∀ (k : Nat) (i : Insertion), (insertions parts)[k]? = some i → ∃ b e, g.blocks[k]? = some b ∧ es[k]? = some e ∧
        b.index = k ∧ e.block = "\x7b" ++ b.code ++ "\x7d" ∧
        ("return " ++ syntheticName k ++ "(" ++ ", ".intercalate e.parameters ++ ")").toList <:+: b.code.toList ∧
        (∀ c, b.code? = some c → ∃ args, e.parameters.mapM wordExpr? = some args ∧
          c.statements = (e.parameters.take 1).map contextStatement ++
            [.result (some (.call (.name (syntheticName k)) args []))]) ∧
        table.lookup (syntheticName k) = some i.value := by
  obtain ⟨es, hes, hsource, rfl⟩ := assembleTemplate_eq hassembled
  rw [split_eq_insertions] at hes
  have hlength : es.length = (insertions parts).length := by
    have hnames := congrArg List.length (entriesFrom_eq hes).1
    rwa [List.length_map, List.length_map, List.length_range'] at hnames
  have hspelled : ∀ e ∈ es, e.Spelled := by
    intro e he
    obtain ⟨k, hk⟩ := List.getElem?_of_mem he
    have hlt : k < (insertions parts).length := hlength ▸ (List.getElem?_eq_some_iff.mp hk).1
    obtain ⟨e', he', hk'⟩ := (entriesFrom_eq hes).2 k _ (List.getElem?_eq_getElem hlt)
    obtain rfl : e = e' := Option.some.inj (hk.symm.trans hk')
    exact Insertion.spelled (hnamed _ (List.getElem_mem hlt)) he'
  have hcodes := codes_of_assembled hspelled hsource hwhole hread
  have hblocks : g.blocks.length = es.length := by
    have h := congrArg List.length hcodes
    rwa [List.length_map, List.length_map] at h
  refine ⟨es, by rw [register, hes]; rfl, hlength, hblocks.trans hlength, (Grammar.read_ordered hread).met, ?_⟩
  intro k i hi
  obtain ⟨e, he, hk⟩ := (entriesFrom_eq hes).2 k i hi
  rw [Nat.zero_add] at he
  have hlt : k < g.blocks.length := hblocks ▸ (List.getElem?_eq_some_iff.mp hk).1
  have hcode : g.blocks[k].code = e.code := by
    have h := congrArg (·[k]?) hcodes
    rw [List.getElem?_map, List.getElem?_map, hk, List.getElem?_eq_getElem hlt] at h
    exact Option.some.inj h
  have hindex : g.blocks[k].index = k := by
    have h := congrArg (·[k]?) (Grammar.read_ordered hread).numbered
    rw [List.getElem?_map, List.getElem?_eq_getElem hlt, List.getElem?_range hlt] at h
    exact Option.some.inj h
  have heq := (Insertion.entry_eq he).2
  have hname : e.name = syntheticName k := by rw [heq]
  have hmem := List.mem_of_getElem? hk
  refine ⟨g.blocks[k], e, List.getElem?_eq_getElem hlt, hk, hindex, ActionEntry.code_eq_iff.mp hcode, ?_, ?_, ?_⟩
  · rw [hcode, ← hname]
    exact (hspelled e hmem).call_infix_code
  · intro c hc
    rw [← hname]
    exact (hspelled e hmem).statements_eq hcode hc
  · have hvalue : e.value = i.value := by rw [heq]
    rw [← hname, ← hvalue]
    exact (lookup_actionTable hes).2 e hmem

/-- Two actions in the alternatives of a group, and one behind the group. -/
def groupTemplate : List Part :=
  [.text "s=('a'", .insertion ⟨.callable 0 "<first>", .declared [], false, none⟩,
    .text "/.", .insertion ⟨.callable 1 "<second>", .declared [⟨"c", .plain, none⟩], false, none⟩,
    .text ")", .insertion ⟨.callable 2 "<third>", .declared [], false, none⟩, .text "# end"]

theorem groupTemplate_whole : WholeTexts (split groupTemplate).1 := by
  have hsplit : (split groupTemplate).1 = ["s=('a'", "/.", ")", "# end"] := by decide +kernel
  rw [hsplit]
  refine ⟨?_, ?_, ?_, ?_⟩
  · show Whole false ['s', '=', '(', '\'', 'a', '\'']
    refine .token (f := []) (r := ['=', '(', '\'', 'a', '\'']) .nil (by decide +kernel) (by decide +kernel) ?_
    refine .token (f := []) (r := ['(', '\'', 'a', '\'']) .nil (by decide +kernel) (by decide +kernel) ?_
    refine .token (f := []) (r := ['\'', 'a', '\'']) .nil (by decide +kernel) (by decide +kernel) ?_
    exact .token (f := []) (r := []) .nil (by decide +kernel) (by decide +kernel) (.filler .nil)
  · show Whole false ['/', '.']
    refine .token (f := []) (r := ['.']) .nil (by decide +kernel) (by decide +kernel) ?_
    exact .token (f := []) (r := []) .nil (by decide +kernel) (by decide +kernel) (.filler .nil)
  · show Whole false [')']
    exact .token (f := []) (r := []) .nil (by decide +kernel) (by decide +kernel) (.filler .nil)
  · show Whole true ['#', ' ', 'e', 'n', 'd']
    exact .comment (f := []) (m := ['#']) rfl .nil (.inl rfl) (by decide)

/-- The third action, behind the group, is the one of the whole rule. -/
theorem groupTemplate_numbered : ∃ source table g es, assembleTemplate groupTemplate = .ok (source, table) ∧
    Grammar.read source = .ok g ∧ register (insertions groupTemplate) = .ok (es, table) ∧ g.blocks.length = 3 ∧
    ∃ b e, g.blocks[2]? = some b ∧ es[2]? = some e ∧ b.index = 2 ∧ e.block = "\x7b" ++ b.code ++ "\x7d" ∧
      table.lookup "action2" = some (.callable 2 "<third>") := by
  have hread : ((assembleTemplate groupTemplate).toOption.any fun a => (Grammar.read a.1).toOption.isSome) = true := by
    decide +kernel
  cases hassembled : assembleTemplate groupTemplate with
  | error fault =>
    rw [hassembled] at hread
    cases hread
  | ok assembled =>
    obtain ⟨source, table⟩ := assembled
    rw [hassembled] at hread
    cases hg : Grammar.read source with
    | error fault =>
      simp [Except.toOption, hg] at hread
    | ok g =>
      have hnamed : ∀ i ∈ insertions groupTemplate, i.signature.Named := by
        show ∀ i ∈ [_, _, _], _
        rw [List.forall_mem_cons, List.forall_mem_cons, List.forall_mem_singleton]
        have hc : ∀ p ∈ [(⟨"c", .plain, none⟩ : Parameter)], isName p.name.toList = true := by decide +kernel
        exact ⟨(nofun : ∀ p ∈ ([] : List Parameter), _), hc, (nofun : ∀ p ∈ ([] : List Parameter), _)⟩
      obtain ⟨es, hes, -, hlength, -, hactions⟩ :=
        assembleTemplate_numbered hassembled hnamed groupTemplate_whole hg
      obtain ⟨b, e, hb, he, hindex, hcode, -, -, hvalue⟩ := hactions 2 _ rfl
      exact ⟨source, table, g, es, rfl, hg, hes, hlength, b, e, hb, he, hindex, hcode, hvalue⟩

end PegTemplate
