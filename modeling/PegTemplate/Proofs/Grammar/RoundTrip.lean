import Mathlib.Data.List.Basic
import PegTemplate.Proofs.Grammar.Level

/-!
# Reading what was written

* `Node.readsBack` : a formed expression is read from its tokens, by induction on the expression;
* `Rule.readsBack`, `readRules_written` : so are rules;
* `Grammar.read_written` : **what is read from the text of a grammar is that grammar.**
-/

namespace PegTemplate

/-! ## Expressions -/

/-- The expression is read from its tokens, if its blocks have the next numbers. -/
def Node.ReadsBack (n : Node) : Prop := ∀ before (ts : Tokens) l, Numbered before.length n.blocks →
  ts.Lists (n.written ++ l) → Follow n.level l → ReadsAt n.level before ts n (before ++ n.blocks) l

theorem Node.level_le (n : Node) : n.level ≤ 6 := by
  cases n <;> simp [level]

section
variable {n : Node} {before : List Block} {ts : Tokens} {l : List Token}

/-- In place of an expression of a level it is read too, between parentheses if need be. -/
theorem Node.ReadsBack.enclose (h : n.ReadsBack) (hn : Numbered before.length n.blocks) {limit : Nat} (hlimit : limit ≤ 6)
    (hts : ts.Lists (PegTemplate.enclose limit n.level n.written ++ l)) (hl : Follow limit l) :
    ReadsAt limit before ts n (before ++ n.blocks) l := by
  unfold PegTemplate.enclose at hts
  split_ifs at hts with hlevel
  · exact (h before ts l hn hts (hl.mono hlevel)).mono hlevel hlimit hl
  · have hclosed : ∀ k, Follow k (.mark ')' :: l) := fun k => .mark k (Or.inl rfl) l
    have hprimary : ReadsAt 0 before ts n (before ++ n.blocks) l := by
      refine reads_parentheses (w := n.written ++ .mark ')' :: l) (by simpa using hts) fun ts' hts' => ?_
      exact (h before ts' _ hn hts' (hclosed _)).mono n.level_le (Nat.le_refl 6) (hclosed 6)
    exact hprimary.mono (Nat.zero_le _) hlimit hl

end

theorem Undefined.append {ts l : List Token} (hts : ∀ t ∈ ts, t.startsDefinition = false) (hl : Undefined l) :
    Undefined (ts ++ l) := by
  cases ts with
  | nil => exact hl
  | cons t ts =>
    rintro t' r h
    cases h
    exact hts t (List.mem_cons_self ..)

section
variable {before : List Block} {ts : Tokens} {l : List Token}

/-- An item may be followed by the other items. -/
theorem follow_items (ns : List Node) (hl : Follow 4 l) : Follow 3 (Node.writtenItems ns ++ l) := by
  induction ns with
  | nil => exact hl.mono (by omega)
  | cons n ns ih =>
    obtain ⟨t, r, hr, ht⟩ := startsItem_enclose (Nat.le_refl 3) n
    have hsign : ∀ t' ∈ r, t'.startsDefinition = false := fun t' ht' =>
      startsDefinition_of_mem_enclose (hr ▸ List.mem_cons_of_mem t ht')
    rw [Node.writtenItems, List.append_assoc, hr]
    exact .item (Nat.le_refl 3) ht (.append hsign ih.undefined)

theorem follow_alternatives (ns : List Node) (hl : Follow 6 l) : Follow 5 (Node.writtenAfterSlashes ns ++ l) := by
  cases ns with
  | nil => exact hl.mono (by omega)
  | cons n ns => exact .slash (Nat.le_refl 5) _

theorem reads_items {ns : List Node} (h : ∀ n ∈ ns, n.ReadsBack) (hn : Numbered before.length (Node.blocksAll ns))
    (hts : ts.Lists (Node.writtenItems ns ++ l)) (hl : Follow 4 l) :
    Reads (readSequence before ts) ns (before ++ Node.blocksAll ns) l := by
  induction ns generalizing before ts with
  | nil =>
    rw [Node.blocksAll, List.append_nil]
    exact reads_nil hts hl
  | cons n ns ih =>
    rw [Node.blocksAll] at hn ⊢
    rw [Node.writtenItems, List.append_assoc] at hts
    obtain ⟨hfirst, hmore⟩ := numbered_append.1 hn
    have hfollow := follow_items ns hl
    have hread : ReadsAt 3 before ts n _ _ :=
      (h n (List.mem_cons_self ..)).enclose hfirst (by omega) hts hfollow
    rw [← List.append_assoc]
    refine reads_cons hread (hfollow.mono (by omega)) fun ts' hts' => ?_
    exact ih (fun m hm => h m (List.mem_cons_of_mem _ hm)) (by rwa [List.length_append]) hts'

theorem reads_afterSlashes {ns : List Node} (h : ∀ n ∈ ns, n.ReadsBack)
    (hn : Numbered before.length (Node.blocksAll ns)) (hts : ts.Lists (Node.writtenAfterSlashes ns ++ l))
    (hl : Follow 6 l) : Reads (readAlternatives before ts) ns (before ++ Node.blocksAll ns) l := by
  induction ns generalizing before ts with
  | nil =>
    rw [Node.blocksAll, List.append_nil]
    exact reads_last hts hl
  | cons n ns ih =>
    rw [Node.blocksAll] at hn ⊢
    rw [Node.writtenAfterSlashes, List.cons_append, List.append_assoc] at hts
    obtain ⟨hfirst, hmore⟩ := numbered_append.1 hn
    have hread : ∀ ts' : Tokens, ts'.Lists _ → ReadsAt 5 before ts' n _ _ := fun ts' hts' =>
      (h n (List.mem_cons_self ..)).enclose hfirst (by omega) hts' (follow_alternatives ns hl)
    rw [← List.append_assoc]
    refine reads_next hts hread fun ts' hts' => ?_
    exact ih (fun m hm => h m (List.mem_cons_of_mem _ hm)) (by rwa [List.length_append]) hts'

theorem ofItems_of_length {ns : List Node} (h : ns.length ≠ 1) : Node.ofItems ns = .sequence ns := by
  match ns, h with
  | [], _ => rfl
  | _ :: _ :: _, _ => rfl

theorem reads_ofOperator {n : Node} (h : n.ReadsBack) {c : Char} {f : Node → Node} (hf : operator? c = some f)
    (hn : Numbered before.length n.blocks) (hts : ts.Lists (.mark c :: (enclose 1 n.level n.written ++ l)))
    (hl : Follow 2 l) : Reads (readPrefixed before ts) (f n) (before ++ n.blocks) l := by
  cases hts with
  | cons p _ hw =>
    have hread : ReadsAt 1 before _ n _ _ := h.enclose hn (by omega) hw (hl.mono (by omega))
    exact reads_operator hf hread

theorem reads_alternatives {n : Node} {ns : List Node} (h : ∀ m ∈ n :: ns, m.ReadsBack)
    (hn : Numbered before.length (Node.blocksAll (n :: ns)))
    (hts : ts.Lists (enclose 5 n.level n.written ++ Node.writtenAfterSlashes ns ++ l)) (hl : Follow 6 l) :
    Reads (readChoice before ts) (Node.ofAlternatives (n :: ns)) (before ++ Node.blocksAll (n :: ns)) l := by
  rw [Node.blocksAll] at hn ⊢
  rw [List.append_assoc] at hts
  obtain ⟨hfirst, hmore⟩ := numbered_append.1 hn
  have hread : ReadsAt 5 before ts n _ _ :=
    (h n (List.mem_cons_self ..)).enclose hfirst (by omega) hts (follow_alternatives ns hl)
  rw [← List.append_assoc]
  refine reads_choice hread fun ts' hts' => ?_
  exact reads_afterSlashes (fun m hm => h m (List.mem_cons_of_mem _ hm)) (by rwa [List.length_append]) hts' hl

/-- **A formed expression is read from its tokens.** -/
theorem Node.readsBack {n : Node} (h : n.Formed) : n.ReadsBack := by
  induction n using Node.induction with
  | literal t i =>
    intro before ts l _ hts _
    cases hts with
    | cons p _ hw => exact ⟨_, by rw [readPrimary], rfl, (List.append_nil _).symm, hw⟩
  | charClass m =>
    intro before ts l _ hts _
    cases hts with
    | cons p _ hw => exact ⟨_, by rw [readPrimary], rfl, (List.append_nil _).symm, hw⟩
  | any =>
    intro before ts l _ hts _
    cases hts with
    | cons p _ hw => exact ⟨_, by rw [readPrimary, if_pos rfl], rfl, (List.append_nil _).symm, hw⟩
  | ref r =>
    intro before ts l _ hts _
    cases hts with
    | cons p _ hw => exact ⟨_, by rw [readPrimary], rfl, (List.append_nil _).symm, hw⟩
  | followedBy n ih =>
    intro before ts l hn hts hl
    exact reads_ofOperator (ih (h.child (List.mem_singleton_self n))) rfl hn hts hl
  | notFollowedBy n ih =>
    intro before ts l hn hts hl
    exact reads_ofOperator (ih (h.child (List.mem_singleton_self n))) rfl hn hts hl
  | text n ih =>
    intro before ts l hn hts hl
    exact reads_ofOperator (ih (h.child (List.mem_singleton_self n))) rfl hn hts hl
  | labeled x n ih =>
    intro before ts l hn hts hl
    have hbody := ih (h.child (List.mem_singleton_self n))
    have hl : Follow 3 l := hl
    have hread : ∀ ts' : Tokens, ts'.Lists _ → ReadsAt 2 before ts' n _ _ := fun ts' hts' =>
      hbody.enclose hn (by omega) hts' (hl.mono (by omega))
    exact reads_labeled (h _ .self).2 hts hread
  | repeated k n ih =>
    intro before ts l hn hts hl
    rw [Node.written, List.append_assoc] at hts
    have hbody := ih (h.child (List.mem_singleton_self n))
    have hread : ReadsAt 0 before ts n _ _ := hbody.enclose hn (by omega) hts (.any _)
    exact reads_repeated hread
  | sequence ns ih =>
    intro before ts l hn hts hl
    exact ⟨ns, reads_items (fun n hn => ih n hn (h.child hn)) hn hts hl, ofItems_of_length (h _ .self)⟩
  | choice ns ih =>
    intro before ts l hn hts hl
    have hmembers : ∀ n ∈ ns, n.ReadsBack := fun n hn => ih n hn (h.child hn)
    have hlength : 2 ≤ ns.length := h _ .self
    obtain ⟨n, ms, rfl⟩ := List.exists_cons_of_length_pos (Nat.lt_of_lt_of_le Nat.zero_lt_two hlength)
    obtain ⟨m, ms, rfl⟩ := List.exists_cons_of_length_pos (Nat.le_of_succ_le_succ hlength)
    exact reads_alternatives hmembers hn hts hl
  | action n b ih _ =>
    intro before ts l hn hts hl
    obtain ⟨hlabels, hdistinct⟩ : b.labels = n.itemLabels ∧ b.labels.Nodup := h _ .self
    rw [Node.blocks] at hn ⊢
    rw [Node.written, List.append_assoc] at hts
    obtain ⟨hbody, hb⟩ := numbered_append.1 hn
    have hread : ReadsAt 4 before ts n _ _ :=
      (ih (h.child (List.mem_singleton_self n))).enclose hbody (by omega) hts (.block (by omega) b.code l)
    obtain ⟨ns, hns, rfl⟩ := hread
    have hblock : b = ⟨b.code, (Node.ofItems ns).itemLabels, (before ++ (Node.ofItems ns).blocks).length⟩ := by
      rw [← hlabels, List.length_append, ← numbered_singleton.1 hb]
    rw [hlabels] at hdistinct
    have haction := reads_action hns hdistinct
    rw [← hblock, List.append_assoc] at haction
    exact haction

end

/-! ## Rules -/

theorem textOf_codes (d : String) : textOf (codes d.toList) = d := by
  have h : ∀ c : Char, (if c.toNat.isValidChar then Char.ofNat c.toNat else '\uFFFD') = c := fun c => by
    rw [if_pos (show c.toNat.isValidChar from c.valid), Char.ofNat_toNat]
  rw [textOf, codes, List.map_map]
  simp only [Function.comp_def, h, List.map_id', String.ofList_toList]

theorem Style.startsDefinition_sign (s : Style) : s.sign.startsDefinition = true := by
  unfold Style.sign
  split_ifs <;> rfl

section
variable {before : List Block} {ts : Tokens} {l : List Token}

theorem readDisplay_written {d : Option String} {t : Token} (ht : t.startsDefinition = true)
    (hts : ts.Lists (displayTokens d ++ t :: l)) : ∃ r, readDisplay ts = .ok (d, r) ∧ r.1.Lists (t :: l) := by
  cases d with
  | none =>
    refine ⟨⟨ts, Nat.le_refl _⟩, ?_, hts⟩
    cases hts with
    | cons p t h => cases t <;> first | rfl | cases ht
  | some d =>
    cases hts with
    | cons p _ h => exact ⟨_, by rw [readDisplay, textOf_codes], h⟩

theorem readDefinitionSign_written {t : Token} (ht : t.startsDefinition = true) (hts : ts.Lists (t :: l)) :
    ∃ r, readDefinitionSign ts = .ok r ∧ r.1.Lists l := by
  cases hts with
  | cons p t h =>
    cases t with
    | arrow => exact ⟨_, rfl, h⟩
    | equals doubled => exact ⟨_, rfl, h⟩
    | _ => cases ht

/-- The end of a rule is passed over. -/
theorem lists_closing {s : Style} (hts : ts.Lists (s.closing ++ l)) (hl : ∀ r, l ≠ .mark ';' :: r) :
    ((ts.afterMark? ';').getD ts).Lists l := by
  unfold Style.closing at hts
  split_ifs at hts
  · obtain ⟨r, hr, hlists⟩ := afterMark?_of_lists hts
    rwa [hr]
  · rwa [afterMark?_eq_none hts hl]

theorem follow_closing (s : Style) (hl : Follow 6 l) : Follow 6 (s.closing ++ l) := by
  unfold Style.closing
  split_ifs
  · exact .mark 6 (Or.inr rfl) l
  · exact hl

/-- A rule is read from its tokens. -/
theorem Rule.readsBack {r : Rule} (h : r.body.Formed) {s : Style} (hn : Numbered before.length r.body.blocks)
    (hts : ts.Lists (r.tokens s ++ l)) (hl : Follow 6 l) (hsemicolon : ∀ w, l ≠ .mark ';' :: w) :
    Reads (readRule before ts) r (before ++ r.body.blocks) l := by
  rw [Rule.tokens, List.cons_append, List.append_assoc, List.cons_append, List.append_assoc] at hts
  cases hts with
  | cons p _ hrest =>
    obtain ⟨⟨r1, h1⟩, hdisplay, hlists1⟩ := readDisplay_written s.startsDefinition_sign hrest
    obtain ⟨⟨r2, h2⟩, hsign, hlists2⟩ := readDefinitionSign_written s.startsDefinition_sign hlists1
    have hbody : ReadsAt 6 before r2 r.body _ _ :=
      (Node.readsBack h before r2 _ hn hlists2 ((follow_closing s hl).mono r.body.level_le)).mono r.body.level_le
        (Nat.le_refl 6) (follow_closing s hl)
    obtain ⟨body, hread, hvalue, hblocks, hlast⟩ := hbody
    simp only [readRule, hdisplay, hsign, hread]
    rw [halt?_of_lists hlast]
    exact ⟨_, rfl, by simp only [hvalue], hblocks, lists_closing hlast hsemicolon⟩

end

theorem follow_rules (style : Rule → Style) (rules : List Rule) : Follow 6 (rulesTokens style rules) := by
  cases rules with
  | nil => exact .nothing 6
  | cons r rules =>
    unfold rulesTokens
    rw [List.flatMap_cons, Rule.tokens]
    cases r.display with
    | none => exact .rule 6 r.name (style r).startsDefinition_sign _
    | some d => exact .shownRule 6 r.name _ false (style r).startsDefinition_sign _

theorem rules_no_semicolon (style : Rule → Style) (rules : List Rule) (w : List Token) :
    rulesTokens style rules ≠ .mark ';' :: w := by
  intro h
  cases rules with
  | nil => cases h
  | cons r rules =>
    rw [rulesTokens, List.flatMap_cons, Rule.tokens] at h
    cases h

/-- Rules are read from their tokens. -/
theorem readRules_written {style : Rule → Style} {rules : List Rule} (h : ∀ r ∈ rules, r.body.Formed)
    (hdistinct : (rules.map (·.name)).Nodup) {names : List String} (hfresh : ∀ r ∈ rules, r.name ∉ names)
    (hne : names ≠ [] ∨ rules ≠ []) {before : List Block}
    (hn : Numbered before.length (rules.flatMap (·.body.blocks))) {ts : Tokens}
    (hts : ts.Lists (rulesTokens style rules)) :
    readRules names before ts = .ok (rules, before ++ rules.flatMap (·.body.blocks)) := by
  induction rules generalizing names before ts with
  | nil =>
    cases hts with
    | done p =>
      have hnames : names.isEmpty = false := by
        cases names with
        | nil => exact absurd rfl (hne.resolve_right (fun h => h rfl))
        | cons x names => rfl
      rw [readRules, hnames, List.flatMap_nil, List.append_nil]
      rfl
  | cons r rules ih =>
    rw [List.flatMap_cons] at hn ⊢
    obtain ⟨hbody, hrules⟩ := numbered_append.1 hn
    rw [List.map_cons, List.nodup_cons] at hdistinct
    obtain ⟨first, hfirst, hvalue, hblocks, hrest⟩ :=
      Rule.readsBack (h r (List.mem_cons_self ..)) hbody hts (follow_rules style rules) (rules_no_semicolon style rules)
    have hnew : ¬names.contains r.name = true := fun hm => hfresh r (List.mem_cons_self ..) (List.contains_iff_mem.1 hm)
    have hseen : ∀ k ∈ rules, k.name ∉ r.name :: names := by
      intro k hk hm
      rcases List.mem_cons.1 hm with he | hm
      · exact hdistinct.1 (he ▸ List.mem_map_of_mem hk)
      · exact hfresh k (List.mem_cons_of_mem _ hk) hm
    have hlater : Numbered (before ++ r.body.blocks).length (rules.flatMap (·.body.blocks)) := by
      rwa [List.length_append]
    have hread := ih (fun k hk => h k (List.mem_cons_of_mem _ hk)) hdistinct.2 hseen (Or.inl (List.cons_ne_nil _ _))
      hlater hrest
    unfold readRules
    split
    · cases hts
    · rw [hfirst]
      dsimp only
      rw [hvalue, if_neg hnew, hblocks, hread, List.append_assoc]

theorem undefinedReference?_eq_none {g : Grammar} (h : g.Closed) : undefinedReference? g.rules = none := by
  rw [undefinedReference?, List.findSome?_eq_none_iff]
  intro r hr
  rw [Option.map_eq_none_iff, List.find?_eq_none]
  intro name hname
  rw [Bool.not_eq_true, Bool.not_eq_false']
  exact h r hr name hname

/-! ## Grammars -/

/-- A formed grammar is read from a text that has its tokens. -/
theorem Grammar.read_of_lists {g : Grammar} (hf : g.Formed) {source : String} {style : Rule → Style}
    (htokens : (tokenize source.toList).Lists (rulesTokens style g.rules)) : Grammar.read source = .ok g := by
  have hne : g.rules ≠ [] := by
    intro h
    have hstart := hf.start
    rw [h] at hstart
    cases hstart
  have hfresh : ∀ r ∈ g.rules, r.name ∉ ([] : List String) := fun _ _ => List.not_mem_nil
  have hn : Numbered ([] : List Block).length (g.rules.flatMap (·.body.blocks)) := hf.blocks ▸ hf.numbered
  have hread := readRules_written hf.formed hf.distinct hfresh (Or.inr hne) hn htokens
  rw [List.nil_append, ← hf.blocks] at hread
  rw [Grammar.read, hread]
  dsimp only
  rw [undefinedReference?_eq_none hf.closed]
  dsimp only
  rw [hf.start]
  rfl

/-- The text of a grammar has its tokens. -/
theorem Grammar.lists_written {g : Grammar} (hf : g.Formed) (hw : g.Writable) (style : Rule → Style) :
    (tokenize (g.written style).toList).Lists (rulesTokens style g.rules) := by
  rw [Grammar.written, String.toList_ofList]
  exact tokensFrom_lists (Grammar.spells_written style g.rules) (Grammar.spellable hf hw style) 0

/-- **What is read from the text of a grammar is that grammar.** -/
theorem Grammar.read_written {g : Grammar} (hf : g.Formed) (hw : g.Writable) (style : Rule → Style) :
    Grammar.read (g.written style) = .ok g :=
  Grammar.read_of_lists hf (Grammar.lists_written hf hw style)

/-- A word, a comma, and perhaps another word. -/
def wordPair : Node :=
  .sequence [.labeled "l" (.ref "word"), .literal [44] false, .labeled "r" (.choice [.ref "word", .sequence []])]

/-- Small letters. -/
def smallLetters : CharClass := ⟨false, [(97, 122)], [], false, "[a-z]"⟩

/-- The grammar `pair "a pair" <- l : word "," r : ( word / ) { return l } ;` and, in the next line,
`word <- [a-z] + ;`. -/
def pairs : Grammar where
  rules := [⟨"pair", some "a pair", .action wordPair ⟨" return l ", ["l", "r"], 0⟩⟩,
    ⟨"word", none, .repeated .plus (.charClass smallLetters)⟩]
  start := "pair"
  blocks := [⟨" return l ", ["l", "r"], 0⟩]

/-- What holds of each of its expressions holds of all parts of the grammar. -/
theorem pairs_all {P : Node → Prop} (haction : P (.action wordPair ⟨" return l ", ["l", "r"], 0⟩)) (hpair : P wordPair)
    (hl : P (.labeled "l" (.ref "word"))) (hcomma : P (.literal [44] false))
    (hr : P (.labeled "r" (.choice [.ref "word", .sequence []]))) (hchoice : P (.choice [.ref "word", .sequence []]))
    (hword : P (.ref "word")) (hnothing : P (.sequence []))
    (hletters : P (.repeated .plus (.charClass smallLetters))) (hclass : P (.charClass smallLetters)) :
    ∀ r ∈ pairs.rules, ∀ k, Node.Part k r.body → P k := by
  rw [pairs, List.forall_mem_cons, List.forall_mem_singleton]
  have hchoices : ∀ c ∈ [Node.ref "word", .sequence []], ∀ k, Node.Part k c → P k := by
    rw [List.forall_mem_cons, List.forall_mem_singleton]
    exact ⟨Node.Part.all hword nofun, Node.Part.all hnothing nofun⟩
  have hitems : ∀ c ∈ wordPair.children, ∀ k, Node.Part k c → P k := by
    rw [wordPair, Node.children, List.forall_mem_cons, List.forall_mem_cons, List.forall_mem_singleton]
    exact ⟨Node.Part.all hl (List.forall_mem_singleton.2 (Node.Part.all hword nofun)), Node.Part.all hcomma nofun,
      Node.Part.all hr (List.forall_mem_singleton.2 (Node.Part.all hchoice hchoices))⟩
  exact ⟨Node.Part.all haction (List.forall_mem_singleton.2 (Node.Part.all hpair hitems)),
    Node.Part.all hletters (List.forall_mem_singleton.2 (Node.Part.all hclass nofun))⟩

theorem pairs_read : pairs.Formed ∧ pairs.Writable ∧
    Grammar.read (pairs.written fun _ => ⟨true, true, true⟩) = .ok pairs := by
  have hformed : pairs.Formed := {
    named := by decide +kernel
    distinct := by decide
    closed := by decide
    formed := pairs_all ⟨rfl, by decide⟩ (show 3 ≠ 1 by decide) ⟨by decide +kernel, by decide⟩ trivial
      ⟨by decide +kernel, by decide⟩ (Nat.le_refl 2) trivial (show 0 ≠ 1 by decide) trivial trivial
    start := rfl
    blocks := rfl
    numbered := rfl }
  have hclass : CharClass.Spelled smallLetters := ⟨['a', '-', 'z', ']'], 5, by decide, by cbv⟩
  have hordinary : ∀ c ∈ " return l ".toList, isOrdinary c = true := List.all_iff_forall_prop.mp (by decide)
  have hwritable : pairs.Writable := pairs_all hordinary trivial
    trivial (show ∀ c ∈ [44], c < 0x110000 by decide) trivial trivial trivial trivial trivial hclass
  exact ⟨hformed, hwritable, Grammar.read_written hformed hwritable _⟩

example : pairs.written (fun _ => ⟨true, true, true⟩) =
    "pair \"a pair\" <- l : word \",\" r : ( word / ) { return l } ;\nword <- [a-z] + ;" := by rfl

end PegTemplate
