import PegTemplate.Proofs.Grammar.Closed

/-!
# The shape of a grammar that was read

* `Node.Shaped`, `Node.Formed` : labels are names that are not reserved, sequences and choices have as many members as
  their kind says, and a block has the labels of its sequence, each once;
* `Tokens.Named` : what stands for a name is one;
* `Reading` : what holds of that which a reader read. There is one lemma for each reader, each of which takes choices
  of fewer tokens for granted;
* `Grammar.Formed`, `Grammar.read_formed` : **a grammar that was read is formed, and its blocks are numbered in the order
  of the source.**
-/

namespace PegTemplate
open Unicode

/-! ## Formed expressions -/

namespace Node

/-- What an expression of its kind has to be, apart from the expressions inside it. -/
def Shaped : Node → Prop
  | labeled l _ => isName l.toList = true ∧ isReserved l = false
  | sequence ns => ns.length ≠ 1
  | choice ns => 2 ≤ ns.length
  | action n b => b.labels = n.itemLabels ∧ b.labels.Nodup
  | _ => True

/-- Every part of the expression is what its kind has to be. -/
def Formed (n : Node) : Prop := ∀ k, Part k n → k.Shaped

theorem Formed.child {c n : Node} (h : n.Formed) (hc : c ∈ n.children) : c.Formed := fun k hk => h k (.child hc hk)

/-- What holds of an expression and of all parts of its children holds of all its parts. -/
theorem Part.all {P : Node → Prop} {n : Node} (hn : P n) (h : ∀ c ∈ n.children, ∀ k, Part k c → P k) :
    ∀ k, Part k n → P k := by
  intro k hk
  cases hk with
  | self => exact hn
  | child hc hk => exact h _ hc k hk

theorem Formed.of_children {n : Node} (hn : n.Shaped) (h : ∀ c ∈ n.children, c.Formed) : n.Formed := Part.all hn h

theorem blocksAll_append (ns ms : List Node) : blocksAll (ns ++ ms) = blocksAll ns ++ blocksAll ms := by
  induction ns with
  | nil => rfl
  | cons n ns ih => rw [List.cons_append, blocksAll, blocksAll, ih, List.append_assoc]

theorem blocksAll_singleton (n : Node) : blocksAll [n] = n.blocks := by
  rw [blocksAll, blocksAll, List.append_nil]

theorem blocks_ofItems (ns : List Node) : (ofItems ns).blocks = blocksAll ns := by
  match ns with
  | [] => rfl
  | [n] => exact (blocksAll_singleton n).symm
  | n :: m :: ns => rw [ofItems, blocks]; exact nofun

theorem blocks_ofAlternatives (ns : List Node) : (ofAlternatives ns).blocks = blocksAll ns := by
  match ns with
  | [] => rfl
  | [n] => exact (blocksAll_singleton n).symm
  | n :: m :: ns => rw [ofAlternatives, blocks]; exact nofun

theorem formed_ofItems {ns : List Node} (h : ∀ n ∈ ns, n.Formed) : (ofItems ns).Formed := by
  match ns with
  | [] => exact Formed.of_children (show (0 : Nat) ≠ 1 by decide) nofun
  | [n] => exact h n (List.mem_singleton_self n)
  | n :: m :: ns => exact Formed.of_children (show (n :: m :: ns).length ≠ 1 by simp) h

theorem formed_ofAlternatives {ns : List Node} (hne : ns ≠ []) (h : ∀ n ∈ ns, n.Formed) : (ofAlternatives ns).Formed := by
  match ns with
  | [] => exact absurd rfl hne
  | [n] => exact h n (List.mem_singleton_self n)
  | n :: m :: ns => exact Formed.of_children (show 2 ≤ (n :: m :: ns).length by simp) h

end Node

/-- The blocks have the numbers from `k` on. -/
def Numbered (k : Nat) (bs : List Block) : Prop := bs.map (·.index) = List.range' k bs.length

theorem numbered_append {k : Nat} {as bs : List Block} :
    Numbered k (as ++ bs) ↔ Numbered k as ∧ Numbered (k + as.length) bs := by
  unfold Numbered
  rw [List.map_append, List.length_append, ← List.range'_append_1]
  exact ⟨fun h => List.append_inj h (by simp), fun h => by rw [h.1, h.2]⟩

theorem numbered_singleton {k : Nat} {b : Block} : Numbered k [b] ↔ b.index = k := by
  simp [Numbered]

/-- No label is repeated if none is found that was seen. -/
theorem firstRepeat?_eq_none_iff {seen ls : List String} :
    firstRepeat? seen ls = none ↔ ls.Nodup ∧ ∀ l ∈ ls, l ∉ seen := by
  induction ls generalizing seen with
  | nil => simp [firstRepeat?]
  | cons l ls ih =>
    rw [firstRepeat?]
    by_cases hl : l ∈ seen
    · simp [hl]
    · simp only [List.contains_iff_mem, hl, if_false, ih, List.nodup_cons, List.mem_cons]
      constructor
      · rintro ⟨hls, hseen⟩
        exact ⟨⟨fun h => hseen l h (Or.inl rfl), hls⟩, by
          rintro x (rfl | hx)
          · exact hl
          · exact fun h => hseen x hx (Or.inr h)⟩
      · rintro ⟨⟨hnot, hls⟩, hseen⟩
        exact ⟨hls, fun x hx h => h.elim (fun he => hnot (he ▸ hx)) (hseen x (Or.inr hx))⟩

/-! ## Names among the tokens -/

/-- What stands for a name is one. -/
def Tokens.Named : Tokens → Prop
  | cons _ (.name x) rest => isName x.toList = true ∧ rest.Named
  | cons _ _ rest => rest.Named
  | _ => True

theorem Tokens.Named.tail {p : Nat} {t : Token} {ts : Tokens} (h : (Tokens.cons p t ts).Named) : ts.Named := by
  cases t with
  | name x => exact h.2
  | _ => exact h

theorem readToken_named {pos p : Nat} {c : Char} {cs r : List Char} {x : String}
    (h : readToken pos c cs = .ok (.name x, p, r)) : isName x.toList = true := by
  unfold readToken at h
  split_ifs at h with h1 h2 h3 h4 h5 h6
  · split at h <;> cases h
  · split at h <;> cases h
  · split at h <;> cases h
  · cases h
  · cases h
  · cases h
    rw [String.toList_ofList, isName, h6, Bool.true_and]
    exact List.all_takeWhile
  · cases h

theorem tokensFrom_named (pos : Nat) (cs : List Char) : (tokensFrom pos cs).Named := by
  induction hn : cs.length using Nat.strongRecOn generalizing pos cs with
  | ind n ih =>
    subst hn
    rw [tokensFrom]
    split
    · trivial
    · trivial
    · rename_i hs
      split
      · trivial
      · rename_i t p' r ht
        have hlt : r.length < cs.length := by
          have h1 := skipFrom_length hs
          have h2 := readToken_length ht
          simp at h1
          omega
        have hrest := ih r.length hlt p' r rfl
        cases t with
        | name x => exact ⟨readToken_named ht, hrest⟩
        | _ => exact hrest

theorem Tokens.Named.afterMark? {c : Char} {ts rest : Tokens} (h : ts.Named) (hm : ts.afterMark? c = some rest) :
    rest.Named := by
  unfold Tokens.afterMark? at hm
  split at hm
  · split_ifs at hm
    cases hm
    exact h.tail
  · cases hm

theorem Tokens.Named.skipMark {ts : Tokens} (h : ts.Named) (c : Char) : ((ts.afterMark? c).getD ts).Named := by
  cases hm : ts.afterMark? c with
  | none => exact h
  | some rest => exact h.afterMark? hm

/-! ## What the readers read -/

/-- What holds of the expressions that a reader read, when `before` are the blocks before them, and of the blocks and
the tokens that it gave back. -/
structure Reading (before : List Block) (ns : List Node) (blocks : List Block) (rest : Tokens) : Prop where
  formed : ∀ n ∈ ns, n.Formed
  blocks_eq : blocks = before ++ Node.blocksAll ns
  numbered : Numbered before.length (Node.blocksAll ns)
  named : rest.Named

namespace Reading

variable {before blocks blocks' : List Block} {n : Node} {ns ms : List Node} {rest rest' : Tokens}

theorem nil (h : rest.Named) : Reading before [] before rest where
  formed := nofun
  blocks_eq := (List.append_nil before).symm
  numbered := rfl
  named := h

theorem leaf (hn : n.Shaped) (hc : n.children = []) (hb : n.blocks = []) (h : rest.Named) :
    Reading before [n] before rest where
  formed k hk := by
    rw [List.mem_singleton.1 hk]
    exact .of_children hn (by rw [hc]; exact nofun)
  blocks_eq := by rw [Node.blocksAll_singleton, hb, List.append_nil]
  numbered := by rw [Node.blocksAll_singleton, hb]; rfl
  named := h

theorem append (h : Reading before ns blocks rest) (h' : Reading blocks ms blocks' rest') :
    Reading before (ns ++ ms) blocks' rest' where
  formed k hk := (List.mem_append.1 hk).elim (h.formed k) (h'.formed k)
  blocks_eq := by rw [h'.blocks_eq, h.blocks_eq, Node.blocksAll_append, List.append_assoc]
  numbered := by
    have hn := h'.numbered
    rw [h.blocks_eq, List.length_append] at hn
    rw [Node.blocksAll_append]
    exact numbered_append.2 ⟨h.numbered, hn⟩
  named := h'.named

/-- The same of one expression that has the same blocks. -/
theorem single (h : Reading before ns blocks rest) (hn : n.Formed) (hb : n.blocks = Node.blocksAll ns) :
    Reading before [n] blocks rest where
  formed k hk := by rwa [List.mem_singleton.1 hk]
  blocks_eq := by rw [Node.blocksAll_singleton, hb, h.blocks_eq]
  numbered := by rw [Node.blocksAll_singleton, hb]; exact h.numbered
  named := h.named

/-- The same with an expression around it that adds no block. -/
theorem wrap (h : Reading before [n] blocks rest) {m : Node} (hm : m.Shaped) (hc : m.children = [n])
    (hb : m.blocks = n.blocks) (hr : rest'.Named) : Reading before [m] blocks rest' :=
  { h.single (.of_children hm (by rw [hc]; exact h.formed)) (by rw [hb, Node.blocksAll_singleton]) with named := hr }

theorem leave (h : Reading before ns blocks rest) (hr : rest'.Named) : Reading before ns blocks rest' :=
  { h with named := hr }

/-- The same with the block that closes the expression. -/
theorem closed (h : Reading before [n] blocks rest) (hl : n.itemLabels.Nodup) (code : String) (hr : rest'.Named) :
    Reading before [.action n ⟨code, n.itemLabels, blocks.length⟩] (blocks ++ [⟨code, n.itemLabels, blocks.length⟩]) rest'
    where
  formed k hk := by
    rw [List.mem_singleton.1 hk]
    exact .of_children ⟨rfl, hl⟩ h.formed
  blocks_eq := by
    rw [Node.blocksAll_singleton, Node.blocks, ← List.append_assoc, ← Node.blocksAll_singleton, ← h.blocks_eq]
  numbered := by
    have hn := h.numbered
    rw [Node.blocksAll_singleton] at hn
    rw [Node.blocksAll_singleton, Node.blocks]
    refine numbered_append.2 ⟨hn, numbered_singleton.2 ?_⟩
    rw [h.blocks_eq, Node.blocksAll_singleton, List.length_append]
  named := hr

end Reading

/-- Choices of fewer than `k` tokens are read well. -/
def ChoicesRead (k : Nat) : Prop := ∀ (before : List Block) (ts : Tokens) (r : Read Node ts 0), ts.length < k → ts.Named →
  readChoice before ts = .ok r → Reading before [r.value] r.blocks r.rest

section
variable {k : Nat} {before : List Block} {ts : Tokens}

theorem readPrimary_reading (ih : ChoicesRead k) (hk : ts.length ≤ k) (ht : ts.Named) {r : Read Node ts 1}
    (h : readPrimary before ts = .ok r) : Reading before [r.value] r.blocks r.rest := by
  unfold readPrimary at h
  split at h
  · cases h
  · cases h
  · split_ifs at h
  · rename_i p t rest
    cases t with
    | name x => cases h; exact .leaf trivial rfl rfl ht.tail
    | literal text flag => cases h; exact .leaf trivial rfl rfl ht.tail
    | charClass m => cases h; exact .leaf trivial rfl rfl ht.tail
    | block code => cases h
    | arrow => cases h
    | equals doubled => cases h
    | mark c =>
      dsimp only at h
      split_ifs at h with h1 h2
      · cases h; exact .leaf trivial rfl rfl ht.tail
      · split at h
        · cases h
        · rename_i r' hr'
          split at h
          · cases h
          · split at h
            · cases h
            · rename_i hm
              cases h
              have hc := ih before rest r' (by rw [Tokens.length] at hk; omega) ht.tail hr'
              exact hc.leave (hc.named.afterMark? hm)

theorem readRepetition_reading {r r' : Read Node ts 1} (hr : Reading before [r.value] r.blocks r.rest)
    (h : readRepetition r = .ok r') : Reading before [r'.value] r'.blocks r'.rest := by
  unfold readRepetition at h
  split at h
  · cases h
  · rename_i he
    split at h
    · cases h
      exact hr.wrap trivial rfl rfl (he ▸ hr.named).tail
    · cases h
      exact hr
  · cases h
    exact hr

theorem readSuffixed_reading (ih : ChoicesRead k) (hk : ts.length ≤ k) (ht : ts.Named) {r : Read Node ts 1}
    (h : readSuffixed before ts = .ok r) : Reading before [r.value] r.blocks r.rest := by
  rw [readSuffixed] at h
  split at h
  · cases h
  · rename_i hp
    exact readRepetition_reading (readPrimary_reading ih hk ht hp) h

theorem Reading.prefixed {n : Node} {blocks : List Block} {rest : Tokens} (h : Reading before [n] blocks rest) {c : Char}
    {f : Node → Node} (hf : operator? c = some f) : Reading before [f n] blocks rest := by
  unfold operator? at hf
  split_ifs at hf
  all_goals
    cases hf
    exact h.wrap trivial rfl rfl h.named

theorem readPrefixed_reading (ih : ChoicesRead k) (hk : ts.length ≤ k) (ht : ts.Named) {r : Read Node ts 1}
    (h : readPrefixed before ts = .ok r) : Reading before [r.value] r.blocks r.rest := by
  unfold readPrefixed at h
  split at h
  · split at h
    · rename_i p c rest f hf
      split at h
      · cases h
      · rename_i hr
        cases h
        exact (readSuffixed_reading ih (by rw [Tokens.length] at hk; omega) ht.tail hr).prefixed hf
    · exact readSuffixed_reading ih hk ht h
  · exact readSuffixed_reading ih hk ht h

theorem readItem_reading (ih : ChoicesRead k) (hk : ts.length ≤ k) (ht : ts.Named) {r : Read Node ts 1}
    (h : readItem before ts = .ok r) : Reading before [r.value] r.blocks r.rest := by
  unfold readItem at h
  split at h
  · rename_i p label rest
    split at h
    · cases h
    · split at h
      · exact readPrefixed_reading ih hk ht h
      · rename_i body hm
        split_ifs at h with hres
        split at h
        · cases h
        · rename_i hr
          cases h
          have hlt := Tokens.afterMark?_length hm
          have hread := readPrefixed_reading ih (by rw [Tokens.length] at hk; omega) (ht.tail.afterMark? hm) hr
          exact hread.wrap ⟨ht.1, by simpa using hres⟩ rfl rfl hread.named
  · exact readPrefixed_reading ih hk ht h

theorem readSequence_reading (ih : ChoicesRead k) (hk : ts.length ≤ k) (ht : ts.Named) {r : Read (List Node) ts 0}
    (h : readSequence before ts = .ok r) : Reading before r.value r.blocks r.rest := by
  induction hn : ts.length using Nat.strongRecOn generalizing before ts with
  | ind n ihn =>
    subst hn
    unfold readSequence at h
    split at h
    · cases h
    · cases h
      exact .nil ht
    · split at h
      · cases h
      · rename_i item hitem
        have hread := readItem_reading ih hk ht hitem
        split at h
        · cases h
        · rename_i more hmore
          cases h
          have hlt := item.fewer
          exact hread.append (ihn _ (by omega) (by omega) hread.named hmore rfl)

theorem readAction_reading {r r' : Read Node ts 0} (hr : Reading before [r.value] r.blocks r.rest)
    (h : readAction r = .ok r') : Reading before [r'.value] r'.blocks r'.rest := by
  unfold readAction at h
  split at h
  · cases h
  · cases h
  · rename_i p code rest he
    split at h
    · cases h
    · rename_i hnone
      cases h
      exact hr.closed (firstRepeat?_eq_none_iff.1 hnone).1 code (he ▸ hr.named).tail
  · cases h
    exact hr

theorem readAlternative_reading (ih : ChoicesRead k) (hk : ts.length ≤ k) (ht : ts.Named) {r : Read Node ts 0}
    (h : readAlternative before ts = .ok r) : Reading before [r.value] r.blocks r.rest := by
  unfold readAlternative at h
  split at h
  · cases h
  · rename_i items hitems
    have hread := readSequence_reading ih hk ht hitems
    exact readAction_reading (hread.single (Node.formed_ofItems hread.formed) (Node.blocks_ofItems items.value)) h

theorem readAlternatives_reading (ih : ChoicesRead k) (hk : ts.length ≤ k) (ht : ts.Named) {r : Read (List Node) ts 0}
    (h : readAlternatives before ts = .ok r) : Reading before r.value r.blocks r.rest := by
  induction hn : ts.length using Nat.strongRecOn generalizing before ts with
  | ind n ihn =>
    subst hn
    unfold readAlternatives at h
    split at h
    · cases h
    · split at h
      · cases h
        exact .nil ht
      · rename_i rest hm
        have hlt := Tokens.afterMark?_length hm
        split at h
        · cases h
        · rename_i next hnext
          have hread := readAlternative_reading ih (by omega) (ht.afterMark? hm) hnext
          split at h
          · cases h
          · rename_i more hmore
            cases h
            have hfewer := next.fewer
            exact hread.append (ihn _ (by omega) (by omega) hread.named hmore rfl)

end

/-- Whatever a reader of choices reads is formed, and its blocks are numbered from those before. -/
theorem readChoice_reading {before : List Block} {ts : Tokens} (ht : ts.Named) {r : Read Node ts 0}
    (h : readChoice before ts = .ok r) : Reading before [r.value] r.blocks r.rest := by
  induction hn : ts.length using Nat.strongRecOn generalizing before ts with
  | ind n ihn =>
    subst hn
    have ih : ChoicesRead ts.length := fun before ts' r hlt ht' h' => ihn _ hlt ht' h' rfl
    unfold readChoice at h
    split at h
    · cases h
    · rename_i first hfirst
      have hread := readAlternative_reading ih (Nat.le_refl _) ht hfirst
      split at h
      · cases h
      · rename_i more hmore
        cases h
        have hlt := first.fewer
        have hall := hread.append (readAlternatives_reading ih (by omega) hread.named hmore)
        exact hall.single (Node.formed_ofAlternatives (List.cons_ne_nil _ _) hall.formed) (Node.blocks_ofAlternatives _)

/-! ## Definitions -/

/-- What holds of the rules that are read after those named `names`. -/
structure RulesReading (names : List String) (before : List Block) (rules : List Rule) (blocks : List Block) : Prop where
  nonempty : names ≠ [] ∨ rules ≠ []
  named : ∀ r ∈ rules, isName r.name.toList = true
  formed : ∀ r ∈ rules, r.body.Formed
  distinct : (rules.map (·.name)).Nodup
  fresh : ∀ r ∈ rules, r.name ∉ names
  blocks_eq : blocks = before ++ rules.flatMap (·.body.blocks)
  numbered : Numbered before.length (rules.flatMap (·.body.blocks))

theorem RulesReading.cons {names : List String} {before between blocks : List Block} {r : Rule} {rules : List Rule}
    {rest : Tokens} (h : RulesReading (r.name :: names) between rules blocks) (hname : isName r.name.toList = true)
    (hseen : ¬names.contains r.name = true) (hread : Reading before [r.body] between rest) :
    RulesReading names before (r :: rules) blocks where
  nonempty := Or.inr (List.cons_ne_nil r rules)
  named k hk := (List.mem_cons.1 hk).elim (fun he => he ▸ hname) (h.named k)
  formed k hk := (List.mem_cons.1 hk).elim (fun he => he ▸ hread.formed _ (List.mem_singleton_self _)) (h.formed k)
  distinct := by
    rw [List.map_cons, List.nodup_cons]
    refine ⟨fun hm => ?_, h.distinct⟩
    obtain ⟨k, hk, he⟩ := List.mem_map.1 hm
    exact h.fresh k hk (he ▸ List.mem_cons_self ..)
  fresh k hk := (List.mem_cons.1 hk).elim (fun he => he ▸ fun hm => hseen (List.contains_iff_mem.2 hm))
    fun hk hm => h.fresh k hk (List.mem_cons_of_mem _ hm)
  blocks_eq := by
    rw [h.blocks_eq, hread.blocks_eq, Node.blocksAll_singleton, List.flatMap_cons, List.append_assoc]
  numbered := by
    have hn := hread.numbered
    have hlater := h.numbered
    rw [hread.blocks_eq, List.length_append] at hlater
    rw [Node.blocksAll_singleton] at hn hlater
    rw [List.flatMap_cons]
    exact numbered_append.2 ⟨hn, hlater⟩

theorem readDisplay_named {ts : Tokens} (ht : ts.Named) {display : Option String}
    {r : { r : Tokens // r.length ≤ ts.length }} (h : readDisplay ts = .ok (display, r)) : r.1.Named := by
  unfold readDisplay at h
  split at h
  · cases h
  · split_ifs at h
    cases h
    trivial
  · cases h
    exact ht.tail
  · cases h
    exact ht

theorem readDefinitionSign_named {ts : Tokens} (ht : ts.Named) {r : { r : Tokens // r.length ≤ ts.length }}
    (h : readDefinitionSign ts = .ok r) : r.1.Named := by
  unfold readDefinitionSign at h
  split at h
  · cases h
  · cases h
    exact ht.tail
  · cases h
    exact ht.tail
  · cases h

theorem readRule_reading {before : List Block} {ts : Tokens} (ht : ts.Named) {r : Read Rule ts 1}
    (h : readRule before ts = .ok r) :
    isName r.value.name.toList = true ∧ Reading before [r.value.body] r.blocks r.rest := by
  unfold readRule at h
  split at h
  · cases h
  · rename_i p name rest
    split at h
    · cases h
    · rename_i hdisplay
      have hd := readDisplay_named ht.tail hdisplay
      split at h
      · cases h
      · rename_i hsign
        have hs := readDefinitionSign_named hd hsign
        split at h
        · cases h
        · rename_i body hbody
          have hread := readChoice_reading hs hbody
          split at h
          · cases h
          · cases h
            exact ⟨ht.1, hread.leave (hread.named.skipMark ';')⟩
  · cases h

theorem readRules_reading {names : List String} {before : List Block} {ts : Tokens} (ht : ts.Named)
    {rules : List Rule} {blocks : List Block} (h : readRules names before ts = .ok (rules, blocks)) :
    RulesReading names before rules blocks := by
  induction hn : ts.length using Nat.strongRecOn generalizing names before ts rules with
  | ind n ih =>
    subst hn
    unfold readRules at h
    split at h
    · split_ifs at h with hnames
      cases h
      exact {
        nonempty := Or.inl fun h => hnames (by rw [h]; rfl)
        named := List.forall_mem_nil _
        formed := List.forall_mem_nil _
        distinct := List.nodup_nil
        fresh := List.forall_mem_nil _
        blocks_eq := (List.append_nil _).symm
        numbered := rfl }
    · split at h
      · cases h
      · rename_i r hr
        obtain ⟨hname, hread⟩ := readRule_reading ht hr
        split_ifs at h with hseen
        split at h
        · cases h
        · rename_i hrest
          cases h
          have hlt := r.fewer
          exact (ih _ (by omega) hread.named hrest rfl).cons hname hseen hread

/-- A grammar as it is read: its rules have different names, its expressions are formed and refer to its rules, it starts
with its first rule, and its blocks are numbered in the order of the rules. -/
structure Grammar.Formed (g : Grammar) : Prop where
  named : ∀ r ∈ g.rules, isName r.name.toList = true
  distinct : (g.rules.map (·.name)).Nodup
  closed : g.Closed
  formed : ∀ r ∈ g.rules, r.body.Formed
  start : g.rules.head?.map (·.name) = some g.start
  blocks : g.blocks = g.rules.flatMap (·.body.blocks)
  numbered : Numbered 0 g.blocks

/-- **A grammar that was read is formed.** -/
theorem Grammar.read_formed {source : String} {g : Grammar} (h : Grammar.read source = .ok g) : g.Formed := by
  have hclosed := Grammar.read_closed h
  unfold Grammar.read at h
  split at h
  · cases h
  · rename_i rules blocks hrules
    have hread := readRules_reading (tokensFrom_named 0 source.toList) hrules
    split at h
    · cases h
    · cases h
      have hblocks : blocks = rules.flatMap (·.body.blocks) := hread.blocks_eq
      refine ⟨hread.named, hread.distinct, hclosed, hread.formed, ?_, hblocks, ?_⟩
      · cases rules with
        | nil => exact absurd rfl (hread.nonempty.resolve_left (fun h => h rfl))
        | cons r rules => rfl
      · rw [hblocks]
        exact hread.numbered

end PegTemplate
