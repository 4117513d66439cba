import PegTemplate.Proofs.Grammar.Offsets
import PegTemplate.Proofs.Grammar.Shape
import PegTemplate.Proofs.Match.Labels
import PegTemplate.Proofs.Template.Registered

/-!
# The order of actions

* `SameCodes` : the code of the blocks that a reader gave back and of those among the tokens left is the code that it was
  given. There is one lemma for each reader, each of which takes choices of fewer tokens for granted;
* `Grammar.Ordered` : the actions of a grammar, their blocks in the source, their labels and the values of these;
* `Grammar.read_ordered` : **a grammar that was read is ordered.**
-/

namespace PegTemplate

/-! ## Code in the order of the source -/

/-- The code of the blocks that were read, and then of those among the tokens that are left. -/
def codesOf (blocks : List Block) (ts : Tokens) : List String := blocks.map (·.code) ++ ts.codes.map (·.2)

/-- A reader that was given the blocks `before` and the tokens `ts` gave back `blocks` and `rest`, and no code was lost or
moved. -/
def SameCodes (before : List Block) (ts : Tokens) (blocks : List Block) (rest : Tokens) : Prop :=
  codesOf blocks rest = codesOf before ts

theorem SameCodes.trans {before between blocks : List Block} {ts ts' rest : Tokens}
    (h : SameCodes before ts between ts') (h' : SameCodes between ts' blocks rest) : SameCodes before ts blocks rest := Eq.trans h' h

theorem Tokens.codes_afterMark? {c : Char} {ts rest : Tokens} (h : ts.afterMark? c = some rest) :
    rest.codes = ts.codes := by
  unfold afterMark? at h
  split at h
  · split_ifs at h
    cases h
    rfl
  · cases h

theorem Tokens.codes_skipMark (ts : Tokens) (c : Char) : ((ts.afterMark? c).getD ts).codes = ts.codes := by
  cases hm : ts.afterMark? c with
  | none => rfl
  | some rest => exact codes_afterMark? hm

/-- Tokens that are no blocks of code can be left out. -/
theorem sameCodes_of_codes {blocks : List Block} {ts rest : Tokens} (h : rest.codes = ts.codes) :
    SameCodes blocks ts blocks rest := by
  unfold SameCodes codesOf
  rw [h]

/-- Choices of fewer than `k` tokens keep the code. -/
def ChoicesKeep (k : Nat) : Prop := ∀ (before : List Block) (ts : Tokens) (r : Read Node ts 0), ts.length < k →
  readChoice before ts = .ok r → SameCodes before ts r.blocks r.rest

section
variable {k : Nat} {before : List Block} {ts : Tokens}

theorem readPrimary_sameCodes (ih : ChoicesKeep k) (hk : ts.length ≤ k) {r : Read Node ts 1}
    (h : readPrimary before ts = .ok r) : SameCodes before ts r.blocks r.rest := by
  unfold readPrimary at h
  split at h
  · cases h
  · cases h
  · split_ifs at h
  · rename_i p t rest
    cases t with
    | name x => cases h; rfl
    | literal text flag => cases h; rfl
    | charClass m => cases h; rfl
    | block code => cases h
    | arrow => cases h
    | equals doubled => cases h
    | mark c =>
      dsimp only at h
      split_ifs at h with h1 h2
      · cases h; rfl
      · split at h
        · cases h
        · rename_i r' hr'
          split at h
          · cases h
          · split at h
            · cases h
            · rename_i hm
              cases h
              have hc := ih before rest r' (by rw [Tokens.length] at hk; omega) hr'
              exact hc.trans (sameCodes_of_codes (Tokens.codes_afterMark? hm))

theorem readRepetition_sameCodes {r r' : Read Node ts 1} (h : readRepetition r = .ok r') :
    SameCodes r.blocks r.rest r'.blocks r'.rest := by
  unfold readRepetition at h
  split at h
  · cases h
  · rename_i p c rest he
    have hcodes : r.rest.codes = rest.codes := by rw [he]; rfl
    split at h
    · cases h
      exact sameCodes_of_codes hcodes.symm
    · cases h
      rfl
  · cases h
    rfl

theorem readSuffixed_sameCodes (ih : ChoicesKeep k) (hk : ts.length ≤ k) {r : Read Node ts 1}
    (h : readSuffixed before ts = .ok r) : SameCodes before ts r.blocks r.rest := by
  rw [readSuffixed] at h
  split at h
  · cases h
  · rename_i hp
    exact (readPrimary_sameCodes ih hk hp).trans (readRepetition_sameCodes h)

theorem readPrefixed_sameCodes (ih : ChoicesKeep k) (hk : ts.length ≤ k) {r : Read Node ts 1}
    (h : readPrefixed before ts = .ok r) : SameCodes before ts r.blocks r.rest := by
  unfold readPrefixed at h
  split at h
  · split at h
    · split at h
      · cases h
      · rename_i hr
        have hread := readSuffixed_sameCodes ih (by rw [Tokens.length] at hk; omega) hr
        cases h
        exact hread
    · exact readSuffixed_sameCodes ih hk h
  · exact readSuffixed_sameCodes ih hk h

theorem readItem_sameCodes (ih : ChoicesKeep k) (hk : ts.length ≤ k) {r : Read Node ts 1}
    (h : readItem before ts = .ok r) : SameCodes before ts r.blocks r.rest := by
  unfold readItem at h
  split at h
  · rename_i p label rest
    split at h
    · cases h
    · split at h
      · exact readPrefixed_sameCodes ih hk h
      · rename_i body hm
        split_ifs at h
        split at h
        · cases h
        · rename_i hr
          cases h
          have hlt := Tokens.afterMark?_length hm
          have hbody := readPrefixed_sameCodes ih (by rw [Tokens.length] at hk; omega) hr
          exact (sameCodes_of_codes (Tokens.codes_afterMark? hm)).trans hbody
  · exact readPrefixed_sameCodes ih hk h

theorem readSequence_sameCodes (ih : ChoicesKeep k) (hk : ts.length ≤ k) {r : Read (List Node) ts 0}
    (h : readSequence before ts = .ok r) : SameCodes before ts r.blocks r.rest := by
  induction hn : ts.length using Nat.strongRecOn generalizing before ts with
  | ind n ihn =>
    subst hn
    unfold readSequence at h
    split at h
    · cases h
    · cases h
      rfl
    · split at h
      · cases h
      · rename_i item hitem
        split at h
        · cases h
        · rename_i more hmore
          have hlt := item.fewer
          have hrest := ihn _ (by omega) (by omega) hmore rfl
          cases h
          exact (readItem_sameCodes ih hk hitem).trans hrest

theorem readAction_sameCodes {r r' : Read Node ts 0} (h : readAction r = .ok r') :
    SameCodes r.blocks r.rest r'.blocks r'.rest := by
  unfold readAction at h
  split at h
  · cases h
  · cases h
  · rename_i p code rest he
    have hcodes : r.rest.codes = (p, code) :: rest.codes := by rw [he]; rfl
    split at h
    · cases h
    · cases h
      unfold SameCodes codesOf
      rw [hcodes, List.map_append, List.append_assoc]
      rfl
  · cases h
    rfl

theorem readAlternative_sameCodes (ih : ChoicesKeep k) (hk : ts.length ≤ k) {r : Read Node ts 0}
    (h : readAlternative before ts = .ok r) : SameCodes before ts r.blocks r.rest := by
  unfold readAlternative at h
  split at h
  · cases h
  · rename_i hitems
    exact (readSequence_sameCodes ih hk hitems).trans (readAction_sameCodes h)

theorem readAlternatives_sameCodes (ih : ChoicesKeep k) (hk : ts.length ≤ k) {r : Read (List Node) ts 0}
    (h : readAlternatives before ts = .ok r) : SameCodes before ts r.blocks r.rest := by
  induction hn : ts.length using Nat.strongRecOn generalizing before ts with
  | ind n ihn =>
    subst hn
    unfold readAlternatives at h
    split at h
    · cases h
    · split at h
      · cases h
        rfl
      · rename_i rest hm
        have hlt := Tokens.afterMark?_length hm
        split at h
        · cases h
        · rename_i next hnext
          split at h
          · cases h
          · rename_i more hmore
            have hfewer := next.fewer
            have hfirst := (sameCodes_of_codes (Tokens.codes_afterMark? hm)).trans
              (readAlternative_sameCodes ih (by omega) hnext)
            have hrest := ihn _ (by omega) (by omega) hmore rfl
            cases h
            exact hfirst.trans hrest

end

/-- A reader of choices keeps the code. -/
theorem readChoice_sameCodes {before : List Block} {ts : Tokens} {r : Read Node ts 0}
    (h : readChoice before ts = .ok r) : SameCodes before ts r.blocks r.rest := by
  induction hn : ts.length using Nat.strongRecOn generalizing before ts with
  | ind n ihn =>
    subst hn
    have ih : ChoicesKeep ts.length := fun before ts' r hlt h' => ihn _ hlt h' rfl
    unfold readChoice at h
    split at h
    · cases h
    · rename_i first hfirst
      split at h
      · cases h
      · rename_i more hmore
        cases h
        have hlt := first.fewer
        exact (readAlternative_sameCodes ih (Nat.le_refl _) hfirst).trans
          (readAlternatives_sameCodes ih (by omega) hmore)

theorem readDisplay_codes {ts : Tokens} {display : Option String} {r : { r : Tokens // r.length ≤ ts.length }}
    (h : readDisplay ts = .ok (display, r)) : r.1.codes = ts.codes := by
  unfold readDisplay at h
  split at h
  · cases h
  · split_ifs at h
    cases h
    rfl
  · cases h
    rfl
  · cases h
    rfl

theorem readDefinitionSign_codes {ts : Tokens} {r : { r : Tokens // r.length ≤ ts.length }}
    (h : readDefinitionSign ts = .ok r) : r.1.codes = ts.codes := by
  unfold readDefinitionSign at h
  split at h
  · cases h
  · cases h
    rfl
  · cases h
    rfl
  · cases h

theorem readRule_sameCodes {before : List Block} {ts : Tokens} {r : Read Rule ts 1} (h : readRule before ts = .ok r) :
    SameCodes before ts r.blocks r.rest := by
  unfold readRule at h
  split at h
  · cases h
  · split at h
    · cases h
    · rename_i hdisplay
      split at h
      · cases h
      · rename_i hsign
        split at h
        · cases h
        · rename_i body hbody
          split at h
          · cases h
          · have hhead := (readDefinitionSign_codes hsign).trans (readDisplay_codes hdisplay)
            cases h
            exact ((sameCodes_of_codes hhead).trans (readChoice_sameCodes hbody)).trans
              (sameCodes_of_codes (body.rest.codes_skipMark ';'))
  · cases h

/-- The blocks of all rules have the code of the blocks among the tokens, in that order. -/
theorem readRules_codes {names : List String} {before : List Block} {ts : Tokens} {rules : List Rule}
    {blocks : List Block} (h : readRules names before ts = .ok (rules, blocks)) :
    blocks.map (·.code) = codesOf before ts := by
  induction hn : ts.length using Nat.strongRecOn generalizing names before ts rules with
  | ind n ih =>
    subst hn
    unfold readRules at h
    split at h
    · split_ifs at h
      cases h
      exact (List.append_nil _).symm
    · split at h
      · cases h
      · rename_i r hr
        split_ifs at h
        split at h
        · cases h
        · rename_i hrest
          cases h
          have hlt := r.fewer
          exact (ih _ (by omega) hrest rfl).trans (readRule_sameCodes hr)

theorem Grammar.codes_of_read {source : String} {g : Grammar} (h : Grammar.read source = .ok g) :
    g.blocks.map (·.code) = (tokenize source.toList).codes.map (·.2) := by
  unfold Grammar.read at h
  split at h
  · cases h
  · rename_i hrules
    split at h
    · cases h
    · cases h
      exact readRules_codes hrules

/-! ## Actions -/

/-- The reader, the compiler and the matcher agree about the actions of a grammar. -/
structure Grammar.Ordered (g : Grammar) (source : String) : Prop where
  /-- The rules in order, and in each of them every action after those inside it, meet each block of the grammar once. -/
  met : g.rules.flatMap (·.body.blocks) = g.blocks
  /-- The blocks are numbered from 0 on. -/
  numbered : g.blocks.map (·.index) = List.range g.blocks.length
  /-- The code of the blocks stands in the source in this order. -/
  placed : ∃ codes : List (Nat × String), codes = (tokenize source.toList).codes ∧ Placed source.toList codes ∧
    g.blocks.map (·.code) = codes.map (·.2)
  /-- The labels of a block are those of the items before it, in order and all different, and none is reserved. -/
  labels : ∀ r ∈ g.rules, ∀ n b, Node.Part (.action n b) r.body →
    b ∈ g.blocks ∧ b.labels = n.itemLabels ∧ b.labels.Nodup ∧ ∀ l ∈ b.labels, l ∉ contextParameters ∧ l ∉ keywords
  /-- The compiled action of a block has its number. -/
  compiled : ∀ context actions, g.blocks.mapM (BlockAction.compile context) = .ok actions →
    ∀ b ∈ g.blocks, ∃ a, actions[b.index]? = some a ∧ BlockAction.compile context b = .ok a
  /-- An action gets the values of its labels. -/
  passed : ∀ r ∈ g.rules, ∀ n b, Node.Part (.action n b) r.body → n.Passes b

/-- **The reader, the compiler and the matcher agree about the actions of any grammar that can be read.** -/
theorem Grammar.read_ordered {source : String} {g : Grammar} (h : Grammar.read source = .ok g) : g.Ordered source := by
  have hg := Grammar.read_formed h
  have hblock : ∀ r ∈ g.rules, ∀ n b, Node.Part (.action n b) r.body → b ∈ g.blocks ∧ b.labels = n.itemLabels :=
    fun r hr n b hn => hg.block hr hn
  refine ⟨hg.blocks.symm, ?_, ?_, ?_, ?_, ?_⟩
  · rw [hg.numbered, List.range_eq_range']
  · exact ⟨_, rfl, (tokensFrom_placed 0 source.toList .refl).1, Grammar.codes_of_read h⟩
  · intro r hr n b hn
    obtain ⟨hb, hlabels⟩ := hblock r hr n b hn
    obtain ⟨hdistinct, hnames⟩ := hg.label hb
    refine ⟨hb, hlabels, hdistinct, fun l hl => ?_⟩
    simpa [isReserved] using (hnames l hl).2
  · intro context actions hactions b hb
    obtain ⟨a, ha, hindex⟩ := getElem?_of_mapM hactions (hg.getElem?_blocks hb)
    exact ⟨a, hindex, ha⟩
  · exact fun r hr n b hn => Node.passes_of_labels (hblock r hr n b hn).2

/-- Three actions, the first of them inside the sequence of the second one. -/
def nestedSource : String :=
  "pair = l : ( w : word ',' { return w } ) !',' r : word { return [l, r] }\nword = ( c : [a-z] ) { return c }\n"

theorem nested_ordered : ∃ g, Grammar.read nestedSource = .ok g ∧ g.Ordered nestedSource ∧
    g.blocks = [⟨" return w ", ["w"], 0⟩, ⟨" return [l, r] ", ["l", "r"], 1⟩, ⟨" return c ", ["c"], 2⟩] := by
  have hblocks : (Grammar.read nestedSource).toOption.map (·.blocks) =
      some [⟨" return w ", ["w"], 0⟩, ⟨" return [l, r] ", ["l", "r"], 1⟩, ⟨" return c ", ["c"], 2⟩] := by
    decide +kernel
  cases h : Grammar.read nestedSource with
  | error e =>
    rw [h] at hblocks
    cases hblocks
  | ok g =>
    rw [h] at hblocks
    exact ⟨g, rfl, Grammar.read_ordered h, Option.some.inj hblocks⟩

end PegTemplate
