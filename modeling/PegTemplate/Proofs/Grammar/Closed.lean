import PegTemplate.Parser
import PegTemplate.Proofs.Match.Parts

/-!
# Closed grammars

* `Grammar.Closed` : rules refer to defined rules only;
* `Parser.compile_closed` : the grammar of a compiled parser is closed, and it defines the rules that a parse may
  start from.
-/

namespace PegTemplate

/-- Every rule that a rule refers to is defined. -/
def Grammar.Closed (g : Grammar) : Prop := ∀ r ∈ g.rules, ∀ name ∈ r.body.refs, g.hasRule name = true

instance (g : Grammar) : Decidable g.Closed :=
  inferInstanceAs (Decidable (∀ r ∈ g.rules, ∀ name ∈ r.body.refs, g.hasRule name = true))

namespace Node

theorem mem_refsAll {ns : List Node} {n : Node} (h : n ∈ ns) {name : String} (hn : name ∈ n.refs) :
    name ∈ refsAll ns := by
  induction ns with
  | nil => cases h
  | cons k ns ih =>
    rw [refsAll, List.mem_append]
    rcases List.mem_cons.1 h with rfl | h
    · exact Or.inl hn
    · exact Or.inr (ih h)

theorem mem_refs_child {c n : Node} (hc : c ∈ n.children) {name : String} (h : name ∈ c.refs) : name ∈ n.refs := by
  cases n with
  | literal t i => cases hc
  | charClass cc => cases hc
  | any => cases hc
  | ref r => cases hc
  | sequence ns => rw [refs]; exact mem_refsAll hc h
  | choice ns => rw [refs]; exact mem_refsAll hc h
  | _ => rw [List.mem_singleton.1 hc] at h; rw [refs]; exact h

/-- The references inside an expression are those listed. -/
theorem Part.mem_refs {name : String} {n : Node} (h : Part (.ref name) n) : name ∈ n.refs := by
  generalize hk : Node.ref name = k at h
  induction h with
  | self =>
    subst hk
    rw [refs]
    exact List.mem_singleton_self _
  | child hc _ ih => exact mem_refs_child hc ih

end Node

theorem Grammar.Closed.rule? {g : Grammar} (hg : g.Closed) {name : String} {r : Rule} (hr : g.rule? name = some r)
    {k : String} (hk : Node.Part (.ref k) r.body) : (g.rule? k).isSome := by
  rw [rule?_isSome]
  exact hg r (List.mem_of_find?_eq_some hr) k hk.mem_refs

theorem Grammar.closed_of_undefinedReference? {rules : List Rule} {start : String} {blocks : List Block}
    (h : undefinedReference? rules = none) : Grammar.Closed ⟨rules, start, blocks⟩ := by
  intro r hr name hname
  have h' := List.findSome?_eq_none_iff.1 h r hr
  rw [Option.map_eq_none_iff, List.find?_eq_none] at h'
  have hn := h' name hname
  rw [Bool.not_eq_true, Bool.not_eq_false'] at hn
  exact hn

theorem Grammar.read_closed {source : String} {g : Grammar} (h : Grammar.read source = .ok g) : g.Closed := by
  unfold Grammar.read at h
  split at h
  · cases h
  · split at h
    · cases h
    · rename_i hu
      cases h
      exact closed_of_undefinedReference? hu

/-- What a parser needs of its grammar: no rule is missing. -/
structure Parser.Closed (p : Parser) : Prop where
  grammar : p.grammar.Closed
  allowed : ∀ name ∈ p.allowed, p.grammar.hasRule name = true

/-- **No rule that a compiled parser needs is missing.** -/
theorem Parser.compile_closed {source : String} {context : List (String × Value)} {allowed : List String}
    {cached : Bool} {p : Parser} (h : Parser.compile source context allowed cached = .ok p) : p.Closed := by
  unfold Parser.compile at h
  cases hg : Grammar.read source with
  | error e =>
    rw [hg] at h
    cases h
  | ok g =>
    rw [hg] at h
    dsimp only [bind, Except.bind] at h
    split at h
    · cases h
    · rename_i hm
      split at h
      · cases h
      · cases h
        refine ⟨Grammar.read_closed hg, fun name hname => ?_⟩
        have hn := List.find?_eq_none.1 hm name hname
        rw [Bool.not_eq_true, Bool.not_eq_false'] at hn
        exact hn

end PegTemplate
