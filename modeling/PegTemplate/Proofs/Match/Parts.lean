import Mathlib.Tactic.SplitIfs
import PegTemplate.Match.Eval

/-!
# Parts of expressions

* `Node.children`, `Node.Part` : the expressions that an expression is made of, and all that are inside it;
* `Node.induction` : induction on expressions;
* `Node.exists_action`, `Node.Part.mem_blocks` : the blocks inside an expression are those of the actions inside it;
* `slice_append`, `slice_cons` : a stretch of a text in two parts;
* `Node.FitsIn`, `Matcher.Bound` : no literal of an expression, or of a grammar, is matched past a position;
* `Matcher.bound_limit` : `Matcher.limit` is such a position.
-/

namespace PegTemplate

namespace Node

/-- The expressions that an expression is made of. -/
def children : Node → List Node
  | literal .. | charClass _ | any | ref _ => []
  | followedBy n | notFollowedBy n | text n | labeled _ n | repeated _ n | action n _ => [n]
  | sequence ns | choice ns => ns

/-- `k` is an expression, or inside it at any depth. -/
inductive Part (k : Node) : Node → Prop
  | self : Part k k
  | child {c n : Node} (hc : c ∈ n.children) (h : Part k c) : Part k n

theorem Part.trans {k l n : Node} (h : Part k l) (h' : Part l n) : Part k n := by
  induction h' with
  | self => exact h
  | child hc _ ih => exact .child hc ih

theorem Part.of_items {k i n : Node} {b : Block} (hi : i ∈ n.items) (h : Part k i) : Part k (.action n b) := by
  refine .child (List.mem_singleton_self n) ?_
  cases n with
  | sequence ns => exact .child hi h
  | _ => rw [List.mem_singleton.1 hi] at h; exact h

/-- Induction on expressions, with the members of a list at once. -/
theorem induction {P : Node → Prop} (literal : ∀ t i, P (.literal t i)) (charClass : ∀ c, P (.charClass c))
    (any : P .any) (ref : ∀ r, P (.ref r)) (followedBy : ∀ n, P n → P (.followedBy n))
    (notFollowedBy : ∀ n, P n → P (.notFollowedBy n)) (text : ∀ n, P n → P (.text n))
    (labeled : ∀ l n, P n → P (.labeled l n)) (repeated : ∀ k n, P n → P (.repeated k n))
    (sequence : ∀ ns, (∀ n ∈ ns, P n) → P (.sequence ns)) (choice : ∀ ns, (∀ n ∈ ns, P n) → P (.choice ns))
    (action : ∀ n b, P n → (∀ i ∈ n.items, P i) → P (.action n b)) : ∀ n, P n := by
  intro n
  induction h : sizeOf n using Nat.strongRecOn generalizing n with
  | ind size ih =>
    subst h
    have hlist : ∀ (ns : List Node), sizeOf ns < sizeOf n → ∀ c ∈ ns, P c := fun ns hns c hc =>
      ih _ (Nat.lt_trans (List.sizeOf_lt_of_mem hc) hns) c rfl
    cases n with
    | literal t i => exact literal t i
    | charClass c => exact charClass c
    | any => exact any
    | ref r => exact ref r
    | followedBy n => exact followedBy n (ih _ (by simp) n rfl)
    | notFollowedBy n => exact notFollowedBy n (ih _ (by simp) n rfl)
    | text n => exact text n (ih _ (by simp) n rfl)
    | labeled l n => exact labeled l n (ih _ (by rw [Node.labeled.sizeOf_spec]; omega) n rfl)
    | repeated k n => exact repeated k n (ih _ (by rw [Node.repeated.sizeOf_spec]; omega) n rfl)
    | sequence ns => exact sequence ns (hlist ns (by simp))
    | choice ns => exact choice ns (hlist ns (by simp))
    | action n b =>
      have hn : P n := ih _ (by simp; omega) n rfl
      refine action n b hn fun i hi => ?_
      cases n with
      | sequence ns => exact hlist ns (by simp; omega) i hi
      | _ => rw [List.mem_singleton.1 hi]; exact hn

/-! ## Blocks -/

theorem mem_blocksAll {b : Block} {ns : List Node} : b ∈ blocksAll ns ↔ ∃ n ∈ ns, b ∈ n.blocks := by
  induction ns with
  | nil => simp [blocksAll]
  | cons n ns ih => simp [blocksAll, ih]

/-- A block is that of an action inside the expression. -/
theorem exists_action {b : Block} : ∀ {n : Node}, b ∈ n.blocks → ∃ k, Part (.action k b) n := by
  intro n
  induction n using Node.induction with
  | literal t i => exact nofun
  | charClass c => exact nofun
  | any => exact nofun
  | ref r => exact nofun
  | followedBy n ih | notFollowedBy n ih | text n ih | labeled l n ih | repeated k n ih =>
    intro h
    obtain ⟨k, hk⟩ := ih h
    exact ⟨k, .child List.mem_cons_self hk⟩
  | sequence ns ih | choice ns ih =>
    intro h
    obtain ⟨n, hn, hb⟩ := mem_blocksAll.mp h
    obtain ⟨k, hk⟩ := ih n hn hb
    exact ⟨k, .child hn hk⟩
  | action n c ih _ =>
    intro h
    rcases List.mem_append.mp h with h | h
    · obtain ⟨k, hk⟩ := ih h
      exact ⟨k, .child List.mem_cons_self hk⟩
    · rw [List.mem_singleton.mp h]
      exact ⟨n, .self⟩

theorem mem_blocks_child {b : Block} {c n : Node} (hc : c ∈ n.children) (h : b ∈ c.blocks) : b ∈ n.blocks := by
  cases n with
  | literal t i => cases hc
  | charClass cc => cases hc
  | any => cases hc
  | ref r => cases hc
  | sequence ns | choice ns => exact mem_blocksAll.mpr ⟨c, hc, h⟩
  | action n b' =>
    rw [List.mem_singleton.mp hc] at h
    exact List.mem_append_left _ h
  | _ => rwa [List.mem_singleton.mp hc] at h

/-- There are no actions inside a part of an expression without actions. -/
theorem blocks_of_child {c n : Node} (h : n.blocks = []) (hc : c ∈ n.children) : c.blocks = [] :=
  List.eq_nil_iff_forall_not_mem.2 fun _ hb => List.not_mem_nil (h ▸ mem_blocks_child hc hb)

theorem Part.mem_blocks {k n : Node} {b : Block} (h : Part (.action k b) n) : b ∈ n.blocks := by
  generalize hk : Node.action k b = a at h
  induction h with
  | self =>
    subst hk
    exact List.mem_append_right _ (List.mem_singleton_self b)
  | child hc _ ih => exact mem_blocks_child hc ih

/-! ## Literals -/

/-- No literal inside an expression is matched in `text` from `last` or before and ends after it. -/
def FitsIn (text : List Char) (last : Nat) (n : Node) : Prop :=
  ∀ t i, Part (.literal t i) n → ∀ p ≤ last, literalAccepts t i (slice text p (p + t.length)) = true →
    p + t.length ≤ last

theorem FitsIn.child {text : List Char} {last : Nat} {c n : Node} (h : n.FitsIn text last)
    (hc : c ∈ n.children) : c.FitsIn text last := fun t i hp => h t i (.child hc hp)

theorem FitsIn.of_children {text : List Char} {last : Nat} {n : Node} (hn : ∀ t i, n ≠ .literal t i)
    (h : ∀ c ∈ n.children, c.FitsIn text last) : n.FitsIn text last := by
  intro t i hp
  cases hp with
  | self => exact absurd rfl (hn t i)
  | child hc hp => exact h _ hc t i hp

theorem FitsIn.items {text : List Char} {last : Nat} {n : Node} (h : n.FitsIn text last) :
    (sequence n.items).FitsIn text last := by
  refine FitsIn.of_children nofun fun i hi => ?_
  cases n with
  | sequence ns => exact h.child hi
  | _ => rw [List.mem_singleton.1 hi]; exact h

/-! ## Long literals -/

theorem length_le_longestLiteralIn {ns : List Node} {n : Node} (h : n ∈ ns) :
    n.longestLiteral ≤ longestLiteralIn ns := by
  induction ns with
  | nil => cases h
  | cons k ns ih =>
    rw [longestLiteralIn]
    rcases List.mem_cons.1 h with rfl | h
    · exact Nat.le_max_left ..
    · exact Nat.le_trans (ih h) (Nat.le_max_right ..)

theorem longestLiteral_child {c n : Node} (h : c ∈ n.children) : c.longestLiteral ≤ n.longestLiteral := by
  cases n with
  | literal t i => cases h
  | charClass cc => cases h
  | any => cases h
  | ref r => cases h
  | sequence ns => exact length_le_longestLiteralIn h
  | choice ns => exact length_le_longestLiteralIn h
  | _ => rw [List.mem_singleton.1 h]; exact Nat.le_refl _

theorem Part.length_le {t : List CodePoint} {i : Bool} {n : Node} (h : Part (.literal t i) n) :
    t.length ≤ n.longestLiteral := by
  generalize hk : Node.literal t i = k at h
  induction h with
  | self =>
    subst hk
    exact Nat.le_refl _
  | child hc _ ih => exact Nat.le_trans ih (longestLiteral_child hc)

end Node

theorem Grammar.longestLiteral_le {g : Grammar} {name : String} {r : Rule} (h : g.rule? name = some r) :
    r.body.longestLiteral ≤ g.longestLiteral :=
  Node.length_le_longestLiteralIn (List.mem_map_of_mem (List.mem_of_find?_eq_some h))

/-! ## Slices -/

theorem length_slice (text : List Char) (start stop : Nat) :
    (slice text start stop).length = min (stop - start) (text.length - start) := by
  rw [slice, List.length_take, List.length_drop]

theorem slice_self (text : List Char) (p : Nat) : slice text p p = [] := by
  rw [slice, Nat.sub_self, List.take_zero]

/-- Two stretches side by side are one. -/
theorem slice_append (text : List Char) {p q r : Nat} (hpq : p ≤ q) (hqr : q ≤ r) :
    slice text p q ++ slice text q r = slice text p r := by
  have hdrop : text.drop q = (text.drop p).drop (q - p) := by
    rw [List.drop_drop, Nat.add_sub_of_le hpq]
  have hlength : r - p = (q - p) + (r - q) := by omega
  rw [slice, slice, slice, hdrop, hlength, List.take_add]

theorem slice_succ {text : List Char} {p : Nat} {c : Char} (h : text[p]? = some c) : slice text p (p + 1) = [c] := by
  obtain ⟨hp, rfl⟩ := List.getElem?_eq_some_iff.1 h
  rw [slice, Nat.add_sub_cancel_left, List.drop_eq_getElem_cons hp, List.take_succ_cons, List.take_zero]

theorem slice_of_length_le {text : List Char} {start stop : Nat} (h : text.length ≤ stop) :
    slice text start stop = text.drop start := by
  rw [slice, List.take_of_length_le]
  rw [List.length_drop]
  omega

theorem slice_drop (text : List Char) (k p q : Nat) : slice (text.drop k) p q = slice text (p + k) (q + k) := by
  rw [slice, slice, List.drop_drop, Nat.add_comm k p, Nat.add_sub_add_right]

theorem slice_cons {text : List Char} {p n : Nat} {c : Char} (h : text[p]? = some c) :
    slice text p (p + (n + 1)) = c :: slice text (p + 1) (p + 1 + n) := by
  rw [← List.singleton_append, ← slice_succ h, slice_append text (by omega) (by omega), Nat.add_right_comm, Nat.add_assoc]

/-! ## Literals -/

theorem literalAccepts_ignoreCase {t : List CodePoint} {chunk : List Char} :
    literalAccepts t true chunk = true ↔ Unicode.lower (codes chunk) = Unicode.lower t := by
  rw [literalAccepts, if_pos rfl, beq_iff_eq]

theorem lower_eq_nil {t : List CodePoint} (h : Unicode.lower t = []) : t = [] := by
  cases t with
  | nil => rfl
  | cons c cs =>
    rw [Unicode.lower, Unicode.lowerFrom, List.append_eq_nil_iff] at h
    have hc := h.1
    unfold Unicode.lowerAt at hc
    split_ifs at hc

/-- Past the end of the text only the empty literal is matched. -/
theorem eq_nil_of_literalAccepts {t : List CodePoint} {i : Bool} (h : literalAccepts t i [] = true) : t = [] := by
  unfold literalAccepts at h
  cases i with
  | false =>
    rw [if_neg Bool.false_ne_true] at h
    exact (beq_iff_eq.1 h).symm
  | true =>
    rw [if_pos rfl] at h
    exact lower_eq_nil (beq_iff_eq.1 h).symm

/-- A literal that minds case is matched by as many characters. -/
theorem length_le_of_literalAccepts {text : List Char} {t : List CodePoint} {p : Nat} (hp : p ≤ text.length)
    (h : literalAccepts t false (slice text p (p + t.length)) = true) : p + t.length ≤ text.length := by
  have hc : codes (slice text p (p + t.length)) = t := by simpa [literalAccepts] using h
  have hl := congrArg List.length hc
  rw [codes, List.length_map, length_slice] at hl
  omega

section
variable {σ ε : Type}

/-- No match of a rule, started at or before `m.limit start`, ends after it. -/
theorem Matcher.fitsIn_limit {m : Matcher σ ε} {name : String} {r : Rule} (h : m.grammar.rule? name = some r)
    (start : Nat) : r.body.FitsIn m.text (m.limit start) := by
  intro t i ht p hp ha
  have hl := Nat.le_trans ht.length_le (Grammar.longestLiteral_le h)
  unfold limit at hp ⊢
  by_cases hpt : p ≤ m.text.length
  · omega
  · have hs : slice m.text p (p + t.length) = [] := by
      rw [← List.length_eq_zero_iff, length_slice]
      omega
    rw [hs] at ha
    rw [eq_nil_of_literalAccepts ha, List.length_nil]
    omega

/-- No match of a rule that starts at or before `last` ends after it. -/
structure Matcher.Bound (m : Matcher σ ε) (last : Nat) : Prop where
  length_le : m.text.length ≤ last
  fits : ∀ name r, m.grammar.rule? name = some r → r.body.FitsIn m.text last

theorem Matcher.bound_limit (m : Matcher σ ε) (start : Nat) : m.Bound (m.limit start) where
  length_le := by
    unfold limit
    omega
  fits _ _ h := fitsIn_limit h start

theorem Matcher.start_le_limit (m : Matcher σ ε) (start : Nat) : start ≤ m.limit start := by
  unfold limit
  omega

end

end PegTemplate
