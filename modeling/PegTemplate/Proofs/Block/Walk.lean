import Mathlib.Logic.Basic
import PegTemplate.Block.Forward

/-!
# The syntax tree of a block

* `SyntaxNode`, `SyntaxNode.children`, `SyntaxNode.Inside` : what the code of a block consists of, and what is inside it at
  any depth;
* `walk`, `walk_eq`, `walk_eq_flatMap`, `mem_walk_iff` : the nodes in breadth-first order, each level from left to right;
* `Code.calls_eq` : **the calls of named functions stand in this order**;
* `Code.mem_assigned_iff` : the names that are assigned are those of the targets inside.
-/

namespace PegTemplate

/-- What stands in the syntax tree of a block. -/
inductive SyntaxNode where
  | function (c : Code)
  | statement (s : Statement)
  | target (t : Target)
  | expression (e : Expr)
  /-- A keyword argument: its name and its value. -/
  | keyword (k : String × Expr)

namespace SyntaxNode

/-- What a node consists of, in order. -/
def children : SyntaxNode → List SyntaxNode
  | function c => c.statements.map statement
  | statement .pass | statement (.result none) => []
  | statement (.result (some e)) | statement (.expression e) => [expression e]
  | statement (.assign ts e) => ts.map target ++ [expression e]
  | target (.name _) => []
  | target (.many ts) => ts.map target
  | expression (.name _) | expression .none | expression (.bool _) | expression (.int _) | expression (.text _) => []
  | expression (.list es) | expression (.tuple es) => es.map expression
  | expression (.dict es) => es.map (expression ·.1) ++ es.map (expression ·.2)
  | expression (.call f args kws) => expression f :: (args.map expression ++ kws.map keyword)
  | expression (.spread e) | expression (.member e _) => [expression e]
  | expression (.add l r) => [expression l, expression r]
  | keyword k => [expression k.2]

/-- `k` is a node, or inside it at any depth. -/
inductive Inside (k : SyntaxNode) : SyntaxNode → Prop
  | self : Inside k k
  | child {c n : SyntaxNode} (hc : c ∈ n.children) (h : Inside k c) : Inside k n

/-! ## Sizes -/

/-- The size of what a node stands for. -/
noncomputable def size : SyntaxNode → Nat
  | function c => sizeOf c
  | statement s => sizeOf s
  | target t => sizeOf t
  | expression e => sizeOf e
  | keyword k => sizeOf k

/-- The size of nodes side by side. -/
noncomputable def weight : List SyntaxNode → Nat
  | [] => 0
  | n :: ns => n.size + weight ns

theorem weight_cons (n : SyntaxNode) (ns : List SyntaxNode) : weight (n :: ns) = n.size + weight ns := rfl

theorem weight_append (ns ms : List SyntaxNode) : weight (ns ++ ms) = weight ns + weight ms := by
  induction ns with
  | nil => exact (Nat.zero_add _).symm
  | cons n ns ih => rw [List.cons_append, weight_cons, weight_cons, ih, Nat.add_assoc]

theorem size_le_weight {n : SyntaxNode} {ns : List SyntaxNode} (h : n ∈ ns) : n.size ≤ weight ns := by
  induction ns with
  | nil => cases h
  | cons m ns ih =>
    rw [weight_cons]
    rcases List.mem_cons.mp h with rfl | h
    · exact Nat.le_add_right _ _
    · exact Nat.le_trans (ih h) (Nat.le_add_left _ _)

theorem weight_map_le {α : Type} [SizeOf α] {f : α → SyntaxNode} (hf : ∀ a, (f a).size = sizeOf a) (as : List α) :
    weight (as.map f) ≤ sizeOf as := by
  induction as with
  | nil => exact Nat.zero_le _
  | cons a as ih =>
    rw [List.map_cons, weight_cons, hf, List.cons.sizeOf_spec]
    omega

theorem weight_entries (es : List (Expr × Expr)) :
    weight (es.map (expression ·.1)) + weight (es.map (expression ·.2)) ≤ sizeOf es := by
  induction es with
  | nil => exact Nat.zero_le _
  | cons e es ih =>
    obtain ⟨k, v⟩ := e
    simp only [List.map_cons, weight_cons, List.cons.sizeOf_spec, Prod.mk.sizeOf_spec, size]
    omega

/-- What a node consists of is smaller than the node. -/
theorem weight_children (n : SyntaxNode) : weight n.children < n.size := by
  have hexpressions : ∀ es : List Expr, weight (es.map expression) ≤ sizeOf es := weight_map_le fun _ => rfl
  have htargets : ∀ ts : List Target, weight (ts.map target) ≤ sizeOf ts := weight_map_le fun _ => rfl
  have hone : ∀ e : Expr, weight [expression e] = sizeOf e := fun _ => rfl
  have hnil : weight [] = 0 := rfl
  cases n with
  | function c =>
    obtain ⟨ps, sts⟩ := c
    have hsts : weight (sts.map statement) ≤ sizeOf sts := weight_map_le (fun _ => rfl) sts
    rw [children, size, Code.mk.sizeOf_spec]
    dsimp only
    omega
  | statement s =>
    rw [size]
    cases s with
    | pass =>
      rw [children, hnil, Statement.pass.sizeOf_spec]
      omega
    | result value =>
      cases value with
      | none =>
        rw [children, hnil, Statement.result.sizeOf_spec]
        omega
      | some e =>
        rw [children, hone, Statement.result.sizeOf_spec, Option.some.sizeOf_spec]
        omega
    | assign ts e =>
      have ht := htargets ts
      rw [children, weight_append, hone, Statement.assign.sizeOf_spec]
      omega
    | expression e =>
      rw [children, hone, Statement.expression.sizeOf_spec]
      omega
  | target t =>
    rw [size]
    cases t with
    | name n =>
      rw [children, hnil, Target.name.sizeOf_spec]
      omega
    | many ts =>
      have ht := htargets ts
      rw [children, Target.many.sizeOf_spec]
      omega
  | expression e =>
    rw [size]
    cases e with
    | list es | tuple es =>
      have he := hexpressions es
      simp only [children, Expr.list.sizeOf_spec, Expr.tuple.sizeOf_spec]
      omega
    | dict es =>
      have he := weight_entries es
      rw [children, weight_append, Expr.dict.sizeOf_spec]
      omega
    | call f args kws =>
      have hargs := hexpressions args
      have hkws : weight (kws.map keyword) ≤ sizeOf kws := weight_map_le (fun _ => rfl) kws
      rw [children, weight_cons, weight_append, Expr.call.sizeOf_spec, size]
      omega
    | spread e | member e n =>
      simp only [children, hone, Expr.spread.sizeOf_spec, Expr.member.sizeOf_spec]
      omega
    | add l r =>
      rw [children, weight_cons, hone, Expr.add.sizeOf_spec, size]
      omega
    | name n | none | bool b | int n | text s =>
      simp only [children, hnil, Expr.name.sizeOf_spec, Expr.none.sizeOf_spec, Expr.bool.sizeOf_spec,
        Expr.int.sizeOf_spec, Expr.text.sizeOf_spec]
      omega
  | keyword k =>
    obtain ⟨k, e⟩ := k
    rw [children, hone, size, Prod.mk.sizeOf_spec]
    dsimp only
    omega

theorem weight_flatMap_children {ns : List SyntaxNode} (h : ns ≠ []) : weight (ns.flatMap children) < weight ns := by
  have hle : ∀ ns : List SyntaxNode, weight (ns.flatMap children) ≤ weight ns := by
    intro ns
    induction ns with
    | nil => exact Nat.le_refl _
    | cons n ns ih =>
      have hn := weight_children n
      rw [List.flatMap_cons, weight_append, weight_cons]
      omega
  cases ns with
  | nil => exact absurd rfl h
  | cons n ns =>
    have hn := weight_children n
    have hns := hle ns
    rw [List.flatMap_cons, weight_append, weight_cons]
    omega

end SyntaxNode

open SyntaxNode

/-! ## Breadth-first order -/

/-- The nodes of trees in breadth-first order: the first node of a queue, then the rest of the queue with the children of
the node behind it. -/
def walk : List SyntaxNode → List SyntaxNode
  | [] => []
  | n :: queue => n :: walk (queue ++ n.children)
termination_by queue => weight queue
decreasing_by
  have hn := weight_children n
  rw [weight_append, weight_cons]
  omega

theorem walk_append (ns ms : List SyntaxNode) : walk (ns ++ ms) = ns ++ walk (ms ++ ns.flatMap children) := by
  induction ns generalizing ms with
  | nil => rw [List.nil_append, List.nil_append, List.flatMap_nil, List.append_nil]
  | cons n ns ih =>
    rw [List.cons_append, walk, List.append_assoc, ih, List.flatMap_cons, List.append_assoc, List.cons_append]

/-- **First come the roots, then all that the roots consist of, then what that consists of, and so on.** -/
theorem walk_eq (ns : List SyntaxNode) : walk ns = ns ++ walk (ns.flatMap children) := by
  have h := walk_append ns []
  rwa [List.append_nil, List.nil_append] at h

/-- **Behind the roots come the children of all nodes, in the order of these.** -/
theorem walk_eq_flatMap (ns : List SyntaxNode) : walk ns = ns ++ (walk ns).flatMap children := by
  fun_induction walk ns with
  | case1 => rfl
  | case2 n queue ih =>
    rw [List.flatMap_cons, List.cons_append, ← List.append_assoc, ← ih]

/-- A walk visits just what is inside. -/
theorem mem_walk_iff {k : SyntaxNode} {ns : List SyntaxNode} : k ∈ walk ns ↔ ∃ n ∈ ns, k.Inside n := by
  fun_induction walk ns with
  | case1 => simp
  | case2 n queue ih =>
    rw [List.mem_cons, ih]
    constructor
    · rintro (rfl | ⟨m, hm, hk⟩)
      · exact ⟨k, List.mem_cons_self, .self⟩
      · rcases List.mem_append.mp hm with hm | hm
        · exact ⟨m, List.mem_cons_of_mem n hm, hk⟩
        · exact ⟨n, List.mem_cons_self, .child hm hk⟩
    · rintro ⟨m, hm, hk⟩
      rcases List.mem_cons.mp hm with rfl | hm
      · cases hk with
        | self => exact .inl rfl
        | child hc hk => exact .inr ⟨_, List.mem_append_right _ hc, hk⟩
      · exact .inr ⟨m, List.mem_append_left _ hm, hk⟩

/-! ## Calls by depth -/

namespace SyntaxNode

/-- The call of a named function that a node is. -/
def named : SyntaxNode → List NamedCall
  | expression (.call f args _) => namedCall f args
  | _ => []

/-- The calls of named functions in a node, by how deep they stand. -/
def levels : SyntaxNode → Levels
  | function c => [] :: [] :: c.statements.foldr (fun s ls => mergeLevels s.calls ls) []
  | statement s => [] :: s.calls
  | target _ => []
  | expression e => e.calls
  | keyword k => [] :: k.2.calls

/-- The calls at one depth of a node. -/
def row (d : Nat) (n : SyntaxNode) : List NamedCall := n.levels.getD d []

end SyntaxNode

theorem getD_mergeLevels (xs ys : Levels) (d : Nat) :
    (mergeLevels xs ys).getD d [] = xs.getD d [] ++ ys.getD d [] := by
  induction xs generalizing ys d with
  | nil => rw [mergeLevels, List.getD_nil, List.nil_append]
  | cons x xs ih =>
    cases ys with
    | nil =>
      rw [mergeLevels, List.getD_nil, List.append_nil]
      exact nofun
    | cons y ys =>
      rw [mergeLevels]
      cases d with
      | zero => rfl
      | succ d => exact ih ys d

/-- What is merged from the parts of a list. -/
theorem getD_merged {α : Type} {merged : List α → Levels} {part : α → Levels} (hnil : merged [] = [])
    (hcons : ∀ a as, merged (a :: as) = mergeLevels (part a) (merged as)) (as : List α) (d : Nat) :
    (merged as).getD d [] = as.flatMap fun a => (part a).getD d [] := by
  induction as with
  | nil => rw [hnil, List.getD_nil, List.flatMap_nil]
  | cons a as ih => rw [hcons, getD_mergeLevels, ih, List.flatMap_cons]

namespace SyntaxNode

theorem getD_callsIn (es : List Expr) (d : Nat) :
    (callsIn es).getD d [] = (es.map expression).flatMap (row d) := by
  rw [getD_merged (by rw [callsIn]) (fun e es => by rw [callsIn]) es d, List.flatMap_map]
  rfl

theorem getD_callsInKeys (es : List (Expr × Expr)) (d : Nat) :
    (callsInKeys es).getD d [] = (es.map (expression ·.1)).flatMap (row d) := by
  rw [getD_merged (by rw [callsInKeys]) (fun e es => by rw [callsInKeys]) es d, List.flatMap_map]
  congr 1
  funext e
  rw [callsInKey]
  rfl

theorem getD_callsInValues (es : List (Expr × Expr)) (d : Nat) :
    (callsInValues es).getD d [] = (es.map (expression ·.2)).flatMap (row d) := by
  rw [getD_merged (by rw [callsInValues]) (fun e es => by rw [callsInValues]) es d, List.flatMap_map]
  congr 1
  funext e
  rw [callsInValue]
  rfl

theorem getD_callsInKeywords (ks : List (String × Expr)) (d : Nat) :
    (callsInKeywords ks).getD d [] = (ks.map keyword).flatMap (row d) := by
  rw [getD_merged (by rw [callsInKeywords]) (fun k ks => by rw [callsInKeywords]) ks d, List.flatMap_map]
  congr 1
  funext k
  rw [callsInKeyword]
  rfl

theorem row_zero (n : SyntaxNode) : n.row 0 = n.named := by
  unfold row
  cases n with
  | expression e => cases e <;> rw [levels, Expr.calls] <;> rfl
  | _ => rfl

theorem flatMap_row_target (ts : List Target) (d : Nat) : (ts.map target).flatMap (row d) = [] := by
  rw [List.flatMap_map]
  exact List.flatMap_eq_nil_iff.mpr fun _ _ => rfl

/-- The calls one level down are those of the children. -/
theorem row_succ (n : SyntaxNode) (d : Nat) : n.row (d + 1) = n.children.flatMap (row d) := by
  have hone : ∀ e : Expr, [expression e].flatMap (row d) = e.calls.getD d [] := fun e => by
    rw [List.flatMap_cons, List.flatMap_nil, List.append_nil]
    rfl
  have htwo : ∀ l r : Expr, [expression l, expression r].flatMap (row d) = (mergeLevels l.calls r.calls).getD d [] :=
    fun l r => by
      rw [List.flatMap_cons, hone, getD_mergeLevels]
      rfl
  cases n with
  | function c =>
    cases d with
    | zero =>
      rw [children, List.flatMap_map]
      exact (List.flatMap_eq_nil_iff.mpr fun _ _ => rfl).symm
    | succ d =>
      rw [children, List.flatMap_map]
      exact getD_merged rfl (fun _ _ => rfl) c.statements d
  | statement s =>
    cases s with
    | pass => rfl
    | result value =>
      cases value with
      | none => rfl
      | some e => exact (hone e).symm
    | assign ts e =>
      rw [children, List.flatMap_append, flatMap_row_target, List.nil_append]
      exact (hone e).symm
    | expression e => exact (hone e).symm
  | target t =>
    cases t with
    | name n => rfl
    | many ts => exact (flatMap_row_target ts d).symm
  | expression e =>
    cases e with
    | list es | tuple es =>
      rw [children, ← getD_callsIn, row, levels, Expr.calls]
      rfl
    | dict es =>
      rw [children, List.flatMap_append, ← getD_callsInKeys, ← getD_callsInValues, ← getD_mergeLevels, row, levels,
        Expr.calls]
      rfl
    | call f args kws =>
      rw [children, List.flatMap_cons, List.flatMap_append, ← getD_callsIn, ← getD_callsInKeywords, ← getD_mergeLevels]
      rw [row, levels, Expr.calls]
      exact getD_mergeLevels _ _ d
    | spread e | member e n =>
      rw [children, hone, row, levels, Expr.calls]
      rfl
    | add l r =>
      rw [children, htwo, row, levels, Expr.calls]
      rfl
    | _ =>
      rw [row, levels, Expr.calls]
      rfl
  | keyword k => exact (hone k.2).symm

end SyntaxNode

/-- The calls of trees, level by level. -/
theorem flatMap_named_walk {ns : List SyntaxNode} {ls : Levels} (h : ∀ d, ls.getD d [] = ns.flatMap (row d)) :
    (walk ns).flatMap named = ls.flatten := by
  induction hsize : weight ns using Nat.strongRecOn generalizing ns ls with
  | ind size ih =>
    subst hsize
    have hflatten : ls.flatten = ls.getD 0 [] ++ ls.tail.flatten := by cases ls <;> rfl
    have htail : ∀ d, ls.tail.getD d [] = ls.getD (d + 1) [] := by cases ls <;> exact fun _ => rfl
    have hzero : ns.flatMap (row 0) = ns.flatMap named := congrArg ns.flatMap (funext row_zero)
    rw [walk_eq, List.flatMap_append, hflatten, h 0, hzero]
    by_cases hns : ns = []
    · subst hns
      have hempty : ls.tail.flatten = [] := by
        rw [List.flatten_eq_nil_iff]
        intro l hl
        obtain ⟨d, hd⟩ := List.getElem?_of_mem hl
        have hget : ls.tail.getD d [] = l := by rw [List.getD_eq_getElem?_getD, hd, Option.getD_some]
        rw [← hget, htail, h, List.flatMap_nil]
      simp only [hempty, List.flatMap_nil, walk]
    · refine congrArg _ (ih _ (weight_flatMap_children hns) (fun d => ?_) rfl)
      rw [htail, h, List.flatMap_assoc]
      exact congrArg ns.flatMap (funext fun n => row_succ n d)

/-- **The calls of named functions in a block stand in breadth-first order.** -/
theorem Code.calls_eq (c : Code) : c.calls = (walk [.function c]).flatMap named := by
  have h : ∀ d, (function c).levels.getD d [] = [function c].flatMap (row d) := fun d => by
    rw [List.flatMap_cons, List.flatMap_nil, List.append_nil]
    rfl
  rw [flatMap_named_walk h]
  rfl

/-! ## Assigned names -/

namespace SyntaxNode

/-- The names that are assigned in a node. -/
def assigned : SyntaxNode → List String
  | function c => c.assigned
  | statement s => s.assigned
  | target t => t.names
  | expression _ | keyword _ => []

theorem mem_namesIn {n : String} {ts : List Target} : n ∈ namesIn ts ↔ ∃ t ∈ ts, n ∈ t.names := by
  induction ts with
  | nil => simp [namesIn]
  | cons t ts ih => simp [namesIn, ih]

/-- A name is assigned in a node that is a target with this name, or where it is assigned in a child. -/
theorem mem_assigned_iff {n : String} {k : SyntaxNode} :
    n ∈ k.assigned ↔ k = target (.name n) ∨ ∃ c ∈ k.children, n ∈ c.assigned := by
  cases k with
  | function c =>
    rw [assigned, Code.assigned, List.mem_flatMap, children]
    simp only [List.mem_map, exists_exists_and_eq_and, reduceCtorEq, false_or]
    rfl
  | statement s =>
    cases s with
    | result value => cases value <;> simp [assigned, children, Statement.assigned]
    | assign ts e =>
      rw [assigned, Statement.assigned, mem_namesIn, children]
      simp only [List.mem_append, List.mem_map, List.mem_singleton, or_and_right, exists_or, exists_exists_and_eq_and,
        exists_eq_left, reduceCtorEq, false_or]
      simp [assigned]
    | _ => simp [assigned, children, Statement.assigned]
  | target t =>
    cases t with
    | name m => simp [assigned, children, Target.names, eq_comm]
    | many ts =>
      rw [assigned, Target.names, mem_namesIn, children]
      simp only [List.mem_map, exists_exists_and_eq_and, target.injEq, reduceCtorEq, false_or]
      rfl
  | expression e =>
    have hnone : ∀ c ∈ (expression e).children, n ∉ c.assigned := by
      cases e <;> simp [children, assigned] <;> grind [assigned]
    simpa [assigned] using hnone
  | keyword k => simp [assigned, children]

theorem mem_assigned {n : String} {k : SyntaxNode} : n ∈ k.assigned ↔ (target (.name n)).Inside k := by
  constructor
  · intro h
    induction hsize : k.size using Nat.strongRecOn generalizing k with
    | ind size ih =>
      subst hsize
      rcases mem_assigned_iff.mp h with rfl | ⟨c, hc, hn⟩
      · exact .self
      · have hlt : c.size < k.size := Nat.lt_of_le_of_lt (size_le_weight hc) (weight_children k)
        exact .child hc (ih _ hlt hn rfl)
  · intro h
    induction h with
    | self => exact List.mem_singleton_self n
    | child hc _ ih => exact mem_assigned_iff.mpr (.inr ⟨_, hc, ih⟩)

end SyntaxNode

/-- **The names that a block assigns are those of the targets inside it.** -/
theorem Code.mem_assigned_iff {n : String} {c : Code} :
    n ∈ c.assigned ↔ (target (.name n)).Inside (function c) := SyntaxNode.mem_assigned (k := function c)

end PegTemplate
