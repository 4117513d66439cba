import Mathlib.Tactic.SplitIfs
import PegTemplate.Proofs.Block.Walk

/-!
# The names that a block passes on

* `Code.passes` : the names that calls of context functions get by their place, in breadth-first order;
* `Code.passes_sublist` : they stand in the tree of the code in this order;
* `Code.Unbound` : a name is no label, and nothing inside the block assigns it;
* `Code.Forwards`, `Code.ForwardsFirst` : a call at any depth passes on an unbound name, and which one is the first;
* `head?_forwarded_iff` : **the first name that is found is the first one of these**;
* `exists_forwardsFirst_iff` : there is a first one wherever there is one.
-/

namespace PegTemplate
open SyntaxNode

/-! ## What is passed on -/

/-- The name that an expression is. -/
def Expr.bareName? : Expr → Option String
  | .name n => some n
  | _ => Option.none

/-- The names that a node passes on, if it calls a function of the context by its name. -/
def SyntaxNode.passed (context : List String) : SyntaxNode → List String
  | expression (.call (.name f) args _) => if context.contains f then args.filterMap Expr.bareName? else []
  | _ => []

/-- All names that calls of context functions get by their place, in breadth-first order. -/
def Code.passes (context : List String) (c : Code) : List String := (walk [.function c]).flatMap (·.passed context)

/-- A name is no label as it is written, and no target inside the block. -/
def Code.Unbound (c : Code) (labels : List String) (n : String) : Prop :=
  n ∉ labels ∧ ¬(target (.name n)).Inside (function c)

/-- At some depth a function of the context is called by its name and gets an unbound name by its place. -/
def Code.Forwards (c : Code) (context labels : List String) (n : String) : Prop :=
  (∃ f args kws, (expression (.call (.name f) args kws)).Inside (function c) ∧ f ∈ context ∧ .name n ∈ args) ∧
    c.Unbound labels n

/-- An unbound name is passed on, and in breadth-first order no other one is before it. -/
def Code.ForwardsFirst (c : Code) (context labels : List String) (n : String) : Prop :=
  ∃ before after, c.passes context = before ++ n :: after ∧ c.Unbound labels n ∧ ∀ m ∈ before, ¬c.Unbound labels m

section
variable {context labels : List String} {c : Code} {n : String}

theorem Expr.bareName?_eq_some_iff {e : Expr} : e.bareName? = some n ↔ e = .name n := by
  cases e <;> simp [bareName?]

theorem SyntaxNode.mem_passed_iff {k : SyntaxNode} :
    n ∈ k.passed context ↔
      ∃ f args kws, k = expression (.call (.name f) args kws) ∧ f ∈ context ∧ .name n ∈ args := by
  constructor
  · intro h
    unfold passed at h
    split at h
    · rename_i f args kws
      split_ifs at h with hf
      · obtain ⟨e, he, hname⟩ := List.mem_filterMap.mp h
        rw [Expr.bareName?_eq_some_iff.mp hname] at he
        exact ⟨f, args, kws, rfl, List.contains_iff_mem.mp hf, he⟩
      · cases h
    · cases h
  · rintro ⟨f, args, kws, rfl, hf, hn⟩
    rw [passed, if_pos (List.contains_iff_mem.mpr hf)]
    exact List.mem_filterMap.mpr ⟨_, hn, rfl⟩

/-- What is passed on, by where it stands in the tree. -/
theorem Code.mem_passes_iff : n ∈ c.passes context ↔
    ∃ f args kws, (expression (.call (.name f) args kws)).Inside (function c) ∧ f ∈ context ∧ .name n ∈ args := by
  have hinside : ∀ {k}, k ∈ walk [function c] ↔ k.Inside (function c) := fun {k} => by
    simp [mem_walk_iff]
  unfold passes
  simp only [List.mem_flatMap, hinside, mem_passed_iff]
  constructor
  · rintro ⟨_, hk, f, args, kws, rfl, hf, hn⟩
    exact ⟨f, args, kws, hk, hf, hn⟩
  · rintro ⟨f, args, kws, hk, hf, hn⟩
    exact ⟨_, hk, f, args, kws, rfl, hf, hn⟩

theorem SyntaxNode.passed_sublist (context : List String) (k : SyntaxNode) :
    ((k.passed context).map fun n => expression (.name n)).Sublist k.children := by
  have hnames : ∀ args : List Expr,
      ((args.filterMap Expr.bareName?).map fun n => expression (.name n)).Sublist (args.map expression) := by
    intro args
    induction args with
    | nil => exact .slnil
    | cons e args ih =>
      cases e with
      | name n => exact ih.cons_cons _
      | _ => exact ih.cons _
  unfold passed
  split
  · rename_i f args kws
    split_ifs
    · rw [children]
      exact ((hnames args).trans (List.sublist_append_left _ _)).cons _
    · exact List.nil_sublist _
  · exact List.nil_sublist _

/-- The names that are passed on stand in the tree in this order. -/
theorem Code.passes_sublist (context : List String) (c : Code) :
    ((c.passes context).map fun n => expression (.name n)).Sublist (walk [function c]) := by
  have hnodes : ∀ ks : List SyntaxNode,
      ((ks.flatMap (passed context)).map fun n => expression (.name n)).Sublist (ks.flatMap children) := by
    intro ks
    induction ks with
    | nil => exact .slnil
    | cons k ks ih =>
      rw [List.flatMap_cons, List.flatMap_cons, List.map_append]
      exact (passed_sublist context k).append ih
  rw [walk_eq_flatMap]
  exact (hnodes _).trans (List.sublist_append_right _ _)

/-! ## How it is found -/

/-- Adds a name that is not bound and not there yet. -/
def collect (bound acc : List String) (n : String) : List String :=
  if bound.contains n || acc.contains n then acc else acc ++ [n]

theorem addForwarded_eq (bound acc : List String) (es : List Expr) :
    addForwarded bound acc es = (es.filterMap Expr.bareName?).foldl (collect bound) acc := by
  induction es generalizing acc with
  | nil => rfl
  | cons e es ih => cases e <;> exact ih _

/-- The calls are gone through in breadth-first order. -/
theorem forwarded_eq (context labels : List String) (c : Code) :
    forwarded context labels c = (c.passes context).foldl (collect (labels ++ c.assigned)) [] := by
  have hnode : ∀ k : SyntaxNode,
      (k.named.filter fun call => context.contains call.function).flatMap (·.arguments.filterMap Expr.bareName?) =
        k.passed context := by
    intro k
    unfold named passed
    split
    · rename_i f args kws
      cases f with
      | name f =>
        dsimp only [namedCall]
        by_cases hf : context.contains f = true
        · simp only [List.filter_cons, List.filter_nil, hf, if_true, List.flatMap_singleton]
        · simp only [List.filter_cons, List.filter_nil, hf, if_false, Bool.false_eq_true, List.flatMap_nil]
      | _ => rfl
    · rename_i hcall
      split
      · rename_i f args kws
        exact absurd rfl (hcall (.name f) args kws)
      · rfl
  have hcalls : c.passes context = (c.calls.filter fun call => context.contains call.function).flatMap
      (·.arguments.filterMap Expr.bareName?) := by
    rw [Code.calls_eq, List.filter_flatMap, List.flatMap_assoc]
    exact congrArg (walk [function c]).flatMap (funext fun k => (hnode k).symm)
  simp only [forwarded, hcalls, List.foldl_flatMap, addForwarded_eq]

/-- The first name that is collected is the first one that is not bound. -/
theorem head?_foldl_collect (bound ns acc : List String) :
    (ns.foldl (collect bound) acc).head? = acc.head?.or (ns.find? fun n => !bound.contains n) := by
  induction ns generalizing acc with
  | nil => exact Option.or_none.symm
  | cons n ns ih =>
    rw [List.foldl_cons, ih, collect]
    by_cases hbound : bound.contains n = true
    · rw [hbound, List.find?_cons_of_neg (by simpa using hbound)]
      rfl
    · rw [List.find?_cons_of_pos (by simpa using hbound)]
      cases acc with
      | nil => rw [if_neg (by simpa using hbound), List.nil_append, List.head?_nil, Option.none_or, List.head?_cons,
          Option.some_or]
      | cons m acc =>
        split_ifs
        · rfl
        · rfl

theorem Code.unbound_iff : c.Unbound labels n ↔ (!(labels ++ c.assigned).contains n) = true := by
  rw [Bool.not_eq_true', ← Bool.not_eq_true, List.contains_iff_mem, List.mem_append, not_or, mem_assigned_iff]
  rfl

/-- **What is reported is the first unbound name that is passed on, in breadth-first order.** -/
theorem head?_forwarded_iff : (forwarded context labels c).head? = some n ↔ c.ForwardsFirst context labels n := by
  have hbefore : ∀ {before : List String}, (∀ m ∈ before, (!!(labels ++ c.assigned).contains m) = true) ↔
      ∀ m ∈ before, ¬c.Unbound labels m := fun {before} =>
    forall₂_congr fun m _ => by rw [Code.unbound_iff, Bool.not_eq_true', ← Bool.not_eq_true]
  rw [forwarded_eq, head?_foldl_collect, List.head?_nil, Option.none_or, List.find?_eq_some_iff_append,
    ← Code.unbound_iff]
  constructor
  · rintro ⟨hn, before, after, hpasses, h⟩
    exact ⟨before, after, hpasses, hn, hbefore.mp h⟩
  · rintro ⟨before, after, hpasses, hn, h⟩
    exact ⟨hn, before, after, hpasses, hbefore.mpr h⟩

/-- There is a first unbound name that is passed on wherever there is one. -/
theorem exists_forwardsFirst_iff :
    (∃ n, c.ForwardsFirst context labels n) ↔ ∃ n, c.Forwards context labels n := by
  have hfind : (∃ n, c.ForwardsFirst context labels n) ↔
      ((c.passes context).find? fun n => !(labels ++ c.assigned).contains n).isSome = true := by
    rw [Option.isSome_iff_exists]
    refine exists_congr fun n => ?_
    rw [← head?_forwarded_iff, forwarded_eq, head?_foldl_collect, List.head?_nil, Option.none_or]
  rw [hfind, List.find?_isSome]
  refine exists_congr fun n => ?_
  rw [← Code.unbound_iff, Code.mem_passes_iff]
  rfl

end

end PegTemplate
