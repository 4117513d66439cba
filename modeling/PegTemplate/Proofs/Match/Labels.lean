import PegTemplate.Proofs.Match.Outcome

/-!
# The values of labels

* `Matched` : the items of a sequence match one after the other, each with its value;
* `evalAll_eq_ok_iff` : that is what the evaluation of a list of items is;
* `labelled`, `zip_labelValues` : the labels of the items with the values of these items;
* `Node.Passes`, `Node.passes_of_labels` : **an action gets the values of the labelled items of its match, in the order of
  its labels, and is run only if all items have matched.**
-/

namespace PegTemplate

section
variable {σ ε : Type}

/-- The items match one after the other, the first one from `p` on in the state `s`; the last match ends before `stop`, in
the state `t`. -/
inductive Matched (m : Matcher σ ε) (limit : Nat) (call : String → Nat → Run σ ε Result) :
    (ns : List Node) → (p : Nat) → (s : State σ) → (vs : List Value) → (stop : Nat) → (t : State σ) → Prop
  | nil (p : Nat) (s : State σ) : Matched m limit call [] p s [] p s
  | cons {n : Node} {ns : List Node} {p q stop : Nat} {s t u : State σ} {v : Value} {vs : List Value}
    (first : n.eval m limit call p s = .ok (.matched q v) t) (rest : Matched m limit call ns q t vs stop u) :
    Matched m limit call (n :: ns) p s (v :: vs) stop u

section
variable {m : Matcher σ ε} {limit : Nat} {call : String → Nat → Run σ ε Result} {ns : List Node} {p stop : Nat}
  {s t : State σ} {vs : List Value}

theorem Matched.length_eq (h : Matched m limit call ns p s vs stop t) : vs.length = ns.length := by
  induction h with
  | nil => rfl
  | cons _ _ ih => rw [List.length_cons, List.length_cons, ih]

/-- A list of items is evaluated to the values with which they match. -/
theorem evalAll_eq_ok_iff :
    evalAll m limit call ns p s = .ok (some (stop, vs)) t ↔ Matched m limit call ns p s vs stop t := by
  constructor
  · intro h
    induction ns generalizing p s vs with
    | nil =>
      cases h
      exact .nil _ _
    | cons n ns ih =>
      rw [evalAll] at h
      obtain ⟨r, u, hn, h⟩ := bind_eq_ok h
      cases r with
      | failed => cases h
      | matched q v =>
        obtain ⟨rest, u', hrest, h⟩ := bind_eq_ok h
        cases rest with
        | none => cases h
        | some rest =>
          cases h
          exact .cons hn (ih hrest)
  · intro h
    induction h with
    | nil => rfl
    | cons first _ ih =>
      rw [evalAll, bind_ok first]
      dsimp only
      rw [bind_ok ih]
      rfl

end

/-! ## Labels and values -/

/-- The labels of items, each with the value of its item. -/
def labelled (ns : List Node) (vs : List Value) : List (String × Value) :=
  (ns.zip vs).filterMap fun x => x.1.label?.map fun l => (l, x.2)

theorem zip_labelValues {ns : List Node} {vs : List Value} (h : vs.length = ns.length) :
    (ns.filterMap Node.label?).zip (labelValues ns vs) = labelled ns vs := by
  induction ns generalizing vs with
  | nil => simp [labelled]
  | cons n ns ih =>
    cases vs with
    | nil => cases h
    | cons v vs =>
      have hrest := ih (Nat.succ.inj h)
      unfold labelled at hrest ⊢
      rw [labelValues, List.zip_cons_cons]
      cases hn : n.label? with
      | none => simpa [List.filterMap_cons, hn] using hrest
      | some l => simpa [List.filterMap_cons, hn] using hrest

/-! ## Actions -/

/-- However the sequence `n` before the block `b` is evaluated, the action of the block is run if all items match, on one
value for each label of the block: that of the item with this label. Where the items fail or stop, so does the action. -/
def Node.Passes (n : Node) (b : Block) : Prop :=
  ∀ {σ ε : Type} (m : Matcher σ ε) (limit : Nat) (call : String → Nat → Run σ ε Result) (p : Nat) (s : State σ),
    (∃ vs stop t values, Matched m limit call n.items p s vs stop t ∧ values.length = b.labels.length ∧
      b.labels.zip values = labelled n.items vs ∧
      (Node.action n b).eval m limit call p s = (m.act b p stop values >>= fun v => pure (.matched stop v)) t) ∨
    (∃ t, evalAll m limit call n.items p s = .ok none t ∧ (Node.action n b).eval m limit call p s = .ok .failed t) ∨
    ∃ e t, evalAll m limit call n.items p s = .error e t ∧ (Node.action n b).eval m limit call p s = .error e t

/-- **An action gets the values of the labelled items.** -/
theorem Node.passes_of_labels {n : Node} {b : Block} (h : b.labels = n.itemLabels) : n.Passes b := by
  intro σ ε m limit call p s
  rw [Node.eval_action]
  cases hitems : evalAll m limit call n.items p s with
  | error e t => exact .inr (.inr ⟨e, t, rfl, by rw [bind_error hitems]⟩)
  | ok q t =>
    rw [bind_ok hitems]
    cases q with
    | none => exact .inr (.inl ⟨t, rfl, rfl⟩)
    | some q =>
      have hmatched := evalAll_eq_ok_iff.mp hitems
      refine .inl ⟨q.2, q.1, t, labelValues n.items q.2, hmatched, ?_, ?_, rfl⟩
      · rw [length_labelValues hmatched.length_eq, h, itemLabels]
      · rw [h, itemLabels, zip_labelValues hmatched.length_eq]

end

end PegTemplate
