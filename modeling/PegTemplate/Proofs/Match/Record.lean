import Mathlib.Data.Fintype.EquivFin
import Mathlib.Data.List.Sort
import PegTemplate.Proofs.Match.Step

/-!
# The record of failures

* `State.Covers` : a failure would not change the record;
* `Failures.Cover` : nor would it after these failures (`State.covers_note`);
* `State.eq_of_covers` : what a record covers says what is in it;
* `State.covers_all_iff` : and what is in it says whether another record covers the failures that made it.
-/

namespace PegTemplate

/-- Failures, in the order in which they are noted. -/
abbrev Failures := List (Nat × String)

/-- A failure is among these, or one of them is farther to the right. -/
def Failures.Cover (fs : Failures) (f : Nat × String) : Prop := ∃ g ∈ fs, f.1 < g.1 ∨ f = g

theorem Failures.cover_append {fs gs : Failures} {f : Nat × String} :
    Failures.Cover (fs ++ gs) f ↔ fs.Cover f ∨ gs.Cover f := by
  simp only [Cover, List.mem_append, or_and_right, exists_or]

theorem Failures.cover_singleton {p : Nat} {d : String} {f : Nat × String} :
    Failures.Cover [(p, d)] f ↔ f.1 < p ∨ f = (p, d) := by
  simp only [Cover, List.mem_singleton, exists_eq_left]

theorem Failures.not_cover_nil {f : Nat × String} : ¬Failures.Cover [] f := by
  simp only [Cover, List.not_mem_nil, false_and, exists_false, not_false_eq_true]

section
variable {σ τ : Type}

/-- A failure is in the record, or those in it are farther to the right. -/
def State.Covers (s : State σ) (f : Nat × String) : Prop :=
  f.1 < s.farthest ∨ f.1 = s.farthest ∧ f.2 ∈ s.expected

theorem mem_addDescription {d c : String} {ds : List String} : c ∈ addDescription d ds ↔ c ∈ ds ∨ c = d := by
  unfold addDescription
  split
  · rename_i h
    refine ⟨Or.inl, fun h' => h'.elim id fun he => ?_⟩
    rw [he]
    exact List.contains_iff_mem.1 h
  · rw [List.mem_append, List.mem_singleton]

/-- The descriptions of a report are in the order of code points. -/
theorem pairwise_mergeSort (ds : List String) : ds.mergeSort.Pairwise (· ≤ ·) := by
  have h := @List.pairwise_mergeSort String (fun a b => decide (a ≤ b))
    (fun a b c hab hbc => decide_eq_true (String.le_trans (of_decide_eq_true hab) (of_decide_eq_true hbc)))
    (fun a b => by simpa using String.le_total a b) ds
  simpa using h

theorem nodup_addDescription {ds : List String} (h : ds.Nodup) (d : String) : (addDescription d ds).Nodup := by
  unfold addDescription
  split
  · exact h
  · rename_i hd
    rw [List.contains_iff_mem] at hd
    exact List.nodup_append.2 ⟨h, List.nodup_singleton d, fun a ha b hb he =>
      hd (List.mem_singleton.1 hb ▸ he ▸ ha)⟩

namespace State

theorem nodup_note {s : State σ} (h : s.expected.Nodup) (p : Nat) (d : String) : (s.note p d).expected.Nodup := by
  unfold note
  split_ifs
  · exact h
  · exact List.nodup_singleton d
  · exact nodup_addDescription h d
  · exact h

theorem note_of_silent {s : State σ} (h : 0 < s.silence) (p : Nat) (d : String) : s.note p d = s := if_pos h

/-- What is noted is covered, and so is all before it. -/
theorem covers_note {s : State σ} (h : s.silence = 0) {p : Nat} {d : String} {f : Nat × String} :
    (s.note p d).Covers f ↔ s.Covers f ∨ f.1 < p ∨ f = (p, d) := by
  obtain ⟨q, c⟩ := f
  unfold note
  rw [if_neg (by omega), Prod.mk.injEq]
  split_ifs with hlt heq
  · simp only [Covers, List.mem_singleton]
    constructor
    · rintro (hq | hq)
      · exact Or.inr (Or.inl hq)
      · exact Or.inr (Or.inr hq)
    · rintro ((hq | hq) | hq | hq)
      · exact Or.inl (Nat.lt_trans hq hlt)
      · exact Or.inl (hq.1 ▸ hlt)
      · exact Or.inl hq
      · exact Or.inr hq
  · subst heq
    simp only [Covers, mem_addDescription]
    constructor
    · rintro (hq | ⟨hq, hc | hc⟩)
      · exact Or.inl (Or.inl hq)
      · exact Or.inl (Or.inr ⟨hq, hc⟩)
      · exact Or.inr (Or.inr ⟨hq, hc⟩)
    · rintro ((hq | hq) | hq | hq)
      · exact Or.inl hq
      · exact Or.inr ⟨hq.1, Or.inl hq.2⟩
      · exact Or.inl hq
      · exact Or.inr ⟨hq.1, Or.inr hq.2⟩
  · refine ⟨Or.inl, ?_⟩
    rintro (hs | hq | hq)
    · exact hs
    · exact Or.inl (show q < s.farthest by omega)
    · exact Or.inl (show q < s.farthest by omega)

/-- Of two records that cover the same none is farther to the right. -/
theorem farthest_le_of_covers {s : State σ} {t : State τ} (h : ∀ f, t.Covers f → s.Covers f) :
    t.farthest ≤ s.farthest := by
  by_contra hlt
  obtain ⟨d, hd⟩ := Infinite.exists_notMem_finset s.expected.toFinset
  rw [List.mem_toFinset] at hd
  rcases h (s.farthest, d) (Or.inl (Nat.lt_of_not_le hlt)) with hf | hf
  · exact Nat.lt_irrefl _ hf
  · exact hd hf.2

theorem expected_subset_of_covers {s : State σ} {t : State τ} (hf : t.farthest = s.farthest)
    (h : ∀ f, t.Covers f → s.Covers f) : t.expected ⊆ s.expected := by
  intro d hd
  rcases h (t.farthest, d) (Or.inr ⟨rfl, hd⟩) with hl | hl
  · exact absurd hl (by rw [hf]; exact Nat.lt_irrefl _)
  · exact hl.2

/-- Two records that cover the same are the same, but for the order. -/
theorem eq_of_covers {s : State σ} {t : State τ} (h : ∀ f, s.Covers f ↔ t.Covers f) :
    s.farthest = t.farthest ∧ ∀ d, d ∈ s.expected ↔ d ∈ t.expected := by
  have hf : s.farthest = t.farthest := Nat.le_antisymm (farthest_le_of_covers fun f => (h f).1)
    (farthest_le_of_covers fun f => (h f).2)
  exact ⟨hf, fun d => ⟨fun hd => expected_subset_of_covers hf (fun f => (h f).1) hd,
    fun hd => expected_subset_of_covers hf.symm (fun f => (h f).2) hd⟩⟩

theorem covers_restart {s : State σ} {p : Nat} {f : Nat × String} : (s.restart p).Covers f ↔ f.1 < p := by
  simp only [Covers, restart, List.not_mem_nil, and_false, or_false]

/-- Failures from `p` on are covered if those are that a record keeps of them. -/
theorem covers_all_iff {s : State σ} {t : State τ} {fs : Failures} {p : Nat}
    (ht : ∀ f, t.Covers f ↔ f.1 < p ∨ fs.Cover f) (hp : ∀ f ∈ fs, p ≤ f.1) :
    (∀ f, fs.Cover f → s.Covers f) ↔ ∀ d ∈ t.expected, s.Covers (t.farthest, d) := by
  have hfar : p ≤ t.farthest := farthest_le_of_covers (t := t.restart p) fun f hf =>
    (ht f).2 (Or.inl (covers_restart.1 hf))
  constructor
  · intro h d hd
    exact h _ (((ht (t.farthest, d)).1 (Or.inr ⟨rfl, hd⟩)).resolve_left (Nat.not_lt_of_le hfar))
  · intro h f hf
    rcases (ht f).2 (Or.inr hf) with hlt | ⟨heq, hd⟩
    · cases hex : t.expected with
      | cons d ds =>
        have hle : t.farthest ≤ s.farthest := by
          rcases h d (by rw [hex]; exact List.mem_cons_self ..) with hlt' | heq'
          · exact Nat.le_of_lt hlt'
          · exact Nat.le_of_eq heq'.1
        exact Or.inl (Nat.lt_of_lt_of_le hlt hle)
      | nil =>
        -- all descriptions would have been noted right before the farthest position
        have hbefore : ∀ g ∈ fs, g.1 < t.farthest := by
          intro g hg
          rcases (ht g).2 (Or.inr ⟨g, hg, Or.inr rfl⟩) with hg' | hg'
          · exact hg'
          · exact absurd hg'.2 (by rw [hex]; exact List.not_mem_nil)
        obtain ⟨g, hg, -⟩ := hf
        have hpg := hp g hg
        have hgt := hbefore g hg
        obtain ⟨d, hd⟩ := Infinite.exists_notMem_finset (fs.map (·.2)).toFinset
        have hlast : t.Covers (t.farthest - 1, d) := Or.inl (show t.farthest - 1 < t.farthest by omega)
        rcases (ht _).1 hlast with hlt' | ⟨k, hk, hlt' | rfl⟩
        · exact absurd hlt' (by omega)
        · have hkt := hbefore k hk
          exact absurd hlt' (by omega)
        · exact absurd (List.mem_toFinset.2 (List.mem_map_of_mem hk)) hd
    · have hs := h f.2 hd
      rwa [← heq] at hs

end State

end

end PegTemplate
