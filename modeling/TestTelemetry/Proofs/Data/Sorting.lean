/-
Sorted lists, and sorting a part of a list.

A list that ascends strictly is determined by its members.  A list is sorted so that entries which
tie keep their order.  So it does not matter whether entries are left out before a list is sorted or
after it.

* `eq_of_ascending` — strictly ascending lists of the same members;
* `mergeSort_cons_cut` — where the first entry of a list comes to stand;
* `filter_mergeSort` — leaving entries out and sorting can change places.
-/

namespace TestTelemetry

variable {α : Type}

/-- Two strictly ascending lists of the same members are the same list. -/
theorem eq_of_ascending {lt : α → α → Prop} (asymm : ∀ a b, lt a b → ¬ lt b a) {l r : List α}
    (hl : l.Pairwise lt) (hr : r.Pairwise lt) (h : ∀ a, a ∈ l ↔ a ∈ r) : l = r := by
  have hnodup : ∀ {l : List α}, l.Pairwise lt → l.Nodup := by
    intro l hl
    refine List.nodup_iff_pairwise_ne.mpr (hl.imp fun {a b} hlt heq => ?_)
    exact asymm a b hlt (heq ▸ hlt)
  have hperm : l.Perm r := (List.perm_ext_iff_of_nodup (hnodup hl) (hnodup hr)).mpr h
  exact hperm.eq_of_pairwise (fun a b _ _ hab hba => absurd hba (asymm a b hab)) hl hr

/-- A list that is cut where a property begins to hold is cut at only one place. -/
theorem cut_unique {q : α → Bool} {l₁ l₂ r₁ r₂ : List α} (h : l₁ ++ l₂ = r₁ ++ r₂)
    (hl₁ : ∀ x ∈ l₁, q x = false) (hl₂ : ∀ x ∈ l₂, q x = true)
    (hr₁ : ∀ x ∈ r₁, q x = false) (hr₂ : ∀ x ∈ r₂, q x = true) : l₁ = r₁ ∧ l₂ = r₂ := by
  have hafter : ∀ {u v : List α}, (∀ x ∈ u, q x = false) → (∀ x ∈ v, q x = true) →
      (u ++ v).filter q = v := by
    intro u v hu hv
    rw [List.filter_append, List.filter_eq_nil_iff.mpr fun x hx => by simp [hu x hx],
      List.filter_eq_self.mpr hv, List.nil_append]
  have hsame : l₂ = r₂ := by rw [← hafter hl₁ hl₂, h, hafter hr₁ hr₂]
  subst hsame
  exact ⟨List.append_cancel_right h, rfl⟩

section Sorted

variable {le : α → α → Bool} (trans : ∀ a b c, le a b = true → le b c = true → le a c = true)
  (total : ∀ a b, (le a b || le b a) = true)

include trans total

/-- The first entry of a list comes to stand before the first of the others that it may stand
before. -/
theorem mergeSort_cons_cut (a : α) (l : List α) :
    ∃ before after, (a :: l).mergeSort le = before ++ a :: after ∧
      l.mergeSort le = before ++ after ∧ (∀ x ∈ before, le a x = false) ∧
      ∀ x ∈ after, le a x = true := by
  obtain ⟨before, after, hsort, hrest, hbefore⟩ := List.mergeSort_cons trans total a l
  have hsorted := List.pairwise_mergeSort trans total (a :: l)
  rw [hsort, List.pairwise_append, List.pairwise_cons] at hsorted
  exact ⟨before, after, hsort, hrest, fun x hx => by simpa using hbefore x hx, hsorted.2.1.1⟩

/-- **What is left of a sorted list is the sorted list of what is left.** -/
theorem filter_mergeSort (p : α → Bool) (l : List α) :
    (l.mergeSort le).filter p = (l.filter p).mergeSort le := by
  induction l with
  | nil => simp
  | cons a l ih =>
    obtain ⟨before, after, hsort, hrest, hbefore, hafter⟩ := mergeSort_cons_cut trans total a l
    rw [hrest, List.filter_append] at ih
    rw [hsort, List.filter_append]
    cases ha : p a with
    | false =>
      rw [List.filter_cons_of_neg (by simp [ha]), List.filter_cons_of_neg (by simp [ha]), ih]
    | true =>
      obtain ⟨before', after', hsort', hrest', hbefore', hafter'⟩ :=
        mergeSort_cons_cut trans total a (l.filter p)
      -- What is left without `a` is cut at the same place on both sides.
      obtain ⟨hb, hc⟩ := cut_unique (ih.trans hrest')
        (fun x hx => hbefore x (List.mem_filter.mp hx).1)
        (fun x hx => hafter x (List.mem_filter.mp hx).1) hbefore' hafter'
      rw [List.filter_cons_of_pos ha, List.filter_cons_of_pos ha, hb, hc, hsort']

end Sorted

end TestTelemetry
