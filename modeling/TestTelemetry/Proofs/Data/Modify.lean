/-
Changing one entry of a list.

* `getElem?_modify_of_eq_some` — what is found where something was found before;
* `modify_congr`, `modify_of_eq` — a change looks at the entry that it changes;
* `map_modify` — a change seen through a map;
* `forall_mem_modify` — what holds of all entries, and what a change keeps of it;
* `countP_modify` — a change that makes one more entry count;
* `modify_comm` — two changes that can change places.
-/
import Mathlib.Data.List.Induction

namespace TestTelemetry

variable {α β : Type}

/-- Changing one entry of a list changes what is found there and nothing else. -/
theorem getElem?_modify_of_eq_some {l : List α} {n : Nat} {x : α} (h : l[n]? = some x)
    (m : Nat) (f : α → α) : (l.modify m f)[n]? = some (if m = n then f x else x) := by
  rw [List.getElem?_modify, h]
  rfl

theorem modify_of_eq_none {l : List α} {n : Nat} (h : l[n]? = none) (f : α → α) :
    l.modify n f = l :=
  List.modify_eq_self (List.getElem?_eq_none_iff.mp h)

/-- What is done to one entry is only asked of that entry. -/
theorem modify_congr {l : List α} {n : Nat} {x : α} {f g : α → α} (h : l[n]? = some x)
    (hx : f x = g x) : l.modify n f = l.modify n g := by
  refine List.ext_getElem? fun m => ?_
  rw [List.getElem?_modify, List.getElem?_modify]
  by_cases hm : n = m
  · subst hm
    simp [h, hx]
  · simp [hm]

theorem modify_of_eq {l : List α} {n : Nat} {x : α} {f : α → α} (h : l[n]? = some x)
    (hx : f x = x) : l.modify n f = l :=
  (modify_congr h hx).trans (List.modify_id n l)

/-- A change of one entry, seen through a map. -/
theorem map_modify {l : List α} {n : Nat} {f : α → α} {g : α → β} {k : β → β}
    (h : ∀ x, g (f x) = k (g x)) : (l.modify n f).map g = (l.map g).modify n k := by
  induction l generalizing n with
  | nil => rw [List.modify_nil, List.map_nil, List.modify_nil]
  | cons a l ih =>
    cases n with
    | zero => simp only [List.modify_zero_cons, List.map_cons, h]
    | succ n => simp only [List.modify_succ_cons, List.map_cons, ih]

/-- A change of one entry is not seen by what looks past it. -/
theorem map_modify_of_eq {l : List α} {n : Nat} {f : α → α} {g : α → β}
    (h : ∀ x, g (f x) = g x) : (l.modify n f).map g = l.map g := by
  rw [map_modify (k := id) h, List.modify_id]

/-- What a change of one entry keeps holds of all entries after it. -/
theorem forall_mem_modify {l : List α} {n : Nat} {f : α → α} {p : α → Prop}
    (h : ∀ x ∈ l, p x) (hf : ∀ x, p x → p (f x)) : ∀ x ∈ l.modify n f, p x := by
  induction l generalizing n with
  | nil =>
    rw [List.modify_nil]
    exact h
  | cons a l ih =>
    obtain ⟨ha, hl⟩ := List.forall_mem_cons.mp h
    cases n with
    | zero => exact List.forall_mem_cons.mpr ⟨hf a ha, hl⟩
    | succ n => exact List.forall_mem_cons.mpr ⟨ha, ih hl⟩

/-- A change that makes one entry count counts one more. -/
theorem countP_modify {l : List α} {n : Nat} {x : α} {f : α → α} {p : α → Bool}
    (hx : l[n]? = some x) (hbefore : p x = false) (hafter : p (f x) = true) :
    (l.modify n f).countP p = l.countP p + 1 := by
  induction l generalizing n with
  | nil => simp at hx
  | cons a l ih =>
    cases n with
    | zero =>
      obtain rfl : a = x := by simpa using hx
      rw [List.modify_zero_cons, List.countP_cons_of_pos hafter,
        List.countP_cons_of_neg (by simp [hbefore])]
    | succ n =>
      rw [List.modify_succ_cons, List.countP_cons, List.countP_cons, ih (by simpa using hx)]
      omega

/-- Two changes that do not disturb each other can be made in either order, also at one place. -/
theorem modify_comm {l : List α} {m n : Nat} {f g : α → α} (h : ∀ x, f (g x) = g (f x)) :
    (l.modify m f).modify n g = (l.modify n g).modify m f := by
  by_cases hmn : m = n
  · subst hmn
    rw [List.modify_modify_eq, List.modify_modify_eq]
    exact congrArg _ (funext fun x => (h x).symm)
  · exact List.modify_modify_ne f g l hmn

end TestTelemetry
