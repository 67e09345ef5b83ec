/-
Walking over a list with everything before in view.

`gather f l` asks of every element of `l` what it yields, seen from the elements before it, and
collects the answers.

* `gather_concat` — the last element is asked last;
* `mem_gather` — what is collected, and where it comes from;
* `exists_of_gather_eq` — a place among the answers is a place in the list.
-/
import Mathlib.Data.List.Induction

namespace TestTelemetry

variable {α β : Type}

/-- What the elements of a list yield, after some that were seen before. -/
def gatherFrom (f : List α → α → Option β) (seen : List α) : List α → List β
  | [] => []
  | a :: rest => (f seen a).toList ++ gatherFrom f (seen ++ [a]) rest

/-- What the elements of a list yield, each seen from those before it. -/
def gather (f : List α → α → Option β) (l : List α) : List β := gatherFrom f [] l

variable {f : List α → α → Option β}

@[simp]
theorem gather_nil : gather f [] = [] := rfl

theorem gatherFrom_concat (seen l : List α) (a : α) :
    gatherFrom f seen (l ++ [a]) = gatherFrom f seen l ++ (f (seen ++ l) a).toList := by
  induction l generalizing seen with
  | nil => simp [gatherFrom]
  | cons b rest ih =>
    rw [List.cons_append, gatherFrom, ih, gatherFrom, List.append_assoc]
    simp only [List.append_assoc, List.singleton_append]

theorem gather_concat (l : List α) (a : α) : gather f (l ++ [a]) = gather f l ++ (f l a).toList :=
  gatherFrom_concat [] l a

theorem gather_concat_of_none {l : List α} {a : α} (h : f l a = none) :
    gather f (l ++ [a]) = gather f l := by
  rw [gather_concat, h, Option.toList_none, List.append_nil]

theorem gather_concat_of_some {l : List α} {a : α} {b : β} (h : f l a = some b) :
    gather f (l ++ [a]) = gather f l ++ [b] := by
  rw [gather_concat, h, Option.toList_some]

/-- More elements only add answers at the end. -/
theorem prefix_gather_append (l r : List α) : gather f l <+: gather f (l ++ r) := by
  induction r using List.reverseRecOn with
  | nil => exact ⟨[], by rw [List.append_nil, List.append_nil]⟩
  | append_singleton r a ih =>
    rw [← List.append_assoc, gather_concat]
    exact ih.trans (List.prefix_append ..)

/-- The answers of more elements are of a kind if each of them only gives such answers. -/
theorem gather_append_of {p : β → Prop} (l r : List α)
    (h : ∀ before, ∀ a ∈ r, ∀ b, f before a = some b → p b) :
    ∃ tail, gather f (l ++ r) = gather f l ++ tail ∧ ∀ b ∈ tail, p b := by
  induction r using List.reverseRecOn with
  | nil => exact ⟨[], by simp, by simp⟩
  | append_singleton r a ih =>
    obtain ⟨tail, htail, hp⟩ := ih fun before b hb => h before b (List.mem_append_left _ hb)
    refine ⟨tail ++ (f (l ++ r) a).toList, ?_, fun b hb => ?_⟩
    · rw [← List.append_assoc, gather_concat, htail, List.append_assoc]
    · rcases List.mem_append.mp hb with hb | hb
      · exact hp b hb
      · exact h _ a (by simp) b (Option.mem_toList.mp hb)

/-- A place among the answers is a place in the list. -/
theorem exists_of_gather_eq {l : List α} {u v : List β} {b : β} (h : gather f l = u ++ b :: v) :
    ∃ before a after, l = before ++ a :: after ∧ gather f before = u ∧ f before a = some b := by
  induction l using List.reverseRecOn generalizing v with
  | nil => simp at h
  | append_singleton l a ih =>
    cases ha : f l a with
    | none =>
      rw [gather_concat_of_none ha] at h
      obtain ⟨before, e, after, rfl, hu, he⟩ := ih h
      exact ⟨before, e, after ++ [a], by simp, hu, he⟩
    | some c =>
      rw [gather_concat_of_some ha] at h
      rcases List.eq_nil_or_concat v with rfl | ⟨w, d, rfl⟩
      · obtain ⟨hu, hc⟩ := List.append_inj' h rfl
        rw [List.cons.injEq] at hc
        exact ⟨l, a, [], rfl, hu, hc.1 ▸ ha⟩
      · rw [List.concat_eq_append, ← List.cons_append, ← List.append_assoc] at h
        obtain ⟨hl, -⟩ := List.append_inj' h rfl
        obtain ⟨before, e, after, rfl, hu, he⟩ := ih hl
        exact ⟨before, e, after ++ [a], by simp, hu, he⟩

/-- What is collected, and where it comes from. -/
theorem mem_gather {l : List α} {b : β} :
    b ∈ gather f l ↔ ∃ before a after, l = before ++ a :: after ∧ f before a = some b := by
  constructor
  · intro h
    obtain ⟨u, v, huv⟩ := List.append_of_mem h
    obtain ⟨before, a, after, hl, -, ha⟩ := exists_of_gather_eq huv
    exact ⟨before, a, after, hl, ha⟩
  · rintro ⟨before, a, after, rfl, ha⟩
    have hp := prefix_gather_append (f := f) (before ++ [a]) after
    rw [gather_concat_of_some ha, List.append_assoc, List.singleton_append] at hp
    exact hp.subset (by simp)

end TestTelemetry
