/-
The status of a whole, said of the list of its parts.

Counters forget in which order the parts came; nothing of the status is lost by that:

* `Status.ofParts` — the status of a whole by its own marks and its parts, any failure first;
* `StatusCounts.status_ofList` — counted parts have the status of the list;
* `Status.ofMarks` — the status of a whole that looks at its own marks before its parts;
* `Status.ofMarks_eq_ofParts_iff` — the two agree unless a skip covers a failed part;
* `Verdict.status_eq_ofMarks` — a verdict looks at the marks first.
-/
import TestTelemetry.Lifecycle.Run
import Mathlib.Data.List.Induction

namespace TestTelemetry

namespace Status

/-- The status of a whole by its own marks and its parts.  Any failure fails it; else it is
skipped if it was marked so, or if it has parts and all of them were skipped. -/
def ofParts (failed skipped : Bool) (parts : List Status) : Status :=
  if failed ∨ .fail ∈ parts then .fail
  else if skipped ∨ (parts ≠ [] ∧ ∀ s ∈ parts, s = .skip) then .skip
  else .pass

/-- Only which statuses come up among the parts matters. -/
theorem ofParts_congr {failed skipped : Bool} {l r : List Status} (h : ∀ s, s ∈ l ↔ s ∈ r) :
    ofParts failed skipped l = ofParts failed skipped r := by
  have hnil : l = [] ↔ r = [] := by
    rw [List.eq_nil_iff_forall_not_mem, List.eq_nil_iff_forall_not_mem]
    exact forall_congr' fun s => not_congr (h s)
  have hall : (∀ s ∈ l, s = Status.skip) ↔ ∀ s ∈ r, s = Status.skip :=
    forall_congr' fun s => by rw [h s]
  unfold ofParts
  simp only [h .fail, ne_eq, hnil, hall]

theorem ofParts_eq_fail_iff {failed skipped : Bool} {parts : List Status} :
    ofParts failed skipped parts = .fail ↔ failed ∨ .fail ∈ parts := by
  unfold ofParts
  by_cases hf : failed = true ∨ Status.fail ∈ parts
  · rw [if_pos hf]
    exact ⟨fun _ => hf, fun _ => rfl⟩
  · rw [if_neg hf]
    refine ⟨fun h => ?_, fun h => absurd h hf⟩
    split at h <;> cases h

/-- The status of a whole that looks at its own marks before its parts. -/
def ofMarks (failed skipped : Bool) (parts : List Status) : Status :=
  if failed then .fail
  else if skipped then .skip
  else ofParts false false parts

/-- Looking at the marks first still puts any failure first unless a skip covers a failed part. -/
theorem ofMarks_eq_ofParts_iff {failed skipped : Bool} {parts : List Status} :
    ofMarks failed skipped parts = ofParts failed skipped parts ↔
      ¬ (skipped ∧ ¬ failed ∧ .fail ∈ parts) := by
  cases failed with
  | true => simp [ofMarks, ofParts]
  | false =>
    cases skipped with
    | true =>
      by_cases hf : Status.fail ∈ parts <;> simp [ofMarks, ofParts, hf]
    | false => simp [ofMarks]

theorem ofMarks_eq_fail_iff {failed skipped : Bool} {parts : List Status} :
    ofMarks failed skipped parts = .fail ↔ failed ∨ (¬ skipped ∧ .fail ∈ parts) := by
  cases failed with
  | true => simp [ofMarks]
  | false => cases skipped <;> simp [ofMarks, ofParts_eq_fail_iff]

theorem ofMarks_congr {failed skipped : Bool} {l r : List Status} (h : ∀ s, s ∈ l ↔ s ∈ r) :
    ofMarks failed skipped l = ofMarks failed skipped r := by
  rw [ofMarks, ofMarks, ofParts_congr h]

theorem name_injective {s t : Status} (h : s.name = t.name) : s = t := by
  have hs := ofName?_name s
  rw [h, ofName?_name t, Option.some_inj] at hs
  exact hs.symm

end Status

namespace StatusCounts

/-- Two outcomes can be counted in either order. -/
theorem record_right_comm (c : StatusCounts) (s t : Status) :
    (c.record s).record t = (c.record t).record s := by
  cases s <;> cases t <;> rfl

/-- The counts of a list of statuses. -/
def ofList (l : List Status) : StatusCounts := l.foldl record zero

@[simp]
theorem ofList_nil : ofList [] = zero := rfl

@[simp]
theorem ofList_concat (l : List Status) (s : Status) :
    ofList (l ++ [s]) = (ofList l).record s := by
  simp [ofList, List.foldl_append]

@[simp]
theorem count_ofList (l : List Status) (s : Status) : (ofList l).count s = l.count s := by
  induction l using List.reverseRecOn with
  | nil => cases s <;> rfl
  | append_singleton l t ih =>
    rw [ofList_concat, count_record, ih, List.count_append, List.count_singleton]
    simp only [beq_iff_eq]

@[simp]
theorem total_ofList (l : List Status) : (ofList l).total = l.length := by
  induction l using List.reverseRecOn with
  | nil => rfl
  | append_singleton l t ih => rw [ofList_concat, total_record, ih, List.length_append]; rfl

/-- Counting the parts loses nothing of the status of the whole. -/
theorem status_ofList (l : List Status) :
    (ofList l).status = Status.ofParts false false l := by
  have hfail : 0 < (ofList l).failed ↔ Status.fail ∈ l := by
    rw [← List.count_pos_iff, ← count_ofList]
    rfl
  have hskip : (0 < (ofList l).total ∧ (ofList l).skipped = (ofList l).total) ↔
      l ≠ [] ∧ ∀ s ∈ l, s = Status.skip := by
    rw [show (ofList l).skipped = l.count Status.skip from count_ofList l .skip, total_ofList,
      List.length_pos_iff, List.count_eq_length]
    exact and_congr_right fun _ => forall₂_congr fun s _ => eq_comm
  unfold status Status.ofParts
  simp only [gt_iff_lt, hfail, hskip, Bool.false_eq_true, false_or]

end StatusCounts

namespace Verdict

/-- What a verdict and counted parts say: the failure first, then the skip, then the parts. -/
theorem status_eq_ofMarks (v : Verdict) (parts : List Status) :
    v.status (StatusCounts.ofList parts).status =
      Status.ofMarks v.failure.isSome v.skipReason.isSome parts := by
  rw [StatusCounts.status_ofList]
  rfl

end Verdict

end TestTelemetry
