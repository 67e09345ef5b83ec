/-
Cutting a list at a separator.

There is one piece more than there are separators, and pieces can be empty.

* `pieces`, `endedPieces` — what is between separators, and what a separator ends;
* `separator_not_mem_pieces` — no piece holds a separator.
-/

namespace TestTelemetry

variable {α : Type} [DecidableEq α]

/-- The pieces of a list between separators. -/
def pieces (sep : α) : List α → List (List α)
  | [] => [[]]
  | x :: rest =>
    if x = sep then [] :: pieces sep rest
    else match pieces sep rest with
      | [] => [[x]]
      | p :: ps => (x :: p) :: ps

/-- The pieces without the last one if it is empty: what a separator ends each of. -/
def endedPieces (sep : α) (l : List α) : List (List α) :=
  match (pieces sep l).reverse with
  | [] :: r => r.reverse
  | r => r.reverse

theorem pieces_ne_nil (sep : α) (l : List α) : pieces sep l ≠ [] := by
  cases l with
  | nil => simp [pieces]
  | cons x rest =>
    simp only [pieces]
    split
    · simp
    · split <;> simp

/-- No piece holds a separator. -/
theorem separator_not_mem_pieces {sep : α} {l p : List α} (h : p ∈ pieces sep l) : sep ∉ p := by
  induction l generalizing p with
  | nil => simp_all [pieces]
  | cons x rest ih =>
    simp only [pieces] at h
    split at h
    case isTrue =>
      rcases List.mem_cons.1 h with rfl | h
      · simp
      · exact ih h
    case isFalse hx =>
      cases hp : pieces sep rest with
      | nil => exact absurd hp (pieces_ne_nil sep rest)
      | cons q qs =>
        rw [hp] at h ih
        rcases List.mem_cons.1 h with rfl | h
        · simpa [Ne.symm hx] using ih (p := q) (by simp)
        · exact ih (by simp [h])

end TestTelemetry
