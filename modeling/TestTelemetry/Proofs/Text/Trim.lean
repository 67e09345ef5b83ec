/-
What trimming takes away and what it leaves.

Trimming takes blanks from both ends and nothing else.  A carriage return is blank, so a line that is
trimmed is the same whichever line end it had.

* `exists_trim` — a text is its trimmed part between blanks;
* `trim_append_left`, `trim_append_right` — blanks before and behind a text;
* `findSome?_lines` — lines that are looked at trimmed are the pieces between newlines.
-/
import TestTelemetry.Text.Blank
import TestTelemetry.Text.Lines

namespace TestTelemetry.Text

variable {cs l r : List Char} {c : Char}

/-- A text is its trimmed part between blanks. -/
theorem exists_trim (cs : List Char) : ∃ l r, cs = l ++ (trim cs ++ r) ∧
    (∀ c ∈ l, isBlank c = true) ∧ ∀ c ∈ r, isBlank c = true := by
  refine ⟨cs.takeWhile isBlank, ((cs.dropWhile isBlank).reverse.takeWhile isBlank).reverse, ?_,
    List.all_eq_true.mp List.all_takeWhile, fun c hc => ?_⟩
  · rw [trim, ← List.reverse_append, List.takeWhile_append_dropWhile, List.reverse_reverse,
      List.takeWhile_append_dropWhile]
  · exact List.all_eq_true.mp List.all_takeWhile c (List.mem_reverse.mp hc)

/-- Blanks before a text are taken away. -/
theorem trim_append_left (h : ∀ c ∈ l, isBlank c = true) (cs : List Char) :
    trim (l ++ cs) = trim cs := by
  rw [trim, List.dropWhile_append_of_pos h, trim]

/-- Blanks behind a text are taken away. -/
theorem trim_append_right (h : ∀ c ∈ r, isBlank c = true) (cs : List Char) :
    trim (cs ++ r) = trim cs := by
  have hreverse : ∀ c ∈ r.reverse, isBlank c = true := fun c hc => h c (List.mem_reverse.mp hc)
  by_cases hempty : cs.dropWhile isBlank = []
  · -- All of the text is blank.
    rw [trim, List.dropWhile_append_of_pos (dropWhile_eq_nil_iff.mp hempty), trim, hempty,
      dropWhile_eq_nil_iff.mpr h]
  · rw [trim, List.dropWhile_append, if_neg (by simpa using hempty), List.reverse_append,
      List.dropWhile_append_of_pos hreverse, trim]

theorem trim_of_not_blank (h : ∀ c ∈ cs, isBlank c = false) : trim cs = cs := by
  have hkeep : ∀ ds : List Char, (∀ c ∈ ds, isBlank c = false) → ds.dropWhile isBlank = ds := by
    intro ds hds
    cases ds with
    | nil => rfl
    | cons d ds => rw [List.dropWhile_cons, if_neg (by simp [hds d (List.mem_cons_self ..)])]
  rw [trim, hkeep cs h, hkeep _ fun c hc => h c (List.mem_reverse.mp hc), List.reverse_reverse]

/-- What is not blank is not taken away. -/
theorem mem_trim (hmem : c ∈ cs) (hblank : isBlank c = false) : c ∈ trim cs := by
  obtain ⟨l, r, heq, hl, hr⟩ := exists_trim cs
  rw [heq, List.mem_append, List.mem_append] at hmem
  rcases hmem with hc | hc | hc
  · exact absurd (hl c hc) (by simp [hblank])
  · exact hc
  · exact absurd (hr c hc) (by simp [hblank])

/-! ### Lines -/

/-- A line end is trimmed away. -/
theorem trim_dropReturn (line : List Char) : trim (dropReturn line) = trim line := by
  rw [dropReturn]
  split
  case h_1 front hfront =>
    have hline : line = front.reverse ++ ['\r'] := by
      rw [← List.reverse_reverse line, hfront, List.reverse_cons]
    have hblank : ∀ c ∈ ['\r'], isBlank c = true := List.forall_mem_singleton.mpr rfl
    rw [hline, trim_append_right hblank]
  case h_2 => rfl

/-- Looking for the first line with something, where line ends do not count and an empty line has
nothing, is looking among the pieces between newlines. -/
theorem findSome?_lines {β : Type} {f : List Char → Option β} (hend : ∀ l, f (dropReturn l) = f l)
    (hempty : f [] = none) (cs : List Char) : (lines cs).findSome? f = (pieces '\n' cs).findSome? f := by
  have hends : ∀ ls : List (List Char), (ls.map dropReturn).findSome? f = ls.findSome? f := by
    intro ls
    rw [List.findSome?_map]
    exact congrArg (List.findSome? · ls) (funext hend)
  have hpieces : pieces '\n' cs = (pieces '\n' cs).reverse.reverse := (List.reverse_reverse _).symm
  rw [lines]
  split
  case h_1 before hlast =>
    rw [hpieces, hlast, List.reverse_cons, List.findSome?_append, hends, List.findSome?_singleton,
      hempty, Option.or_none]
  case h_2 last before _ hlast =>
    rw [hpieces, hlast, List.reverse_cons, List.findSome?_append, List.findSome?_append, hends]
  case h_3 hnone =>
    exact absurd (List.reverse_eq_nil_iff.mp hnone) (pieces_ne_nil _ _)

end TestTelemetry.Text
