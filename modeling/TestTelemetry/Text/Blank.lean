/-
Blank characters.

Blank means the characters that Unicode calls white space, not only those of
ASCII.  A line is `trim`med on both ends before it is read, and a line that is
empty after that is skipped.

* `isBlank`, `trim` — blank characters, and a text without those at its ends;
* `trim_eq_nil_iff` — trimming leaves nothing exactly when all is blank.
-/

namespace TestTelemetry.Text

/-- White space as Unicode defines it. -/
def isBlank (c : Char) : Bool :=
  let n := c.toNat
  (9 ≤ n && n ≤ 13) || n == 32 || n == 0x85 || n == 0xA0 || n == 0x1680 ||
    (0x2000 ≤ n && n ≤ 0x200A) || n == 0x2028 || n == 0x2029 || n == 0x202F ||
    n == 0x205F || n == 0x3000

/-- The text without the blanks at its two ends. -/
def trim (cs : List Char) : List Char :=
  ((cs.dropWhile isBlank).reverse.dropWhile isBlank).reverse

theorem dropWhile_eq_nil_iff {α : Type} {p : α → Bool} {l : List α} :
    l.dropWhile p = [] ↔ ∀ x ∈ l, p x := by
  induction l with
  | nil => simp
  | cons x l ih => by_cases h : p x <;> simp [h, ih]

/-- Trimming leaves nothing exactly when every character is blank. -/
theorem trim_eq_nil_iff {cs : List Char} : trim cs = [] ↔ ∀ c ∈ cs, isBlank c := by
  rw [trim, List.reverse_eq_nil_iff, dropWhile_eq_nil_iff]
  constructor
  · intro h
    have hd : cs.dropWhile isBlank = [] := by
      cases hc : cs.dropWhile isBlank with
      | nil => rfl
      | cons x rest =>
        have hx := List.head?_dropWhile_not isBlank cs
        rw [hc] at h hx
        have := h x (by simp)
        simp [this] at hx
    exact dropWhile_eq_nil_iff.1 hd
  · intro h
    rw [dropWhile_eq_nil_iff.2 h]
    simp

end TestTelemetry.Text
