/-
Counting the times that something is open.

A clock says how deep something is open and how often it was opened while it was closed.  Each
of these times is a *span*; the spans of one key are numbered from one.

* `Clock.span?` — the span that is open;
* `Clock.Past` — a span is over; it stays so (`Clock.past_tick`);
* `Clock.span?_tick`, `Clock.span?_of_tick` — how a span ends and how it begins.
-/

namespace TestTelemetry

/-- What an event does to a clock. -/
inductive Tick
  | deepen
  | rise
  | enter
  | leave
  | stay

/-- How deep something is open, and how often it was opened while it was closed. -/
structure Clock where
  level : Nat
  count : Nat
deriving DecidableEq

/-- One time that something is open: the `number`-th one, counted from one. -/
structure Span (κ : Type) where
  key : κ
  number : Nat
deriving DecidableEq

namespace Clock

def zero : Clock := ⟨0, 0⟩

/-- Open once more; an opening that finds it closed begins a span. -/
def deepen (c : Clock) : Clock := ⟨c.level + 1, if c.level = 0 then c.count + 1 else c.count⟩

/-- Close once; closing what is not open does nothing. -/
def rise (c : Clock) : Clock := ⟨c.level - 1, c.count⟩

/-- Open, unless it is open. -/
def enter (c : Clock) : Clock := if c.level = 0 then c.deepen else c

/-- Close for good. -/
def leave (c : Clock) : Clock := ⟨0, c.count⟩

def tick (c : Clock) : Tick → Clock
  | .deepen => c.deepen
  | .rise => c.rise
  | .enter => c.enter
  | .leave => c.leave
  | .stay => c

/-- The span that is open. -/
def span? {κ : Type} (c : Clock) (k : κ) : Option (Span κ) :=
  if c.level = 0 then none else some ⟨k, c.count⟩

/-- Whether the span of a number is over. -/
def Past (c : Clock) (n : Nat) : Prop := n < c.count ∨ (n = c.count ∧ c.level = 0)

theorem past_tick {c : Clock} {n : Nat} (h : c.Past n) (t : Tick) : (c.tick t).Past n := by
  unfold Past at h ⊢
  cases t with
  | deepen => simp only [tick, deepen]; split <;> omega
  | rise => simp only [tick, rise]; omega
  | enter =>
    simp only [tick, enter, deepen]
    split
    · simp only [*]; omega
    · exact h
  | leave => exact h.imp id fun h => ⟨h.1, rfl⟩
  | stay => exact h

variable {κ : Type} {c : Clock} {k : κ}

theorem span?_eq_none_iff : c.span? k = none ↔ c.level = 0 := by
  unfold span?
  split <;> simp [*]

theorem span?_eq_some_iff {a : Span κ} :
    c.span? k = some a ↔ c.level ≠ 0 ∧ a = ⟨k, c.count⟩ := by
  unfold span?
  split <;> simp [*, eq_comm]

theorem key_of_span? {a : Span κ} (h : c.span? k = some a) : a.key = k := by
  rw [(span?_eq_some_iff.mp h).2]

theorem number_of_span? {a : Span κ} (h : c.span? k = some a) : a.number = c.count := by
  rw [(span?_eq_some_iff.mp h).2]

theorem le_of_past {n : Nat} (h : c.Past n) : n ≤ c.count := by
  unfold Past at h
  omega

theorem not_past_of_span? {a : Span κ} (h : c.span? k = some a) : ¬ c.Past a.number := by
  obtain ⟨hl, rfl⟩ := span?_eq_some_iff.mp h
  rintro (hn | ⟨-, hn⟩)
  · exact absurd hn (Nat.lt_irrefl _)
  · exact hl hn

/-- A span that is open stays open until the last closing. -/
theorem span?_tick {a : Span κ} (h : c.span? k = some a) (t : Tick) :
    (c.tick t).span? k = some a ∨ (t = .rise ∧ c.level = 1) ∨ t = .leave := by
  obtain ⟨hl, rfl⟩ := span?_eq_some_iff.mp h
  cases t with
  | deepen =>
    refine Or.inl (span?_eq_some_iff.mpr ⟨Nat.succ_ne_zero _, ?_⟩)
    rw [tick, deepen, if_neg hl]
  | rise =>
    by_cases h1 : c.level = 1
    · exact Or.inr (Or.inl ⟨rfl, h1⟩)
    · refine Or.inl (span?_eq_some_iff.mpr ⟨?_, rfl⟩)
      show c.level - 1 ≠ 0
      omega
  | enter =>
    rw [tick, enter, if_neg hl]
    exact Or.inl h
  | leave => exact Or.inr (Or.inr rfl)
  | stay => exact Or.inl h

/-- A span that is open was open before, or it begins now. -/
theorem span?_of_tick {a : Span κ} {t : Tick} (h : (c.tick t).span? k = some a) :
    c.span? k = some a ∨ ((t = .deepen ∨ t = .enter) ∧ c.level = 0 ∧ a = ⟨k, c.count + 1⟩) := by
  have opens : c.deepen.span? k = some a → c.level = 0 → a = ⟨k, c.count + 1⟩ := by
    intro h hl
    rw [(span?_eq_some_iff.mp h).2, deepen, if_pos hl]
  by_cases hl : c.level = 0
  · cases t with
    | deepen => exact Or.inr ⟨Or.inl rfl, hl, opens h hl⟩
    | enter =>
      rw [tick, enter, if_pos hl] at h
      exact Or.inr ⟨Or.inr rfl, hl, opens h hl⟩
    | rise =>
      refine absurd ?_ (span?_eq_some_iff.mp h).1
      show c.level - 1 = 0
      rw [hl]
    | leave => exact absurd rfl (span?_eq_some_iff.mp h).1
    | stay => exact Or.inl h
  · obtain ⟨hl', rfl⟩ := span?_eq_some_iff.mp h
    refine Or.inl (span?_eq_some_iff.mpr ⟨hl, ?_⟩)
    cases t with
    | deepen => rw [tick, deepen, if_neg hl]
    | enter => rw [tick, enter, if_neg hl]
    | rise => rfl
    | leave => rfl
    | stay => rfl

end Clock

end TestTelemetry
