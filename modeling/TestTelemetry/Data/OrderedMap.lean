/-
Maps kept in the order of their keys.

A map is its list of entries, strictly ascending by key, so two maps with the
same bindings are the same value (`OrderedMap.ext_find?`) and writing one down
needs no sorting.

Main statements:
* `OrderedMap.find?_insert` — what a map answers after a write;
* `OrderedMap.ext_find?` — a map is determined by its answers;
* `OrderedMap.ofList_entries` — a map is rebuilt from its own entries.
-/

namespace TestTelemetry

variable {κ α β : Type} [Ord κ]

/-- A finite map whose entries ascend strictly by key. -/
structure OrderedMap (κ α : Type) [Ord κ] where
  entries : List (κ × α)
  ascending : entries.Pairwise (fun a b => compare a.1 b.1 = .lt)

namespace OrderedMap

/-- Write one entry into an ascending list, replacing the entry of an equal key. -/
def insertEntry (k : κ) (v : α) : List (κ × α) → List (κ × α)
  | [] => [(k, v)]
  | (k', v') :: rest =>
    match compare k k' with
    | .lt => (k, v) :: (k', v') :: rest
    | .eq => (k, v) :: rest
    | .gt => (k', v') :: insertEntry k v rest

theorem mem_insertEntry {k : κ} {v : α} {e : κ × α} {l : List (κ × α)}
    (h : e ∈ insertEntry k v l) : e = (k, v) ∨ e ∈ l := by
  induction l with
  | nil => simpa [insertEntry] using h
  | cons d rest ih =>
    obtain ⟨k', v'⟩ := d
    simp only [insertEntry] at h
    split at h <;> simp only [List.mem_cons] at h ⊢ <;> grind

theorem insertEntry_ascending [Std.TransOrd κ] [Std.LawfulEqOrd κ] (k : κ) (v : α)
    {l : List (κ × α)}
    (h : l.Pairwise (fun a b => compare a.1 b.1 = .lt)) :
    (insertEntry k v l).Pairwise (fun a b => compare a.1 b.1 = .lt) := by
  induction l with
  | nil => simp [insertEntry]
  | cons d rest ih =>
    obtain ⟨k', v'⟩ := d
    rw [List.pairwise_cons] at h
    obtain ⟨first, others⟩ := h
    simp only [insertEntry]
    split
    case h_1 lt =>
      refine List.pairwise_cons.2 ⟨fun e he => ?_, List.pairwise_cons.2 ⟨first, others⟩⟩
      rcases List.mem_cons.1 he with rfl | he
      · exact lt
      · exact Std.TransCmp.lt_trans lt (first e he)
    case h_2 eq =>
      refine List.pairwise_cons.2 ⟨fun e he => ?_, others⟩
      rw [Std.LawfulEqOrd.eq_of_compare eq]
      exact first e he
    case h_3 gt =>
      refine List.pairwise_cons.2 ⟨fun e he => ?_, ih others⟩
      rcases mem_insertEntry he with rfl | he
      · exact Std.OrientedCmp.gt_iff_lt.1 gt
      · exact first e he

/-- The map without entries. -/
def empty : OrderedMap κ α := ⟨[], .nil⟩

instance : Inhabited (OrderedMap κ α) := ⟨empty⟩

/-- The map with one entry. -/
def single (k : κ) (v : α) : OrderedMap κ α := ⟨[(k, v)], by simp⟩

/-- Bind a key, replacing what it was bound to. -/
def insert [Std.TransOrd κ] [Std.LawfulEqOrd κ] (m : OrderedMap κ α) (k : κ) (v : α) :
    OrderedMap κ α :=
  ⟨insertEntry k v m.entries, insertEntry_ascending k v m.ascending⟩

/-- The value bound to a key. -/
def find? (m : OrderedMap κ α) (k : κ) : Option α :=
  (m.entries.find? (fun e => compare e.1 k == .eq)).map (·.2)

/-- The map of a list of bindings; of two bindings of one key the later stays. -/
def ofList [Std.TransOrd κ] [Std.LawfulEqOrd κ] (l : List (κ × α)) : OrderedMap κ α :=
  l.foldl (fun m e => m.insert e.1 e.2) empty

def keys (m : OrderedMap κ α) : List κ := m.entries.map (·.1)

def values (m : OrderedMap κ α) : List α := m.entries.map (·.2)

def size (m : OrderedMap κ α) : Nat := m.entries.length

def isEmpty (m : OrderedMap κ α) : Bool := m.entries.isEmpty

def contains (m : OrderedMap κ α) (k : κ) : Bool := (m.find? k).isSome

@[simp]
theorem find?_empty (k : κ) : (empty : OrderedMap κ α).find? k = none := rfl

theorem eq_of_entries {m n : OrderedMap κ α} (h : m.entries = n.entries) : m = n := by
  cases m; cases n; cases h; rfl

instance [DecidableEq κ] [DecidableEq α] : DecidableEq (OrderedMap κ α) := fun m n =>
  if h : m.entries = n.entries then .isTrue (eq_of_entries h)
  else .isFalse (fun e => h (e ▸ rfl))

section Lawful

variable [Std.TransOrd κ] [Std.LawfulEqOrd κ]

omit [Std.TransOrd κ] in
/-- The look-up compares keys for equality. -/
theorem compare_beq_eq [DecidableEq κ] [Std.OrientedOrd κ] (a b : κ) : (compare a b == .eq) = decide (a = b) := by
  by_cases h : a = b
  · subst h; simp [Std.ReflOrd.compare_self]
  · simp [h, show ¬ compare a b = .eq from fun e => h (Std.LawfulEqOrd.eq_of_compare e)]

/-- After a write the key answers the value written and every other key answers as before. -/
theorem find?_insert [DecidableEq κ] (m : OrderedMap κ α) (k j : κ) (v : α) :
    (m.insert k v).find? j = if k = j then some v else m.find? j := by
  obtain ⟨l, hl⟩ := m
  simp only [insert, find?, compare_beq_eq]
  induction l with
  | nil => by_cases h : k = j <;> simp [insertEntry, h]
  | cons d rest ih =>
    obtain ⟨k', v'⟩ := d
    have ih := ih (List.pairwise_cons.1 hl).2
    simp only [insertEntry]
    split
    case h_1 lt => by_cases h : k = j <;> simp [h]
    case h_2 eq =>
      obtain rfl := Std.LawfulEqOrd.eq_of_compare eq
      by_cases h : k = j <;> simp [h]
    case h_3 gt =>
      have hne : k ≠ k' := by
        rintro rfl
        simp [Std.ReflOrd.compare_self] at gt
      by_cases h' : k' = j
      · subst h'; simp [hne]
      · simpa [h'] using ih

/-- An entry of the list is the answer to its key. -/
theorem find?_eq_some_iff [DecidableEq κ] {m : OrderedMap κ α} {k : κ} {v : α} :
    m.find? k = some v ↔ (k, v) ∈ m.entries := by
  obtain ⟨l, hl⟩ := m
  simp only [find?, compare_beq_eq]
  induction l with
  | nil => simp
  | cons d rest ih =>
    obtain ⟨k', v'⟩ := d
    obtain ⟨first, others⟩ := List.pairwise_cons.1 hl
    by_cases h : k' = k
    · subst h
      have fresh : (k', v) ∉ rest := fun hw => by
        have := first _ hw
        simp [Std.ReflOrd.compare_self] at this
      simp [fresh, eq_comm]
    · simpa [h, Ne.symm h] using ih others

/-- Two ascending lists with the same members are the same list. -/
private theorem entries_eq_of_mem {l r : List (κ × α)}
    (hl : l.Pairwise (fun a b => compare a.1 b.1 = .lt))
    (hr : r.Pairwise (fun a b => compare a.1 b.1 = .lt))
    (h : ∀ e, e ∈ l ↔ e ∈ r) : l = r := by
  induction l generalizing r with
  | nil =>
    cases r with
    | nil => rfl
    | cons b r => exact absurd ((h b).2 (by simp)) (by simp)
  | cons a l ih =>
    cases r with
    | nil => exact absurd ((h a).1 (by simp)) (by simp)
    | cons b r =>
      obtain ⟨fa, ol⟩ := List.pairwise_cons.1 hl
      obtain ⟨fb, or⟩ := List.pairwise_cons.1 hr
      have hab : a = b := by
        rcases List.mem_cons.1 ((h a).1 (by simp)) with e | har
        · exact e
        rcases List.mem_cons.1 ((h b).2 (by simp)) with e | hbl
        · exact e.symm
        have h₁ := fb a har
        have h₂ := fa b hbl
        have := Std.TransCmp.lt_trans h₁ h₂
        rw [Std.ReflOrd.compare_self] at this
        cases this
      subst hab
      congr 1
      apply ih ol or
      intro e
      constructor
      · intro he
        rcases List.mem_cons.1 ((h e).1 (by simp [he])) with rfl | her
        · have := fa _ he
          rw [Std.ReflOrd.compare_self] at this
          cases this
        · exact her
      · intro he
        rcases List.mem_cons.1 ((h e).2 (by simp [he])) with rfl | hel
        · have := fb _ he
          rw [Std.ReflOrd.compare_self] at this
          cases this
        · exact hel

/-- A map is determined by its answers. -/
theorem ext_find? [DecidableEq κ] {m n : OrderedMap κ α} (h : ∀ k, m.find? k = n.find? k) : m = n := by
  apply eq_of_entries
  apply entries_eq_of_mem m.ascending n.ascending
  rintro ⟨k, v⟩
  rw [← find?_eq_some_iff, ← find?_eq_some_iff, h]

/-- The answer of a map built from a list is the last binding of the key. -/
theorem find?_ofList [DecidableEq κ] (l : List (κ × α)) (k : κ) :
    (ofList l).find? k = (l.reverse.find? (fun e => e.1 = k)).map (·.2) := by
  suffices h : ∀ m : OrderedMap κ α,
      (l.foldl (fun m e => m.insert e.1 e.2) m).find? k =
        ((l.reverse.find? (fun e => e.1 = k)).map (·.2)).or (m.find? k) by
    simpa [ofList] using h empty
  induction l with
  | nil => simp
  | cons e l ih =>
    intro m
    rw [List.foldl_cons, ih, find?_insert, List.reverse_cons, List.find?_append]
    cases l.reverse.find? (fun e => decide (e.1 = k)) with
    | some d => simp
    | none => by_cases h : e.1 = k <;> simp [h]

/-- A map is rebuilt from its own entries. -/
theorem ofList_entries [DecidableEq κ] (m : OrderedMap κ α) : ofList m.entries = m := by
  apply ext_find?
  intro k
  rw [find?_ofList]
  cases hm : m.find? k with
  | some v =>
    rw [find?_eq_some_iff] at hm
    cases hf : m.entries.reverse.find? (fun e => decide (e.1 = k)) with
    | none =>
      rw [List.find?_eq_none] at hf
      exact absurd (hf (k, v) (by simpa using hm)) (by simp)
    | some e =>
      obtain ⟨k', v'⟩ := e
      have hmem := List.mem_of_find?_eq_some hf
      have hk := List.find?_some hf
      simp only [decide_eq_true_eq] at hk
      subst hk
      rw [List.mem_reverse, ← find?_eq_some_iff] at hmem
      rw [← find?_eq_some_iff, hmem] at hm
      simpa using hm
  | none =>
    have : m.entries.reverse.find? (fun e => decide (e.1 = k)) = none := by
      rw [List.find?_eq_none]
      rintro ⟨k', v'⟩ he hk
      simp only [decide_eq_true_eq] at hk
      subst hk
      rw [List.mem_reverse, ← find?_eq_some_iff, hm] at he
      cases he
    simp [this]

end Lawful

/-- Change every value in place; the keys and their order stay. -/
def map (f : α → β) (m : OrderedMap κ α) : OrderedMap κ β :=
  ⟨m.entries.map (fun e => (e.1, f e.2)), by
    rw [List.pairwise_map]
    exact m.ascending⟩

end OrderedMap

end TestTelemetry
