/-
Dictionaries in the order of their first writes.

Keys need only be comparable for equality.  The type carries the fact that no
key occurs twice, so the number of entries is the number of keys.

Main statements:
* `Keyed.find?_set`, `Keyed.find?_erase` — what a dictionary answers after a
  write and after a removal.
-/

namespace TestTelemetry

variable {κ α : Type}

/-- A finite dictionary without an order on its keys. -/
structure Keyed (κ α : Type) where
  entries : List (κ × α)
  nodup : (entries.map (·.1)).Nodup

namespace Keyed

variable [DecidableEq κ]

/-- Write one entry: in place when the key is there, else at the end. -/
def setEntry (k : κ) (v : α) : List (κ × α) → List (κ × α)
  | [] => [(k, v)]
  | (k', v') :: rest => if k' = k then (k, v) :: rest else (k', v') :: setEntry k v rest

theorem mem_keys_setEntry {k j : κ} {v : α} {l : List (κ × α)} :
    j ∈ (setEntry k v l).map (·.1) ↔ j = k ∨ j ∈ l.map (·.1) := by
  induction l with
  | nil => simp [setEntry]
  | cons e rest ih =>
    obtain ⟨k', v'⟩ := e
    by_cases h : k' = k
    · simp [setEntry, h]
    · simp only [setEntry, h, if_false, List.map_cons, List.mem_cons, ih]
      grind

theorem setEntry_nodup {k : κ} {v : α} {l : List (κ × α)} (h : (l.map (·.1)).Nodup) :
    ((setEntry k v l).map (·.1)).Nodup := by
  induction l with
  | nil => simp [setEntry]
  | cons e rest ih =>
    obtain ⟨k', v'⟩ := e
    simp only [List.map_cons, List.nodup_cons] at h
    by_cases hk : k' = k
    · subst hk
      simp only [setEntry, if_true, List.map_cons, List.nodup_cons]
      exact h
    · simp only [setEntry, hk, if_false, List.map_cons, List.nodup_cons]
      exact ⟨fun m => (mem_keys_setEntry.1 m).elim (fun e => hk e) h.1, ih h.2⟩

/-- The dictionary without entries. -/
def empty : Keyed κ α := ⟨[], .nil⟩

instance : Inhabited (Keyed κ α) := ⟨⟨[], .nil⟩⟩

def find? (d : Keyed κ α) (k : κ) : Option α :=
  (d.entries.find? (fun e => e.1 = k)).map (·.2)

def set (d : Keyed κ α) (k : κ) (v : α) : Keyed κ α :=
  ⟨setEntry k v d.entries, setEntry_nodup d.nodup⟩

def erase (d : Keyed κ α) (k : κ) : Keyed κ α :=
  ⟨d.entries.filter (fun e => e.1 ≠ k), d.nodup.sublist (List.filter_sublist.map _)⟩

def contains (d : Keyed κ α) (k : κ) : Bool := (d.find? k).isSome

def keys (d : Keyed κ α) : List κ := d.entries.map (·.1)

def values (d : Keyed κ α) : List α := d.entries.map (·.2)

def size (d : Keyed κ α) : Nat := d.entries.length

def isEmpty (d : Keyed κ α) : Bool := d.entries.isEmpty

@[simp]
theorem find?_empty (k : κ) : (empty : Keyed κ α).find? k = none := rfl

theorem find?_set (d : Keyed κ α) (k j : κ) (v : α) :
    (d.set k v).find? j = if k = j then some v else d.find? j := by
  obtain ⟨l, hl⟩ := d
  simp only [set, find?]
  clear hl
  induction l with
  | nil => by_cases h : k = j <;> simp [setEntry, h]
  | cons e rest ih =>
    obtain ⟨k', v'⟩ := e
    by_cases hk : k' = k
    · subst hk
      by_cases h : k' = j <;> simp [setEntry, h]
    · by_cases h' : k' = j
      · subst h'
        simp [setEntry, hk, Ne.symm hk]
      · simpa [setEntry, hk, h'] using ih

theorem find?_erase (d : Keyed κ α) (k j : κ) :
    (d.erase k).find? j = if k = j then none else d.find? j := by
  obtain ⟨l, hl⟩ := d
  simp only [erase, find?]
  clear hl
  induction l with
  | nil => simp
  | cons e rest ih =>
    obtain ⟨k', v'⟩ := e
    by_cases hk : k' = k
    · subst hk
      by_cases h : k' = j
      · subst h; simp
      · simpa [h] using ih
    · by_cases h' : k' = j
      · subst h'
        simp [hk, Ne.symm hk]
      · simpa [hk, h', List.filter_cons] using ih

end Keyed

end TestTelemetry
