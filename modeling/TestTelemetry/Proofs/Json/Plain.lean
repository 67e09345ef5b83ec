/-
Values without fractions and negative numbers.

Whatever a program writes down of its own is of this kind.  It can be kept for later, since it is
readable all through, and its text holds no control character, hence no newline.

* `Json.plain` — no number but natural ones of 64 bits, and a bounded nesting;
* `Json.plainItems_iff`, `Json.plainMembers_iff` — lists of such values;
* `Json.sound_ofJson` — their shapes are sound;
* `Json.control_not_mem_compact` — their texts hold no control characters.
-/
import TestTelemetry.Proofs.Decimal.Natural
import TestTelemetry.Proofs.Json.Escape

namespace TestTelemetry.Json

open Decimal (significandMax)

mutual

/-- No number but natural ones of 64 bits, and at most `depth` levels of nesting. -/
def plain (depth : Nat) : Json → Bool
  | null => true
  | bool _ => true
  | int n => 0 ≤ n && n.toNat ≤ significandMax
  | float _ => false
  | str _ => true
  | arr items => depth != 0 && plainItems (depth - 1) items
  | obj members => depth != 0 && plainMembers (depth - 1) members

def plainItems (depth : Nat) : List Json → Bool
  | [] => true
  | v :: vs => plain depth v && plainItems depth vs

def plainMembers (depth : Nat) : List (String × Json) → Bool
  | [] => true
  | (_, v) :: ms => plain depth v && plainMembers depth ms

end

theorem intText_natural (n : Nat) : intText n = Nat.toDigits 10 n := by
  rw [intText, if_neg (by omega)]
  rfl

/-- A plain integer is a natural number of 64 bits. -/
theorem plain_int {depth : Nat} {n : Int} (h : plain depth (int n) = true) :
    ∃ m : Nat, n = m ∧ m ≤ significandMax := by
  rw [plain, Bool.and_eq_true, decide_eq_true_eq, decide_eq_true_eq] at h
  exact ⟨n.toNat, (Int.toNat_of_nonneg h.1).symm, h.2⟩

theorem plain_nat {depth n : Nat} (h : n ≤ significandMax) : plain depth (int n) = true := by
  rw [plain, Bool.and_eq_true, decide_eq_true_eq, decide_eq_true_eq]
  exact ⟨Int.natCast_nonneg n, h⟩

theorem plainItems_iff {depth : Nat} {vs : List Json} :
    plainItems depth vs = true ↔ ∀ v ∈ vs, plain depth v = true := by
  induction vs with
  | nil => simp [plainItems]
  | cons v vs ih => rw [plainItems, Bool.and_eq_true, ih, List.forall_mem_cons]

theorem plainMembers_iff {depth : Nat} {ms : List (String × Json)} :
    plainMembers depth ms = true ↔ ∀ m ∈ ms, plain depth m.2 = true := by
  induction ms with
  | nil => simp [plainMembers]
  | cons m ms ih => rw [plainMembers, Bool.and_eq_true, ih, List.forall_mem_cons]

@[simp]
theorem plain_str (depth : Nat) (s : String) : plain depth (str s) = true := by rw [plain]

@[simp]
theorem plain_bool (depth : Nat) (b : Bool) : plain depth (bool b) = true := by rw [plain]

@[simp]
theorem plain_arr (depth : Nat) (vs : List Json) :
    plain (depth + 1) (arr vs) = plainItems depth vs := by
  rw [plain, bne_iff_ne.mpr (Nat.succ_ne_zero depth), Bool.true_and, Nat.add_sub_cancel]

@[simp]
theorem plain_obj (depth : Nat) (ms : List (String × Json)) :
    plain (depth + 1) (obj ms) = plainMembers depth ms := by
  rw [plain, bne_iff_ne.mpr (Nat.succ_ne_zero depth), Bool.true_and, Nat.add_sub_cancel]

section Composed

variable {α : Type} {depth : Nat} {write : α → Json}

theorem plainItems_map (h : ∀ x, plain depth (write x) = true) (l : List α) :
    plainItems depth (l.map write) = true :=
  plainItems_iff.mpr (List.forall_mem_map.mpr fun x _ => h x)

theorem plainMembers_map (h : ∀ x, plain depth (write x) = true) (l : List (String × α)) :
    plainMembers depth (l.map fun e => (e.1, write e.2)) = true :=
  plainMembers_iff.mpr (List.forall_mem_map.mpr fun e _ => h e.2)

theorem plain_ofOption (h : ∀ x, plain depth (write x) = true) (x : Option α) :
    plain depth (ofOption write x) = true := by
  cases x with
  | none => rw [ofOption, plain]
  | some x => exact h x

theorem plainMembers_append {ms ms' : List (String × Json)} :
    plainMembers depth (ms ++ ms') = (plainMembers depth ms && plainMembers depth ms') := by
  rw [Bool.eq_iff_iff, Bool.and_eq_true, plainMembers_iff, plainMembers_iff, plainMembers_iff,
    List.forall_mem_append]

theorem plainMembers_optionalMember (h : ∀ x, plain depth (write x) = true) (name : String)
    (x : Option α) : plainMembers depth (optionalMember name write x) = true := by
  cases x with
  | none => rw [optionalMember, plainMembers]
  | some x => rw [optionalMember, plainMembers, plainMembers, h, Bool.true_and]

end Composed

/-! ### Shapes -/

/-- The key of a written member has the member's name. -/
theorem name?_written (name : String) : Key.name? ⟨escape name.toList, true⟩ = some name := by
  rw [Key.name?, if_pos rfl, unescape_escape, Option.map_some, String.ofList_toList]

mutual

/-- The shape of a plain value is sound. -/
theorem sound_ofJson {depth : Nat} :
    ∀ v : Json, plain depth v = true → (Node.ofJson v).sound depth = true
  | null, _ => by simp only [Node.ofJson, Node.sound]
  | bool b, _ => by simp only [Node.ofJson, Node.sound]
  | int n, h => by
    obtain ⟨m, rfl, hm⟩ := plain_int h
    rw [Node.ofJson, intText_natural, Node.sound, Decimal.number?_natural hm]
    rfl
  | float x, h => by rw [plain] at h; cases h
  | str s, _ => by
    rw [Node.ofJson, Node.sound, unescape_escape]
    rfl
  | arr items, h => by
    rw [plain, Bool.and_eq_true] at h
    rw [Node.ofJson, Node.sound, h.1, sound_ofItems items h.2]
    rfl
  | obj members, h => by
    rw [plain, Bool.and_eq_true] at h
    rw [Node.ofJson, Node.sound, h.1, sound_ofMembers members h.2]
    rfl

theorem sound_ofItems {depth : Nat} :
    ∀ vs : List Json, plainItems depth vs = true → Node.soundItems depth (Node.ofItems vs) = true
  | [], _ => by rw [Node.ofItems, Node.soundItems]
  | v :: vs, h => by
    rw [plainItems, Bool.and_eq_true] at h
    rw [Node.ofItems, Node.soundItems, sound_ofJson v h.1, sound_ofItems vs h.2]
    rfl

theorem sound_ofMembers {depth : Nat} :
    ∀ ms : List (String × Json), plainMembers depth ms = true →
      Node.soundMembers depth (Node.ofMembers ms) = true
  | [], _ => by rw [Node.ofMembers, Node.soundMembers]
  | (k, v) :: ms, h => by
    rw [plainMembers, Bool.and_eq_true] at h
    rw [Node.ofMembers, Node.soundMembers, name?_written, sound_ofJson v h.1,
      sound_ofMembers ms h.2]
    rfl

end

/-! ### Texts -/

theorem le_of_mem_of_all {cs : List Char} {c : Char} (h : cs.all (32 ≤ ·.toNat) = true)
    (hc : c ∈ cs) : 32 ≤ c.toNat :=
  of_decide_eq_true (List.all_eq_true.mp h c hc)

theorem control_not_mem_quote {s : String} {c : Char} (h : c ∈ quote s) : 32 ≤ c.toNat := by
  rw [quote, List.cons_append, List.mem_cons, List.mem_append, List.mem_singleton] at h
  rcases h with rfl | h | rfl
  · decide
  · exact control_not_mem_escape h
  · decide

mutual

/-- The text of a plain value holds no control character. -/
theorem control_not_mem_compact {depth : Nat} {c : Char} :
    ∀ v : Json, plain depth v = true → c ∈ compact v → 32 ≤ c.toNat
  | null, _, hc => by
    rw [compact] at hc
    exact le_of_mem_of_all (by decide) hc
  | bool true, _, hc => by
    rw [compact] at hc
    exact le_of_mem_of_all (by decide) hc
  | bool false, _, hc => by
    rw [compact] at hc
    exact le_of_mem_of_all (by decide) hc
  | int n, h, hc => by
    obtain ⟨m, rfl, -⟩ := plain_int h
    rw [compact, intText_natural] at hc
    have hdigit := Decimal.isDigit_of_mem hc
    rw [Char.isDigit, Bool.and_eq_true, decide_eq_true_eq] at hdigit
    exact Nat.le_trans (by decide) (UInt32.le_iff_toNat_le.mp hdigit.1)
  | float x, h, _ => by rw [plain] at h; cases h
  | str s, _, hc => by rw [compact] at hc; exact control_not_mem_quote hc
  | arr [], _, hc => by
    rw [compact] at hc
    exact le_of_mem_of_all (by decide) hc
  | arr (v :: vs), h, hc => by
    rw [plain, plainItems, Bool.and_eq_true, Bool.and_eq_true] at h
    simp only [compact, List.cons_append, List.mem_cons, List.mem_append, List.not_mem_nil,
      or_false, or_assoc] at hc
    rcases hc with rfl | hc | hc | rfl
    · decide
    · exact control_not_mem_compact v h.2.1 hc
    · exact control_not_mem_compactItems vs h.2.2 hc
    · decide
  | obj [], _, hc => by
    rw [compact] at hc
    exact le_of_mem_of_all (by decide) hc
  | obj ((k, v) :: ms), h, hc => by
    rw [plain, plainMembers, Bool.and_eq_true, Bool.and_eq_true] at h
    simp only [compact, List.cons_append, List.mem_cons, List.mem_append, List.not_mem_nil,
      or_false, or_assoc] at hc
    rcases hc with rfl | hc | rfl | hc | hc | rfl
    · decide
    · exact control_not_mem_quote hc
    · decide
    · exact control_not_mem_compact v h.2.1 hc
    · exact control_not_mem_compactMembers ms h.2.2 hc
    · decide

theorem control_not_mem_compactItems {depth : Nat} {c : Char} :
    ∀ vs : List Json, plainItems depth vs = true → c ∈ compactItems vs → 32 ≤ c.toNat
  | [], _, hc => by rw [compactItems] at hc; cases hc
  | v :: vs, h, hc => by
    rw [plainItems, Bool.and_eq_true] at h
    simp only [compactItems, List.cons_append, List.mem_cons, List.mem_append] at hc
    rcases hc with rfl | hc | hc
    · decide
    · exact control_not_mem_compact v h.1 hc
    · exact control_not_mem_compactItems vs h.2 hc

theorem control_not_mem_compactMembers {depth : Nat} {c : Char} :
    ∀ ms : List (String × Json), plainMembers depth ms = true → c ∈ compactMembers ms → 32 ≤ c.toNat
  | [], _, hc => by rw [compactMembers] at hc; cases hc
  | (k, v) :: ms, h, hc => by
    rw [plainMembers, Bool.and_eq_true] at h
    simp only [compactMembers, List.cons_append, List.mem_cons, List.mem_append, or_assoc] at hc
    rcases hc with rfl | hc | rfl | hc | hc
    · decide
    · exact control_not_mem_quote hc
    · decide
    · exact control_not_mem_compact v h.1 hc
    · exact control_not_mem_compactMembers ms h.2 hc

end

end TestTelemetry.Json
