/-
What is written is read back.

A decoder undoes a way of writing if it reads every value back from the shape of what was written
of it, in whatever way the text around it is read.  A record is written member by member in the order
of its fields, each of which has a name of its own.

* `Json.Undoes` — the decoder reads back what was written;
* `Json.Undoes.list`, `Json.Undoes.map`, `Json.Undoes.optional` — composed types;
* `Json.Record.Member`, `Json.Record.Writes` — members that fill the fields of a record;
* `Json.Record.Writes.seq` — one more field, `Json.Record.Writes.decoder` — the whole record;
* `Json.tagged_eq` — an object that names its own kind.
-/
import TestTelemetry.Json.Decoder
import TestTelemetry.Proofs.Json.Plain

namespace TestTelemetry.Json

open Decimal (significandMax)

variable {α β κ : Type}

/-- A decoder undoes a way of writing values. -/
def Undoes (d : Decoder α) (write : α → Json) : Prop :=
  ∀ src x, d src (Node.ofJson (write x)) = .ok x

namespace Undoes

/-! ### Types -/

theorem bool : Undoes Decoder.bool .bool := fun src b => by
  rw [Node.ofJson]
  rfl

theorem string : Undoes Decoder.string .str := fun src s => by
  rw [Node.ofJson, Decoder.string, Decoder.chars]
  simp only [unescape_escape]
  exact congrArg Except.ok s.ofList_toList

theorem natUpTo_natural {n max : Nat} (hn : n ≤ significandMax) (hmax : n ≤ max) :
    Decoder.natUpTo max (intText n) = .ok n := by
  rw [Decoder.natUpTo, intText_natural, Decimal.number?_natural hn]
  exact if_pos hmax

theorem uint64 : Undoes Decoder.uint64 fun n => .int n.toNat := fun src n => by
  have hn : n.toNat ≤ significandMax := Nat.le_pred_of_lt n.toNat_lt
  have hread : Decoder.natUpTo (UInt64.size - 1) (intText n.toNat) = .ok n.toNat :=
    natUpTo_natural hn hn
  rw [Node.ofJson, Decoder.uint64, Decoder.nat64, hread]
  exact congrArg Except.ok n.ofNat_toNat

theorem uint32 : Undoes Decoder.uint32 fun n => .int n.toNat := fun src n => by
  have hn : n.toNat ≤ UInt32.size - 1 := Nat.le_pred_of_lt n.toNat_lt
  rw [Node.ofJson, Decoder.uint32, Decoder.nat32,
    natUpTo_natural (Nat.le_trans hn (by decide)) hn]
  exact congrArg Except.ok n.ofNat_toNat

/-- Values that are never written as `null` may be absent. -/
theorem optional {d : Decoder α} {write : α → Json} (h : Undoes d write)
    (hnull : ∀ x, Node.ofJson (write x) ≠ .null) : Undoes d.optional (ofOption write) := by
  intro src x
  cases x with
  | none =>
    rw [ofOption, Node.ofJson]
    rfl
  | some x =>
    rw [ofOption, Decoder.optional, h src x]
    · rfl
    · exact hnull x

theorem items {d : Decoder α} {write : α → Json} (h : Undoes d write) (src : Source)
    (xs : List α) : Decoder.items d src (Node.ofItems (xs.map write)) true = .ok xs := by
  induction xs with
  | nil =>
    rw [List.map_nil, Node.ofItems, Decoder.items]
    rfl
  | cons x xs ih =>
    rw [List.map_cons, Node.ofItems, Decoder.items, h src x, ih]
    rfl

theorem list {d : Decoder α} {write : α → Json} (h : Undoes d write) :
    Undoes d.list fun xs => .arr (xs.map write) := fun src xs => by
  rw [Node.ofJson, Decoder.list, h.items]

theorem bindings {d : Decoder α} {write : α → Json} (h : Undoes d write) (src : Source)
    (l : List (String × α)) :
    Decoder.bindings Decoder.nameKey d src
      (Node.ofMembers (l.map fun e => (e.1, write e.2))) true = .ok l := by
  induction l with
  | nil =>
    rw [List.map_nil, Node.ofMembers, Decoder.bindings]
    rfl
  | cons e l ih =>
    rw [List.map_cons, Node.ofMembers, Decoder.bindings, Decoder.nameKey, name?_written]
    simp only [h src e.2, ih]
    rfl

/-- A map is rebuilt from its own entries. -/
theorem map {d : Decoder α} {write : α → Json} (h : Undoes d write) :
    Undoes (Decoder.map Decoder.nameKey d) fun m : OrderedMap String α =>
      .obj (m.entries.map fun e => (e.1, write e.2)) := fun src m => by
  rw [Node.ofJson, Decoder.map, h.bindings]
  exact congrArg Except.ok m.ofList_entries

end Undoes

/-! ### Records -/

namespace Record

/-- Members are put into the fields of a record; every one of them goes to a field and is read. -/
inductive Puts (r : Record α) (src : Source) : List (String × Json) → r.Slots → r.Slots → Prop
  | nil (s : r.Slots) : Puts r src [] s s
  | cons {name : String} {v : Json} {ms : List (String × Json)} {s s' s'' : r.Slots}
      (now : r.put src name (Node.ofJson v) s = some (.ok s')) (rest : Puts r src ms s' s'') :
      Puts r src ((name, v) :: ms) s s''

/-- A record has no field of a name. -/
def Lacks (r : Record α) (name : String) : Prop := ∀ src n s, r.put src name n s = none

/-- Members fill the fields of a record, which have these names, and make a value. -/
structure Writes (r : Record α) (src : Source) (names : List String) (ms : List (String × Json))
    (x : α) : Prop where
  filled : ∃ s, Puts r src ms r.empty s ∧ r.finish s = .ok x
  lacks : ∀ name, name ∉ names → r.Lacks name

/-- Members of one name fill a record with one field. -/
structure Member (r : Record α) (src : Source) (name : String) (ms : List (String × Json))
    (x : α) : Prop where
  filled : ∃ s, Puts r src ms r.empty s ∧ r.finish s = .ok x
  named : ∀ m ∈ ms, m.1 = name
  lacks : ∀ other, other ≠ name → r.Lacks other

variable {src : Source} {ms ms' : List (String × Json)} {name : String} {names : List String}
  {x : α}

theorem Puts.append {r : Record α} {s s' s'' : r.Slots} (h : Puts r src ms s s')
    (h' : Puts r src ms' s' s'') : Puts r src (ms ++ ms') s s'' := by
  induction h with
  | nil s => exact h'
  | cons now rest ih => exact .cons now (ih h')

section Seq

variable {f : Record (α → β)} {r : Record α} {s s' : f.Slots} {t t' : r.Slots}

/-- A member goes to the second record if the first has no field for it. -/
theorem put_seq (f : Record (α → β)) (r : Record α) (src : Source) (name : String) (n : Node)
    (s : f.Slots) (t : r.Slots) :
    Record.put (f <*> r) src name n (s, t) =
      match f.put src name n s with
      | some read => some (read.map (·, t))
      | none => (r.put src name n t).map fun read => read.map (s, ·) := rfl

/-- Members of the first record go to it. -/
theorem Puts.seq_left (h : Puts f src ms s s') (t : r.Slots) :
    Puts (f <*> r) src ms (s, t) (s', t) := by
  induction h with
  | nil s => exact .nil (r := f <*> r) (s, t)
  | cons now rest ih =>
    refine Puts.cons (r := f <*> r) ?_ ih
    rw [put_seq, now]
    rfl

/-- Members that the first record lacks go to the second. -/
theorem Puts.seq_right (h : Puts r src ms t t') (s : f.Slots)
    (hlacks : ∀ m ∈ ms, f.Lacks m.1) : Puts (f <*> r) src ms (s, t) (s, t') := by
  induction h with
  | nil t => exact .nil (r := f <*> r) (s, t)
  | cons now rest ih =>
    obtain ⟨hm, hms⟩ := List.forall_mem_cons.mp hlacks
    refine Puts.cons (r := f <*> r) ?_ (ih hms)
    rw [put_seq, hm, now]
    rfl

theorem lacks_seq (hf : f.Lacks name) (hr : r.Lacks name) : Record.Lacks (f <*> r) name := by
  intro src n s
  refine (put_seq f r src name n s.1 s.2).trans ?_
  rw [hf, hr]
  rfl

theorem filled_seq {g : α → β} (hf : ∃ s, Puts f src ms f.empty s ∧ f.finish s = .ok g)
    (hr : ∃ t, Puts r src ms' r.empty t ∧ r.finish t = .ok x) (hlacks : ∀ m ∈ ms', f.Lacks m.1) :
    ∃ s, Puts (f <*> r) src (ms ++ ms') (f <*> r : Record β).empty s ∧
      Record.finish (f <*> r) s = .ok (g x) := by
  obtain ⟨s, hs, hg⟩ := hf
  obtain ⟨t, ht, hx⟩ := hr
  refine ⟨(s, t), (hs.seq_left r.empty).append (ht.seq_right s hlacks), ?_⟩
  simp only [Seq.seq, Record.seq, hg, hx]
  rfl

/-- One more field, with a name of its own. -/
theorem Writes.seq {g : α → β} (hf : f.Writes src names ms g) (hr : r.Member src name ms' x)
    (hfresh : name ∉ names) : Record.Writes (f <*> r) src (name :: names) (ms ++ ms') (g x) := by
  refine ⟨filled_seq hf.filled hr.filled fun m hm => ?_, fun other hother => ?_⟩
  · rw [hr.named m hm]
    exact hf.lacks name hfresh
  · rw [List.mem_cons, not_or] at hother
    exact lacks_seq (hf.lacks other hother.2) (hr.lacks other hother.1)

end Seq

theorem Writes.pure (x : α) : Record.Writes (pure x) src [] [] x :=
  ⟨⟨(), .nil (r := Pure.pure x) (), rfl⟩, fun _ _ _ _ _ => rfl⟩

theorem Writes.map {r : Record α} (g : α → β) (h : r.Writes src names ms x) :
    Record.Writes (g <$> r) src names ms (g x) :=
  ⟨filled_seq (Writes.pure g).filled h.filled fun _ _ _ _ _ => rfl,
    fun name hname => lacks_seq (f := Pure.pure g) (fun _ _ _ => rfl) (h.lacks name hname)⟩

/-- The first field. -/
theorem Writes.first {r : Record α} (src : Source) (g : α → β) (h : r.Member src name ms x) :
    Record.Writes (g <$> r) src [name] ms (g x) :=
  .map g ⟨h.filled, fun other hother => h.lacks other (by simpa using hother)⟩

/-! ### Fields -/

/-- A field that is written. -/
theorem Member.ofField {f : Field α} {v : Json} (h : f.decode src (Node.ofJson v) = .ok x) :
    Member (Record.ofField f) src f.name [(f.name, v)] x := by
  refine ⟨⟨some x, .cons ?_ (.nil _), rfl⟩, fun m hm => ?_, fun other hother _ _ _ => if_neg hother⟩
  · show (if f.name = f.name then some ((f.decode src _).map some) else none) = _
    rw [if_pos rfl, h]
    rfl
  · rw [List.mem_singleton.mp hm]

/-- A field that is left out, since that is how its value is written. -/
theorem Member.absent {f : Field α} (h : f.absent = some x) :
    Member (Record.ofField f) src f.name [] x := by
  refine ⟨⟨none, .nil _, ?_⟩, fun m hm => absurd hm List.not_mem_nil,
    fun other hother _ _ _ => if_neg hother⟩
  simp only [Record.ofField, h]

theorem Member.required {d : Decoder α} {write : α → Json} (h : Undoes d write) (name : String)
    (x : α) : (required name d).Member src name [(name, write x)] x :=
  .ofField (f := ⟨name, d, none, none⟩) (h src x)

theorem Member.withDefault {d : Decoder α} {write : α → Json} (h : Undoes d write) (name : String)
    (otherwise x : α) : (withDefault name d otherwise).Member src name [(name, write x)] x :=
  .ofField (f := ⟨name, d, some otherwise, some otherwise⟩) (h src x)

/-- A member that is `null` when its value is absent. -/
theorem Member.nullable {d : Decoder α} {write : α → Json} (h : Undoes d write)
    (hnull : ∀ x, Node.ofJson (write x) ≠ .null) (name : String) (x : Option α) :
    (optional name d).Member src name [(name, Json.ofOption write x)] x :=
  .ofField (f := ⟨name, d.optional, some none, some none⟩) (h.optional hnull src x)

/-- A member that is left out when its value is absent. -/
theorem Member.optional {d : Decoder α} {write : α → Json} (h : Undoes d write)
    (hnull : ∀ x, Node.ofJson (write x) ≠ .null) (name : String) (x : Option α) :
    (optional name d).Member src name (Json.optionalMember name write x) x := by
  cases x with
  | none => exact .absent (f := ⟨name, d.optional, some none, some none⟩) rfl
  | some x => exact .nullable h hnull name (some x)

/-! ### Whole records -/

theorem Puts.readMembers {r : Record α} {s s' : r.Slots} (h : Puts r src ms s s') (stray : Stray) :
    r.readMembers stray src (Node.ofMembers ms) s = .ok s' := by
  induction h with
  | nil s => rw [Node.ofMembers, Record.readMembers]
  | cons now rest ih =>
    rw [Node.ofMembers, Record.readMembers, Decoder.nameKey, name?_written]
    simp only [now, ih]

/-- **A record is read back from the members that fill its fields.** -/
theorem Writes.decoder {r : Record α} (h : r.Writes src names ms x) :
    r.decoder src (Node.ofJson (.obj ms)) = .ok x := by
  obtain ⟨⟨s, hs, hx⟩, -⟩ := h
  rw [Node.ofJson, Record.decoder, decoderWith, hs.readMembers]
  exact hx

end Record

/-! ### Kinds -/

/-- **An object that names its kind is read as that kind reads the other members.** -/
theorem tagged_eq {tag name : String} {kinds : String → Option (Decoder α)} {d : Decoder α}
    {ms : List (String × Json)} (hkind : kinds name = some d) (hfresh : ∀ m ∈ ms, m.1 ≠ tag)
    (hplain : plainMembers (maxDepth - 1) ms = true) (src : Source) :
    tagged tag kinds src (Node.ofJson (.obj ((tag, .str name) :: ms))) =
      d .buffer (Node.ofJson (.obj ms)) := by
  have htag : tagValue kinds (Node.ofJson (.str name)) = .ok d := by
    rw [tagValue, Undoes.string .stream name]
    simp only [hkind]
  have hrest : splitTag tag kinds (Node.ofMembers ms) (some d) =
      .ok (some d, Node.ofMembers ms) := by
    clear hkind htag
    induction ms with
    | nil => rw [Node.ofMembers, splitTag]
    | cons m ms ih =>
      obtain ⟨hm, hms⟩ := List.forall_mem_cons.mp hfresh
      rw [plainMembers, Bool.and_eq_true] at hplain
      rw [Node.ofMembers, splitTag, Decoder.nameKey, name?_written]
      simp only [hm, if_false, sound_ofJson m.2 hplain.1, if_true, ih hms hplain.2]
      rfl
  rw [Node.ofJson, Node.ofMembers, tagged, splitTag, Decoder.nameKey, name?_written]
  simp only [if_true, htag, hrest]
  rw [Node.ofJson]
  rfl

end TestTelemetry.Json
