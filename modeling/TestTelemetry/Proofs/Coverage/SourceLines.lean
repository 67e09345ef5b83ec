/-
The lines of the source files.

Classes of one source file share its lines, and of the covered counts that they have for a line the
greatest is kept.  So the order of the classes does not matter.

* `CoverageBundle.CountsLine` — what some class of a source file counts for a line;
* `find?_hitsBySource` — the lines of a source file are gathered from its own classes;
* `hitsBySource_perm` — classes in another order have the same lines;
* `TraceRecord.Tells`, `traceRecords_tell` — the records have the sources of the classes in the
  order of their bytes, with the greatest counts of their lines.
-/
import TestTelemetry.Proofs.Data.OrderedMap
import TestTelemetry.Proofs.Text.ByteOrder
import TestTelemetry.Coverage.Report
import Mathlib.Data.List.Induction
import Mathlib.Order.Bounds.Basic

namespace TestTelemetry

variable {index : Option RepoIndex} {classes classes' : List ClassCoverage} {source : String}

/-- A class of a source file has a line, and so many instructions on it are covered. -/
def CoverageBundle.CountsLine (b : CoverageBundle) (index : Option RepoIndex) (source : String)
    (line count : Nat) : Prop :=
  ∃ c ∈ b.classes, resolveSource index c = some source ∧
    ∃ e ∈ c.lines.entries, e.1.toNat = line ∧ e.2.covered = count

/-! ### The greatest count of a line -/

/-- Raise the count of a line to that of an entry. -/
def raiseLine (held : OrderedMap UInt32 Nat) (e : UInt32 × Counter) : OrderedMap UInt32 Nat :=
  held.insert e.1 (max ((held.find? e.1).getD 0) e.2.covered)

theorem foldl_raiseLines (classes : List ClassCoverage) (held : OrderedMap UInt32 Nat) :
    classes.foldl raiseLines held = (classes.flatMap (·.lines.entries)).foldl raiseLine held := by
  rw [List.foldl_flatMap]
  rfl

/-- The counts that some entries have for a line. -/
def countsOf (es : List (UInt32 × Counter)) (line : UInt32) : Set Nat :=
  {n | ∃ v, (line, v) ∈ es ∧ v.covered = n}

theorem mem_countsOf {es : List (UInt32 × Counter)} {line : UInt32} {n : Nat} :
    n ∈ countsOf es line ↔ ∃ v, (line, v) ∈ es ∧ v.covered = n := .rfl

theorem countsOf_concat_self (es : List (UInt32 × Counter)) (line : UInt32) (v : Counter) :
    countsOf (es ++ [(line, v)]) line = insert v.covered (countsOf es line) := by
  ext n
  simp only [mem_countsOf, Set.mem_insert_iff, List.mem_append, List.mem_singleton]
  constructor
  · rintro ⟨w, hw | hw, rfl⟩
    · exact .inr ⟨w, hw, rfl⟩
    · exact .inl (congrArg (·.2.covered) hw)
  · rintro (rfl | ⟨w, hw, rfl⟩)
    · exact ⟨v, .inr rfl, rfl⟩
    · exact ⟨w, .inl hw, rfl⟩

theorem countsOf_concat_of_ne {es : List (UInt32 × Counter)} {line : UInt32}
    {e : UInt32 × Counter} (h : e.1 ≠ line) : countsOf (es ++ [e]) line = countsOf es line := by
  ext n
  simp only [mem_countsOf, List.mem_append, List.mem_singleton]
  constructor
  · rintro ⟨w, hw | rfl, rfl⟩
    · exact ⟨w, hw, rfl⟩
    · exact absurd rfl h
  · rintro ⟨w, hw, rfl⟩
    exact ⟨w, .inl hw, rfl⟩

/-- A line that no entry has is not held, and of the counts of any other the greatest is. -/
theorem greatest_raiseLine (es : List (UInt32 × Counter)) (line : UInt32) :
    ((es.foldl raiseLine .empty).find? line).elim (countsOf es line = ∅)
      (IsGreatest (countsOf es line)) := by
  induction es using List.reverseRecOn with
  | nil => exact Set.eq_empty_of_forall_notMem fun n ⟨v, hv, _⟩ => absurd hv List.not_mem_nil
  | append_singleton es e ih =>
    rw [List.foldl_concat, raiseLine, OrderedMap.find?_insert]
    by_cases hline : e.1 = line
    · obtain ⟨l, v⟩ := e
      obtain rfl : l = line := hline
      rw [if_pos rfl, countsOf_concat_self]
      cases hfound : (es.foldl raiseLine .empty).find? l with
      | none =>
        rw [hfound] at ih
        have hempty : countsOf es l = ∅ := ih
        rw [hempty, insert_empty_eq]
        show IsGreatest {v.covered} (max 0 v.covered)
        rw [Nat.zero_max]
        exact isGreatest_singleton
      | some n =>
        rw [hfound] at ih
        show IsGreatest (insert v.covered (countsOf es l)) (max n v.covered)
        rw [Nat.max_comm]
        exact IsGreatest.insert v.covered ih
    · rwa [if_neg hline, countsOf_concat_of_ne hline]

theorem find?_raiseLine_eq_some_iff {es : List (UInt32 × Counter)} {line : UInt32} {n : Nat} :
    (es.foldl raiseLine .empty).find? line = some n ↔ IsGreatest (countsOf es line) n := by
  have hgreatest := greatest_raiseLine es line
  cases hfound : (es.foldl raiseLine .empty).find? line with
  | none =>
    rw [hfound] at hgreatest
    have hempty : countsOf es line = ∅ := hgreatest
    rw [hempty]
    exact ⟨nofun, fun h => absurd h.1 (Set.notMem_empty n)⟩
  | some m =>
    rw [hfound] at hgreatest
    exact ⟨fun h => Option.some_inj.mp h ▸ hgreatest, fun h => congrArg some (hgreatest.unique h)⟩

theorem exists_find?_raiseLine {es : List (UInt32 × Counter)} {line : UInt32} {n : Nat}
    (h : n ∈ countsOf es line) : ∃ m, (es.foldl raiseLine .empty).find? line = some m := by
  have hgreatest := greatest_raiseLine es line
  cases hfound : (es.foldl raiseLine .empty).find? line with
  | none =>
    rw [hfound] at hgreatest
    have hempty : countsOf es line = ∅ := hgreatest
    exact absurd (hempty ▸ h) (Set.notMem_empty n)
  | some m => exact ⟨m, rfl⟩

/-- The order of the entries does not matter. -/
theorem foldl_raiseLine_perm {es es' : List (UInt32 × Counter)} (h : es.Perm es') :
    es.foldl raiseLine .empty = es'.foldl raiseLine .empty := by
  have hcounts : ∀ line, countsOf es line = countsOf es' line := fun line => by
    simp only [countsOf, h.mem_iff]
  refine OrderedMap.ext_find? fun line => Option.ext fun n => ?_
  rw [find?_raiseLine_eq_some_iff, find?_raiseLine_eq_some_iff, hcounts]

/-! ### The classes of a source file -/

/-- The classes of a source file. -/
def classesOf (index : Option RepoIndex) (classes : List ClassCoverage) (source : String) :
    List ClassCoverage :=
  classes.filter fun c => resolveSource index c = some source

theorem mem_classesOf {c : ClassCoverage} :
    c ∈ classesOf index classes source ↔ c ∈ classes ∧ resolveSource index c = some source := by
  rw [classesOf, List.mem_filter, decide_eq_true_iff]

theorem classesOf_concat (index : Option RepoIndex) (classes : List ClassCoverage)
    (c : ClassCoverage) (source : String) :
    classesOf index (classes ++ [c]) source =
      if resolveSource index c = some source then classesOf index classes source ++ [c]
      else classesOf index classes source := by
  rw [classesOf, List.filter_append, List.filter_singleton]
  split
  case isTrue h => rw [decide_eq_true h]; rfl
  case isFalse h => rw [decide_eq_false h]; exact List.append_nil _

/-- The lines of a source file are gathered from its own classes. -/
theorem find?_hitsBySource (index : Option RepoIndex) (classes : List ClassCoverage)
    (source : String) :
    (hitsBySource index classes).find? source =
      if classesOf index classes source = [] then none
      else some ((classesOf index classes source).foldl raiseLines .empty) := by
  induction classes using List.reverseRecOn with
  | nil => rfl
  | append_singleton classes c ih =>
    rw [hitsBySource, List.foldl_concat, ← hitsBySource, classesOf_concat]
    cases hc : resolveSource index c with
    | none =>
      rw [if_neg (nofun : ¬ none = some source)]
      exact ih
    | some own =>
      show ((hitsBySource index classes).insert own
        (raiseLines (((hitsBySource index classes).find? own).getD .empty) c)).find? source = _
      rw [OrderedMap.find?_insert]
      by_cases hown : own = source
      · subst hown
        rw [if_pos rfl, if_pos rfl, if_neg (by simp), List.foldl_concat, ih]
        split
        case isTrue hnil => rw [hnil]; rfl
        case isFalse => rfl
      · rw [if_neg hown, if_neg fun h => hown (Option.some_inj.mp h), ih]

/-- A source file is listed if it has a class. -/
theorem mem_keys_hitsBySource : source ∈ (hitsBySource index classes).keys ↔
    ∃ c ∈ classes, resolveSource index c = some source := by
  rw [OrderedMap.mem_keys_iff, find?_hitsBySource]
  split
  case isTrue hnil =>
    refine ⟨nofun, fun ⟨c, hc, hsource⟩ => ?_⟩
    have hmem := mem_classesOf.mpr ⟨hc, hsource⟩
    rw [hnil] at hmem
    cases hmem
  case isFalse hne =>
    obtain ⟨c, hc⟩ := List.exists_mem_of_ne_nil _ hne
    exact ⟨fun _ => ⟨c, mem_classesOf.mp hc⟩, fun _ => ⟨_, rfl⟩⟩

/-- The lines of a source file that is listed. -/
theorem lines_hitsBySource {lines : OrderedMap UInt32 Nat}
    (h : (source, lines) ∈ (hitsBySource index classes).entries) :
    lines = ((classesOf index classes source).flatMap (·.lines.entries)).foldl raiseLine .empty := by
  have hfound := OrderedMap.find?_eq_some_iff.mpr h
  rw [find?_hitsBySource] at hfound
  obtain ⟨-, heq⟩ := Option.ite_none_left_eq_some.mp hfound
  rw [← foldl_raiseLines]
  exact (Option.some_inj.mp heq).symm

/-- Classes in another order have the same lines. -/
theorem hitsBySource_perm (h : classes.Perm classes') :
    hitsBySource index classes = hitsBySource index classes' := by
  refine OrderedMap.ext_find? fun source => ?_
  have hclasses : (classesOf index classes source).Perm (classesOf index classes' source) :=
    h.filter _
  have hlines := foldl_raiseLine_perm (hclasses.flatMap_right (·.lines.entries))
  have hnil : classesOf index classes source = [] ↔ classesOf index classes' source = [] :=
    ⟨fun hnil => List.nil_perm.mp (hnil ▸ hclasses), fun hnil => List.perm_nil.mp (hnil ▸ hclasses)⟩
  simp only [find?_hitsBySource, foldl_raiseLines, hlines, hnil]

/-! ### The records -/

/-- A record tells the lines of a source file: exactly those that its classes have, in ascending
order, each with the greatest count that one of them has for it. -/
structure TraceRecord.Tells (r : TraceRecord) (b : CoverageBundle) (index : Option RepoIndex)
    (root : Path) (source : String) : Prop where
  path : r.path = (Path.join root source).display
  ascending : r.lines.Pairwise fun l m => l.1 < m.1
  lines : ∀ n, (∃ k, (n, k) ∈ r.lines) ↔ ∃ k, b.CountsLine index source n k
  greatest : ∀ n k, (n, k) ∈ r.lines → IsGreatest {x | b.CountsLine index source n x} k

/-- A line of a record is positive if a class of the source file covers it. -/
theorem TraceRecord.Tells.exists_pos_iff {r : TraceRecord} {b : CoverageBundle} {root : Path}
    (h : r.Tells b index root source) (n : Nat) :
    (∃ k, (n, k) ∈ r.lines ∧ 0 < k) ↔ ∃ k, b.CountsLine index source n k ∧ 0 < k := by
  constructor
  · rintro ⟨k, hk, hpos⟩
    exact ⟨k, (h.greatest n k hk).1, hpos⟩
  · rintro ⟨k, hk, hpos⟩
    obtain ⟨m, hm⟩ := (h.lines n).mpr ⟨k, hk⟩
    exact ⟨m, hm, Nat.lt_of_lt_of_le hpos ((h.greatest n m hm).2 hk)⟩

/-- What the classes of a source file count for a line, by the number of the line. -/
theorem CoverageBundle.countsLine_iff {b : CoverageBundle} {line : UInt32} {count : Nat} :
    b.CountsLine index source line.toNat count ↔
      count ∈ countsOf ((classesOf index b.classes source).flatMap (·.lines.entries)) line := by
  simp only [CountsLine, mem_countsOf, List.mem_flatMap, mem_classesOf]
  constructor
  · rintro ⟨c, hc, hsource, ⟨l, v⟩, he, hline, rfl⟩
    obtain rfl : l = line := UInt32.toNat_inj.mp hline
    exact ⟨v, ⟨c, ⟨hc, hsource⟩, he⟩, rfl⟩
  · rintro ⟨v, ⟨c, ⟨hc, hsource⟩, he⟩, rfl⟩
    exact ⟨c, hc, hsource, (line, v), he, rfl, rfl⟩

/-- The lines of one record. -/
theorem tells_of_mem_hitsBySource {b : CoverageBundle} {lines : OrderedMap UInt32 Nat}
    (h : (source, lines) ∈ (hitsBySource index b.classes).entries) (root : Path) :
    TraceRecord.Tells ⟨(Path.join root source).display, lines.entries.map fun l => (l.1.toNat, l.2)⟩
      b index root source where
  path := rfl
  ascending := by
    rw [List.pairwise_map]
    exact lines.ascending.imp fun {a b} hlt => compareOfLessAndEq_eq_lt.mp hlt
  lines n := by
    obtain rfl := lines_hitsBySource h
    constructor
    · rintro ⟨k, hk⟩
      obtain ⟨⟨l, m⟩, hl, heq⟩ := List.mem_map.mp hk
      obtain ⟨rfl, rfl⟩ := Prod.mk.inj heq
      have hgreatest := find?_raiseLine_eq_some_iff.mp (OrderedMap.find?_eq_some_iff.mpr hl)
      exact ⟨m, CoverageBundle.countsLine_iff.mpr hgreatest.1⟩
    · rintro ⟨k, hk⟩
      obtain ⟨e, rfl⟩ : ∃ e : UInt32 × Counter, e.1.toNat = n := by
        obtain ⟨_, -, -, e, -, hline, -⟩ := hk
        exact ⟨e, hline⟩
      obtain ⟨m, hm⟩ := exists_find?_raiseLine (CoverageBundle.countsLine_iff.mp hk)
      exact ⟨m, List.mem_map.mpr ⟨(e.1, m), OrderedMap.find?_eq_some_iff.mp hm, rfl⟩⟩
  greatest n k hk := by
    obtain rfl := lines_hitsBySource h
    obtain ⟨⟨l, m⟩, hl, heq⟩ := List.mem_map.mp hk
    obtain ⟨rfl, rfl⟩ := Prod.mk.inj heq
    simp only [CoverageBundle.countsLine_iff]
    exact find?_raiseLine_eq_some_iff.mp (OrderedMap.find?_eq_some_iff.mpr hl)

/-- **The records tell the lines of the sources.**  The sources are those of the classes, each once
and in the order of their bytes. -/
theorem traceRecords_tell (b : CoverageBundle) (index : Option RepoIndex) (root : Path) :
    ∃ sources : List String, sources.Pairwise (fun s t => Text.encode s < Text.encode t) ∧
      (∀ s, s ∈ sources ↔ ∃ c ∈ b.classes, resolveSource index c = some s) ∧
      List.Forall₂ (fun s r => TraceRecord.Tells r b index root s) sources
        (traceRecords b index root) := by
  refine ⟨(hitsBySource index b.classes).keys, ?_, fun s => mem_keys_hitsBySource, ?_⟩
  · rw [OrderedMap.keys, List.pairwise_map]
    exact (hitsBySource index b.classes).ascending.imp fun {e f} hlt =>
      Text.encode_lt (compareOfLessAndEq_eq_lt.mp hlt)
  · rw [traceRecords, OrderedMap.keys, List.forall₂_map_left_iff, List.forall₂_map_right_iff,
      List.forall₂_same]
    exact fun e he => tells_of_mem_hitsBySource he root

end TestTelemetry
