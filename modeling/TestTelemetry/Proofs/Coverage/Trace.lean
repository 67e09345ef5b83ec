/-
A tracefile is read back, and says what the bundle says.

The records are written line by line, so as long as no path holds a newline the lines are cut apart
again where they were put together, and every number is read as the number that was written.

* `readTrace?_renderTrace` — the records that were written are read back;
* `labelled` — what stands behind a label, line by line;
* `trace_tells_bundle` — what a tracefile says of the classes of a bundle.
-/
import TestTelemetry.Proofs.Coverage.SourceLines
import TestTelemetry.Proofs.Decimal.Natural
import TestTelemetry.Proofs.Files.Tree
import TestTelemetry.Proofs.Text.Raw

namespace TestTelemetry

/-! ### Lines with labels -/

theorem readNat?_toDigits (n : Nat) : readNat? (Nat.toDigits 10 n) = some n := by
  have hdigits : (Nat.toDigits 10 n).all Char.isDigit = true :=
    List.all_eq_true.mpr fun c hc => Decimal.isDigit_of_mem hc
  rw [readNat?, if_pos ⟨Nat.toDigits_ne_nil, hdigits⟩, Nat.ofDigitChars_ten_toDigits]

theorem not_mem_toDigits {c : Char} (h : c.isDigit = false) (n : Nat) : c ∉ Nat.toDigits 10 n := by
  intro hc
  rw [Decimal.isDigit_of_mem hc] at h
  cases h

theorem afterLabel?_append (label : String) (text : List Char) :
    afterLabel? label (label.toList ++ text) = some text := by
  rw [afterLabel?, if_pos (List.isPrefixOf_iff_prefix.mpr (List.prefix_append _ _)),
    List.drop_left' String.length_toList]

namespace TraceRecord

/-- The line of a covered count. -/
def countLine (l : Nat × Nat) : List Char :=
  "DA:".toList ++ (Nat.toDigits 10 l.1 ++ ',' :: Nat.toDigits 10 l.2)

/-- The lines that close a record. -/
def closingLines (r : TraceRecord) : List (List Char) :=
  ["LH:".toList ++ Nat.toDigits 10 r.hit, "LF:".toList ++ Nat.toDigits 10 r.lines.length,
    "end_of_record".toList]

/-- The lines of a record in a tracefile. -/
def fileLines (r : TraceRecord) : List (List Char) :=
  ("SF:".toList ++ r.path.toList) :: (r.lines.map countLine ++ r.closingLines)

theorem render_eq (r : TraceRecord) : r.render = r.fileLines.flatMap (· ++ ['\n']) := by
  simp [render, fileLines, closingLines, countLine, lineWith, List.flatMap_map]

/-- No line of a record holds a newline if its path holds none. -/
theorem newline_not_mem_fileLines {r : TraceRecord} (h : '\n' ∉ r.path.toList) :
    ∀ l ∈ r.fileLines, '\n' ∉ l := by
  have hdigits : ∀ n, '\n' ∉ Nat.toDigits 10 n := not_mem_toDigits (by decide)
  have hline : ∀ {label text : List Char}, '\n' ∉ label → '\n' ∉ text → '\n' ∉ label ++ text :=
    fun hlabel htext hmem => (List.mem_append.mp hmem).elim hlabel htext
  refine List.forall_mem_cons.mpr ⟨hline (by decide) h, List.forall_mem_append.mpr ⟨?_, ?_⟩⟩
  · refine List.forall_mem_map.mpr fun l _ => hline (by decide) (hline (hdigits _) ?_)
    exact List.not_mem_cons_of_ne_of_not_mem (by decide) (hdigits _)
  · simp only [closingLines, List.forall_mem_cons]
    exact ⟨hline (by decide) (hdigits _), hline (by decide) (hdigits _), by decide, nofun⟩

end TraceRecord

open TraceRecord

/-! ### Reading -/

/-- Covered counts are read one after the other. -/
theorem readRecord?_countLines (path : String) (read lines : List (Nat × Nat))
    (rest : List (List Char)) :
    readRecord? path read (lines.map countLine ++ rest) =
      readRecord? path (lines.reverse ++ read) rest := by
  induction lines generalizing read with
  | nil => rfl
  | cons l lines ih =>
    have hcomma : ∀ c ∈ Nat.toDigits 10 l.1, decide (c ≠ ',') = true := fun c hc =>
      decide_eq_true fun heq => not_mem_toDigits (by decide) l.1 (heq ▸ hc)
    have hnumber : (Nat.toDigits 10 l.1 ++ ',' :: Nat.toDigits 10 l.2).takeWhile (· ≠ ',') =
        Nat.toDigits 10 l.1 := by
      rw [List.takeWhile_append_of_pos hcomma, List.takeWhile_cons_of_neg (by simp),
        List.append_nil]
    have hcount : ((Nat.toDigits 10 l.1 ++ ',' :: Nat.toDigits 10 l.2).dropWhile (· ≠ ',')).tail =
        Nat.toDigits 10 l.2 := by
      rw [List.dropWhile_append_of_pos hcomma, List.dropWhile_cons_of_neg (by simp), List.tail_cons]
    rw [List.map_cons, List.cons_append, readRecord?, countLine, afterLabel?_append]
    simp only [hnumber, hcount, readNat?_toDigits, Option.bind_eq_bind, Option.bind_some]
    rw [ih, List.reverse_cons, List.append_assoc, List.singleton_append]

/-- A record is closed by its own totals. -/
theorem readRecord?_closingLines (r : TraceRecord) (rest : List (List Char)) :
    readRecord? r.path r.lines.reverse (r.closingLines ++ rest) = some (r, rest) := by
  have hother : afterLabel? "DA:" ("LH:".toList ++ Nat.toDigits 10 r.hit) = none := rfl
  simp only [closingLines, List.cons_append, List.nil_append, readRecord?, hother,
    afterLabel?_append, Option.bind_some, readNat?_toDigits, List.reverse_reverse, and_self, if_true]

theorem readRecords?_fileLines (records : List TraceRecord) :
    readRecords? (records.flatMap fileLines) = some records := by
  induction records with
  | nil => rw [List.flatMap_nil, readRecords?]
  | cons r records ih =>
    have hrecord : readRecord? (String.ofList r.path.toList) []
        (r.lines.map countLine ++ (r.closingLines ++ records.flatMap fileLines)) =
        some (r, records.flatMap fileLines) := by
      rw [String.ofList_toList, readRecord?_countLines, List.append_nil, readRecord?_closingLines]
    rw [List.flatMap_cons, fileLines, List.cons_append, List.append_assoc, readRecords?]
    simp only [afterLabel?_append]
    split
    case h_1 hnone =>
      rw [hrecord] at hnone
      cases hnone
    case h_2 hsome =>
      rw [hrecord] at hsome
      obtain ⟨rfl, rfl⟩ := Prod.mk.inj (Option.some_inj.mp hsome)
      rw [ih, Option.map_some]

theorem pieces_renderTrace {records : List TraceRecord}
    (h : ∀ r ∈ records, '\n' ∉ r.path.toList) :
    pieces '\n' (renderTrace records) = records.flatMap fileLines ++ [[]] := by
  have hrender : renderTrace records = (records.flatMap fileLines).flatMap (· ++ ['\n']) := by
    rw [renderTrace, List.flatMap_assoc]
    exact congrArg (records.flatMap ·) (funext render_eq)
  rw [hrender]
  refine pieces_lines fun l hl => ?_
  obtain ⟨r, hr, hl⟩ := List.mem_flatMap.mp hl
  exact newline_not_mem_fileLines (h r hr) l hl

/-- **The records that were written are read back.** -/
theorem readTrace?_renderTrace {records : List TraceRecord}
    (h : ∀ r ∈ records, '\n' ∉ r.path.toList) :
    readTrace? (renderTrace records) = some records := by
  rw [readTrace?, pieces_renderTrace h, List.reverse_append, List.reverse_singleton,
    List.singleton_append]
  show readRecords? (records.flatMap fileLines).reverse.reverse = some records
  rw [List.reverse_reverse, readRecords?_fileLines]

/-- What stands behind a label, line by line. -/
def labelled (label : String) (text : List Char) : List (List Char) :=
  (endedPieces '\n' text).filterMap (afterLabel? label)

/-- What stands behind a label that one line of each record has, and no line of a covered count. -/
theorem labelled_renderTrace {records : List TraceRecord}
    (h : ∀ r ∈ records, '\n' ∉ r.path.toList) {label : String} {f : TraceRecord → List Char}
    (hcounts : ∀ l, afterLabel? label (countLine l) = none)
    (hothers : ∀ r : TraceRecord, (("SF:".toList ++ r.path.toList) :: r.closingLines).filterMap
      (afterLabel? label) = [f r]) :
    labelled label (renderTrace records) = records.map f := by
  have hrecord : ∀ r : TraceRecord, r.fileLines.filterMap (afterLabel? label) = [f r] := fun r => by
    have hnone : (r.lines.map countLine).filterMap (afterLabel? label) = [] := by
      rw [List.filterMap_map]
      exact List.filterMap_eq_nil_iff.mpr fun l _ => hcounts l
    rw [fileLines, ← List.singleton_append, List.filterMap_append, List.filterMap_append, hnone,
      List.nil_append, ← List.filterMap_append, List.singleton_append, hothers]
  rw [labelled, endedPieces_of_ended (pieces_renderTrace h), List.filterMap_flatMap,
    List.map_eq_flatMap]
  exact congrArg (records.flatMap ·) (funext hrecord)

/-! ### Bundles -/

/-- The tracefile that is written is the text of the records. -/
theorem readText_of_writeReport {t t' : FileTree} {b : CoverageBundle} {index : Option RepoIndex}
    {root folder : Path} (h : writeReport t b index root folder = .ok t') :
    t'.readText (Path.join folder traceFile) = .ok (renderTrace (traceRecords b index root)) := by
  simp only [writeReport] at h
  split at h
  case h_1 => cases h
  case h_2 =>
    split at h
    case h_1 => cases h
    case h_2 =>
      split at h
      case h_1 => cases h
      case h_2 hwrite =>
        obtain rfl := Except.ok.inj h
        exact FileTree.readText_of_write? hwrite

/-- **A tracefile is read back, and says what the bundle says.**  There is one record for each source
file of a class, in the order of the bytes of the sources, with the greatest covered counts of its
lines and their totals; a line is positive if some class of the file covers it.  The text does not
depend on the order of the classes, and it is what is found in a report that was written. -/
theorem trace_tells_bundle {b : CoverageBundle} {index : Option RepoIndex} {root : Path}
    (hroot : '\n' ∉ root.display.toList)
    (hsources : ∀ c ∈ b.classes, ∀ s, resolveSource index c = some s → '\n' ∉ s.toList) :
    let records := traceRecords b index root
    let text := renderTrace records
    readTrace? text = some records ∧
      labelled "LF:" text = records.map (fun r => Nat.toDigits 10 r.lines.length) ∧
      labelled "LH:" text = records.map (fun r => Nat.toDigits 10 (r.lines.countP (0 < ·.2))) ∧
      (∃ sources : List String, sources.Pairwise (fun s t => Text.encode s < Text.encode t) ∧
        (∀ s, s ∈ sources ↔ ∃ c ∈ b.classes, resolveSource index c = some s) ∧
        List.Forall₂ (fun s r => TraceRecord.Tells r b index root s ∧
          ∀ n, (∃ k, (n, k) ∈ r.lines ∧ 0 < k) ↔ ∃ k, b.CountsLine index s n k ∧ 0 < k)
          sources records) ∧
      (∀ classes : List ClassCoverage, classes.Perm b.classes →
        renderTrace (traceRecords { b with classes } index root) = text) ∧
      ∀ t t' folder, writeReport t b index root folder = .ok t' →
        t'.readText (Path.join folder traceFile) = .ok text := by
  intro records text
  obtain ⟨sources, hsorted, hmem, htell⟩ := traceRecords_tell b index root
  have hpaths : ∀ r ∈ records, '\n' ∉ r.path.toList := by
    intro r hr
    obtain ⟨e, he, rfl⟩ := List.mem_map.mp hr
    obtain ⟨c, hc, hsource⟩ := mem_keys_hitsBySource.mp (List.mem_map_of_mem he)
    have hshown := hsources c hc e.1 hsource
    rw [← RawText.display_ofText e.1, RawText.newline_mem_display_iff] at hshown
    rw [RawText.newline_mem_display_iff] at hroot ⊢
    exact Path.not_mem_join hroot hshown (by decide)
  refine ⟨readTrace?_renderTrace hpaths, labelled_renderTrace hpaths (fun _ => rfl) (fun _ => rfl),
    labelled_renderTrace hpaths (fun _ => rfl) (fun _ => rfl), ⟨sources, hsorted, hmem, ?_⟩, ?_,
    fun _ _ _ => readText_of_writeReport⟩
  · exact htell.imp fun s r hr => ⟨hr, hr.exists_pos_iff⟩
  · intro classes hperm
    show renderTrace (traceRecords { b with classes } index root) =
      renderTrace (traceRecords b index root)
    rw [traceRecords, traceRecords, hitsBySource_perm hperm]

/-- A nested class shares the file of the outer one, which the index knows, and raises a line of it;
a class without a source is left out.  The last class can as well come first. -/
theorem trace_of_nested_class :
    let parser : ClassCoverage :=
      ⟨"com.acme.Parser", some "Parser.java", ⟨2, 5⟩, .ofList [(3, ⟨2, 2⟩), (4, ⟨0, 3⟩)]⟩
    let token : ClassCoverage :=
      ⟨"com.acme.Parser$Token", none, ⟨2, 2⟩, .ofList [(4, ⟨1, 1⟩), (9, ⟨1, 1⟩)]⟩
    let orphan : ClassCoverage := ⟨"Orphan", none, ⟨0, 1⟩, .ofList [(1, ⟨0, 1⟩)]⟩
    let b : CoverageBundle := ⟨"aggregated", [parser, token, orphan], ⟨4, 8⟩, ⟨3, 5⟩⟩
    let index : Option RepoIndex :=
      some ⟨["src"], .ofList [("com/acme/Parser", "src/com/acme/Parser.java")]⟩
    let records : List TraceRecord :=
      [⟨"/repo/src/com/acme/Parser.java", [(3, 2), (4, 1), (9, 1)]⟩]
    '\n' ∉ (RawText.ofText "/repo").display.toList ∧ traceRecords b index "/repo" = records ∧
      readTrace? (renderTrace records) = some records ∧
      renderTrace (traceRecords { b with classes := [orphan, parser, token] } index "/repo") =
        renderTrace records := by
  intro parser token orphan b index records
  have hrecords : traceRecords b index "/repo" = records := by decide +kernel
  have hall : ∀ c ∈ b.classes, (resolveSource index c).all (fun s => '\n' ∉ s.toList) = true := by
    decide +kernel
  have hsources : ∀ c ∈ b.classes, ∀ s, resolveSource index c = some s → '\n' ∉ s.toList :=
    fun c hc s hs => of_decide_eq_true ((Option.all_eq_true _ _).mp (hall c hc) s hs)
  have hroot : '\n' ∉ (RawText.ofText "/repo").display.toList := by decide +kernel
  obtain ⟨hread, -, -, -, horder, -⟩ := trace_tells_bundle hroot hsources
  rw [hrecords] at hread horder
  have hperm : ([orphan] ++ [parser, token]).Perm b.classes := List.perm_append_comm
  exact ⟨hroot, hrecords, hread, horder _ hperm⟩

end TestTelemetry
