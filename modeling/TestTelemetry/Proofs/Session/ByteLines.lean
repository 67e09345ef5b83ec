/-
Which lines of a connection are answered.

What comes on a connection are bytes, and a line of them need not be text.  Such a line ends the
connection: it is not answered, and neither is any line after it.

* `LineIn` — a complete line among bytes, with what comes before and after it;
* `serve_of_text`, `serve_of_blank`, `serve_of_ill_formed` — what the first line comes to;
* `serve_append` — lines of text are answered in turn;
* `serve_until` — nothing is answered from a line on that is no text;
* `AnsweredOnce` — a line gets one response, among those to the lines around it;
* `line_answered_iff` — which lines are answered.
-/
import TestTelemetry.Proofs.Data.Pieces
import TestTelemetry.Proofs.Signal.Wire

namespace TestTelemetry

/-- Some lines, written one after the other. -/
def joined (lines : List (List UInt8)) : List UInt8 := lines.flatMap (· ++ [10])

/-- A complete line among some bytes, after some lines and before whatever follows. -/
structure LineIn (bytes : List UInt8) (before : List (List UInt8)) (line after : List UInt8) :
    Prop where
  whole : bytes = joined before ++ (line ++ 10 :: after)
  lines_before : ∀ l ∈ before, 10 ∉ l
  one_line : 10 ∉ line

/-- Whether a line is a text of blanks. -/
def isBlankLine (line : List UInt8) : Bool := (Text.decode? line).any (·.all Text.isBlank)

/-- The signal that a line holds, if it is a text that holds one. -/
def lineSignal? (line : List UInt8) : Option Signal :=
  (Text.decode? line).bind fun cs => (decodeLine Signal.decoder cs).toOption

section Serve

variable {σ : Type} (handlers : SignalHandlers σ) (s : σ) {line : List UInt8}
  {before : List (List UInt8)}

/-! ### The first line -/

theorem byteLines_cons (h : 10 ∉ line) (rest : List UInt8) :
    byteLines (line ++ 10 :: rest) = line :: byteLines rest := endedPieces_append h rest

/-- A line that is no text ends the connection. -/
theorem serve_of_ill_formed (h : 10 ∉ line) (hline : Text.decode? line = none)
    (rest : List UInt8) : serve handlers (line ++ 10 :: rest) s = ([], s) := by
  rw [serve, byteLines_cons h, textLines, hline]
  rfl

theorem serve_of_blank (h : 10 ∉ line) {cs : List Char} (hline : Text.decode? line = some cs)
    (hblank : cs.all Text.isBlank = true) (rest : List UInt8) :
    serve handlers (line ++ 10 :: rest) s = serve handlers rest s := by
  rw [serve, byteLines_cons h, textLines, hline]
  exact if_pos hblank

theorem serve_of_text (h : 10 ∉ line) {cs : List Char} (hline : Text.decode? line = some cs)
    (hblank : cs.all Text.isBlank = false) (rest : List UInt8) :
    serve handlers (line ++ 10 :: rest) s =
      ((dispatch handlers cs s).1 :: (serve handlers rest (dispatch handlers cs s).2).1,
        (serve handlers rest (dispatch handlers cs s).2).2) := by
  rw [serve, byteLines_cons h, textLines, hline]
  exact if_neg (by rw [hblank]; exact Bool.false_ne_true)

/-! ### Lines in turn -/

theorem joined_cons (l : List UInt8) (before : List (List UInt8)) :
    joined (l :: before) = l ++ 10 :: joined before := by
  rw [joined, List.flatMap_cons, List.append_assoc]
  rfl

theorem joined_cons_append (l : List UInt8) (before : List (List UInt8)) (rest : List UInt8) :
    joined (l :: before) ++ rest = l ++ 10 :: (joined before ++ rest) := by
  rw [joined_cons, List.append_assoc, List.cons_append]

theorem joined_append (u v : List (List UInt8)) : joined (u ++ v) = joined u ++ joined v :=
  List.flatMap_append

/-- Lines of text are answered, and then what follows them. -/
theorem serve_append (hlines : ∀ l ∈ before, 10 ∉ l)
    (htext : ∀ l ∈ before, (Text.decode? l).isSome) (rest : List UInt8) :
    serve handlers (joined before ++ rest) s =
      ((serve handlers (joined before) s).1 ++
          (serve handlers rest (serve handlers (joined before) s).2).1,
        (serve handlers rest (serve handlers (joined before) s).2).2) := by
  induction before generalizing s with
  | nil => rfl
  | cons l before ih =>
    obtain ⟨hl, hlines⟩ := List.forall_mem_cons.mp hlines
    obtain ⟨hfirst, htext⟩ := List.forall_mem_cons.mp htext
    obtain ⟨cs, hcs⟩ := Option.isSome_iff_exists.mp hfirst
    -- The first line is the same on both sides: it is passed over, or its response comes first.
    rw [joined_cons_append, joined_cons]
    cases hblank : cs.all Text.isBlank with
    | true =>
      rw [serve_of_blank handlers s hl hcs hblank, serve_of_blank handlers s hl hcs hblank]
      exact ih s hlines htext
    | false =>
      rw [serve_of_text handlers s hl hcs hblank, serve_of_text handlers s hl hcs hblank,
        ih _ hlines htext]
      rfl

/-- Nothing is answered from a line on that is no text. -/
theorem serve_until (hlines : ∀ l ∈ before, 10 ∉ l) (h : 10 ∉ line)
    (hline : Text.decode? line = none) (rest : List UInt8) :
    serve handlers (joined before ++ (line ++ 10 :: rest)) s = serve handlers (joined before) s := by
  induction before generalizing s with
  | nil => exact serve_of_ill_formed handlers s h hline rest
  | cons l before ih =>
    obtain ⟨hl, hlines⟩ := List.forall_mem_cons.mp hlines
    rw [joined_cons_append, joined_cons]
    cases hread : Text.decode? l with
    | none => rw [serve_of_ill_formed handlers s hl hread, serve_of_ill_formed handlers s hl hread]
    | some cs =>
      cases hblank : cs.all Text.isBlank with
      | true =>
        rw [serve_of_blank handlers s hl hread hblank, serve_of_blank handlers s hl hread hblank]
        exact ih s hlines
      | false =>
        rw [serve_of_text handlers s hl hread hblank, serve_of_text handlers s hl hread hblank,
          ih _ hlines]

/-! ### What is answered -/

/-- A complete line gets one response, between those to the lines before it and those to what comes
after it.  The response is a line of its own, and it is an error if the line holds no signal. -/
def AnsweredOnce (bytes : List UInt8) (before : List (List UInt8)) (line after : List UInt8) :
    Prop :=
  ∃ r s', serve handlers bytes s =
      ((serve handlers (joined before) s).1 ++ r :: (serve handlers after s').1,
        (serve handlers after s').2) ∧
    (∃ body, lineBytes r.toJson = body ++ [10] ∧ 10 ∉ body) ∧
    (lineSignal? line = none → ∃ message, r = .error message)

variable {bytes after l : List UInt8}

/-- The lines before a line, and the line itself, are lines of the same bytes. -/
theorem LineIn.earlier (h : LineIn bytes before line after) (hl : l ∈ before ++ [line]) :
    ∃ u rest, LineIn bytes u l rest := by
  rcases List.mem_append.mp hl with hl | hl
  · obtain ⟨u, v, hsplit⟩ := List.append_of_mem hl
    refine ⟨u, joined v ++ (line ++ 10 :: after), ?_, fun l' hl' => ?_, h.lines_before l hl⟩
    · rw [h.whole, hsplit, joined_append, List.append_assoc, joined_cons_append]
    · exact h.lines_before l' (hsplit ▸ List.mem_append_left _ hl')
  · rw [List.mem_singleton.mp hl]
    exact ⟨before, after, h⟩

/-- Nothing is answered after a line that is no text, whichever it is. -/
theorem LineIn.serve_eq (h : LineIn bytes before line after) (hl : l ∈ before ++ [line])
    (hread : Text.decode? l = none) :
    serve handlers bytes s = serve handlers (joined before) s := by
  rw [h.whole]
  rcases List.mem_append.mp hl with hl | hl
  · -- The connection ends at this line, with the lines after it and without them.
    obtain ⟨u, v, rfl⟩ := List.append_of_mem hl
    have hu : ∀ l' ∈ u, 10 ∉ l' := fun l' hl' => h.lines_before l' (List.mem_append_left _ hl')
    have hopen : 10 ∉ l := h.lines_before l hl
    rw [joined_append, List.append_assoc, joined_cons_append, joined_cons,
      serve_until handlers s hu hopen hread, serve_until handlers s hu hopen hread]
  · obtain rfl : l = line := List.mem_singleton.mp hl
    exact serve_until handlers s h.lines_before h.one_line hread after

/-- A line that holds no signal is answered by an error. -/
theorem dispatch_of_no_signal {cs : List Char} (hline : Text.decode? line = some cs)
    (h : lineSignal? line = none) (s : σ) : ∃ message, (dispatch handlers cs s).1 = .error message := by
  rw [lineSignal?, hline, Option.bind_some] at h
  cases hread : decodeLine Signal.decoder cs with
  | error e => exact ⟨undecodableMessage e, by rw [dispatch, hread]⟩
  | ok signal =>
    rw [hread] at h
    cases h

/-- A line is answered exactly if it is text and all lines before it are. -/
theorem LineIn.answeredOnce_iff (h : LineIn bytes before line after)
    (hblank : isBlankLine line = false) :
    AnsweredOnce handlers s bytes before line after ↔
      ∀ l ∈ before ++ [line], (Text.decode? l).isSome := by
  constructor
  · rintro ⟨r, s', hserve, -⟩ l hl
    rw [Option.isSome_iff_ne_none]
    intro hread
    -- Otherwise the responses to the lines before would be as many as these and one more.
    rw [h.serve_eq handlers s hl hread] at hserve
    have hlength := congrArg (fun answers => answers.1.length) hserve
    simp only [List.length_append, List.length_cons] at hlength
    omega
  · intro htext
    obtain ⟨hbefore, hline⟩ := List.forall_mem_append.mp htext
    obtain ⟨cs, hcs⟩ := Option.isSome_iff_exists.mp (hline line (List.mem_singleton.mpr rfl))
    rw [isBlankLine, hcs, Option.any_some] at hblank
    let s' := (serve handlers (joined before) s).2
    refine ⟨(dispatch handlers cs s').1, (dispatch handlers cs s').2, ?_,
      Response.survives.one_newline _, fun hnone => dispatch_of_no_signal handlers hcs hnone s'⟩
    rw [h.whole, serve_append handlers s h.lines_before hbefore,
      serve_of_text handlers _ h.one_line hcs hblank]

/-- **Lines are answered up to the first that is no text.**  A complete line that is not blank gets
its one response exactly if it is text and every line before it is; the first line that is no text
ends the connection, whatever comes after it.  So all lines are answered exactly if all are text. -/
theorem line_answered_iff (bytes : List UInt8) :
    (∀ before line after, LineIn bytes before line after → isBlankLine line = false →
      (AnsweredOnce handlers s bytes before line after ↔
        ∀ l ∈ before ++ [line], (Text.decode? l).isSome)) ∧
    (∀ before line after, LineIn bytes before line after → Text.decode? line = none →
      serve handlers bytes s = serve handlers (joined before) s) ∧
    ((∀ before line after, LineIn bytes before line after → isBlankLine line = false →
        AnsweredOnce handlers s bytes before line after) ↔
      ∀ before line after, LineIn bytes before line after → (Text.decode? line).isSome) := by
  refine ⟨fun _ _ _ h hblank => h.answeredOnce_iff handlers s hblank,
    fun _ line _ h hread => h.serve_eq handlers s (List.mem_append_right _ (.head _)) hread,
    fun hall before line after h => ?_, fun htext before line after h hblank => ?_⟩
  · rw [Option.isSome_iff_ne_none]
    intro hread
    have hblank : isBlankLine line = false := by rw [isBlankLine, hread, Option.any_none]
    have htext := (h.answeredOnce_iff handlers s hblank).mp (hall before line after h hblank)
    exact absurd (htext line (List.mem_append_right _ (.head _))) (by rw [hread]; simp)
  · refine (h.answeredOnce_iff handlers s hblank).mpr fun l hl => ?_
    obtain ⟨u, rest, hu⟩ := h.earlier hl
    exact htext u l rest hu

end Serve

/-- The line `x` holds no signal, but it is answered.  The byte after it begins no character, so
that line and the line `y` after it are not. -/
theorem line_answered_before_ill_formed :
    let handlers : SignalHandlers Unit := Keyed.empty
    let bytes : List UInt8 := [120, 10, 255, 10, 121, 10]
    LineIn bytes [] [120] [255, 10, 121, 10] ∧ isBlankLine [120] = false ∧
      AnsweredOnce handlers () bytes [] [120] [255, 10, 121, 10] ∧
      LineIn bytes [[120]] [255] [121, 10] ∧ Text.decode? [255] = none ∧
      serve handlers bytes () = serve handlers [120, 10] () ∧
      ¬ ∀ before line after, LineIn bytes before line after → isBlankLine line = false →
        AnsweredOnce handlers () bytes before line after := by
  intro handlers bytes
  obtain ⟨hanswered, hend, hall⟩ := line_answered_iff handlers () bytes
  have hfirst : LineIn bytes [] [120] [255, 10, 121, 10] := ⟨rfl, by simp, by decide⟩
  have hsecond : LineIn bytes [[120]] [255] [121, 10] := ⟨rfl, by decide, by decide⟩
  refine ⟨hfirst, by decide, ?_, hsecond, by decide, ?_, fun h => ?_⟩
  · exact (hanswered _ _ _ hfirst (by decide)).mpr (by decide)
  · exact hend _ _ _ hsecond (by decide)
  · exact absurd (hall.mp h _ _ _ hsecond) (by decide)

/-- A line that is no text gets no response, and neither does the line after it. -/
theorem ill_formed_line_ends_connection :
    let handlers : SignalHandlers Unit := Keyed.empty
    let bytes : List UInt8 := [255, 10, 120, 10]
    LineIn bytes [] [255] [120, 10] ∧ isBlankLine [255] = false ∧
      LineIn bytes [[255]] [120] [] ∧ isBlankLine [120] = false ∧
      serve handlers bytes () = ([], ()) ∧
      ¬ AnsweredOnce handlers () bytes [] [255] [120, 10] ∧
      ¬ AnsweredOnce handlers () bytes [[255]] [120] [] := by
  intro handlers bytes
  have hfirst : LineIn bytes [] [255] [120, 10] := ⟨rfl, by simp, by decide⟩
  have hsecond : LineIn bytes [[255]] [120] [] := ⟨rfl, by decide, by decide⟩
  refine ⟨hfirst, by decide, hsecond, by decide, ?_, fun h => ?_, fun h => ?_⟩
  · exact hfirst.serve_eq handlers () (List.mem_singleton.mpr rfl) (by decide)
  · exact absurd ((hfirst.answeredOnce_iff handlers () (by decide)).mp h) (by decide)
  · exact absurd ((hsecond.answeredOnce_iff handlers () (by decide)).mp h) (by decide)

end TestTelemetry
