/-
A script is applied up to its first line that is no event.

* `Script.Legible` — a line that is blank or an event;
* `Script.events`, `Script.filled` — the events on some lines, and the lines that are not blank;
* `replayLines_of_legible`, `replayLines_of_illegible` — lines without a fault, and with one;
* `replay_written` — events that are written one on a line are applied;
* `CommandLine.runScript_eq` — what the worker program makes of a script;
* `CommandLine.replay_applies_valid_prefix` — it is applied up to its first fault.
-/
import TestTelemetry.CommandLine.Worker
import TestTelemetry.Proofs.Json.LineEnd
import TestTelemetry.Proofs.Signal.Wire
import TestTelemetry.Proofs.Worker.EventText

namespace TestTelemetry

namespace Script

/-- A line that a replay does not stop at: one that is blank, or an event. -/
def Legible (line : List Char) : Prop :=
  line.all Text.isBlank = true ∨ ∃ e, WorkerEvent.ofLine line = .ok e

/-- The event on a line, unless it is blank. -/
def event? (line : List Char) : Option WorkerEvent :=
  if line.all Text.isBlank then none else (WorkerEvent.ofLine line).toOption

/-- The events on some lines, in order. -/
def events (lines : List (List Char)) : List WorkerEvent := lines.filterMap event?

/-- The lines that are not blank. -/
def filled (lines : List (List Char)) : List (List Char) :=
  lines.filter fun line => !line.all Text.isBlank

end Script

open Script

/-! ### Lines -/

variable {lines before : List (List Char)} {line : List Char}

theorem replayLines_cons_blank (hblank : line.all Text.isBlank = true) (number : Nat)
    (done : Replayed) (rest : List (List Char)) :
    replayLines number done (line :: rest) = replayLines (number + 1) done rest := by
  rw [replayLines, if_pos hblank]

theorem replayLines_cons_event (hblank : line.all Text.isBlank = false) {e : WorkerEvent}
    (hevent : WorkerEvent.ofLine line = .ok e) (number : Nat) (done : Replayed)
    (rest : List (List Char)) :
    replayLines number done (line :: rest) =
      replayLines (number + 1) ⟨done.handler.apply e, done.applied + 1, done.fault⟩ rest := by
  rw [replayLines, if_neg (by simp [hblank]), hevent]

/-- A replay goes on behind legible lines with their events applied. -/
theorem replayLines_append (hlegible : ∀ l ∈ before, Legible l) (number : Nat) (done : Replayed)
    (rest : List (List Char)) :
    replayLines number done (before ++ rest) =
      replayLines (number + before.length)
        ⟨done.handler.applyAll (events before), done.applied + (filled before).length, done.fault⟩
        rest := by
  induction before generalizing number done with
  | nil => rfl
  | cons line before ih =>
    obtain ⟨hline, hbefore⟩ := List.forall_mem_cons.mp hlegible
    have hnumber : number + 1 + before.length = number + (line :: before).length := by
      rw [List.length_cons]
      omega
    rw [List.cons_append, ← hnumber]
    cases hblank : line.all Text.isBlank with
    | true =>
      rw [replayLines_cons_blank hblank, ih hbefore]
      simp [events, event?, filled, hblank]
    | false =>
      obtain ⟨e, he⟩ := hline.resolve_left (by simp [hblank])
      have hevents : events (line :: before) = e :: events before := by
        simp [events, event?, hblank, he, Except.toOption]
      have hfilled : (filled (line :: before)).length = 1 + (filled before).length := by
        simp [filled, hblank, Nat.add_comm]
      rw [replayLines_cons_event hblank he, ih hbefore, hevents, hfilled, ← Nat.add_assoc]
      rfl

/-- A script without a fault is applied as a whole. -/
theorem replayLines_of_legible (hlegible : ∀ l ∈ lines, Legible l) (number : Nat)
    (done : Replayed) :
    replayLines number done lines =
      ⟨done.handler.applyAll (events lines), done.applied + (filled lines).length, done.fault⟩ := by
  have hall := replayLines_append hlegible number done []
  rwa [List.append_nil] at hall

/-- A replay stops at the first line that is not legible, and names it. -/
theorem replayLines_of_illegible (hbefore : ∀ l ∈ before, Legible l) (hline : ¬ Legible line)
    (after : List (List Char)) (number : Nat) (done : Replayed) :
    ∃ cause, replayLines number done (before ++ line :: after) =
      ⟨done.handler.applyAll (events before), done.applied + (filled before).length,
        some ⟨number + before.length, cause⟩⟩ := by
  rw [Legible, not_or] at hline
  obtain ⟨hblank, hevent⟩ := hline
  cases hread : WorkerEvent.ofLine line with
  | ok e => exact absurd ⟨e, hread⟩ hevent
  | error cause =>
    refine ⟨cause, ?_⟩
    rw [replayLines_append hbefore, replayLines, if_neg hblank, hread]

/-- Where not all lines are legible, there is a first one that is not. -/
theorem exists_first_illegible (h : ¬ ∀ l ∈ lines, Legible l) :
    ∃ before line after, lines = before ++ line :: after ∧ (∀ l ∈ before, Legible l) ∧
      ¬ Legible line := by
  induction lines with
  | nil => simp at h
  | cons line rest ih =>
    by_cases hline : Legible line
    · have hrest : ¬ ∀ l ∈ rest, Legible l :=
        fun hrest => h (List.forall_mem_cons.mpr ⟨hline, hrest⟩)
      obtain ⟨before, first, after, rfl, hbefore, hfirst⟩ := ih hrest
      exact ⟨line :: before, first, after, rfl, List.forall_mem_cons.mpr ⟨hline, hbefore⟩, hfirst⟩
    · exact ⟨[], line, rest, rfl, by simp, hline⟩

/-! ### Line ends -/

theorem Text.dropReturn_eq_or (line : List Char) :
    Text.dropReturn line = line ∨ line = Text.dropReturn line ++ ['\r'] := by
  rw [Text.dropReturn]
  split
  case h_1 front hfront =>
    right
    rw [← List.reverse_reverse line, hfront, List.reverse_cons]
  case h_2 => exact .inl rfl

theorem Text.all_isBlank_dropReturn (line : List Char) :
    (Text.dropReturn line).all Text.isBlank = line.all Text.isBlank := by
  obtain heq | heq := Text.dropReturn_eq_or line
  · rw [heq]
  · have hreturn : Text.isBlank '\r' = true := rfl
    generalize Text.dropReturn line = front at heq
    subst heq
    simp [hreturn]

theorem WorkerEvent.ofLine_dropReturn (line : List Char) :
    ofLine (Text.dropReturn line) = ofLine line := by
  obtain heq | heq := Text.dropReturn_eq_or line
  · rw [heq]
  · generalize Text.dropReturn line = front at heq
    subst heq
    rw [ofLine, ofLine, Json.decodeText, Json.decodeText, Json.read_append_return]

/-- The carriage returns before the ends of lines do not matter. -/
theorem replayLines_map_dropReturn (ls rest : List (List Char)) (number : Nat) (done : Replayed) :
    replayLines number done (ls.map Text.dropReturn ++ rest) =
      replayLines number done (ls ++ rest) := by
  induction ls generalizing number done with
  | nil => rfl
  | cons l ls ih =>
    simp only [List.map_cons, List.cons_append, replayLines, Text.all_isBlank_dropReturn,
      WorkerEvent.ofLine_dropReturn, ih]

/-- A script can be cut at its newlines alone. -/
theorem replayLines_endedPieces (cs : List Char) (number : Nat) (done : Replayed) :
    replayLines number done (endedPieces '\n' cs) = replayLines number done (Text.lines cs) := by
  rw [endedPieces, Text.lines]
  cases hpieces : (pieces '\n' cs).reverse with
  | nil => rfl
  | cons last before =>
    cases last with
    | nil =>
      have hends := replayLines_map_dropReturn before.reverse [] number done
      rw [List.append_nil, List.append_nil] at hends
      exact hends.symm
    | cons c last =>
      have hends := replayLines_map_dropReturn before.reverse [c :: last] number done
      rw [hends]
      exact congrArg (replayLines number done) List.reverse_cons

/-- Events that are written one on a line are applied, in their order. -/
theorem replay_written (h : Handler) (es : List WorkerEvent) :
    replay h ((es.map fun e => e.toJson.compact).flatMap (· ++ ['\n'])) =
      ⟨h.applyAll es, es.length, none⟩ := by
  have hcut : ∀ l ∈ es.map fun e => e.toJson.compact, '\n' ∉ l :=
    List.forall_mem_map.mpr fun e _ => newline_not_mem_compact (e.plain_toJson 0)
  rw [replay, ← replayLines_endedPieces, endedPieces_lines hcut]
  have hall : ∀ number (done : Replayed),
      replayLines number done (es.map fun e => e.toJson.compact) =
        ⟨done.handler.applyAll es, done.applied + es.length, done.fault⟩ := by
    clear hcut
    induction es with
    | nil => exact fun number done => rfl
    | cons e es ih =>
      intro number done
      rw [List.map_cons, replayLines_cons_event e.compact_not_blank e.ofLine_compact, ih,
        List.length_cons, Nat.add_assoc, Nat.add_comm 1]
      rfl
  rw [hall, Nat.zero_add]

/-! ### The worker program -/

namespace CommandLine

variable {σ : Type}

/-- What the worker program makes of the bytes of a text. -/
theorem replayScript_encode (h : Handler) (script : Path) (text : String) :
    WorkerCommand.replayScript h script (Text.encode text) =
      match (replay h text.toList).fault with
      | some e => .error (invalidEventMessage script e.line)
      | none => .ok (replay h text.toList).handler := by
  have htexts : textLines (byteLines (Text.encode text)) = endedPieces '\n' text.toList := by
    rw [← textLines_byteLines, String.ofList_toList]
  have hlines : (byteLines (Text.encode text)).length = (endedPieces '\n' text.toList).length := by
    rw [byteLines, ← String.ofList_toList (s := text), Text.endedPieces_encode, List.length_map,
      String.toList_ofList]
  simp only [WorkerCommand.replayScript, htexts, hlines, Nat.lt_irrefl, if_false,
    replayLines_endedPieces]
  rfl

/-- What a worker begins with: the settings of its module, asked of the session if there is one. -/
def WorkerCommand.given (peer : Peer σ) (s : σ) (c : WorkerConfig) :
    Option Client → ExecutionSettings × σ
  | none => (.initial, s)
  | some _ =>
    let (answer, s) := peer.settings s c.identity c.moduleName
    ((answer.toOption).getD .initial, s)

/-- The session after a worker has ended its module. -/
def WorkerCommand.reported (peer : Peer σ) (s : σ) (client : Option Client)
    (result : Option ModuleResult) : σ :=
  match result, client with
  | some result, some _ => peer.deliver s result
  | _, _ => s

variable {peer : Peer σ} {s : σ} {w : Surroundings} {c : WorkerConfig} {client : Option Client}
  {script : Path} {text : String}

open WorkerCommand (given reported runScript scriptContent?)

/-- A worker that replays a text asks for its settings first.  It reports the result of its module
only if the replay has no fault. -/
theorem runScript_eq (hcontent : scriptContent? w script = some (Text.encode text)) :
    runScript peer s w c client script =
      match replay (.start c.descriptor (given peer s c client).1) text.toList with
      | ⟨_, _, some e⟩ => (.failed (invalidEventMessage script e.line), (given peer s c client).2)
      | ⟨h, _, none⟩ =>
        (.silent, reported peer (given peer s c client).2 client h.finishModule.2) := by
  cases client with
  | none =>
    simp only [runScript, hcontent, replayScript_encode, given]
    rcases replay (.start c.descriptor .initial) text.toList with ⟨h, n, _ | e⟩
    · dsimp only
      cases h.finishModule.2 <;> rfl
    · rfl
  | some a =>
    simp only [runScript, hcontent, replayScript_encode, given]
    rcases replay (.start c.descriptor _) text.toList with ⟨h, n, _ | e⟩
    · dsimp only
      cases h.finishModule.2 <;> rfl
    · rfl

/-- **A script is applied up to its first line that is no event.**  Where every line of a text is
blank or an event, a replay counts the lines that are not blank, applies their events in order, and
the worker program ends the module with them.  Otherwise some line is the first that is neither:
the events before it are applied, and the program fails with its number and leaves the session as it
was when the settings had been asked for. -/
theorem replay_applies_valid_prefix (peer : Peer σ) (s : σ) (w : Surroundings) (c : WorkerConfig)
    (client : Option Client) (script : Path) (text : String)
    (hcontent : scriptContent? w script = some (Text.encode text)) :
    let lines := Text.lines text.toList
    let settings := (given peer s c client).1
    let asked := (given peer s c client).2
    ((∀ line ∈ lines, Legible line) →
      (∀ h, replay h text.toList = ⟨h.applyAll (events lines), (filled lines).length, none⟩) ∧
      runScript peer s w c client script = (.silent, reported peer asked client
        ((Handler.start c.descriptor settings).applyAll (events lines)).finishModule.2)) ∧
    ((¬ ∀ line ∈ lines, Legible line) →
      ∃ before line after, lines = before ++ line :: after ∧ (∀ l ∈ before, Legible l) ∧
        ¬ Legible line ∧
        (∀ h, ∃ cause, replay h text.toList =
          ⟨h.applyAll (events before), (filled before).length,
            some ⟨before.length + 1, cause⟩⟩) ∧
        runScript peer s w c client script =
          (.failed (invalidEventMessage script (before.length + 1)), asked)) := by
  intro lines settings asked
  refine ⟨fun hlegible => ?_, fun hfault => ?_⟩
  · have hreplay : ∀ h, replay h text.toList =
        ⟨h.applyAll (events lines), (filled lines).length, none⟩ := by
      intro h
      rw [replay, replayLines_of_legible hlegible, Nat.zero_add]
    refine ⟨hreplay, ?_⟩
    rw [runScript_eq hcontent, hreplay]
  · obtain ⟨before, line, after, hlines, hbefore, hline⟩ := exists_first_illegible hfault
    have hreplay : ∀ h, ∃ cause, replay h text.toList =
        ⟨h.applyAll (events before), (filled before).length,
          some ⟨before.length + 1, cause⟩⟩ := by
      intro h
      obtain ⟨cause, hcause⟩ := replayLines_of_illegible hbefore hline after 1 ⟨h, 0, none⟩
      refine ⟨cause, ?_⟩
      rw [← hlines, Nat.zero_add, Nat.add_comm] at hcause
      exact hcause
    refine ⟨before, line, after, hlines, hbefore, hline, hreplay, ?_⟩
    obtain ⟨cause, hcause⟩ := hreplay (.start c.descriptor settings)
    rw [runScript_eq hcontent, hcause]

/-- The event on the second line is applied, and the third line is no event.  The blank line in front
counts. -/
theorem replay_stops_at_third_line :
    let text := "\n\x7b\"event\":\"suite_start\",\"suite\":\"S\"\x7d\n?\n"
    (∀ h, ∃ cause, replay h text.toList =
      ⟨h.apply (.suiteStart ⟨"S", none⟩ false), 1, some ⟨3, cause⟩⟩) ∧
    runScript Peer.nobody () ⟨⟨[], none⟩, ⟨[], [], [], []⟩, Text.encode text⟩
        ⟨"s", 1, "core", none, 0, 1, ⟨"", "", ""⟩⟩ none "-" =
      (.failed "-:3: invalid event", ()) := by
  intro text
  obtain ⟨-, hfault⟩ := replay_applies_valid_prefix Peer.nobody ()
    ⟨⟨[], none⟩, ⟨[], [], [], []⟩, Text.encode text⟩ ⟨"s", 1, "core", none, 0, 1, ⟨"", "", ""⟩⟩
    none "-" text (if_pos (by decide +kernel))
  let start := "\x7b\"event\":\"suite_start\",\"suite\":\"S\"\x7d".toList
  have hlines : Text.lines text.toList = [[], start, ['?']] := by decide +kernel
  have hread : (WorkerEvent.ofLine start).toOption = some (.suiteStart ⟨"S", none⟩ false) := by
    decide +kernel
  have hstart : Legible start := by
    cases hline : WorkerEvent.ofLine start with
    | ok e => exact .inr ⟨e, hline⟩
    | error e =>
      rw [hline] at hread
      cases hread
  have hmark : ¬ Legible ['?'] := by
    rintro (hblank | ⟨e, he⟩)
    · exact absurd hblank (by decide)
    · have hnone : (WorkerEvent.ofLine ['?']).toOption = none := rfl
      rw [he] at hnone
      cases hnone
  rw [hlines] at hfault
  obtain ⟨before, line, after, hcut, hbefore, hline, hreplay, hrun⟩ :=
    hfault fun h => hmark (h _ (by simp))
  obtain rfl : before = [[], start] := by
    match before, hcut with
    | [], hcut =>
      obtain ⟨rfl, -⟩ := List.cons.inj hcut
      exact absurd (.inl rfl) hline
    | [_], hcut =>
      obtain ⟨-, hcut⟩ := List.cons.inj hcut
      obtain ⟨rfl, -⟩ := List.cons.inj hcut
      exact absurd hstart hline
    | [a, b], hcut =>
      have hsplit : [[], start] ++ [['?']] = [a, b] ++ line :: after := hcut
      exact (List.append_inj_left hsplit rfl).symm
    | _ :: _ :: _ :: before, hcut => simp at hcut
  have hevents : events [[], start] = [.suiteStart ⟨"S", none⟩ false] := by decide +kernel
  have hfilled : (filled [[], start]).length = 1 := by decide +kernel
  rw [hevents, hfilled] at hreplay
  exact ⟨hreplay, by rw [hrun]; decide +kernel⟩

end CommandLine

end TestTelemetry
