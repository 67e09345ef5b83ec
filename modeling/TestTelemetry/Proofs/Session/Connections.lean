/-
One answer for each line.

Lines arrive at a session on several connections, one after the other.  Each line that is not blank
is answered on its connection, and the session afterwards is what the handlers made of the signals
among the lines, in their order.

* `Arrival`, `Session.attend` — lines that arrive, and what comes of them;
* `Session.dispatch_of_error`, `Session.dispatch_of_ok` — what a single line comes to;
* `Session.attend_append`, `Session.snd_attend` — the answers in turn, and the session afterwards;
* `Session.serve_text` — all lines of one connection;
* `Session.lines_answered` — what a running session makes of the lines that arrive.
-/
import TestTelemetry.Proofs.Session.Signals
import TestTelemetry.Proofs.Signal.Wire

namespace TestTelemetry

variable {κ : Type}

/-- A line that arrives on a connection, and the files that are there when it is read. -/
structure Arrival (κ : Type) where
  connection : κ
  files : FileTree
  line : List Char

namespace Arrival

def isBlank (a : Arrival κ) : Bool := a.line.all Text.isBlank

/-- The signal that a line holds, if it holds one, with the files that are there. -/
def signal? (a : Arrival κ) : Option (FileTree × Signal) :=
  (decodeLine Signal.decoder a.line).toOption.map (a.files, ·)

end Arrival

namespace Session

variable {s : Session} {t : FileTree} {line : List Char}

/-- What is answered to lines that arrive one after the other, each answer with its line, and the
session afterwards. -/
def attend : List (Arrival κ) → Session → List (Arrival κ × Response) × Session
  | [], s => ([], s)
  | a :: rest, s =>
    let (now, s) := serveLines (handlers a.files) [a.line] s
    let (later, s) := attend rest s
    (now.map (a, ·) ++ later, s)

/-! ### One line -/

theorem dispatch_of_error {e : LineError} (h : decodeLine Signal.decoder line = .error e)
    (s : Session) :
    dispatch (handlers t) line s = (.error ("Could not decode signal: " ++ e.message), s) := by
  rw [dispatch, h]
  rfl

theorem dispatch_of_ok {signal : Signal} (h : decodeLine Signal.decoder line = .ok signal)
    (s : Session) :
    dispatch (handlers t) line s =
      (responseOf signal.kind (handlerOf t signal.kind signal s).1,
        (handlerOf t signal.kind signal s).2) := by
  rw [dispatch, h]
  exact handle_eq s t signal

theorem decodeLine_blank (h : line.all Text.isBlank = true) :
    decodeLine Signal.decoder line = .error .empty := by
  have htrim : Text.trim line = [] := Text.trim_eq_nil_iff.mpr (List.all_eq_true.mp h)
  rw [decodeLine]
  exact if_pos htrim

theorem serveLines_singleton (s : Session) (a : Arrival κ) :
    serveLines (handlers a.files) [a.line] s =
      if a.isBlank then ([], s)
      else ([(dispatch (handlers a.files) a.line s).1], (dispatch (handlers a.files) a.line s).2) :=
  rfl

/-- What a signal, if there is one, makes of the session. -/
def applySignal (s : Session) (x : FileTree × Signal) : Session :=
  (handlerOf x.1 x.2.kind x.2 s).2

theorem snd_serveLines_singleton (s : Session) (a : Arrival κ) :
    (serveLines (handlers a.files) [a.line] s).2 = a.signal?.toList.foldl applySignal s := by
  rw [serveLines_singleton]
  cases hread : decodeLine Signal.decoder a.line with
  | error e =>
    have hnone : a.signal? = none := by
      rw [Arrival.signal?, hread]
      rfl
    rw [hnone, dispatch_of_error hread]
    split <;> rfl
  | ok signal =>
    -- What holds a signal is not blank.
    have hsome : a.signal? = some (a.files, signal) := by
      rw [Arrival.signal?, hread]
      rfl
    have hnot : ¬ a.isBlank = true := fun hblank =>
      absurd (hread.symm.trans (decodeLine_blank hblank)) (by simp)
    rw [hsome, if_neg hnot, dispatch_of_ok hread]
    rfl

/-! ### Many lines -/

theorem attend_cons (a : Arrival κ) (rest : List (Arrival κ)) (s : Session) :
    attend (a :: rest) s =
      ((serveLines (handlers a.files) [a.line] s).1.map (a, ·) ++
          (attend rest (serveLines (handlers a.files) [a.line] s).2).1,
        (attend rest (serveLines (handlers a.files) [a.line] s).2).2) := rfl

/-- What comes of later lines depends on the session as the earlier ones left it. -/
theorem attend_append (before after : List (Arrival κ)) (s : Session) :
    attend (before ++ after) s =
      ((attend before s).1 ++ (attend after (attend before s).2).1,
        (attend after (attend before s).2).2) := by
  induction before generalizing s with
  | nil => rfl
  | cons a rest ih => rw [List.cons_append, attend_cons, attend_cons, ih, List.append_assoc]

theorem attend_cons_of_not_blank {a : Arrival κ} (h : a.isBlank = false) (rest : List (Arrival κ))
    (s : Session) :
    attend (a :: rest) s =
      ((a, (dispatch (handlers a.files) a.line s).1) ::
          (attend rest (dispatch (handlers a.files) a.line s).2).1,
        (attend rest (dispatch (handlers a.files) a.line s).2).2) := by
  rw [attend_cons, serveLines_singleton, h]
  rfl

/-- Every line that is not blank is answered, in order. -/
theorem fst_attend (arrivals : List (Arrival κ)) (s : Session) :
    (attend arrivals s).1.map (·.1) = arrivals.filter (!·.isBlank) := by
  induction arrivals generalizing s with
  | nil => rfl
  | cons a rest ih =>
    rw [attend_cons, List.map_append, ih, serveLines_singleton]
    cases hblank : a.isBlank <;> simp [hblank]

theorem fst_attend_connection [DecidableEq κ] (arrivals : List (Arrival κ)) (s : Session) (c : κ) :
    ((attend arrivals s).1.filter (·.1.connection = c)).map (·.1) =
      (arrivals.filter (·.connection = c)).filter (!·.isBlank) := by
  -- The answers of a connection are those of all lines, filtered; so are its lines.
  have hfilter := congrArg (List.filter fun a => decide (a.connection = c)) (fst_attend arrivals s)
  rw [List.filter_map, List.filter_filter] at hfilter
  rw [List.filter_filter]
  simp only [Bool.and_comm] at hfilter ⊢
  exact hfilter

/-- The session afterwards is what the handlers made of the signals among the lines. -/
theorem snd_attend (arrivals : List (Arrival κ)) (s : Session) :
    (attend arrivals s).2 = (arrivals.filterMap Arrival.signal?).foldl applySignal s := by
  induction arrivals generalizing s with
  | nil => rfl
  | cons a rest ih =>
    rw [attend_cons, ih, snd_serveLines_singleton]
    cases hsignal : a.signal? with
    | none => rw [List.filterMap_cons_none hsignal]; rfl
    | some x => rw [List.filterMap_cons_some hsignal]; rfl

/-- All lines of one connection, read while the files stay the same. -/
theorem serveLines_eq_attend (t : FileTree) (connection : κ) (lines : List (List Char))
    (s : Session) :
    serveLines (handlers t) lines s =
      ((attend (lines.map (⟨connection, t, ·⟩)) s).1.map (·.2),
        (attend (lines.map (⟨connection, t, ·⟩)) s).2) := by
  induction lines generalizing s with
  | nil => rfl
  | cons line rest ih =>
    rw [List.map_cons, attend_cons, serveLines_singleton, serveLines]
    by_cases hblank : line.all Text.isBlank = true
    · rw [if_pos hblank, if_pos (show Arrival.isBlank ⟨connection, t, line⟩ = true from hblank), ih]
      rfl
    · rw [if_neg hblank, if_neg (show ¬ Arrival.isBlank ⟨connection, t, line⟩ = true from hblank)]
      simp only [ih]
      rfl

/-! ### A running session -/

theorem phase_handlerOf (t : FileTree) (signal : Signal) (s : Session) :
    (handlerOf t signal.kind signal s).2.phase = s.phase := by
  cases signal <;> rfl

theorem phase_attend (arrivals : List (Arrival κ)) (s : Session) :
    (attend arrivals s).2.phase = s.phase := by
  rw [snd_attend]
  induction arrivals.filterMap Arrival.signal? generalizing s with
  | nil => rfl
  | cons x rest ih => exact (ih (s.applySignal x)).trans (phase_handlerOf x.1 x.2 s)

theorem serve_text (hrunning : s.phase = .running) (t : FileTree) (connection : κ)
    (text : List Char) :
    s.serve t (Text.encode (String.ofList text)) =
      (some ((attend ((endedPieces '\n' text).map (⟨connection, t, ·⟩)) s).1.map (·.2)),
        (attend ((endedPieces '\n' text).map (⟨connection, t, ·⟩)) s).2) := by
  rw [serve, if_pos hrunning, TestTelemetry.serve, textLines_byteLines,
    serveLines_eq_attend t connection]

/-- What a session makes of lines that arrive on its connections. -/
structure LinesAnswered [DecidableEq κ] (s : Session) (arrivals : List (Arrival κ)) : Prop where
  /-- Each line that is not blank is answered once, in order; blank lines are not. -/
  one_each : (attend arrivals s).1.map (·.1) = arrivals.filter (!·.isBlank)
  /-- So it is on every connection. -/
  each_connection : ∀ c, ((attend arrivals s).1.filter (·.1.connection = c)).map (·.1) =
    (arrivals.filter (·.connection = c)).filter (!·.isBlank)
  /-- A line is answered, and changes the session, as it finds it. -/
  in_turn : ∀ before a after, arrivals = before ++ a :: after → a.isBlank = false →
    attend arrivals s =
      let (earlier, s) := attend before s
      let (response, s) := dispatch (handlers a.files) a.line s
      let (later, s) := attend after s
      (earlier ++ (a, response) :: later, s)
  /-- The session afterwards is what the handlers of their kinds made of the signals. -/
  signals_only : (attend arrivals s).2 = (arrivals.filterMap Arrival.signal?).foldl
    (fun s x => (handlerOf x.1 x.2.kind x.2 s).2) s
  /-- It still runs. -/
  running : (attend arrivals s).2.phase = .running

/-- **One answer for each line, and only signals touch the session.** -/
theorem lines_answered [DecidableEq κ] (hrunning : s.phase = .running) :
    (∀ arrivals : List (Arrival κ), s.LinesAnswered arrivals) ∧
    -- All that comes on one connection is cut into lines.
    (∀ t connection text, s.serve t (Text.encode (String.ofList text)) =
      (some ((attend ((endedPieces '\n' text).map (⟨(connection : κ), t, ·⟩)) s).1.map (·.2)),
        (attend ((endedPieces '\n' text).map (⟨connection, t, ·⟩)) s).2)) ∧
    -- A line that is no signal is refused.
    (∀ t line e, decodeLine Signal.decoder line = .error e →
      dispatch (handlers t) line s =
        (.error ("Could not decode signal: " ++ e.message), s)) ∧
    -- A signal is answered by the handler of its kind, which never finds it to be of another.
    (∀ t line signal, decodeLine Signal.decoder line = .ok signal →
      dispatch (handlers t) line s =
          (responseOf signal.kind (handlerOf t signal.kind signal s).1,
            (handlerOf t signal.kind signal s).2) ∧
        ∀ k, (dispatch (handlers t) line s).1 ≠ responseOf signal.kind (misrouted signal k)) ∧
    -- A result has the same effect as one that comes from a module of the session's own process.
    (∀ t line r, decodeLine Signal.decoder line = .ok (.moduleResult r) →
      dispatch (handlers t) line s = (.moduleAck (s.acceptResult r).1, (s.acceptResult r).2)) ∧
    (∀ t place run r, s.run.endModule place = (run, some r) →
      (s.endModule place).2 =
        (dispatch (handlers t) (encodeLine (Signal.moduleResult r).toJson)
          (s.mapRun fun _ => run)).2) := by
  refine ⟨fun arrivals => ?_, fun t connection text => serve_text hrunning t connection text,
    fun t line e h => dispatch_of_error h s, fun t line signal h => ?_, fun t line r h => ?_,
    fun t place run r h => ?_⟩
  · refine ⟨fst_attend arrivals s, fst_attend_connection arrivals s,
      fun before a after heq hblank => ?_, snd_attend arrivals s,
      (phase_attend arrivals s).trans hrunning⟩
    rw [heq, attend_append, attend_cons_of_not_blank hblank]
  · refine ⟨dispatch_of_ok h s, fun k => ?_⟩
    rw [dispatch, h]
    exact handle_ne_misrouted s t signal k
  · rw [dispatch, h]
    exact handle_moduleResult s t r
  · rw [endModule, h, dispatch, Signal.survives.read_back (.moduleResult r)]
    rfl

/-- One connection sends a blank line and a module's result, another a line that is no signal.  Had
the module ended by itself, the session would be the same. -/
theorem lines_of_two_connections :
    let t : FileTree := ⟨[], [], [], []⟩
    let started : Session := ⟨"s", .initial "project" "build", .running, .empty, .empty,
      .always .initial, .empty, .given (.failed []), 1, SignalServer.anyPort⟩
    let s := (started.startModule t "core" []).2
    let r : ModuleResult := ⟨"s", 1, "core", false, false, false, false, some "pass", 0, none⟩
    let line := encodeLine (Signal.moduleResult r).toJson
    let arrivals : List (Arrival Nat) := [⟨0, t, [' ']⟩, ⟨1, t, ['x']⟩, ⟨0, t, line⟩]
    s.phase = .running ∧ s.LinesAnswered arrivals ∧
      decodeLine Signal.decoder ['x'] = .error (.malformed .malformed) ∧
      dispatch (handlers t) ['x'] s =
        (.error "Could not decode signal: malformed message: <syntax>", s) ∧
      decodeLine Signal.decoder line = .ok (.moduleResult r) ∧
      dispatch (handlers t) line s = (.moduleAck true, (s.acceptResult r).2) ∧
      (s.run.endModule 0).2 = some r ∧
      (s.endModule 0).2 =
        (dispatch (handlers t) line (s.mapRun fun _ => (s.run.endModule 0).1)).2 := by
  intro t started s r line arrivals
  obtain ⟨hall, -, hrefused, -, hresult, hend⟩ := lines_answered (κ := Nat) (s := s) rfl
  have hx : decodeLine Signal.decoder ['x'] = .error (.malformed .malformed) := by decide
  have hline : decodeLine Signal.decoder line = .ok (.moduleResult r) :=
    Signal.survives.read_back (.moduleResult r)
  have hended : (s.run.endModule 0).2 = some r := rfl
  exact ⟨rfl, hall arrivals, hx, hrefused t _ _ hx, hline, hresult t line r hline, hended,
    hend t 0 _ r (Prod.ext rfl hended)⟩

end Session

end TestTelemetry
