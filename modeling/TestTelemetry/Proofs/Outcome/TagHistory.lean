/-
What is read of a tag log after any calls.

A log is read in two ways, backwards for one key and forwards for all of them.  Both give what was
set last before the log was first closed; from then on no call changes anything.

* `TagCall` — a call that can change a log: a write, or closing it;
* `TagCall.beforeClosing`, `TagCall.LastSet` — the writes that count, and the last one of a key;
* `TagLog.follow`, `TagLog.answers` — a log after some calls, and what they are answered;
* `TagLog.get_follow_eq_some_iff` — the last write of a key is what is read;
* `TagLog.readers_agree` — both readers, the answers and the log once it is closed.
-/
import TestTelemetry.Proofs.Outcome.TagLog

namespace TestTelemetry

/-- A call to a log that can change it. -/
inductive TagCall
  | set (key : String) (value : TagValue)
  | close

namespace TagCall

def isClose : TagCall → Bool
  | set .. => false
  | close => true

/-- The tag that a call writes. -/
def tag? : TagCall → Option (String × TagValue)
  | set key value => some (key, value)
  | close => none

/-- The calls before the log is first closed. -/
def beforeClosing (calls : List TagCall) : List TagCall := calls.takeWhile fun c => !c.isClose

/-- What a call is answered that comes after some others: a write, whether the log is still open;
closing is answered with nothing. -/
def answerAfter (before : List TagCall) : TagCall → Option Bool
  | set .. => some (!before.any isClose)
  | close => none

/-- Before the log is first closed a key is set to a value, and after that not again. -/
def LastSet (calls : List TagCall) (key : String) (value : TagValue) : Prop :=
  ∃ before after, beforeClosing calls = before ++ set key value :: after ∧
    ∀ later, set key later ∉ after

variable {c : TagCall} {calls : List TagCall} {key : String} {value : TagValue}

theorem isClose_iff : c.isClose = true ↔ c = close := by
  cases c <;> simp [isClose]

theorem any_isClose_iff : calls.any isClose = true ↔ close ∈ calls := by
  simp [isClose_iff]

theorem tag?_eq_some_iff : c.tag? = some (key, value) ↔ c = set key value := by
  cases c <;> simp [tag?]

/-- Some calls write a tag if one of them sets it. -/
theorem mem_filterMap_tag? : (key, value) ∈ calls.filterMap tag? ↔ set key value ∈ calls := by
  simp [List.mem_filterMap, tag?_eq_some_iff]

end TagCall

namespace TagLog

open TagCall

/-- A log after a call. -/
def step (l : TagLog) : TagCall → TagLog
  | .set key value => l.set key value
  | .close => l.close

/-- A log after some calls. -/
def follow (l : TagLog) (calls : List TagCall) : TagLog := calls.foldl step l

/-- What a call is answered. -/
def answer (l : TagLog) : TagCall → Option Bool
  | .set .. => some l.accepts
  | .close => none

/-- What some calls are answered, one after the other. -/
def answers (l : TagLog) : List TagCall → List (Option Bool)
  | [] => []
  | c :: rest => l.answer c :: (l.step c).answers rest

variable {l : TagLog} {key : String} {value : TagValue}

/-! ### Once a log is closed -/

theorem step_of_closed (h : l.closed = true) (c : TagCall) : l.step c = l := by
  cases c with
  | set key value => exact set_of_closed h
  | close => exact close_of_closed h

theorem follow_of_closed (h : l.closed = true) (calls : List TagCall) : l.follow calls = l := by
  rw [follow]
  induction calls with
  | nil => rfl
  | cons c rest ih => rw [List.foldl_cons, step_of_closed h, ih]

/-- Whatever is called after a log was closed, it stays as it was left. -/
theorem follow_close (l : TagLog) (calls more : List TagCall) :
    l.follow (calls ++ .close :: more) = (l.follow calls).close := by
  rw [follow, List.foldl_append, List.foldl_cons]
  exact follow_of_closed rfl more

theorem closed_step (l : TagLog) (c : TagCall) : (l.step c).closed = (l.closed || c.isClose) := by
  cases c with
  | set key value => rw [step, closed_set, isClose, Bool.or_false]
  | close => exact (Bool.or_true _).symm

theorem closed_follow (l : TagLog) (calls : List TagCall) :
    (l.follow calls).closed = (l.closed || calls.any isClose) := by
  induction calls generalizing l with
  | nil => exact (Bool.or_false _).symm
  | cons c rest ih =>
    show ((l.step c).follow rest).closed = _
    rw [ih, closed_step, List.any_cons, Bool.or_assoc]

/-! ### Until a log is closed -/

/-- An open log keeps what is set before it is closed, in order. -/
theorem entries_follow (h : l.closed = false) (calls : List TagCall) :
    (l.follow calls).entries = l.entries ++ (beforeClosing calls).filterMap tag? := by
  induction calls generalizing l with
  | nil => exact (List.append_nil _).symm
  | cons c rest ih =>
    show ((l.step c).follow rest).entries = _
    cases c with
    | set key value =>
      rw [step, ih (closed_set.trans h), set_of_open h, List.append_assoc]
      rfl
    | close =>
      rw [step, follow_of_closed rfl]
      exact (List.append_nil _).symm

theorem getElem?_answers (l : TagLog) (calls : List TagCall) (i : Nat) :
    (l.answers calls)[i]? = calls[i]?.map (l.follow (calls.take i)).answer := by
  induction calls generalizing l i with
  | nil => rfl
  | cons c rest ih =>
    cases i with
    | zero => rfl
    | succ i => exact ih (l.step c) i

theorem answer_follow (calls : List TagCall) (c : TagCall) :
    (empty.follow calls).answer c = c.answerAfter calls := by
  cases c with
  | set key value =>
    rw [answer, answerAfter, accepts, closed_follow]
    rfl
  | close => rfl

/-! ### Reading -/

/-- What a log answers for a key is the last of its entries with the key. -/
theorem get_eq_some_iff : l.get key = some value ↔
    ∃ before after, l.entries = before ++ (key, value) :: after ∧ ∀ later, (key, later) ∉ after := by
  rw [get, Option.map_eq_some_iff]
  -- the log is searched from its end: what comes before the entry there comes after it in the log
  constructor
  · rintro ⟨e, hfound, rfl⟩
    obtain ⟨hkey, after, before, hentries, hafter⟩ := List.find?_eq_some_iff_append.mp hfound
    obtain rfl := of_decide_eq_true hkey
    refine ⟨before.reverse, after.reverse, ?_, fun later hlater => ?_⟩
    · rw [← List.reverse_reverse l.entries, hentries]
      simp
    · simpa using hafter _ (List.mem_reverse.mp hlater)
  · rintro ⟨before, after, hentries, hafter⟩
    refine ⟨(key, value), List.find?_eq_some_iff_append.mpr ⟨decide_eq_true rfl, after.reverse,
      before.reverse, ?_, fun e he => ?_⟩, rfl⟩
    · rw [hentries]
      simp
    · have hne : e.1 ≠ key := by
        rintro rfl
        exact hafter e.2 (List.mem_reverse.mp he)
      simpa using hne

theorem get_eq_none_iff : l.get key = none ↔ ∀ value, (key, value) ∉ l.entries := by
  rw [get, Option.map_eq_none_iff, List.find?_eq_none]
  constructor
  · exact fun h value hmem => h _ (List.mem_reverse.mpr hmem) (decide_eq_true rfl)
  · rintro h ⟨k, value⟩ he hkey
    obtain rfl := of_decide_eq_true hkey
    exact h value (List.mem_reverse.mp he)

/-- **The last write of a key is what is read.** -/
theorem get_follow_eq_some_iff {calls : List TagCall} :
    (empty.follow calls).get key = some value ↔ LastSet calls key value := by
  rw [get_eq_some_iff, entries_follow rfl, LastSet]
  constructor
  · rintro ⟨before, after, hentries, hafter⟩
    obtain ⟨first, rest, hcalls, -, hrest⟩ := List.filterMap_eq_append_iff.mp hentries
    obtain ⟨closings, c, later, rfl, -, hc, rfl⟩ := List.filterMap_eq_cons_iff.mp hrest
    obtain rfl := tag?_eq_some_iff.mp hc
    refine ⟨first ++ closings, later, ?_, fun v hv => hafter v (mem_filterMap_tag?.mpr hv)⟩
    rw [hcalls, List.append_assoc]
  · rintro ⟨before, after, hcalls, hafter⟩
    refine ⟨before.filterMap tag?, after.filterMap tag?, ?_, fun v hv =>
      hafter v (mem_filterMap_tag?.mp hv)⟩
    rw [hcalls, List.filterMap_append]
    rfl

theorem get_follow_eq_none_iff {calls : List TagCall} :
    (empty.follow calls).get key = none ↔ ∀ value, .set key value ∉ beforeClosing calls := by
  rw [get_eq_none_iff, entries_follow rfl]
  exact forall_congr' fun value => not_congr mem_filterMap_tag?

/-- **Both readers of a log agree, and closing it is final.**  After any calls, a key has the same
value whether it is looked up alone or among the final values of all keys: the value it was last set
to before the log was first closed, and none if it was not set before that.  A write is answered
with yes exactly if the log has not been closed before it, and whatever is called once the log is
closed, it is read as it was then and stays closed. -/
theorem readers_agree (calls : List TagCall) (key : String) :
    let l := empty.follow calls
    l.snapshot.find? key = l.get key ∧
    (∀ value, l.get key = some value ↔ LastSet calls key value) ∧
    (l.get key = none ↔ ∀ value, .set key value ∉ beforeClosing calls) ∧
    (∀ i : Nat, (empty.answers calls)[i]? = calls[i]?.map (answerAfter (calls.take i))) ∧
    (l.closed = true ↔ .close ∈ calls) ∧
    ∀ more, let later := empty.follow (calls ++ .close :: more)
      later.get key = l.get key ∧ later.snapshot = l.snapshot ∧ later.closed = true := by
  refine ⟨find?_snapshot _ key, fun _ => get_follow_eq_some_iff, get_follow_eq_none_iff,
    fun i => ?_, ?_, fun more => ?_⟩
  · have hanswer : (empty.follow (calls.take i)).answer = answerAfter (calls.take i) :=
      funext (answer_follow (calls.take i))
    rw [getElem?_answers, hanswer]
  · rw [closed_follow, ← any_isClose_iff]
    rfl
  · rw [follow_close]
    exact ⟨rfl, rfl, rfl⟩

example :
    empty.answers [.set "a" (.int 1), .set "a" (.int 2), .close, .set "a" (.int 3), .close] =
      [some true, some true, none, some false, none] := by decide

end TagLog

end TestTelemetry
