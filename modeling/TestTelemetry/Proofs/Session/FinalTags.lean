/-
The tags of a session at its end.

While a session runs, only those who ask for it write to its tags.  Its end writes what the results
said together, then the share of covered instructions and its status.

* `Session.tags_start`, `Session.tags_step`, `Session.closed_tags_callAll` — the tags until the end;
* `Session.get_tags_finish` — what the end leaves under a key;
* `Session.summary_of_finish` — what a summary takes over from the session that has ended.
-/
import TestTelemetry.Proofs.Session.EndsOnce

namespace TestTelemetry

namespace Session

variable {s : Session} {calls : List SessionCall}

/-- A session is started with the tag of its command, and its tags are open. -/
theorem tags_start {id : String} {options : SessionOptions} {provider : SettingsProvider}
    {index : IndexSource} {got : Option SocketAddress}
    (hstart : Session.start id options provider index got = .ok s) :
    s.tags = ⟨[(Tag.command, .str options.command)], false⟩ := by
  cases got with
  | none => cases hstart
  | some address =>
    obtain rfl := Except.ok.inj hstart
    rfl

/-- Whatever happens to its modules writes nothing to the tags of a session. -/
theorem tags_step (s : Session) (x : SessionStep) : (s.step x).tags = s.tags := by
  cases x with
  | startModule t name outputDirs =>
    show (s.startModule t name outputDirs).2.tags = s.tags
    obtain ⟨e, settings, n, hstart, -⟩ | ⟨settings, a, d, hstart, -⟩ :=
      s.startModule_cases t name outputDirs
    · rw [hstart]
    · rw [hstart]
  | endModule place =>
    obtain ⟨a, hend, -⟩ := s.outline_endModule place
    show (s.endModule place).2.tags = s.tags
    rw [hend]
  | work w keeps => rfl
  | signal t signal => cases signal <;> rfl

/-- Until a session is asked to end, its tags stay as open as they were. -/
theorem closed_tags_callAll (hquiet : ∀ c ∈ calls, SessionCall.isFinish c = false) :
    (s.callAll calls).tags.closed = s.tags.closed := by
  induction calls generalizing s with
  | nil => rfl
  | cons c rest ih =>
    have hcall : (s.call c).tags.closed = s.tags.closed := by
      cases c with
      | step x => exact congrArg TagLog.closed (s.tags_step x)
      | tag key value => exact TagLog.closed_set
      | finish t => cases hquiet _ (List.mem_cons_self ..)
    exact (ih fun d hd => hquiet d (List.mem_cons_of_mem _ hd)).trans hcall

/-- What the end of a session leaves under a key that is written neither for the covered share nor
for the status: what the results said of it, else what was there before. -/
theorem get_tags_finish (hphase : s.phase = .running) (hopen : s.tags.closed = false) {key : String}
    (hshare : key ≠ Tag.coverageLinesPct) (hstatus : key ≠ Tag.status) (t : FileTree) :
    (s.finish t).2.1.tags.get key =
      (((finalTags (s.finish t).2.1.totals).reverse.find? fun e => e.1 = key).map (·.2)).or
        (s.tags.get key) := by
  obtain ⟨a, ha, -⟩ := outline_endActive { s with phase := .ending }
  have htotals : (s.finish t).2.1.totals = a.totals := by
    rw [totals, (finish_spec hphase t).1, ha]
    rfl
  rw [htotals, ← TagLog.get_setAll hopen, finish_eq_of_endActive hphase ha]
  obtain ⟨-, index, hresolve⟩ | ⟨-, c, index, tree, hresolve, -⟩ := resolveCoverage_cases { s with
    phase := .ending, aggregator := a.close.2, tags := s.tags.setAll (finalTags a.totals) } t
  · rw [hresolve]
  · rw [hresolve]
    have hpct : ∀ e ∈ c.tags, e.1 ≠ key := by
      intro e he
      obtain ⟨n, -, rfl⟩ := List.mem_map.mp he
      exact hshare.symm
    show (TagLog.close _).get key = _
    rw [TagLog.get_close, TagLog.get_set_of_ne hstatus.symm, TagLog.get_setAll_of_ne hpct]

/-- A summary takes its number of skipped tests and its tags from the session that has ended. -/
theorem summary_of_finish (h : s.Sound) (hphase : s.phase = .running) {t : FileTree}
    {summary : Summary} (hsome : (s.finish t).1 = some summary) :
    summary.testsSkipped = (s.finish t).2.1.totals.testsSkipped ∧
      summary.tags = (s.finish t).2.1.tags.snapshot := by
  obtain ⟨-, -, -, hsummary, -⟩ := kept_of_summary h hphase hsome []
  rw [hsummary]
  exact ⟨rfl, rfl⟩

end Session

end TestTelemetry
