/-
How many tests a session says were skipped.

A session adds up what the results report, in 64 bits.  As long as the sum fits, the total never
falls and is never below what a single result reported; the first sum that does not fit loses
2^64 tests at once.  At the end of the session the total decides whether a tag says that tests were
skipped, and a sum that is a multiple of 2^64 says that there were none.

* `Session.KeepsSkips` — the total never falls, and no result reported more;
* `Session.testsSkipped_callAll` — the total is the sum up to multiples of 2^64;
* `Session.keepsSkips_of_lt`, `Session.lt_of_keepsSkips` — the total is kept just if the sum fits;
* `Session.skipped_total` — the total along every run of a session, and the tag at its end.
-/
import TestTelemetry.Proofs.Session.Accepted
import TestTelemetry.Proofs.Session.FinalTags

namespace TestTelemetry

theorem testsSkipped_le_skippedSum {rs : List ModuleResult} {r : ModuleResult} (hr : r ∈ rs) :
    r.testsSkipped.toNat ≤ skippedSum rs :=
  List.le_sum_of_mem (List.mem_map_of_mem hr)

/-- A tag says that tests were skipped if skipping was enabled and the total is not zero. -/
theorem find?_finalTags_testsSkipped (t : Totals) :
    ((finalTags t).reverse.find? fun e => e.1 = Tag.testsSkipped).map (·.2) =
      if t.skipEnabled = true ∧ 0 < t.testsSkipped then some (.bool true) else none := by
  -- Neither what is said of coverage nor what is said of new tests has this key.
  have hcovered : ∀ on : Bool, (if on then [(Tag.coverageEnabled, TagValue.bool true)] else
      []).reverse.find? (fun e => e.1 = Tag.testsSkipped) = none := by
    intro on
    cases on <;> rfl
  have hflakes : ∀ on faulty : Bool, (if on then (Tag.earlyFlakeEnabled, TagValue.bool true) ::
      (if faulty then [(Tag.earlyFlakeAbortReason, .str ModuleResult.faultyReason)] else [])
      else []).reverse.find? (fun e => e.1 = Tag.testsSkipped) = none := by
    intro on faulty
    cases on <;> cases faulty <;> rfl
  rw [finalTags, List.reverse_append, List.reverse_append, List.find?_append, List.find?_append,
    hflakes, hcovered, Option.none_or, Option.or_none]
  cases t.skipEnabled with
  | false => rfl
  | true =>
    by_cases hskipped : 0 < t.testsSkipped
    · rw [if_pos rfl, if_pos hskipped, if_pos ⟨rfl, hskipped⟩]
      rfl
    · rw [if_pos rfl, if_neg hskipped, if_neg (mt And.right hskipped)]
      rfl

/-- The total of some results is their sum up to multiples of 2^64. -/
theorem toNat_testsSkipped (rs : List ModuleResult) :
    (rs.foldl Totals.add .zero).testsSkipped.toNat = skippedSum rs % 2 ^ 64 := by
  rw [Totals.foldl_add]
  show (0 + UInt64.ofNat _).toNat = _
  rw [UInt64.zero_add, UInt64.toNat_ofNat']

namespace Session

variable {s s₀ : Session} {calls : List SessionCall}

/-- Along some calls the total of skipped tests never falls, and is never below what a result that
was taken in has reported. -/
structure KeepsSkips (s : Session) (calls : List SessionCall) : Prop where
  grows : ∀ u v, u <+: v → v <+: calls →
    (s.callAll u).totals.testsSkipped ≤ (s.callAll v).totals.testsSkipped
  covers : ∀ u, u <+: calls → ∀ r ∈ s.accepted u,
    r.testsSkipped ≤ (s.callAll u).totals.testsSkipped

/-- What was taken in along some calls was taken in along more. -/
theorem skippedSum_accepted_le {u v : List SessionCall} (h : u <+: v) :
    skippedSum (s.accepted u) ≤ skippedSum (s.accepted v) := by
  obtain ⟨w, rfl⟩ := h
  rw [accepted_append, skippedSum_append]
  exact Nat.le_add_right ..

section Running

variable (h : s.Sound) (hphase : s.phase = .running) (hzero : s.totals = .zero)
  (hquiet : ∀ c ∈ calls, SessionCall.isFinish c = false)

include h hphase hzero hquiet

/-- The total is the sum up to multiples of 2^64. -/
theorem testsSkipped_callAll :
    (s.callAll calls).totals.testsSkipped.toNat = skippedSum (s.accepted calls) % 2 ^ 64 := by
  rw [totals_callAll h hphase hquiet, hzero, toNat_testsSkipped]

/-- A sum that fits is the total all along. -/
theorem keepsSkips_of_lt (hfits : skippedSum (s.accepted calls) < 2 ^ 64) :
    s.KeepsSkips calls := by
  -- No sum on the way is larger than the last one, so each of them fits.
  have hexact : ∀ u, u <+: calls →
      (s.callAll u).totals.testsSkipped.toNat = skippedSum (s.accepted u) := by
    intro u hu
    rw [testsSkipped_callAll h hphase hzero fun c hc => hquiet c (hu.subset hc)]
    exact Nat.mod_eq_of_lt (Nat.lt_of_le_of_lt (skippedSum_accepted_le hu) hfits)
  constructor
  · intro u v huv hv
    rw [UInt64.le_iff_toNat_le, hexact u (huv.trans hv), hexact v hv]
    exact skippedSum_accepted_le huv
  · intro u hu r hr
    rw [UInt64.le_iff_toNat_le, hexact u hu]
    exact testsSkipped_le_skippedSum hr

/-- The first sum that does not fit is below the total that was there before. -/
theorem lt_of_keepsSkips (hkeeps : s.KeepsSkips calls) :
    skippedSum (s.accepted calls) < 2 ^ 64 := by
  -- From the end: the sum before the last call fitted, and a call brings at most one number.
  induction calls using List.reverseRecOn with
  | nil => exact Nat.two_pow_pos 64
  | append_singleton before c ih =>
    have hbefore : ∀ c ∈ before, SessionCall.isFinish c = false :=
      fun d hd => hquiet d (List.mem_append_left _ hd)
    have hfits := ih hbefore
      ⟨fun u v huv hv => hkeeps.grows u v huv (hv.trans (List.prefix_append ..)),
        fun u hu => hkeeps.covers u (hu.trans (List.prefix_append ..))⟩
    have hopen := (running_callAll h hphase hbefore).1.isOpen
    have hgrows := hkeeps.grows before _ (List.prefix_append before [c]) (List.prefix_refl _)
    rw [UInt64.le_iff_toNat_le, testsSkipped_callAll h hphase hzero hbefore,
      testsSkipped_callAll h hphase hzero hquiet] at hgrows
    rw [accepted_append, accepted_of_open hopen, skippedSum_append] at hgrows ⊢
    rcases brought_of_quiet (s := s.callAll before) (hquiet c (by simp)) with hnone | ⟨r, hone⟩
    · rw [hnone]
      exact hfits
    · rw [hone, skippedSum_cons] at hgrows ⊢
      have hr := r.testsSkipped.toNat_lt
      have hnil : skippedSum [] = 0 := rfl
      -- If 2^64 had been lost, more than the new number would be missing.
      omega

end Running

/-- **How many tests a session says were skipped.**  Whatever is asked of a session that was
started, its total is the sum of what the results report that it has taken in, up to multiples of
2^64.  It never falls and is never below what one of these reported if and only if this sum is below
2^64.  The end takes in the results of the modules that are still active, and leaves a tag which
says that tests were skipped just if a result had skipping enabled and the sum of all results is no
multiple of 2^64; otherwise it leaves what was written there before. -/
theorem skipped_total {id : String} {options : SessionOptions} {provider : SettingsProvider}
    {index : IndexSource} {got : Option SocketAddress}
    (hstart : Session.start id options provider index got = .ok s₀)
    (hquiet : ∀ c ∈ calls, SessionCall.isFinish c = false) (t : FileTree) :
    let s := s₀.callAll calls
    let last := s₀.callAll (calls ++ [.finish t])
    let all := s₀.accepted (calls ++ [.finish t])
    s.totals.testsSkipped.toNat = skippedSum (s₀.accepted calls) % 2 ^ 64 ∧
      (s₀.KeepsSkips calls ↔ skippedSum (s₀.accepted calls) < 2 ^ 64) ∧
      all = s₀.accepted calls ++ s.registry.active.map (·.2.result) ∧
      last.totals.testsSkipped.toNat = skippedSum all % 2 ^ 64 ∧
      last.tags.get Tag.testsSkipped =
        (if all.any (·.skipEnabled) = true ∧ ¬ 2 ^ 64 ∣ skippedSum all then some (.bool true)
          else s.tags.get Tag.testsSkipped) ∧
      ∀ summary, (s.finish t).1 = some summary →
        summary.testsSkipped = last.totals.testsSkipped ∧ summary.tags = last.tags.snapshot := by
  intro s last all
  obtain ⟨h₀, hphase₀, -, hzero, -⟩ := sound_start hstart
  obtain ⟨h, hphase, -⟩ := running_callAll h₀ hphase₀ hquiet
  have hopen : s.tags.closed = false := by
    rw [closed_tags_callAll hquiet, tags_start hstart]
  have hlast : last = (s.finish t).2.1 := callAll_append s₀ calls [.finish t]
  have hall : all = s₀.accepted calls ++ s.registry.active.map (·.2.result) := by
    have hend : s.accepted [.finish t] = s.registry.active.map (·.2.result) :=
      accepted_of_open h.isOpen (.finish t)
    rw [← hend]
    exact accepted_append s₀ calls [.finish t]
  have htotals : last.totals = all.foldl Totals.add .zero := by
    rw [hlast, totals_finish h hphase, totals_callAll h₀ hphase₀ hquiet, hzero, ← List.foldl_append,
      hall]
  have hskipped : last.totals.testsSkipped.toNat = skippedSum all % 2 ^ 64 := by
    rw [htotals, toNat_testsSkipped]
  refine ⟨testsSkipped_callAll h₀ hphase₀ hzero hquiet,
    ⟨lt_of_keepsSkips h₀ hphase₀ hzero hquiet, keepsSkips_of_lt h₀ hphase₀ hzero hquiet⟩, hall,
    hskipped, ?_, ?_⟩
  · have hpositive : 0 < last.totals.testsSkipped ↔ ¬ 2 ^ 64 ∣ skippedSum all := by
      rw [UInt64.lt_iff_toNat_lt, hskipped, Nat.dvd_iff_mod_eq_zero]
      exact Nat.pos_iff_ne_zero
    have henabled : last.totals.skipEnabled = all.any (·.skipEnabled) := by
      rw [htotals, Totals.foldl_add]
      exact Bool.false_or _
    have hshare : Tag.testsSkipped ≠ Tag.coverageLinesPct := by decide
    have hstatus : Tag.testsSkipped ≠ Tag.status := by decide
    have htag := get_tags_finish hphase hopen hshare hstatus t
    rw [find?_finalTags_testsSkipped, ← hlast] at htag
    simp only [henabled, hpositive] at htag
    rw [htag]
    split <;> rfl
  · rw [hlast]
    exact fun summary hsome => summary_of_finish h hphase hsome

/-- Two workers report three and four skipped tests while another module is active: the total is
seven, and a tag says that tests were skipped. -/
theorem skipped_total_of_two_workers :
    let s₀ : Session := ⟨"s", .initial "project" "build", .running,
      TagLog.empty.set Tag.command (.str "build"), .empty, .always .initial, .empty,
      .given (.failed []), 1, SignalServer.anyPort⟩
    let t : FileTree := ⟨[], [], [], []⟩
    let r (n : UInt64) : ModuleResult := ⟨"s", 9, "api", false, true, false, false, none, n, none⟩
    let calls : List SessionCall := [.step (.startModule t "core" []),
      .step (.signal t (.moduleResult (r 3))), .step (.signal t (.moduleResult (r 4)))]
    Session.start "s" (.initial "project" "build") (.always .initial) (.given (.failed []))
        (some SignalServer.anyPort) = .ok s₀ ∧
      (∀ c ∈ calls, SessionCall.isFinish c = false) ∧ s₀.KeepsSkips calls ∧
      (s₀.callAll (calls ++ [.finish t])).totals.testsSkipped.toNat = 7 ∧
      (s₀.callAll (calls ++ [.finish t])).tags.get Tag.testsSkipped = some (.bool true) := by
  intro s₀ t r calls
  have hstart : Session.start "s" (.initial "project" "build") (.always .initial)
      (.given (.failed [])) (some SignalServer.anyPort) = .ok s₀ := rfl
  have hquiet : ∀ c ∈ calls, SessionCall.isFinish c = false := by simp [calls, SessionCall.isFinish]
  obtain ⟨-, hkeeps, -, htotal, htag, -⟩ := skipped_total hstart hquiet t
  have hsum : skippedSum (s₀.accepted calls) = 7 := by decide +kernel
  have hall : skippedSum (s₀.accepted (calls ++ [.finish t])) = 7 := by decide +kernel
  have henabled : (s₀.accepted (calls ++ [.finish t])).any (·.skipEnabled) = true := by
    decide +kernel
  rw [hall] at htotal htag
  rw [if_pos ⟨henabled, by decide⟩] at htag
  exact ⟨hstart, hquiet, hkeeps.mpr (by rw [hsum]; decide), htotal, htag⟩

/-- A worker reports 2^64 - 1 skipped tests and another one 1, both with skipping enabled: the total
falls to zero, and no tag says that tests were skipped. -/
theorem one_more_skip_empties_total :
    let s₀ : Session := ⟨"s", .initial "project" "build", .running,
      TagLog.empty.set Tag.command (.str "build"), .empty, .always .initial, .empty,
      .given (.failed []), 1, SignalServer.anyPort⟩
    let t : FileTree := ⟨[], [], [], []⟩
    let r (n : UInt64) : ModuleResult := ⟨"s", 9, "api", false, true, false, false, none, n, none⟩
    let calls : List SessionCall := [.step (.signal t (.moduleResult (r 18446744073709551615))),
      .step (.signal t (.moduleResult (r 1)))]
    Session.start "s" (.initial "project" "build") (.always .initial) (.given (.failed []))
        (some SignalServer.anyPort) = .ok s₀ ∧
      s₀.accepted calls = [r 18446744073709551615, r 1] ∧ ¬ s₀.KeepsSkips calls ∧
      ∃ summary, ((s₀.callAll calls).finish t).1 = some summary ∧ summary.testsSkipped = 0 ∧
        summary.tags.find? Tag.testsSkipped = none := by
  intro s₀ t r calls
  have hfalls : ¬ (s₀.callAll (calls.take 1)).totals.testsSkipped ≤
      (s₀.callAll calls).totals.testsSkipped := by decide +kernel
  have hend : (((s₀.callAll calls).finish t).1.any fun x =>
      x.testsSkipped == 0 && (x.tags.find? Tag.testsSkipped).isNone) = true := by decide +kernel
  obtain ⟨summary, hsummary, htold⟩ := Option.any_eq_true _ _ |>.mp hend
  rw [Bool.and_eq_true, beq_iff_eq, Option.isNone_iff_eq_none] at htold
  exact ⟨rfl, rfl, fun hkeeps =>
    hfalls (hkeeps.grows _ calls (List.take_prefix ..) (List.prefix_refl _)), summary, hsummary, htold⟩

end Session

end TestTelemetry
