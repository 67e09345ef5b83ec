/-
The tags that a session reports.

The end of a session writes at most one tag for each of its report keys, and what it writes is
decided by the results that were taken in and by the bundle of their coverage.  Under every other
key stands what was written there last.

* `Session.tags_callAll`, `Session.tags_finish` — the tags of a session, before and after its end;
* `closingTags` — what the end writes, with at most one tag for each key (`keys_closingTags`);
* `Session.find?_summary` — what a summary has under a key;
* `Session.ReportTags` — what the tags of a summary are;
* `Session.report_tags` — they are this for every run that leaves the report keys to the session.
-/
import Mathlib.Data.List.Nodup
import TestTelemetry.Proofs.Data.Keyed
import TestTelemetry.Proofs.Outcome.RollUp
import TestTelemetry.Proofs.Session.Accepted
import TestTelemetry.Proofs.Session.FinalTags

namespace TestTelemetry

/-- The tag that a call writes. -/
def SessionCall.tag? : SessionCall → Option (String × TagValue)
  | tag key value => some (key, value)
  | _ => none

/-- The last tag with a key, where no key comes twice. -/
theorem TagLog.get_setAll_eq_some_iff {l : TagLog} (hopen : l.closed = false)
    {tags : List (String × TagValue)} (hnodup : (tags.map (·.1)).Nodup) {key : String}
    (hnone : l.get key = none) {value : TagValue} :
    (l.setAll tags).get key = some value ↔ (key, value) ∈ tags := by
  have hreverse : (tags.reverse.map (·.1)).Nodup := by
    rw [List.map_reverse]
    exact List.nodup_reverse.mpr hnodup
  have hfind := Keyed.find?_eq_some_iff (d := ⟨tags.reverse, hreverse⟩) (k := key) (v := value)
  rw [get_setAll hopen, hnone, Option.or_none, ← List.mem_reverse]
  exact hfind

/-! ### What the end writes -/

/-- What the end of a session writes: what its results said, its share of covered instructions, if
there is one, and its status. -/
def closingTags (t : Totals) (share : Option Nat) : List (String × TagValue) :=
  finalTags t ++ (SessionCoverage.mk share none).tags ++ [(Tag.status, .str t.modules.status.name)]

/-- The keys that the end of a session writes. -/
def closingKeys : List String :=
  [Tag.coverageEnabled, Tag.skippingEnabled, Tag.skippingType, Tag.skippingCount, Tag.testsSkipped,
    Tag.earlyFlakeEnabled, Tag.earlyFlakeAbortReason, Tag.coverageLinesPct, Tag.status]

/-- The keys of the tags that a session reports. -/
def reportKeys : List String := Tag.command :: closingKeys

/-- Tags that are written under a condition have no keys but their own. -/
theorem keys_ite_sublist {c : Prop} [Decidable c] {l : List (String × TagValue)}
    {keys : List String} (h : (l.map (·.1)).Sublist keys) :
    ((if c then l else []).map (·.1)).Sublist keys := by
  split
  · exact h
  · exact List.nil_sublist _

theorem keys_closingTags (t : Totals) (share : Option Nat) :
    ((closingTags t share).map (·.1)).Sublist closingKeys := by
  have hkey : ∀ (c : Prop) [Decidable c] (tag : String × TagValue),
      ((if c then [tag] else []).map (·.1)).Sublist [tag.1] :=
    fun _ _ _ => keys_ite_sublist (.refl _)
  have hskip : (([(Tag.skippingEnabled, TagValue.bool true), (Tag.skippingType, .str skippingUnit),
      (Tag.skippingCount, .count t.testsSkipped.toNat)] ++
        if t.testsSkipped > 0 then [(Tag.testsSkipped, TagValue.bool true)] else []).map
          (·.1)).Sublist
      ([Tag.skippingEnabled, Tag.skippingType, Tag.skippingCount] ++ [Tag.testsSkipped]) := by
    rw [List.map_append]
    exact (List.Sublist.refl _).append (hkey ..)
  have hflake : (((Tag.earlyFlakeEnabled, TagValue.bool true) ::
      if t.faulty then [(Tag.earlyFlakeAbortReason, .str ModuleResult.faultyReason)] else []).map
        (·.1)).Sublist [Tag.earlyFlakeEnabled, Tag.earlyFlakeAbortReason] :=
    (hkey ..).cons_cons _
  have hshare : ((SessionCoverage.mk share none).tags.map (·.1)).Sublist
      [Tag.coverageLinesPct] := by
    cases share
    · exact List.nil_sublist _
    · exact .refl _
  rw [closingTags, finalTags, List.map_append, List.map_append, List.map_append, List.map_append]
  exact ((((hkey ..).append (keys_ite_sublist hskip)).append (keys_ite_sublist hflake)).append
    hshare).append (.refl [Tag.status])

theorem mem_closingTags {t : Totals} {share : Option Nat} {key : String} {value : TagValue} :
    (key, value) ∈ closingTags t share ↔
      (t.coverageEnabled ∧ key = Tag.coverageEnabled ∧ value = .bool true) ∨
      (t.skipEnabled ∧ key = Tag.skippingEnabled ∧ value = .bool true) ∨
      (t.skipEnabled ∧ key = Tag.skippingType ∧ value = .str skippingUnit) ∨
      (t.skipEnabled ∧ key = Tag.skippingCount ∧ value = .count t.testsSkipped.toNat) ∨
      (t.skipEnabled ∧ 0 < t.testsSkipped ∧ key = Tag.testsSkipped ∧ value = .bool true) ∨
      (t.flakeDetectionEnabled ∧ key = Tag.earlyFlakeEnabled ∧ value = .bool true) ∨
      (t.flakeDetectionEnabled ∧ t.faulty ∧ key = Tag.earlyFlakeAbortReason ∧
        value = .str ModuleResult.faultyReason) ∨
      (∃ n, share = some n ∧ Tag.coverageLinesPct = key ∧ .count n = value) ∨
      (key = Tag.status ∧ value = .str t.modules.status.name) := by
  simp only [closingTags, finalTags, SessionCoverage.tags, List.mem_append, List.mem_ite_nil_right,
    List.mem_cons, List.not_mem_nil, or_false, Prod.mk.injEq, List.mem_map, Option.mem_toList,
    and_or_left, or_assoc, gt_iff_lt]

/-- What the end writes, key by key. -/
theorem mem_closingTags_at (t : Totals) (share : Option Nat) :
    (∀ w, (Tag.coverageEnabled, w) ∈ closingTags t share ↔
      t.coverageEnabled ∧ w = .bool true) ∧
    (∀ w, (Tag.skippingEnabled, w) ∈ closingTags t share ↔ t.skipEnabled ∧ w = .bool true) ∧
    (∀ w, (Tag.skippingType, w) ∈ closingTags t share ↔
      t.skipEnabled ∧ w = .str skippingUnit) ∧
    (∀ w, (Tag.skippingCount, w) ∈ closingTags t share ↔
      t.skipEnabled ∧ w = .count t.testsSkipped.toNat) ∧
    (∀ w, (Tag.testsSkipped, w) ∈ closingTags t share ↔
      (t.skipEnabled ∧ 0 < t.testsSkipped) ∧ w = .bool true) ∧
    (∀ w, (Tag.earlyFlakeEnabled, w) ∈ closingTags t share ↔
      t.flakeDetectionEnabled ∧ w = .bool true) ∧
    (∀ w, (Tag.earlyFlakeAbortReason, w) ∈ closingTags t share ↔
      (t.flakeDetectionEnabled ∧ t.faulty) ∧ w = .str ModuleResult.faultyReason) ∧
    (∀ w, (Tag.coverageLinesPct, w) ∈ closingTags t share ↔
      ∃ n, share = some n ∧ .count n = w) ∧
    (∀ w, (Tag.status, w) ∈ closingTags t share ↔ w = .str t.modules.status.name) := by
  simp [mem_closingTags, Tag.coverageEnabled, Tag.skippingEnabled, Tag.skippingType,
    Tag.skippingCount, Tag.testsSkipped, Tag.earlyFlakeEnabled, Tag.earlyFlakeAbortReason,
    Tag.coverageLinesPct, Tag.status, and_assoc]

theorem exists_percentage_iff {b : CoverageBundle} :
    (∃ n, b.percentage = some n) ↔ 0 < b.instructions.total := by
  rw [CoverageBundle.percentage, Counter.percentage, Nat.pos_iff_ne_zero]
  split
  case isTrue hzero => simp [hzero]
  case isFalse hpos => simp [hpos]

theorem eq_ite_of_iff {α : Type} {x : Option α} {c : Prop} [Decidable c] {v : α}
    (h : ∀ w, x = some w ↔ c ∧ w = v) : x = if c then some v else none := by
  split
  case isTrue hc => exact (h v).mpr ⟨hc, rfl⟩
  case isFalse hc => exact Option.eq_none_iff_forall_ne_some.mpr fun w hw => hc ((h w).mp hw).1

namespace Session

variable {s s₀ : Session} {calls : List SessionCall}

/-- Until its end, a session takes the tags that are written, one after the other. -/
theorem tags_callAll (hquiet : ∀ c ∈ calls, SessionCall.isFinish c = false) :
    (s.callAll calls).tags = s.tags.setAll (calls.filterMap SessionCall.tag?) := by
  induction calls generalizing s with
  | nil => rfl
  | cons c rest ih =>
    have hrest := ih (s := s.call c) fun d hd => hquiet d (List.mem_cons_of_mem _ hd)
    cases c with
    | tag key value => exact hrest
    | step x =>
      rw [show (s.call (.step x)).tags = s.tags from s.tags_step x] at hrest
      exact hrest
    | finish t => cases hquiet _ (List.mem_cons_self ..)

/-- The end of a session writes its last tags, and then takes none. -/
theorem tags_finish (hphase : s.phase = .running) {t : FileTree} {summary : Summary}
    (hsome : (s.finish t).1 = some summary) :
    (s.finish t).2.1.tags =
      (s.tags.setAll
        (closingTags (s.finish t).2.1.totals summary.coveragePercentage)).close := by
  obtain ⟨a, ha, -⟩ := outline_endActive { s with phase := .ending }
  have htotals : (s.finish t).2.1.totals = a.totals := by
    rw [totals, (finish_spec hphase t).1, ha]
    rfl
  rw [htotals]
  rw [finish_eq_of_endActive hphase ha] at hsome ⊢
  obtain ⟨-, index, hresolve⟩ | ⟨-, c, index, tree, hresolve, -⟩ := resolveCoverage_cases { s with
    phase := .ending, aggregator := a.close.2, tags := s.tags.setAll (finalTags a.totals) } t
  · rw [hresolve] at hsome
    cases hsome
  · rw [hresolve] at hsome ⊢
    obtain rfl := Option.some_inj.mp hsome
    show (TagLog.set (TagLog.setAll (TagLog.setAll _ _) c.tags) _ _).close = _
    rw [closingTags, TagLog.setAll, TagLog.setAll, TagLog.setAll, List.foldl_append,
      List.foldl_append]
    rfl

section Ended

variable (h : s.Sound) (hphase : s.phase = .running) {t : FileTree} {summary : Summary}
  (hsome : (s.finish t).1 = some summary)

include h hphase hsome

theorem find?_summary (key : String) :
    summary.tags.find? key =
      (s.tags.setAll
        (closingTags (s.finish t).2.1.totals summary.coveragePercentage)).get key := by
  rw [(summary_of_finish h hphase hsome).2, TagLog.find?_snapshot, tags_finish hphase hsome,
    TagLog.get_close]

/-- Under a key that the end does not write stands what stood there before. -/
theorem find?_summary_of_not_mem {key : String} (hkey : key ∉ closingKeys) :
    summary.tags.find? key = s.tags.get key := by
  rw [find?_summary h hphase hsome]
  refine TagLog.get_setAll_of_ne fun e he heq => hkey ?_
  rw [← heq]
  exact (keys_closingTags _ _).subset (List.mem_map_of_mem he)

/-- Under a key that nobody else writes stands what the end writes there. -/
theorem find?_summary_eq_some_iff (hopen : s.tags.closed = false) {key : String}
    (hnone : s.tags.get key = none) {value : TagValue} :
    summary.tags.find? key = some value ↔
      (key, value) ∈ closingTags (s.finish t).2.1.totals summary.coveragePercentage := by
  have hnodup : closingKeys.Nodup := by decide
  rw [find?_summary h hphase hsome]
  exact TagLog.get_setAll_eq_some_iff hopen (hnodup.sublist (keys_closingTags _ _)) hnone

end Ended

/-- What the tags of a summary are: what was started, what some results said together, and the share
of covered instructions of a bundle that covers any; under every other key what was last written
there. -/
structure ReportTags (command : String) (rs : List ModuleResult) (bundle : Option CoverageBundle)
    (written : List (String × TagValue)) (summary : Summary) : Prop where
  command : summary.tags.find? Tag.command = some (.str command)
  coverageEnabled : summary.tags.find? Tag.coverageEnabled =
    if rs.any (·.coverageEnabled) then some (.bool true) else none
  skippingEnabled : summary.tags.find? Tag.skippingEnabled =
    if rs.any (·.skipEnabled) then some (.bool true) else none
  skippingType : summary.tags.find? Tag.skippingType =
    if rs.any (·.skipEnabled) then some (.str "test") else none
  /-- A tag holds no count above 2^63 - 1. -/
  skippingCount : summary.tags.find? Tag.skippingCount =
    if rs.any (·.skipEnabled) then some (.int (min summary.testsSkipped.toNat (2 ^ 63 - 1)))
    else none
  testsSkipped : summary.tags.find? Tag.testsSkipped =
    if rs.any (·.skipEnabled) ∧ 0 < summary.testsSkipped then some (.bool true) else none
  earlyFlakeEnabled : summary.tags.find? Tag.earlyFlakeEnabled =
    if rs.any (·.flakeDetectionEnabled) then some (.bool true) else none
  abortReason : summary.tags.find? Tag.earlyFlakeAbortReason =
    if rs.any (·.flakeDetectionEnabled) ∧ rs.any (·.faulty) then some (.str "faulty") else none
  linesPct : ∀ value, summary.tags.find? Tag.coverageLinesPct = some value ↔
    ∃ b n, bundle = some b ∧ b.percentage = some n ∧ value = .count n
  /-- There is a share just where the bundle has instructions. -/
  linesPct_isSome : (summary.tags.find? Tag.coverageLinesPct).isSome ↔
    ∃ b, bundle = some b ∧ 0 < b.instructions.total
  /-- Any failure comes first; a session is skipped if it has statuses and all of them are. -/
  status : summary.tags.find? Tag.status =
    some (.str (Status.ofParts false false (rs.filterMap Totals.statusOf)).name)
  others : ∀ key, key ∉ reportKeys →
    summary.tags.find? key = TagLog.get ⟨written, false⟩ key

section Told

variable {command : String} {rs : List ModuleResult} {t : Totals} {bundle : Option CoverageBundle}
  {summary : Summary}

/-- The tags of a summary that has taken over what the end wrote. -/
theorem reportTags_of_closingTags {written : List (String × TagValue)}
    (htotals : t = rs.foldl Totals.add .zero) (hskipped : summary.testsSkipped = t.testsSkipped)
    (hshare : summary.coveragePercentage = bundle.bind CoverageBundle.percentage)
    (hcommand : summary.tags.find? Tag.command = some (.str command))
    (hends : ∀ key ∈ closingKeys, ∀ w, summary.tags.find? key = some w ↔
      (key, w) ∈ closingTags t summary.coveragePercentage)
    (hothers : ∀ key, key ∉ reportKeys →
      summary.tags.find? key = TagLog.get ⟨written, false⟩ key) :
    ReportTags command rs bundle written summary := by
  obtain ⟨hcovered, hskipping, hkind, hcount, hsome, hearly, habort, hpct, hlast⟩ :=
    mem_closingTags_at t summary.coveragePercentage
  rw [Totals.foldl_add] at htotals
  have hcoverage : t.coverageEnabled = rs.any (·.coverageEnabled) := by
    rw [htotals]
    exact Bool.false_or _
  have hskip : t.skipEnabled = rs.any (·.skipEnabled) := by
    rw [htotals]
    exact Bool.false_or _
  have hflake : t.flakeDetectionEnabled = rs.any (·.flakeDetectionEnabled) := by
    rw [htotals]
    exact Bool.false_or _
  have hfaulty : t.faulty = rs.any (·.faulty) := by
    rw [htotals]
    exact Bool.false_or _
  have hstatus : t.modules.status = Status.ofParts false false (rs.filterMap Totals.statusOf) := by
    rw [htotals]
    exact StatusCounts.status_ofList _
  have hlines : ∀ value, summary.tags.find? Tag.coverageLinesPct = some value ↔
      ∃ b n, bundle = some b ∧ b.percentage = some n ∧ value = .count n := by
    intro value
    rw [hends _ (by decide), hpct, hshare]
    simp only [Option.bind_eq_some_iff, eq_comm (a := value)]
    exact ⟨fun ⟨n, ⟨b, hb, hn⟩, hv⟩ => ⟨b, n, hb, hn, hv⟩, fun ⟨b, n, hb, hn, hv⟩ =>
      ⟨n, ⟨b, hb, hn⟩, hv⟩⟩
  exact
    { command := hcommand
      coverageEnabled := eq_ite_of_iff fun w => by rw [hends _ (by decide), hcovered, hcoverage]
      skippingEnabled := eq_ite_of_iff fun w => by rw [hends _ (by decide), hskipping, hskip]
      skippingType := eq_ite_of_iff fun w => by rw [hends _ (by decide), hkind, hskip]; rfl
      skippingCount := eq_ite_of_iff fun w => by
        rw [hends _ (by decide), hcount, hskip, hskipped]
        rfl
      testsSkipped := eq_ite_of_iff fun w => by
        rw [hends _ (by decide), hsome, hskip, hskipped]
      earlyFlakeEnabled := eq_ite_of_iff fun w => by rw [hends _ (by decide), hearly, hflake]
      abortReason := eq_ite_of_iff fun w => by
        rw [hends _ (by decide), habort, hflake, hfaulty]
        rfl
      linesPct := hlines
      linesPct_isSome := by
        rw [Option.isSome_iff_exists]
        simp only [hlines, ← exists_percentage_iff]
        exact ⟨fun ⟨_, b, n, hb, hn, _⟩ => ⟨b, hb, n, hn⟩, fun ⟨b, hb, n, hn⟩ =>
          ⟨_, b, n, hb, hn, rfl⟩⟩
      status := by rw [hends _ (by decide), hlast, hstatus]
      others := hothers }

end Told

theorem aggregator_start {id : String} {options : SessionOptions} {provider : SettingsProvider}
    {index : IndexSource} {got : Option SocketAddress}
    (hstart : Session.start id options provider index got = .ok s₀) :
    s₀.aggregator = .empty := by
  cases got with
  | none => cases hstart
  | some address =>
    obtain rfl := Except.ok.inj hstart
    rfl

/-- What a session that was started has under a key while it runs. -/
theorem get_tags_callAll {id : String} {options : SessionOptions} {provider : SettingsProvider}
    {index : IndexSource} {got : Option SocketAddress}
    (hstart : Session.start id options provider index got = .ok s₀)
    (hquiet : ∀ c ∈ calls, SessionCall.isFinish c = false) (key : String) :
    (s₀.callAll calls).tags.get key =
      (TagLog.get ⟨calls.filterMap SessionCall.tag?, false⟩ key).or
        (if Tag.command = key then some (.str options.command) else none) := by
  rw [tags_callAll hquiet, tags_start hstart, TagLog.get_setAll rfl]
  by_cases hkey : Tag.command = key
  · simp [TagLog.get, hkey]
  · simp [TagLog.get, hkey]

/-- **The tags of a session are a function of what was reported.**  Take any run of a session that
writes no report key itself, up to its end.  The end takes in the results of the modules that are
still active, and merges the coverage of all results.  There is no summary just if the coverage
breaks off; else its tags are the command, what all results said together, the share of their
bundle and their status, and what was written under other keys. -/
theorem report_tags {id : String} {options : SessionOptions} {provider : SettingsProvider}
    {index : IndexSource} {got : Option SocketAddress}
    (hstart : Session.start id options provider index got = .ok s₀)
    (hquiet : ∀ c ∈ calls, SessionCall.isFinish c = false)
    (hown : ∀ e ∈ calls.filterMap SessionCall.tag?, e.1 ∉ reportKeys) (t : FileTree) :
    let s := s₀.callAll calls
    let all := s₀.accepted (calls ++ [.finish t])
    all = s₀.accepted calls ++ s.registry.active.map (·.2.result) ∧
      s.gathered.aggregator.coverage =
        (all.filterMap (·.coverage)).foldl CoverageStore.merge .empty ∧
      ((s.finish t).1 = none ↔ s.gathered.BreaksOff t) ∧
      ∀ summary, (s.finish t).1 = some summary →
        ReportTags options.command all (s.gathered.bundle? t)
          (calls.filterMap SessionCall.tag?) summary := by
  intro s all
  obtain ⟨h₀, hphase₀, -⟩ := sound_start hstart
  obtain ⟨h, hphase, -⟩ := running_callAll h₀ hphase₀ hquiet
  have hall : all = s₀.accepted calls ++ s.registry.active.map (·.2.result) := by
    have hend : s.accepted [.finish t] = s.registry.active.map (·.2.result) :=
      accepted_of_open h.isOpen (.finish t)
    rw [← hend]
    exact accepted_append s₀ calls [.finish t]
  -- The totals and the coverage are read off the same results.
  have htally : ∀ {β : Type} {read : Aggregator → β} {add : β → ModuleResult → β},
      Aggregator.Tallies read add →
        read (s.finish t).2.1.aggregator = all.foldl add (read .empty) := by
    intro β read add ht
    rw [tally_finish ht h hphase, tally_callAll ht h₀ hphase₀ hquiet, aggregator_start hstart,
      ← List.foldl_append, hall]
  have hgathered : (s.finish t).2.1.aggregator = s.gathered.aggregator := (finish_spec hphase t).1
  refine ⟨hall, ?_, (endsOnce h hphase t []).summed, fun summary hsome => ?_⟩
  · rw [← hgathered, List.foldl_filterMap]
    refine (htally .coverage).trans ?_
    congr 1
    funext c r
    rw [Aggregator.addCoverage]
    cases r.coverage <;> rfl
  · have hopen : s.tags.closed = false := by
      rw [closed_tags_callAll hquiet, tags_start hstart]
    have hunwritten : ∀ key ∈ reportKeys,
        TagLog.get ⟨calls.filterMap SessionCall.tag?, false⟩ key = none := by
      intro key hkey
      rw [TagLog.get, Option.map_eq_none_iff, List.find?_eq_none]
      intro e he heq
      rw [decide_eq_true_eq] at heq
      exact hown e (List.mem_reverse.mp he) (heq ▸ hkey)
    have hcommand : Tag.command ∉ closingKeys := by decide
    refine reportTags_of_closingTags (htally .totals) (summary_of_finish h hphase hsome).1
      (kept_of_summary h hphase hsome []).2.2.2.2 ?_ (fun key hkey w => ?_) fun key hkey => ?_
    · rw [find?_summary_of_not_mem h hphase hsome hcommand, get_tags_callAll hstart hquiet,
        hunwritten _ (List.mem_cons_self ..), if_pos rfl]
      rfl
    · have hne : Tag.command ≠ key := fun heq => hcommand (heq ▸ hkey)
      refine find?_summary_eq_some_iff h hphase hsome hopen ?_
      rw [get_tags_callAll hstart hquiet, hunwritten key (List.mem_cons_of_mem _ hkey), if_neg hne]
      rfl
    · rw [reportKeys, List.mem_cons, not_or] at hkey
      rw [find?_summary_of_not_mem h hphase hsome hkey.2, get_tags_callAll hstart hquiet,
        if_neg (Ne.symm hkey.1), Option.or_none]

/-- A worker reports seven skipped tests and a failure while another module is active, and the
session is tagged with its owner. -/
theorem report_tags_of_failed_worker :
    let s₀ : Session := ⟨"s", .initial "project" "build", .running,
      TagLog.empty.set Tag.command (.str "build"), .empty, .always .initial, .empty,
      .given (.failed []), 1, SignalServer.anyPort⟩
    let t : FileTree := ⟨[], [], [], []⟩
    let r : ModuleResult := ⟨"s", 9, "api", false, true, false, true, some "fail", 7, none⟩
    let calls : List SessionCall := [.step (.startModule t "core" []), .tag "owner" (.str "ci"),
      .step (.signal t (.moduleResult r))]
    Session.start "s" (.initial "project" "build") (.always .initial) (.given (.failed []))
        (some SignalServer.anyPort) = .ok s₀ ∧
      (∀ c ∈ calls, SessionCall.isFinish c = false) ∧
      (∀ e ∈ calls.filterMap SessionCall.tag?, e.1 ∉ reportKeys) ∧
      ∃ summary, ((s₀.callAll calls).finish t).1 = some summary ∧
        summary.tags.find? Tag.command = some (.str "build") ∧
        summary.tags.find? Tag.coverageEnabled = none ∧
        summary.tags.find? Tag.skippingCount = some (.int 7) ∧
        summary.tags.find? Tag.testsSkipped = some (.bool true) ∧
        summary.tags.find? Tag.earlyFlakeAbortReason = none ∧
        summary.tags.find? Tag.status = some (.str "fail") ∧
        summary.tags.find? "owner" = some (.str "ci") := by
  intro s₀ t r calls
  have hstart : Session.start "s" (.initial "project" "build") (.always .initial)
      (.given (.failed [])) (some SignalServer.anyPort) = .ok s₀ := rfl
  have hquiet : ∀ c ∈ calls, SessionCall.isFinish c = false := by simp [calls, SessionCall.isFinish]
  have hown : ∀ e ∈ calls.filterMap SessionCall.tag?, e.1 ∉ reportKeys := by
    show ∀ e ∈ [("owner", TagValue.str "ci")], e.1 ∉ reportKeys
    exact List.forall_mem_singleton.mpr (by decide)
  obtain ⟨-, -, -, htags⟩ := report_tags hstart hquiet hown t
  have hskipped : (((s₀.callAll calls).finish t).1.map (·.testsSkipped)) = some 7 := by
    decide +kernel
  obtain ⟨summary, hsummary, hseven⟩ := Option.map_eq_some_iff.mp hskipped
  have hreport := htags summary hsummary
  have hall : s₀.accepted (calls ++ [.finish t]) =
      [r, ⟨"s", 1, "core", false, false, false, false, some "pass", 0, none⟩] := by
    decide +kernel
  rw [hall] at hreport
  refine ⟨hstart, hquiet, hown, summary, hsummary, hreport.command, hreport.coverageEnabled, ?_, ?_,
    hreport.abortReason, hreport.status, hreport.others _ (by decide)⟩
  · rw [hreport.skippingCount, hseven]
    rfl
  · rw [hreport.testsSkipped, hseven]
    rfl

end Session

end TestTelemetry
