/-
Settings are computed once.

A provider is asked for the settings of a runtime until it succeeds.  From then on every request of
this runtime gets what it said then, whatever it would say now, and whoever else asks.

* `SettingsQuery`, `SettingsCache.after` — requests of both kinds, and the cache after some of them;
* `SettingsCache.asked?`, `SettingsCache.computations` — when the provider is asked, and its
  successes;
* `SettingsCache.stored?_after` — what is kept is what was computed;
* `SettingsCache.answersTo_alone` — a runtime gets what it would get if nobody else asked;
* `SettingsCache.computed_once` — what holds of every request, whatever came before it.
-/
import TestTelemetry.Session.SettingsCache
import TestTelemetry.Proofs.Data.Gather
import TestTelemetry.Proofs.Data.Keyed

namespace TestTelemetry

/-- A request for the settings of a runtime, which are narrowed to a module if it names one. -/
structure SettingsQuery where
  tree : FileTree
  identity : WorkerIdentity
  module : Option String

/-- Settings as a request gets them. -/
def SettingsQuery.view (q : SettingsQuery) (s : ExecutionSettings) : ExecutionSettings :=
  q.module.elim s s.narrow

namespace SettingsCache

/-- The answer to a request, and the cache after it. -/
def request (c : SettingsCache) (p : SettingsProvider) (q : SettingsQuery) :
    Attempt ExecutionSettings × SettingsCache :=
  match q.module with
  | none => c.get p q.tree q.identity
  | some module => c.moduleSettings p q.tree q.identity module

/-- The cache after some requests. -/
def after (p : SettingsProvider) (qs : List SettingsQuery) : SettingsCache :=
  qs.foldl (fun c q => (c.request p q).2) empty

/-- The answer to a request that comes after some others. -/
def answer (p : SettingsProvider) (before : List SettingsQuery) (q : SettingsQuery) :
    Attempt ExecutionSettings :=
  ((after p before).request p q).1

/-- What the provider says to a request that comes after some others, if it is asked: then the number
of its calls grows. -/
def asked? (p : SettingsProvider) (before : List SettingsQuery) (q : SettingsQuery) :
    Option (Attempt ExecutionSettings) :=
  if ((after p before).request p q).2.calls = (after p before).calls then none
  else some (p (after p before).calls q.tree q.identity)

/-- The successes of the provider along some requests: for which runtimes, and with which settings. -/
def computations (p : SettingsProvider) (qs : List SettingsQuery) :
    List (WorkerIdentity × ExecutionSettings) :=
  gather (fun before q => ((asked? p before q).bind Attempt.value?).map (q.identity, ·)) qs

/-- What the provider says to the requests of one runtime. -/
def sayingsTo (w : WorkerIdentity) (p : SettingsProvider) (qs : List SettingsQuery) :
    List (Attempt ExecutionSettings) :=
  gather (fun before q => if q.identity = w then asked? p before q else none) qs

/-- What the requests of one runtime are answered with. -/
def answersTo (w : WorkerIdentity) (p : SettingsProvider) (qs : List SettingsQuery) :
    List (Attempt ExecutionSettings) :=
  gather (fun before q => if q.identity = w then some (answer p before q) else none) qs

variable {c : SettingsCache} {p : SettingsProvider} {q : SettingsQuery} {w : WorkerIdentity}
  {before : List SettingsQuery} {s : ExecutionSettings}

/-! ### One request -/

theorem stored?_set (slots : Keyed WorkerIdentity (Option ExecutionSettings)) (n m : Nat)
    (v w : WorkerIdentity) (x : Option ExecutionSettings) :
    stored? ⟨slots.set v x, n⟩ w = if v = w then x else stored? ⟨slots, m⟩ w := by
  rw [stored?, Keyed.find?_set, stored?]
  by_cases h : v = w
  · rw [if_pos h, if_pos h, Option.join_some]
  · rw [if_neg h, if_neg h]

/-- What is kept is the answer, and the provider is not asked. -/
theorem request_of_stored (h : c.stored? q.identity = some s) :
    c.request p q = (.done (q.view s), c) := by
  obtain ⟨tree, identity, module⟩ := q
  cases module with
  | none =>
    show c.get p tree identity = _
    rw [get, h]
    rfl
  | some m =>
    show c.moduleSettings p tree identity m = _
    rw [moduleSettings, get, h]
    rfl

/-- When nothing is kept, the provider is asked, and what it says is the answer. -/
theorem request_of_none (h : c.stored? q.identity = none) :
    c.request p q = ((p c.calls q.tree q.identity).map q.view,
      ⟨c.slots.set q.identity (p c.calls q.tree q.identity).value?, c.calls + 1⟩) := by
  obtain ⟨tree, identity, module⟩ := q
  cases module with
  | none =>
    have hview : (p c.calls tree identity).map (SettingsQuery.view ⟨tree, identity, none⟩) =
        p c.calls tree identity := by
      cases p c.calls tree identity <;> rfl
    show c.get p tree identity = _
    rw [hview, get, h]
  | some m =>
    show c.moduleSettings p tree identity m = _
    rw [moduleSettings, get, h]
    rfl

/-- A request for one runtime leaves what is kept for the others. -/
theorem stored?_request_of_ne (h : w ≠ q.identity) :
    (c.request p q).2.stored? w = c.stored? w := by
  cases hstored : c.stored? q.identity with
  | some s => rw [request_of_stored hstored]
  | none =>
    rw [request_of_none hstored]
    exact (stored?_set c.slots _ c.calls ..).trans (if_neg h.symm)

/-- A request keeps what the provider said if it was asked and succeeded, and else what was there. -/
theorem stored?_request_self (h : c.stored? q.identity = none) :
    (c.request p q).2.stored? q.identity = (p c.calls q.tree q.identity).value? := by
  rw [request_of_none h]
  exact (stored?_set c.slots _ c.calls ..).trans (if_pos rfl)

/-- A request that fails leaves everything that is kept. -/
theorem stored?_request_of_failed (h : (c.request p q).1.value? = none) (w : WorkerIdentity) :
    (c.request p q).2.stored? w = c.stored? w := by
  cases hstored : c.stored? q.identity with
  | some s =>
    rw [request_of_stored hstored] at h
    cases h
  | none =>
    by_cases hw : w = q.identity
    · subst hw
      rw [request_of_none hstored, Attempt.value?_map, Option.map_eq_none_iff] at h
      rw [stored?_request_self hstored, h, hstored]
    · exact stored?_request_of_ne hw

/-- Settings are kept for as many runtimes as before, and for one more if the provider is asked and
succeeds. -/
theorem computed_request_of_none (h : c.stored? q.identity = none) :
    (c.request p q).2.computed =
      c.computed + (p c.calls q.tree q.identity).value?.toList.length := by
  have hold : ∀ old, c.slots.find? q.identity = some old → old.isSome = false := by
    intro old hold
    rw [stored?, hold, Option.join_some] at h
    rw [h, Option.isSome_none]
  rw [request_of_none h, computed, computed, Keyed.countP_values_set hold]
  cases (p c.calls q.tree q.identity).value? <;> rfl

/-! ### Requests one after the other -/

variable {qs : List SettingsQuery}

theorem after_concat (qs : List SettingsQuery) (q : SettingsQuery) :
    after p (qs ++ [q]) = ((after p qs).request p q).2 := by
  rw [after, List.foldl_append, List.foldl_cons, List.foldl_nil, after]

theorem asked?_of_stored (h : (after p before).stored? q.identity = some s) :
    asked? p before q = none := by
  rw [asked?, request_of_stored h, if_pos rfl]

theorem asked?_of_none (h : (after p before).stored? q.identity = none) :
    asked? p before q = some (p (after p before).calls q.tree q.identity) := by
  rw [asked?, request_of_none h]
  exact if_neg (Nat.succ_ne_self _)

theorem asked?_eq_none_iff :
    asked? p before q = none ↔ ∃ s, (after p before).stored? q.identity = some s := by
  cases h : (after p before).stored? q.identity with
  | none => simp [asked?_of_none h]
  | some s => simp [asked?_of_stored h]

theorem calls_request :
    ((after p before).request p q).2.calls =
      (after p before).calls + (asked? p before q).toList.length := by
  cases h : (after p before).stored? q.identity with
  | none =>
    rw [request_of_none h, asked?_of_none h]
    rfl
  | some s =>
    rw [request_of_stored h, asked?_of_stored h]
    rfl

theorem computations_concat (qs : List SettingsQuery) (q : SettingsQuery) :
    computations p (qs ++ [q]) =
      computations p qs ++ (((asked? p qs q).bind Attempt.value?).map (q.identity, ·)).toList :=
  gather_concat qs q

/-- What is kept is what was computed. -/
theorem stored?_after : (after p qs).stored? w = some s ↔ (w, s) ∈ computations p qs := by
  induction qs using List.reverseRecOn with
  | nil => exact iff_of_false (fun h => nomatch h) (fun h => nomatch h)
  | append_singleton qs q ih =>
    rw [after_concat, computations_concat, List.mem_append, ← ih]
    -- The last request computes something only if nothing is kept for its runtime.
    cases h : (after p qs).stored? q.identity with
    | some t =>
      rw [request_of_stored h, asked?_of_stored h]
      simp
    | none =>
      rw [asked?_of_none h, Option.bind_some]
      by_cases hw : w = q.identity
      · subst hw
        rw [stored?_request_self h, h]
        simp
      · rw [stored?_request_of_ne hw]
        simp [Ne.symm hw]

/-- The provider succeeds for a runtime at most once. -/
theorem nodup_computations : ((computations p qs).map (·.1)).Nodup := by
  induction qs using List.reverseRecOn with
  | nil => exact List.nodup_nil
  | append_singleton qs q ih =>
    rw [computations_concat, List.map_append]
    cases h : (after p qs).stored? q.identity with
    | some t =>
      rw [asked?_of_stored h]
      simpa using ih
    | none =>
      have hnew : q.identity ∉ (computations p qs).map (·.1) := by
        intro hmem
        obtain ⟨⟨w, s⟩, hin, rfl⟩ := List.mem_map.mp hmem
        rw [stored?_after.mpr hin] at h
        cases h
      cases (asked? p qs q).bind Attempt.value? with
      | none => simpa using ih
      | some s =>
        refine List.nodup_append.mpr ⟨ih, by simp, fun v hv u hu => ?_⟩
        rw [Option.map_some, Option.toList_some, List.map_singleton, List.mem_singleton] at hu
        rintro rfl
        rw [hu] at hv
        exact hnew hv

/-- Settings are kept for as many runtimes as the provider succeeded for. -/
theorem computed_after : (after p qs).computed = (computations p qs).length := by
  induction qs using List.reverseRecOn with
  | nil => rfl
  | append_singleton qs q ih =>
    rw [after_concat, computations_concat, List.length_append, ← ih]
    cases h : (after p qs).stored? q.identity with
    | some t =>
      rw [request_of_stored h, asked?_of_stored h]
      rfl
    | none =>
      rw [computed_request_of_none h, asked?_of_none h, Option.bind_some]
      cases (p (after p qs).calls q.tree q.identity).value? <;> rfl

/-- What was computed once stays so. -/
theorem mem_computations_append (h : (w, s) ∈ computations p before) (later : List SettingsQuery) :
    (w, s) ∈ computations p (before ++ later) :=
  (prefix_gather_append before later).subset h

/-- What is computed for a request is among what was computed, after it and any later ones. -/
theorem mem_computations_of_asked (h : (asked? p before q).bind Attempt.value? = some s)
    (later : List SettingsQuery) :
    (q.identity, s) ∈ computations p (before ++ q :: later) := by
  have hmem : (q.identity, s) ∈ computations p (before ++ [q]) := by
    rw [computations_concat, h]
    simp
  simpa using mem_computations_append hmem later

/-! ### One runtime among others -/

theorem sayingsTo_concat (qs : List SettingsQuery) (q : SettingsQuery) :
    sayingsTo w p (qs ++ [q]) =
      sayingsTo w p qs ++ (if q.identity = w then asked? p qs q else none).toList :=
  gather_concat qs q

theorem answersTo_concat (qs : List SettingsQuery) (q : SettingsQuery) :
    answersTo w p (qs ++ [q]) =
      answersTo w p qs ++ (if q.identity = w then some (answer p qs q) else none).toList :=
  gather_concat qs q

/-- The requests of one runtime lead to the same when only they are made, if the provider says the
same to them: to the same answers, to the same being kept, and to as many calls as were made for
this runtime. -/
theorem after_alone (w : WorkerIdentity) (p : SettingsProvider) (qs : List SettingsQuery)
    {p' : SettingsProvider} (h : ∀ k a, (sayingsTo w p qs)[k]? = some a → ∀ t, p' k t w = a) :
    answersTo w p' (qs.filter (·.identity = w)) = answersTo w p qs ∧
      (after p' (qs.filter (·.identity = w))).stored? w = (after p qs).stored? w ∧
      (after p' (qs.filter (·.identity = w))).calls = (sayingsTo w p qs).length := by
  induction qs using List.reverseRecOn with
  | nil => exact ⟨rfl, rfl, rfl⟩
  | append_singleton qs q ih =>
    rw [sayingsTo_concat] at h
    -- What the provider said before the last request stands at the same places.
    obtain ⟨hanswers, hstored, hcalls⟩ := ih fun k a hk =>
      h k a ((List.getElem?_append_left (List.getElem?_eq_some_iff.mp hk).1).trans hk)
    by_cases hw : q.identity = w
    · subst hw
      have hown : (qs ++ [q]).filter (·.identity = q.identity) =
          qs.filter (·.identity = q.identity) ++ [q] := by simp
      rw [hown, answersTo_concat, answersTo_concat, sayingsTo_concat, after_concat, after_concat,
        if_pos rfl, if_pos rfl, if_pos rfl, hanswers, answer, answer]
      rw [if_pos rfl] at h
      cases hkept : (after p qs).stored? q.identity with
      | some s =>
        rw [asked?_of_stored hkept, request_of_stored hkept,
          request_of_stored (hstored.trans hkept)]
        exact ⟨rfl, hstored, by simpa using hcalls⟩
      | none =>
        rw [asked?_of_none hkept] at h ⊢
        have hsaid : p' (sayingsTo q.identity p qs).length q.tree q.identity =
            p (after p qs).calls q.tree q.identity := h _ _ (by simp) q.tree
        refine ⟨?_, ?_, ?_⟩
        · rw [request_of_none hkept, request_of_none (hstored.trans hkept), hcalls, hsaid]
        · rw [stored?_request_self (hstored.trans hkept), hcalls, hsaid, stored?_request_self hkept]
        · rw [request_of_none (hstored.trans hkept), hcalls]
          simp
    · have hown : (qs ++ [q]).filter (·.identity = w) = qs.filter (·.identity = w) := by simp [hw]
      rw [hown, answersTo_concat, sayingsTo_concat, after_concat, if_neg hw, if_neg hw,
        stored?_request_of_ne (Ne.symm hw)]
      simpa using ⟨hanswers, hstored, hcalls⟩

/-- A script says what stands in it, one after the other. -/
theorem ofScript_eq {answers : List (Attempt ExecutionSettings)} {k : Nat}
    {a : Attempt ExecutionSettings} (h : answers[k]? = some a) (t : FileTree) (w : WorkerIdentity) :
    SettingsProvider.ofScript answers k t w = a := by
  obtain ⟨hk, -⟩ := List.getElem?_eq_some_iff.mp h
  have hmin : min k (answers.length - 1) = k := by omega
  rw [SettingsProvider.ofScript, hmin, h, Option.getD_some]

/-- A runtime gets what it would get if nobody else asked. -/
theorem answersTo_alone (w : WorkerIdentity) (p : SettingsProvider) (qs : List SettingsQuery) :
    answersTo w (.ofScript (sayingsTo w p qs)) (qs.filter (·.identity = w)) = answersTo w p qs :=
  (after_alone w p qs fun _ _ hk t => ofScript_eq hk t w).1

/-! ### What holds of every request -/

/-- What holds of a request that comes after some others. -/
structure ComputedOnce (p : SettingsProvider) (before : List SettingsQuery) (q : SettingsQuery) :
    Prop where
  /-- The provider is asked, once, exactly if it has not succeeded for this runtime yet. -/
  asked : asked? p before q = none ↔ ∃ s, (q.identity, s) ∈ computations p before
  counted : (after p (before ++ [q])).calls =
    (after p before).calls + (asked? p before q).toList.length
  /-- What it says is the answer, -/
  answered : ∀ a, asked? p before q = some a → answer p before q = a.map q.view
  /-- and a failure leaves everything that is kept. -/
  retried : ∀ a, asked? p before q = some a → a.value? = none →
    ∀ w, (after p (before ++ [q])).stored? w = (after p before).stored? w
  /-- After a success, every request for this runtime gets what was computed then, without the
  provider being asked. -/
  lasting : ∀ s, (asked? p before q).bind Attempt.value? = some s →
    ∀ later q', q'.identity = q.identity →
      asked? p (before ++ q :: later) q' = none ∧
      answer p (before ++ q :: later) q' = .done (q'.view s)
  /-- What the others get is not touched: -/
  others : ∀ w, w ≠ q.identity →
    (after p (before ++ [q])).stored? w = (after p before).stored? w
  /-- everyone gets what they would get alone. -/
  isolated : ∀ w, answersTo w p (before ++ [q]) =
    answersTo w (.ofScript (sayingsTo w p (before ++ [q])))
      ((before ++ [q]).filter (·.identity = w))
  /-- What is kept is what was computed, which happens once a runtime at most. -/
  kept : ∀ w s, (after p before).stored? w = some s ↔ (w, s) ∈ computations p before
  once : ((computations p before).map (·.1)).Nodup
  computed : (after p before).computed = (computations p before).length

/-- Settings are computed once for a runtime, whatever the provider says and whoever asks. -/
theorem computed_once (p : SettingsProvider) (before : List SettingsQuery) (q : SettingsQuery) :
    ComputedOnce p before q where
  asked := by
    rw [asked?_eq_none_iff]
    exact exists_congr fun s => stored?_after
  counted := by rw [after_concat, calls_request]
  answered a h := by
    cases hkept : (after p before).stored? q.identity with
    | none =>
      rw [asked?_of_none hkept, Option.some.injEq] at h
      rw [answer, request_of_none hkept, h]
    | some s =>
      rw [asked?_of_stored hkept] at h
      cases h
  retried a h ha w := by
    cases hkept : (after p before).stored? q.identity with
    | none =>
      rw [asked?_of_none hkept, Option.some.injEq] at h
      rw [after_concat]
      refine stored?_request_of_failed ?_ w
      rw [request_of_none hkept, h, Attempt.value?_map, ha, Option.map_none]
    | some s =>
      rw [asked?_of_stored hkept] at h
      cases h
  lasting s h later q' hq' := by
    have hkept : (after p (before ++ q :: later)).stored? q'.identity = some s := by
      rw [hq']
      exact stored?_after.mpr (mem_computations_of_asked h later)
    exact ⟨asked?_of_stored hkept, by rw [answer, request_of_stored hkept]⟩
  others w hw := by rw [after_concat, stored?_request_of_ne hw]
  isolated w := (answersTo_alone w p (before ++ [q])).symm
  kept w s := stored?_after
  once := nodup_computations
  computed := computed_after

/-- A provider that fails at first is asked again, and no more once it has succeeded. -/
example :
    let w : WorkerIdentity := ⟨"jvm", "17", "Temurin"⟩
    sayingsTo w (.ofScript [.failed ["down"], .done .initial])
      (List.replicate 3 ⟨⟨[], [], [], []⟩, w, some "core"⟩) = [.failed ["down"], .done .initial] := by
  decide

end SettingsCache

end TestTelemetry
