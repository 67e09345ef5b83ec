/-
How starts and finishes pair up.

However the starts and finishes of many keys are mixed, each key is counted as if it were
alone, and every start that opens it is answered by one finish that closes it.

* `ActivationCall` — a start or a finish of a key;
* `ActivationCall.balance` — the starts of a key that no finish took back
  (`ActivationCall.isGreatest_balance`);
* `Activations.log` — what a sequence of calls is answered;
* `Activations.starts_pair_with_finishes` — depths, answers and open keys after any sequence of
  calls.
-/
import Mathlib.Data.Set.Card
import TestTelemetry.Lifecycle.Activation
import TestTelemetry.Proofs.Data.Keyed

namespace TestTelemetry

/-- A call to a tracker. -/
inductive ActivationCall (κ : Type)
  | start (key : κ)
  | finish (key : κ)
deriving DecidableEq

namespace ActivationCall

variable {κ : Type}

/-- The key that a call is about. -/
def key : ActivationCall κ → κ
  | start k => k
  | finish k => k

/-- What a call is answered while its key is so deep: a start that it opens the key, a finish
that it closes it. -/
def answerAt (depth : Nat) : ActivationCall κ → Bool
  | start _ => depth = 0
  | finish _ => depth = 1

variable [DecidableEq κ]

/-- What becomes of the depth of a key with a call. -/
def deepen (k : κ) (depth : Nat) : ActivationCall κ → Nat
  | start j => if j = k then depth + 1 else depth
  | finish j => if j = k then depth - 1 else depth

/-- The starts of a key less its finishes; a finish that finds no start is discarded. -/
def balance (k : κ) (calls : List (ActivationCall κ)) : Nat := calls.foldl (deepen k) 0

/-- What a call adds to the surplus of starts of a key. -/
def gain (k : κ) : ActivationCall κ → Int
  | start j => if j = k then 1 else 0
  | finish j => if j = k then -1 else 0

/-- The starts of a key less all its finishes. -/
def surplus (k : κ) (calls : List (ActivationCall κ)) : Int := (calls.map (gain k)).sum

variable {k : κ} {calls : List (ActivationCall κ)} {c : ActivationCall κ} {depth : Nat}

theorem deepen_of_ne (h : c.key ≠ k) : c.deepen k depth = depth := by
  cases c with
  | start j => exact if_neg h
  | finish j => exact if_neg h

/-- A depth follows the gains, as long as they do not take it below zero. -/
theorem deepen_eq_max : (c.deepen k depth : Int) = max 0 (depth + c.gain k) := by
  cases c with
  | start j => by_cases hj : j = k <;> simp only [deepen, gain, hj, if_true, if_false] <;> omega
  | finish j => by_cases hj : j = k <;> simp only [deepen, gain, hj, if_true, if_false] <;> omega

theorem balance_concat : balance k (calls ++ [c]) = c.deepen k (balance k calls) := by
  rw [balance, List.foldl_concat, balance]

theorem surplus_concat : surplus k (calls ++ [c]) = surplus k calls + c.gain k := by
  simp [surplus]

/-- No discarded finish counts against what follows it. -/
theorem surplus_le_foldl (k : κ) (calls : List (ActivationCall κ)) (depth : Nat) :
    depth + surplus k calls ≤ (calls.foldl (deepen k) depth : Nat) := by
  induction calls generalizing depth with
  | nil => exact (Int.add_zero _).le
  | cons c rest ih =>
    have hrest : (c.deepen k depth : Int) + surplus k rest ≤
        (rest.foldl (deepen k) (c.deepen k depth) : Nat) := ih _
    have hsurplus : surplus k (c :: rest) = c.gain k + surplus k rest := by simp [surplus]
    have hmax : (depth + c.gain k : Int) ≤ c.deepen k depth := by
      rw [deepen_eq_max]
      exact le_max_right ..
    rw [List.foldl_cons]
    omega

theorem surplus_le_balance {ending : List (ActivationCall κ)} (h : ending <:+ calls) :
    surplus k ending ≤ balance k calls := by
  obtain ⟨before, rfl⟩ := h
  have hle := surplus_le_foldl k ending (balance k before)
  rw [balance] at hle
  rw [balance, List.foldl_append]
  omega

/-- What is discarded is over: some ending of the calls has the balance of all of them. -/
theorem exists_surplus_eq (k : κ) (calls : List (ActivationCall κ)) :
    ∃ ending, ending <:+ calls ∧ surplus k ending = balance k calls := by
  induction calls using List.reverseRecOn with
  | nil => exact ⟨[], List.suffix_rfl, rfl⟩
  | append_singleton calls c ih =>
    obtain ⟨ending, hsuffix, hsurplus⟩ := ih
    rw [balance_concat, deepen_eq_max, ← hsurplus]
    obtain hzero | hgain := le_total (surplus k ending + c.gain k) 0
    · exact ⟨[], List.nil_suffix, (max_eq_left hzero).symm⟩
    · obtain ⟨before, rfl⟩ := hsuffix
      refine ⟨ending ++ [c], ⟨before, (List.append_assoc ..).symm⟩, ?_⟩
      rw [surplus_concat, max_eq_right hgain]

/-- The balance of a key is its greatest surplus at an end of the calls. -/
theorem isGreatest_balance (k : κ) (calls : List (ActivationCall κ)) :
    IsGreatest {n | ∃ ending, ending <:+ calls ∧ surplus k ending = n} (balance k calls : Int) :=
  ⟨exists_surplus_eq k calls, fun _ ⟨_, hsuffix, hn⟩ => hn ▸ surplus_le_balance hsuffix⟩

end ActivationCall

namespace Activations

open ActivationCall

variable {κ : Type} [DecidableEq κ]

/-- What a call is answered. -/
def answer (a : Activations κ) : ActivationCall κ → Bool
  | .start k => a.isFirst k
  | .finish k => a.isLast k

/-- A tracker after a call. -/
def step (a : Activations κ) : ActivationCall κ → Activations κ
  | .start k => a.start k
  | .finish k => a.finish k

/-- A tracker after some calls. -/
def follow (a : Activations κ) (calls : List (ActivationCall κ)) : Activations κ :=
  calls.foldl step a

/-- Some calls, each with what it is answered. -/
def log (a : Activations κ) : List (ActivationCall κ) → List (ActivationCall κ × Bool)
  | [] => []
  | c :: rest => (c, a.answer c) :: (a.step c).log rest

variable {a b : Activations κ} {c : ActivationCall κ} {k : κ}

theorem answer_eq : a.answer c = c.answerAt (a.depth c.key) := by
  cases c <;> rfl

theorem depth_step : (a.step c).depth k = c.deepen k (a.depth k) := by
  cases c with
  | start j =>
    rw [step, depth_start, deepen]
    split <;> rfl
  | finish j =>
    rw [step, depth_finish, deepen]
    split <;> rfl

/-- The depth of every key is the balance of the calls on it. -/
theorem depth_follow (calls : List (ActivationCall κ)) (k : κ) :
    (empty.follow calls).depth k = balance k calls := by
  induction calls using List.reverseRecOn with
  | nil => rfl
  | append_singleton calls c ih =>
    rw [follow, List.foldl_concat, ← follow, depth_step, ih, balance_concat]

theorem depth_follow_concat {calls : List (ActivationCall κ)} :
    (empty.follow (calls ++ [c])).depth k = c.deepen k ((empty.follow calls).depth k) := by
  rw [depth_follow, depth_follow, balance_concat]

theorem log_concat (a : Activations κ) (calls : List (ActivationCall κ)) (c : ActivationCall κ) :
    a.log (calls ++ [c]) = a.log calls ++ [(c, (a.follow calls).answer c)] := by
  induction calls generalizing a with
  | nil => rfl
  | cons d rest ih => exact congrArg ((d, a.answer d) :: ·) (ih (a.step d))

/-- Every call is answered by the depth that the calls before it left. -/
theorem getElem?_log (a : Activations κ) (calls : List (ActivationCall κ)) (i : Nat) :
    (a.log calls)[i]? = calls[i]?.map fun c => (c, (a.follow (calls.take i)).answer c) := by
  induction calls generalizing a i with
  | nil => rfl
  | cons d rest ih =>
    cases i with
    | zero => rfl
    | succ i => exact ih (a.step d) i

/-- The starts that open a key and the finishes that close it take turns. -/
theorem count_log (calls : List (ActivationCall κ)) (k : κ) :
    (empty.log calls).count (.start k, true) =
      (empty.log calls).count (.finish k, true) +
        if 0 < (empty.follow calls).depth k then 1 else 0 := by
  induction calls using List.reverseRecOn with
  | nil => rfl
  | append_singleton calls c ih =>
    rw [log_concat, List.count_append, List.count_append, ih, depth_follow_concat, answer_eq]
    generalize (empty.follow calls).depth = depth
    cases c with
    | start j =>
      by_cases hj : j = k
      · subst hj
        cases hd : depth j <;> simp [deepen, answerAt, key, hd]
      · simp [deepen, hj]
    | finish j =>
      by_cases hj : j = k
      · subst hj
        -- below one the finish is discarded, at one it closes, above one it only counts
        rcases hd : depth j with _ | _ | n <;> simp [deepen, answerAt, key, hd]
      · simp [deepen, hj]

/-- The answers on a key are those of the calls on it alone. -/
theorem filter_log (calls : List (ActivationCall κ)) (h : a.depth k = b.depth k) :
    (a.log calls).filter (·.1.key = k) = b.log (calls.filter (·.key = k)) := by
  induction calls generalizing a b with
  | nil => rfl
  | cons c rest ih =>
    by_cases hc : c.key = k
    · have hanswer : a.answer c = b.answer c := by rw [answer_eq, answer_eq, hc, h]
      have hstep : (a.step c).depth k = (b.step c).depth k := by rw [depth_step, depth_step, h]
      rw [log, List.filter_cons_of_pos (by simpa using hc),
        List.filter_cons_of_pos (by simpa using hc), log, ih hstep, hanswer]
    · have hstep : (a.step c).depth k = b.depth k := by rw [depth_step, deepen_of_ne hc, h]
      rw [log, List.filter_cons_of_neg (by simpa using hc),
        List.filter_cons_of_neg (by simpa using hc), ih hstep]

/-- Only open keys are in the table. -/
theorem mem_keys_iff {j : κ} : j ∈ a.table.keys ↔ 0 < a.depth j := by
  have hmem : j ∈ a.table.keys ↔ ∃ n, a.table.find? j = some n := by
    simp [Keyed.keys, Keyed.find?_eq_some_iff]
  rw [hmem, depth]
  constructor
  · rintro ⟨n, hn⟩
    rw [hn]
    exact a.positive j n hn
  · cases hfind : a.table.find? j with
    | none => exact fun hpos => absurd hpos (Nat.lt_irrefl 0)
    | some n => exact fun _ => ⟨n, rfl⟩

/-- Each open key is counted once. -/
theorem encard_depth (a : Activations κ) : {j | 0 < a.depth j}.encard = a.active := by
  have hset : {j | 0 < a.depth j} = (a.table.keys.toFinset : Set κ) := by
    ext j
    simp [mem_keys_iff]
  have hcard : a.table.keys.toFinset.card = a.active := by
    rw [List.toFinset_card_of_nodup (l := a.table.keys) a.table.nodup]
    exact List.length_map ..
  rw [hset, Set.encard_coe_eq_coe_finsetCard, hcard]

/-- No key is kept with the depth zero. -/
theorem zero_not_mem_values (a : Activations κ) : 0 ∉ a.table.values := by
  intro h
  obtain ⟨⟨j, n⟩, hmem, rfl⟩ := List.mem_map.mp h
  exact Nat.lt_irrefl 0 (a.positive j _ (Keyed.find?_eq_some_iff.mpr hmem))

/-- **Starts and finishes pair up.**  After any calls on any keys, the depth of a key is the
balance of its starts and finishes, where a finish that finds no start is discarded; a start was
answered with yes exactly where the depth was zero, and a finish exactly where it was one; there
was one such start more than such finishes if the key is open, and as many if it is not.  The
tracker counts the open keys and keeps nothing of the others, and the answers on a key are those
it would give if no other key were ever called. -/
theorem starts_pair_with_finishes (calls : List (ActivationCall κ)) (k : κ) :
    let a := empty.follow calls
    let log := empty.log calls
    a.depth k = balance k calls ∧
    IsGreatest {n | ∃ ending, ending <:+ calls ∧ surplus k ending = n} (balance k calls : Int) ∧
    (∀ i : Nat, log[i]? =
      calls[i]?.map fun call => (call, call.answerAt (balance call.key (calls.take i)))) ∧
    (log.count (.start k, true) : Int) - log.count (.finish k, true) =
      (if 0 < a.depth k then 1 else 0) ∧
    {j | 0 < a.depth j}.encard = a.active ∧
    0 ∉ a.table.values ∧
    log.filter (·.1.key = k) = empty.log (calls.filter (·.key = k)) := by
  refine ⟨depth_follow calls k, isGreatest_balance k calls, fun i => ?_, ?_, encard_depth _,
    zero_not_mem_values _, filter_log calls rfl⟩
  · simp only [getElem?_log, answer_eq, depth_follow]
  · rw [count_log]
    split <;> omega

example :
    (empty.log [.finish "b", .start "b", .start "a", .start "b", .finish "b", .finish "b"]).map
      (·.2) = [false, true, true, false, false, true] := by decide

end Activations

end TestTelemetry
