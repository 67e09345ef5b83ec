/-
A class is looked up without guessing.

The file of a class is that of its own key.  If that key is not in the index, the file is that of
the one key with the same last name; if there are several such keys, none of them is preferred.  So
one more entry can find a class that was not found, give it a file of its own, or put an answer in
doubt that rested on its last name, but it does not exchange one file for another.

* `RepoIndex.Namesake`, `RepoIndex.FallsBackTo` — the keys with the same last name, and the only one;
* `RepoIndex.sourcePath_eq_some_iff` — the file that is found;
* `RepoIndex.sourcePath_congr` — only keys with the same last name matter to it;
* `RepoIndex.sourcePath_add_own`, `RepoIndex.sourcePath_add_of_mem`,
  `RepoIndex.sourcePath_add_first`, `RepoIndex.sourcePath_add_second` — what one more entry makes of
  an answer;
* `RepoIndex.sourcePath_never_guesses` — all answers, and how they change.
-/
import TestTelemetry.Proofs.Data.OrderedMap
import TestTelemetry.Proofs.Data.Pieces
import TestTelemetry.Proofs.Repository.Lookup
import Mathlib.Data.List.Nodup

namespace TestTelemetry

namespace RepoIndex

open OrderedMap (mem_keys_iff find?_eq_none_iff)

/-- Two keys end in the same name behind their last slashes. -/
def SharesLastName (key q : String) : Prop :=
  (pieces '/' key.toList).getLast? = (pieces '/' q.toList).getLast?

instance (key q : String) : Decidable (SharesLastName key q) := inferInstanceAs (Decidable (_ = _))

/-- A key of the index that ends in the same name as another key. -/
def Namesake (i : RepoIndex) (q key : String) : Prop := key ∈ i.sources.keys ∧ SharesLastName key q

instance (i : RepoIndex) (q key : String) : Decidable (i.Namesake q key) :=
  inferInstanceAs (Decidable (_ ∧ _))

/-- A key is not in the index, and exactly one key of the index ends in its name. -/
structure FallsBackTo (i : RepoIndex) (q key : String) : Prop where
  absent : q ∉ i.sources.keys
  namesake : i.Namesake q key
  only : ∀ other, i.Namesake q other → other = key

/-- The index with one more entry. -/
def add (i : RepoIndex) (key path : String) : RepoIndex :=
  { i with sources := i.sources.insert key path }

variable {i j : RepoIndex} {name q key path : String}

/-! ### The two ways to a file -/

/-- A class name with slashes for dots asks for its first piece at dollar signs. -/
theorem qualifiedKey_eq_head? (name : String) : qualifiedKey name =
    String.ofList ((pieces '$' (name.toList.map slashed)).head?.getD []) := by
  rw [head?_pieces]
  rfl

theorem lastName_eq_iff : lastName key = lastName q ↔ SharesLastName key q := by
  rw [SharesLastName, getLast?_pieces, getLast?_pieces, Option.some_inj]
  rfl

theorem mem_candidates_iff {e : String × String} : e ∈ i.candidates (lastName q) ↔
    i.sources.find? e.1 = some e.2 ∧ SharesLastName e.1 q := by
  rw [candidates, List.mem_filter, decide_eq_true_iff, lastName_eq_iff,
    OrderedMap.find?_eq_some_iff]

theorem namesake_of_mem_candidates {e : String × String} (h : e ∈ i.candidates (lastName q)) :
    i.Namesake q e.1 := by
  obtain ⟨hfound, hname⟩ := mem_candidates_iff.mp h
  exact ⟨mem_keys_iff.mpr ⟨e.2, hfound⟩, hname⟩

theorem nodup_candidates (i : RepoIndex) (n : List Char) : (i.candidates n).Nodup := by
  refine List.Nodup.filter _ (List.nodup_iff_pairwise_ne.mpr ?_)
  -- keys ascend strictly, so no entry comes twice
  refine i.sources.ascending.imp fun {d e} hlt heq => ?_
  rw [heq, Std.ReflOrd.compare_self] at hlt
  cases hlt

/-- There is one candidate if and only if one key of the index has the last name. -/
theorem candidates_eq_singleton_iff : i.candidates (lastName q) = [(key, path)] ↔
    i.sources.find? key = some path ∧ i.Namesake q key ∧
      ∀ other, i.Namesake q other → other = key := by
  constructor
  · intro h
    have hmem : (key, path) ∈ i.candidates (lastName q) := h ▸ List.mem_singleton_self _
    refine ⟨(mem_candidates_iff.mp hmem).1, namesake_of_mem_candidates hmem, fun other hother => ?_⟩
    obtain ⟨p, hp⟩ := mem_keys_iff.mp hother.1
    have hcandidate : (other, p) ∈ i.candidates (lastName q) := mem_candidates_iff.mpr ⟨hp, hother.2⟩
    rw [h, List.mem_singleton] at hcandidate
    exact congrArg Prod.fst hcandidate
  · rintro ⟨hfound, hnamesake, honly⟩
    have hperm : (i.candidates (lastName q)).Perm [(key, path)] := by
      refine (List.perm_ext_iff_of_nodup (nodup_candidates ..) (List.nodup_singleton _)).mpr
        fun e => ?_
      rw [List.mem_singleton]
      constructor
      · intro he
        have hkey : e.1 = key := honly e.1 (namesake_of_mem_candidates he)
        have hpath := (mem_candidates_iff.mp he).1
        rw [hkey, hfound, Option.some_inj] at hpath
        exact Prod.ext hkey hpath.symm
      · rintro rfl
        exact mem_candidates_iff.mpr ⟨hfound, hnamesake.2⟩
    exact List.perm_singleton.mp hperm

theorem sourcePath_of_own (h : i.sources.find? (qualifiedKey name) = some path) :
    i.sourcePath name = some path := by
  simp only [sourcePath, h]

/-- Without a key of its own a class has the file of its only candidate. -/
theorem sourcePath_of_absent (habsent : qualifiedKey name ∉ i.sources.keys) :
    i.sourcePath name = some path ↔
      ∃ key, i.candidates (lastName (qualifiedKey name)) = [(key, path)] := by
  simp only [sourcePath, find?_eq_none_iff.mpr habsent]
  cases i.candidates (lastName (qualifiedKey name)) with
  | nil => simp
  | cons e rest =>
    cases rest with
    | nil =>
      obtain ⟨key, p⟩ := e
      simp
    | cons d rest => simp

/-- **The file that is found** is that of the class's own key, or that of the only key with its last
name. -/
theorem sourcePath_eq_some_iff : i.sourcePath name = some path ↔
    i.sources.find? (qualifiedKey name) = some path ∨
      ∃ key, i.FallsBackTo (qualifiedKey name) key ∧ i.sources.find? key = some path := by
  cases hown : i.sources.find? (qualifiedKey name) with
  | some own =>
    rw [sourcePath_of_own hown]
    refine ⟨Or.inl, ?_⟩
    rintro (heq | ⟨key, hfalls, -⟩)
    · exact heq
    · exact absurd (mem_keys_iff.mpr ⟨own, hown⟩) hfalls.absent
  | none =>
    have habsent := find?_eq_none_iff.mp hown
    rw [sourcePath_of_absent habsent]
    constructor
    · rintro ⟨key, hkey⟩
      obtain ⟨hfound, hnamesake, honly⟩ := candidates_eq_singleton_iff.mp hkey
      exact .inr ⟨key, ⟨habsent, hnamesake, honly⟩, hfound⟩
    · rintro (heq | ⟨key, hfalls, hfound⟩)
      · cases heq
      · exact ⟨key, candidates_eq_singleton_iff.mpr ⟨hfound, hfalls.namesake, hfalls.only⟩⟩

theorem sourcePath_of_fallsBackTo (h : i.FallsBackTo (qualifiedKey name) key) :
    i.sourcePath name = i.sources.find? key := by
  obtain ⟨path, hpath⟩ := mem_keys_iff.mp h.namesake.1
  rw [hpath]
  exact sourcePath_eq_some_iff.mpr (.inr ⟨key, h, hpath⟩)

/-- What is found of a class without a key of its own is found by its last name. -/
theorem exists_fallsBackTo (habsent : qualifiedKey name ∉ i.sources.keys)
    (h : i.sourcePath name = some path) : ∃ key, i.FallsBackTo (qualifiedKey name) key := by
  rcases sourcePath_eq_some_iff.mp h with hown | ⟨key, hfalls, -⟩
  · exact absurd (mem_keys_iff.mpr ⟨path, hown⟩) habsent
  · exact ⟨key, hfalls⟩

theorem sourcePath_eq_none (habsent : qualifiedKey name ∉ i.sources.keys)
    (h : ∀ key, ¬ i.FallsBackTo (qualifiedKey name) key) : i.sourcePath name = none := by
  refine Option.eq_none_iff_forall_ne_some.mpr fun path hpath => ?_
  obtain ⟨key, hfalls⟩ := exists_fallsBackTo habsent hpath
  exact h key hfalls

theorem FallsBackTo.congr (h : i.FallsBackTo q key)
    (hsame : ∀ k, SharesLastName k q → j.sources.find? k = i.sources.find? k) :
    j.FallsBackTo q key := by
  have hmem : ∀ k, SharesLastName k q → (k ∈ j.sources.keys ↔ k ∈ i.sources.keys) := fun k hk => by
    rw [mem_keys_iff, mem_keys_iff, hsame k hk]
  have hnamesake : ∀ k, j.Namesake q k ↔ i.Namesake q k := fun k => and_congr_left (hmem k)
  exact ⟨mt (hmem q rfl).mp h.absent, (hnamesake key).mpr h.namesake,
    fun other hother => h.only other ((hnamesake other).mp hother)⟩

/-- Only the keys with the last name of a class matter to what is found. -/
theorem sourcePath_congr (h : ∀ k, SharesLastName k (qualifiedKey name) →
    j.sources.find? k = i.sources.find? k) : j.sourcePath name = i.sourcePath name := by
  have hfound : ∀ {i j : RepoIndex} {path}, (∀ k, SharesLastName k (qualifiedKey name) →
      j.sources.find? k = i.sources.find? k) → i.sourcePath name = some path →
        j.sourcePath name = some path := by
    intro i j path h hpath
    rcases sourcePath_eq_some_iff.mp hpath with hown | ⟨key, hfalls, hkey⟩
    · exact sourcePath_of_own ((h _ rfl).trans hown)
    · rw [sourcePath_of_fallsBackTo (hfalls.congr h), h key hfalls.namesake.2, hkey]
  exact Option.ext fun path => ⟨hfound fun k hk => (h k hk).symm, hfound h⟩

/-! ### One more entry -/

theorem find?_add (k : String) :
    (i.add key path).sources.find? k = if key = k then some path else i.sources.find? k :=
  OrderedMap.find?_insert ..

theorem mem_keys_add {k : String} :
    k ∈ (i.add key path).sources.keys ↔ key = k ∨ k ∈ i.sources.keys := by
  rw [mem_keys_iff, mem_keys_iff, find?_add]
  split
  case isTrue h => simp [h]
  case isFalse h => simp [h]

theorem namesake_add {k : String} :
    (i.add key path).Namesake q k ↔ key = k ∧ SharesLastName key q ∨ i.Namesake q k := by
  rw [Namesake, mem_keys_add, or_and_right]
  refine or_congr_left (and_congr_right fun heq => ?_)
  rw [heq]

/-- A class is found under its own key as soon as it is there. -/
theorem sourcePath_add_own (i : RepoIndex) (name path : String) :
    (i.add (qualifiedKey name) path).sourcePath name = some path :=
  sourcePath_of_own ((find?_add _).trans (if_pos rfl))

/-- What is found under its own key does not change with other keys. -/
theorem sourcePath_add_of_mem (hmem : qualifiedKey name ∈ i.sources.keys)
    (hne : key ≠ qualifiedKey name) : (i.add key path).sourcePath name = i.sourcePath name := by
  obtain ⟨own, hown⟩ := mem_keys_iff.mp hmem
  rw [sourcePath_of_own hown, sourcePath_of_own ((find?_add _).trans ((if_neg hne).trans hown))]

/-- A key with another last name does not matter. -/
theorem sourcePath_add_of_not_sharesLastName (h : ¬ SharesLastName key (qualifiedKey name)) :
    (i.add key path).sourcePath name = i.sourcePath name := by
  refine sourcePath_congr fun k hk => (find?_add k).trans (if_neg ?_)
  rintro rfl
  exact h hk

/-- The first key with the last name of a class is the one that it falls back to. -/
theorem sourcePath_add_first (habsent : qualifiedKey name ∉ i.sources.keys)
    (hne : key ≠ qualifiedKey name) (hshares : SharesLastName key (qualifiedKey name))
    (hnone : ∀ k, ¬ i.Namesake (qualifiedKey name) k) :
    (i.add key path).sourcePath name = some path := by
  have hfalls : (i.add key path).FallsBackTo (qualifiedKey name) key :=
    ⟨fun hq => (mem_keys_add.mp hq).elim hne habsent, namesake_add.mpr (.inl ⟨rfl, hshares⟩),
      fun other hother => (namesake_add.mp hother).elim (fun h => h.1.symm) fun h =>
        absurd h (hnone other)⟩
  rw [sourcePath_of_fallsBackTo hfalls, find?_add, if_pos rfl]

/-- With a second key of its last name a class is no longer found. -/
theorem sourcePath_add_second (habsent : qualifiedKey name ∉ i.sources.keys)
    (hnew : key ∉ i.sources.keys) (hne : key ≠ qualifiedKey name)
    (hshares : SharesLastName key (qualifiedKey name)) {k : String}
    (hk : i.Namesake (qualifiedKey name) k) : (i.add key path).sourcePath name = none := by
  refine sourcePath_eq_none (fun hq => (mem_keys_add.mp hq).elim hne habsent) fun only hfalls => ?_
  have hfirst := hfalls.only k (namesake_add.mpr (.inr hk))
  have hsecond := hfalls.only key (namesake_add.mpr (.inl ⟨rfl, hshares⟩))
  rw [hsecond, ← hfirst] at hnew
  exact hnew hk.1

/-- **A class is looked up without guessing.**  Its key is its name with slashes for dots, up to the
first dollar sign.  The file of that key is found if there is one.  If there is none, a file is found
if and only if exactly one key of the index has the same last name, and it is the file of that key.
An entry under a new key leaves the answer as it is, or it finds a class that was not found, or it
takes back an answer that rested on the last name, or it is the entry of the class's own key; what is
found under its own key stays. -/
theorem sourcePath_never_guesses (i : RepoIndex) (name : String) :
    let q := String.ofList ((pieces '$' (name.toList.map slashed)).head?.getD [])
    (∀ path, i.sources.find? q = some path → i.sourcePath name = some path) ∧
    (q ∉ i.sources.keys →
      ((∃ path, i.sourcePath name = some path) ↔ ∃! key, i.Namesake q key) ∧
      ∀ key, i.FallsBackTo q key → i.sourcePath name = i.sources.find? key) ∧
    ∀ key path, key ∉ i.sources.keys →
      let j := i.add key path
      (∀ own, i.sources.find? q = some own → j.sourcePath name = some own) ∧
      (j.sourcePath name = i.sourcePath name ∨
        i.sourcePath name = none ∧ j.sourcePath name = some path ∨
        (∃ only, i.FallsBackTo q only) ∧ j.sourcePath name = none ∨
        key = q ∧ j.sourcePath name = some path) := by
  rw [← qualifiedKey_eq_head?]
  refine ⟨fun _ => sourcePath_of_own, fun habsent => ⟨⟨?_, ?_⟩, fun _ => sourcePath_of_fallsBackTo⟩,
    fun key path hnew => ⟨fun own hown => ?_, ?_⟩⟩
  · rintro ⟨path, hpath⟩
    obtain ⟨key, hfalls⟩ := exists_fallsBackTo habsent hpath
    exact ⟨key, hfalls.namesake, hfalls.only⟩
  · rintro ⟨key, hnamesake, honly⟩
    rw [sourcePath_of_fallsBackTo ⟨habsent, hnamesake, honly⟩]
    exact mem_keys_iff.mp hnamesake.1
  · have hmem := mem_keys_iff.mpr ⟨own, hown⟩
    have hne : key ≠ qualifiedKey name := by
      rintro rfl
      exact hnew hmem
    rw [sourcePath_add_of_mem hmem hne, sourcePath_of_own hown]
  · by_cases hne : key = qualifiedKey name
    · subst hne
      exact .inr (.inr (.inr ⟨rfl, sourcePath_add_own i name path⟩))
    by_cases hmem : qualifiedKey name ∈ i.sources.keys
    · exact .inl (sourcePath_add_of_mem hmem hne)
    by_cases hshares : SharesLastName key (qualifiedKey name)
    · by_cases hnamesakes : ∃ k, i.Namesake (qualifiedKey name) k
      · -- the new key is at least the second one of the name
        obtain ⟨k, hk⟩ := hnamesakes
        have hnone : (i.add key path).sourcePath name = none :=
          sourcePath_add_second hmem hnew hne hshares hk
        cases hold : i.sourcePath name with
        | none => exact .inl hnone
        | some old => exact .inr (.inr (.inl ⟨exists_fallsBackTo hmem hold, hnone⟩))
      · have hnone := not_exists.mp hnamesakes
        refine .inr (.inl ⟨?_, sourcePath_add_first hmem hne hshares hnone⟩)
        exact sourcePath_eq_none hmem fun k hk => hnone k hk.namesake
    · exact .inl (sourcePath_add_of_not_sharesLastName hshares)

/-- A class of another package is taken for the only one of its name, until the index has a second
one.  Once the class has its own key, no other one of the name matters. -/
theorem sourcePath_of_second_namesake :
    let i : RepoIndex := ⟨[], .single "com/acme/Parser" "core/Parser.java"⟩
    let j := i.add "org/Parser" "tools/Parser.kt"
    let k := j.add "acme/Parser" "acme/Parser.java"
    "acme/Parser" ∉ i.sources.keys ∧ i.FallsBackTo "acme/Parser" "com/acme/Parser" ∧
      i.sourcePath "acme.Parser$Token" = some "core/Parser.java" ∧
      "acme/Parser" ∉ j.sources.keys ∧ j.sourcePath "acme.Parser$Token" = none ∧
      k.sourcePath "acme.Parser$Token" = some "acme/Parser.java" ∧
      "net/Parser" ∉ k.sources.keys ∧
      (k.add "net/Parser" "net/Parser.kt").sourcePath "acme.Parser$Token" =
        some "acme/Parser.java" := by
  intro i j k
  have hq : String.ofList ((pieces '$' ("acme.Parser$Token".toList.map slashed)).head?.getD []) =
      "acme/Parser" := by decide +kernel
  have hi : "acme/Parser" ∉ i.sources.keys := by decide +kernel
  have hj : "acme/Parser" ∉ j.sources.keys := by decide +kernel
  have hk : k.sources.find? "acme/Parser" = some "acme/Parser.java" := by decide +kernel
  have hnew : "net/Parser" ∉ k.sources.keys := by decide +kernel
  have hfalls : i.FallsBackTo "acme/Parser" "com/acme/Parser" := by
    refine ⟨hi, by decide +kernel, fun other hother => ?_⟩
    exact List.mem_singleton.mp hother.1
  obtain ⟨-, hfallback, -⟩ := sourcePath_never_guesses i "acme.Parser$Token"
  obtain ⟨-, hunique, -⟩ := sourcePath_never_guesses j "acme.Parser$Token"
  obtain ⟨hown, -, hadd⟩ := sourcePath_never_guesses k "acme.Parser$Token"
  rw [hq] at hfallback hunique hown hadd
  refine ⟨hi, hfalls, (hfallback hi).2 _ hfalls, hj, ?_, hown _ hk, hnew,
    (hadd "net/Parser" "net/Parser.kt" hnew).1 _ hk⟩
  refine Option.eq_none_iff_forall_ne_some.mpr fun path hpath => ?_
  obtain ⟨only, -, honly⟩ := (hunique hj).1.mp ⟨path, hpath⟩
  have hfirst : "com/acme/Parser" = only := honly _ (by decide +kernel)
  have hsecond : "org/Parser" = only := honly _ (by decide +kernel)
  exact absurd (hfirst.trans hsecond.symm) (by decide)

end RepoIndex

end TestTelemetry
