/-
A class is found in the file that the index lists for it.

The index lists a file under the slashed name of its class, and the look-up asks for that key by
whichever name the class is called: dotted or slashed, and with or without a nested class behind it.
Of several files of one key the first in the order of paths is listed, so it is the one that is
found.

* `SourceFile.Named`, `SourceFile.Plain.qualifiedKey_eq_key` — all names of a class ask for its key;
* `find?_ofSources`, `find?_ofSources_iff` — under a key the first of its files is listed;
* `sourcePath_of_scanRepository` — the file that is found.
-/
import TestTelemetry.Proofs.Text.Raw
import TestTelemetry.Repository.Scan
import Mathlib.Data.List.TakeWhile

namespace TestTelemetry

namespace SourceFile

variable {f : SourceFile} {name : String}

/-- The dotted name of the class of a file: its package and its stem. -/
def dottedName (f : SourceFile) : String :=
  if f.package = [] then f.stem else String.ofList f.package ++ "." ++ f.stem

/-- The names by which the class of a file and the classes nested in it are called. -/
inductive Named (f : SourceFile) : String → Prop
  | dotted : Named f f.dottedName
  | slashed : Named f f.key
  | nested {name : String} (h : Named f name) (suffix : String) : Named f (name ++ "$" ++ suffix)

/-- The package and the stem of a file are such that no part of them is cut off. -/
structure Plain (f : SourceFile) : Prop where
  package : '$' ∉ f.package
  stem : '$' ∉ f.stem.toList
  /-- The stem is one name. -/
  single : '.' ∉ f.stem.toList

end SourceFile

/-! ### Keys -/

/-- A dot read as a slash. -/
def slashed (c : Char) : Char := if c = '.' then '/' else c

theorem slashed_of_ne {c : Char} (h : c ≠ '.') : slashed c = c := if_neg h

theorem slashed_comp_slashed : slashed ∘ slashed = slashed := by
  funext c
  by_cases h : c = '.'
  · subst h
    rfl
  · rw [Function.comp_apply, slashed_of_ne h, slashed_of_ne h]

/-- What is neither a dot nor a slash is read as it is. -/
theorem mem_map_slashed {c : Char} (hdot : c ≠ '.') (hslash : c ≠ '/') {cs : List Char} :
    c ∈ cs.map slashed ↔ c ∈ cs := by
  rw [List.mem_map]
  constructor
  · rintro ⟨d, hd, heq⟩
    by_cases h : d = '.'
    · exact absurd (heq.symm.trans (if_pos h)) hslash
    · rw [slashed_of_ne h] at heq
      exact heq ▸ hd
  · exact fun h => ⟨c, h, slashed_of_ne hdot⟩

theorem dollar_mem_map_slashed {cs : List Char} : '$' ∈ cs.map slashed ↔ '$' ∈ cs :=
  mem_map_slashed (by decide) (by decide)

namespace RepoIndex

theorem qualifiedKey_eq (name : String) :
    qualifiedKey name = String.ofList ((name.toList.map slashed).takeWhile (· ≠ '$')) := rfl

/-- A name without a dollar sign is read as it is, with slashes. -/
theorem qualifiedKey_of_not_mem {name : String} (h : '$' ∉ name.toList) :
    qualifiedKey name = String.ofList (name.toList.map slashed) := by
  rw [qualifiedKey_eq, List.takeWhile_eq_self_iff.mpr]
  intro c hc
  exact decide_eq_true fun heq => h (dollar_mem_map_slashed.mp (heq ▸ hc))

/-- A nested class asks for the key of the outer one. -/
theorem qualifiedKey_nested (name suffix : String) :
    qualifiedKey (name ++ "$" ++ suffix) = qualifiedKey name := by
  have hcut : ∀ l r : List Char, (l ++ '$' :: r).takeWhile (· ≠ '$') = l.takeWhile (· ≠ '$') := by
    intro l r
    induction l with
    | nil => rfl
    | cons c l ih =>
      rw [List.cons_append, List.takeWhile_cons, List.takeWhile_cons, ih]
  have hlist : (name ++ "$" ++ suffix).toList = name.toList ++ '$' :: suffix.toList := by
    rw [String.toList_append, String.toList_append, List.append_assoc]
    rfl
  rw [qualifiedKey_eq, qualifiedKey_eq, hlist, List.map_append, List.map_cons]
  exact congrArg _ (hcut ..)

end RepoIndex

namespace SourceFile

theorem toList_dottedName (f : SourceFile) : f.dottedName.toList =
    if f.package = [] then f.stem.toList else f.package ++ '.' :: f.stem.toList := by
  rw [dottedName]
  split
  · rfl
  · rw [String.toList_append, String.toList_append, String.toList_ofList, List.append_assoc]
    rfl

theorem toList_key (f : SourceFile) : f.key.toList =
    if f.package = [] then f.stem.toList else f.package.map slashed ++ '/' :: f.stem.toList := by
  rw [key]
  split
  · rfl
  · rw [String.toList_append, String.toList_append, String.toList_ofList, List.append_assoc]
    rfl

namespace Plain

variable {f : SourceFile} {name : String}

theorem map_stem (hf : f.Plain) : f.stem.toList.map slashed = f.stem.toList :=
  (List.map_congr_left fun _ hc => slashed_of_ne fun heq => hf.single (heq ▸ hc)).trans (List.map_id _)

theorem dollar_not_mem_dottedName (hf : f.Plain) : '$' ∉ f.dottedName.toList := by
  rw [toList_dottedName]
  split
  · exact hf.stem
  · simp [hf.package, hf.stem]

/-- The key is the dotted name with slashes. -/
theorem map_dottedName (hf : f.Plain) : f.dottedName.toList.map slashed = f.key.toList := by
  rw [toList_dottedName, toList_key]
  split
  · exact hf.map_stem
  · rw [List.map_append, List.map_cons, hf.map_stem]
    rfl

/-- **All names of a class ask for the key of its file.** -/
theorem qualifiedKey_eq_key (hf : f.Plain) (h : f.Named name) :
    RepoIndex.qualifiedKey name = f.key := by
  have hkey : RepoIndex.qualifiedKey f.dottedName = f.key := by
    rw [RepoIndex.qualifiedKey_of_not_mem hf.dollar_not_mem_dottedName, hf.map_dottedName,
      String.ofList_toList]
  induction h with
  | dotted => exact hkey
  | slashed =>
    -- The key has slashes already.
    have hdollar : '$' ∉ f.key.toList := by
      rw [← hf.map_dottedName, dollar_mem_map_slashed]
      exact hf.dollar_not_mem_dottedName
    rw [RepoIndex.qualifiedKey_of_not_mem hdollar, ← hf.map_dottedName, List.map_map,
      slashed_comp_slashed, hf.map_dottedName, String.ofList_toList]
  | nested _ suffix ih => rw [RepoIndex.qualifiedKey_nested, ih]

end Plain

end SourceFile

/-! ### The files that are listed -/

theorem find?_listSource (sources : OrderedMap String String) (f : SourceFile) (k : String) :
    (listSource sources f).find? k =
      if f.key = k then (sources.find? k).or (some f.path) else sources.find? k := by
  rw [listSource, OrderedMap.contains]
  cases hfound : sources.find? f.key with
  | none =>
    rw [Option.isSome_none, if_neg (by decide), OrderedMap.find?_insert]
    split
    case isTrue h => rw [← h, hfound]; rfl
    case isFalse => rfl
  | some path =>
    rw [Option.isSome_some, if_pos rfl]
    split
    case isTrue h => rw [← h, hfound]; rfl
    case isFalse => rfl

/-- Under a key the first of its files is listed. -/
theorem find?_foldl_listSource (files : List SourceFile) (sources : OrderedMap String String)
    (k : String) :
    (files.foldl listSource sources).find? k =
      (sources.find? k).or ((files.find? fun f => f.key = k).map SourceFile.path) := by
  induction files generalizing sources with
  | nil => exact (Option.or_none).symm
  | cons f files ih =>
    rw [List.foldl_cons, ih, find?_listSource]
    by_cases h : f.key = k
    · have hfirst : (f :: files).find? (fun f => f.key = k) = some f :=
        List.find?_cons_of_pos (decide_eq_true h)
      rw [if_pos h, hfirst, Option.or_assoc]
      rfl
    · rw [if_neg h, List.find?_cons_of_neg (by simpa using h)]

theorem RepoIndex.find?_ofSources (files : List SourceFile) (k : String) :
    (ofSources files).sources.find? k = (files.find? fun f => f.key = k).map SourceFile.path :=
  find?_foldl_listSource files .empty k

theorem SourceFile.names_of_ofFound? {x : FoundFile} {f : SourceFile} (h : ofFound? x = some f) :
    f.names = x.1 := by
  obtain ⟨stem, -, rfl⟩ := Option.map_eq_some_iff.mp h
  rfl

theorem pairwise_sortedSources (found : List FoundFile) :
    (sortedSources found).Pairwise fun f g => (compare f.names g.names).isLE = true := by
  have hsorted : (found.mergeSort fun f g => (compare f.1 g.1).isLE).Pairwise
      fun f g => (compare f.1 g.1).isLE = true := by
    refine List.pairwise_mergeSort (fun f g h => Std.TransCmp.isLE_trans) (fun f g => ?_) found
    rw [← Std.OrientedCmp.isGE_eq_isLE]
    cases compare g.1 f.1 <;> rfl
  refine hsorted.filterMap _ fun x y hle f hf g hg => ?_
  rw [SourceFile.names_of_ofFound? hf, SourceFile.names_of_ofFound? hg]
  exact hle

theorem mem_sortedSources {found : List FoundFile} {f : SourceFile} :
    f ∈ sortedSources found ↔ ∃ x ∈ found, SourceFile.ofFound? x = some f := by
  simp only [sortedSources, List.mem_filterMap, List.mem_mergeSort]

theorem pairwise_indexedFiles {t : FileTree} {listing : Place → Listing} {root : Path}
    {sources : List SourceFile} (h : indexedFiles t listing root = some sources) :
    sources.Pairwise fun f g => (compare f.names g.names).isLE = true := by
  obtain ⟨found, -, rfl⟩ := Option.map_eq_some_iff.mp h
  exact pairwise_sortedSources found

/-- Under a key the first file of it is listed, if files come in the order of their paths. -/
theorem RepoIndex.find?_ofSources_iff {files : List SourceFile}
    (hsorted : files.Pairwise fun f g => (compare f.names g.names).isLE = true) {k path : String} :
    (ofSources files).sources.find? k = some path ↔ ∃ g ∈ files, g.key = k ∧
      (∀ h ∈ files, h.key = k → (compare g.names h.names).isLE = true) ∧ g.path = path := by
  have hfirst : ∀ {path}, (ofSources files).sources.find? k = some path → ∃ g ∈ files, g.key = k ∧
      (∀ h ∈ files, h.key = k → (compare g.names h.names).isLE = true) ∧ g.path = path := by
    intro path h
    rw [find?_ofSources] at h
    obtain ⟨g, hfound, hpath⟩ := Option.map_eq_some_iff.mp h
    obtain ⟨hkey, before, after, hfiles, hbefore⟩ := List.find?_eq_some_iff_append.mp hfound
    rw [hfiles, List.pairwise_append, List.pairwise_cons] at hsorted
    refine ⟨g, List.mem_of_find?_eq_some hfound, of_decide_eq_true hkey, fun h hh hk => ?_, hpath⟩
    rw [hfiles, List.mem_append, List.mem_cons] at hh
    rcases hh with hh | rfl | hh
    · exact absurd (hbefore h hh) (by simp [hk])
    · exact Std.ReflOrd.isLE_rfl
    · exact hsorted.2.1.1 h hh
  refine ⟨hfirst, ?_⟩
  rintro ⟨g, hg, hkey, hleast, rfl⟩
  cases hfound : (ofSources files).sources.find? k with
  | none =>
    rw [find?_ofSources, Option.map_eq_none_iff, List.find?_eq_none] at hfound
    exact absurd (hfound g hg) (by simp [hkey])
  | some path =>
    -- Two files that are first have the same names.
    obtain ⟨g', hg', hkey', hleast', rfl⟩ := hfirst hfound
    have hsame := Std.OrientedCmp.isLE_antisymm (hleast g' hg' hkey') (hleast' g hg hkey)
    rw [SourceFile.path, SourceFile.path, Std.LawfulEqCmp.eq_of_compare hsame]

/-- Of the files of one key the first is listed. -/
theorem RepoIndex.exists_first_of_mem {files : List SourceFile}
    (hsorted : files.Pairwise fun f g => (compare f.names g.names).isLE = true) {f : SourceFile}
    (hf : f ∈ files) : ∃ g ∈ files, g.key = f.key ∧
      (∀ h ∈ files, h.key = f.key → (compare g.names h.names).isLE = true) ∧
      (ofSources files).sources.find? f.key = some g.path := by
  cases hfound : (ofSources files).sources.find? f.key with
  | none =>
    rw [find?_ofSources, Option.map_eq_none_iff, List.find?_eq_none] at hfound
    exact absurd (hfound f hf) (by simp)
  | some path =>
    obtain ⟨g, hg, hkey, hfirst, rfl⟩ := (find?_ofSources_iff hsorted).mp hfound
    exact ⟨g, hg, hkey, hfirst, rfl⟩

/-- The index of a folder is that of the files below it. -/
theorem eq_ofSources_of_scanRepository {t : FileTree} {root : Path} {i : RepoIndex}
    (hscan : scanRepository t root = some i) {sources : List SourceFile}
    (hsources : indexedFiles t t.list root = some sources) : i = .ofSources sources := by
  rw [scanRepository, hsources] at hscan
  exact (Option.some_inj.mp hscan).symm

/-- **A class is found in the first file of its key.**  Whichever of its names is looked up, and that
of whichever class nested in it, the file is found that comes first, name after name, among those
that were collected with its package and stem. -/
theorem sourcePath_of_scanRepository {t : FileTree} {root : Path} {i : RepoIndex}
    (hscan : scanRepository t root = some i) {sources : List SourceFile}
    (hsources : indexedFiles t t.list root = some sources) {f : SourceFile} (hf : f ∈ sources)
    (hplain : f.Plain) {name : String} (hname : f.Named name) :
    ∃ g ∈ sources, g.key = f.key ∧
      (∀ h ∈ sources, h.key = f.key → (compare g.names h.names).isLE = true) ∧
      i.sourcePath name = some (String.intercalate "/" (g.names.map RawText.display)) := by
  obtain ⟨g, hg, hkey, hfirst, hfound⟩ :=
    RepoIndex.exists_first_of_mem (pairwise_indexedFiles hsources) hf
  rw [← eq_ofSources_of_scanRepository hscan hsources] at hfound
  refine ⟨g, hg, hkey, hfirst, ?_⟩
  simp only [RepoIndex.sourcePath, hplain.qualifiedKey_eq_key hname, hfound]
  rfl

/-- Two modules have a class `com.acme.Parser`.  The one whose path comes first is found, by either
name, and for a class that is nested in it. -/
theorem sourcePath_of_two_modules :
    let text := Text.encode "package com.acme;"
    let t : FileTree := ⟨["w"], [(["w", "r", "api", "Parser.java"], text),
      (["w", "r", "core", "Parser.kt"], text)], [], []⟩
    let f : SourceFile := ⟨["core", "Parser.kt"], "Parser", "com.acme".toList⟩
    let sources := [⟨["api", "Parser.java"], "Parser", "com.acme".toList⟩, f]
    let i := RepoIndex.ofSources sources
    scanRepository t "r" = some i ∧ indexedFiles t t.list "r" = some sources ∧ f.Plain ∧
      f.Named "com.acme.Parser" ∧ f.Named "com/acme/Parser$Token.1" ∧
      i.sourcePath "com.acme.Parser" = some "api/Parser.java" ∧
      i.sourcePath "com/acme/Parser$Token.1" = some "api/Parser.java" := by
  intro text t f sources i
  have hsources : indexedFiles t t.list "r" = some sources := by
    rw [indexedFiles_of_ascending (by decide +kernel)]
    decide +kernel
  have hscan : scanRepository t "r" = some i := by rw [scanRepository, hsources]; rfl
  have hf : f ∈ sources := List.mem_cons_of_mem _ (List.mem_singleton_self f)
  have hplain : f.Plain := ⟨by decide, by decide +kernel, by decide +kernel⟩
  have hfound : ∀ name, f.Named name → i.sourcePath name = some "api/Parser.java" := by
    intro name hname
    obtain ⟨g, hg, hkey, hfirst, hpath⟩ :=
      sourcePath_of_scanRepository hscan hsources hf hplain hname
    rcases List.mem_cons.mp hg with rfl | hg
    · rw [hpath]
      decide +kernel
    · obtain rfl := List.mem_singleton.mp hg
      exact absurd (hfirst _ (List.mem_cons_self ..) (by decide +kernel)) (by decide +kernel)
  have hdotted : f.Named "com.acme.Parser" := by
    rw [show "com.acme.Parser" = f.dottedName by decide +kernel]
    exact .dotted
  have hnested : f.Named "com/acme/Parser$Token.1" := by
    rw [show "com/acme/Parser$Token.1" = f.key ++ "$" ++ "Token.1" by decide +kernel]
    exact .nested .slashed "Token.1"
  exact ⟨hscan, hsources, hplain, hdotted, hnested, hfound _ hdotted, hfound _ hnested⟩

end TestTelemetry
