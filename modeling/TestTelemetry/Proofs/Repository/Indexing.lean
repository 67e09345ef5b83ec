/-
What the index of a repository holds.

The index is said by the files that are used: which keys it has, which of the files of one key is
listed, and which folders are roots.  There is an index if all folders that are gone through can be
listed.  Nothing of it depends on the order in which folders list what is in them.

* `SourceFile.Rooted`, `SourceFile.rooted` — where the root of a file lies;
* `RepoIndex.IndexOf` — what an index of some files holds;
* `FileTree.Uses` — the files that are used;
* `indexedFiles_congr` — the files that are indexed do not depend on the order of listings;
* `scanRepository_complete` — when there is an index of a folder, and what it holds;
* `closed_folder_is_no_index` — a folder that cannot be listed, and a stem that is no text.
-/
import TestTelemetry.Proofs.Data.OrderedMap
import TestTelemetry.Proofs.Files.Path
import TestTelemetry.Proofs.Files.Walk
import TestTelemetry.Proofs.Repository.Lookup

namespace TestTelemetry

/-! ### The root of a file -/

namespace SourceFile

/-- Where the root of a file lies: so that the path of the package leads from it to the folder of
the file, or it is this folder. -/
structure Rooted (f : SourceFile) : Prop where
  above : f.rootFolder <+: f.folder
  declared : f.packagePath.parts ≠ [] → f.packagePath.parts <:+ f.folder.map .name →
    f.rootFolder.map .name ++ f.packagePath.parts = f.folder.map .name
  own : f.packagePath.parts = [] ∨ ¬ f.packagePath.parts <:+ f.folder.map .name →
    f.rootFolder = f.folder
  /-- The path of a package goes from name to name. -/
  path : '/' ∉ f.package → f.packagePath.parts =
    ((pieces '.' f.package).filter (· ≠ [])).map fun part => .name (.ofText (String.ofList part))

theorem rootFolder_of_suffix {f : SourceFile}
    (h : f.packagePath.parts <:+ f.folder.map PathPart.name) :
    f.rootFolder = f.folder.take (f.folder.length - f.packagePath.parts.length) :=
  if_pos (List.isSuffixOf_iff_suffix.mpr h)

theorem rootFolder_of_not_suffix {f : SourceFile}
    (h : ¬ f.packagePath.parts <:+ f.folder.map PathPart.name) : f.rootFolder = f.folder :=
  if_neg fun hsuffix => h (List.isSuffixOf_iff_suffix.mp hsuffix)

/-- What is between the dots of a package without slashes is a name. -/
theorem isName_of_mem_pieces {package part : List Char} (h : '/' ∉ package)
    (hpart : part ∈ pieces '.' package) (hne : part ≠ []) :
    Path.IsName (.ofText (String.ofList part)) := by
  have hdot : '.' ∉ part := separator_not_mem_pieces hpart
  have hsame : ∀ {cs bytes}, Text.encode (String.ofList part) = bytes →
      cs.flatMap String.utf8EncodeChar = bytes → part = cs := by
    intro cs bytes hpart hcs
    have hbytes := hpart.trans (hcs.symm.trans (Text.encode_ofList cs).symm)
    exact String.ofList_inj.mp (RawText.ofText_injective (congrArg RawText.mk hbytes))
  refine ⟨fun heq => hne (hsame heq rfl), fun heq => ?_, fun heq => ?_, ?_⟩
  · have hhere : part = ['.'] := hsame heq rfl
    exact hdot (hhere ▸ List.mem_cons_self ..)
  · have hup : part = ['.', '.'] := hsame heq rfl
    exact hdot (hup ▸ List.mem_cons_self ..)
  · intro hslash
    have hmem := Text.slash_mem_encode.mp hslash
    rw [String.toList_ofList] at hmem
    exact h (mem_of_mem_pieces hpart hmem)

theorem parts_packagePath {f : SourceFile} (h : '/' ∉ f.package) : f.packagePath.parts =
    ((pieces '.' f.package).filter (· ≠ [])).map fun part =>
      .name (.ofText (String.ofList part)) := by
  have hnames : ∀ n ∈ ((pieces '.' f.package).filter (· ≠ [])).map
      fun part => RawText.ofText (String.ofList part), Path.IsName n := by
    intro n hn
    obtain ⟨part, hpart, rfl⟩ := List.mem_map.mp hn
    obtain ⟨hpiece, hne⟩ := List.mem_filter.mp hpart
    exact isName_of_mem_pieces h hpiece (of_decide_eq_true hne)
  have hparts := Path.parts_foldl_join (.ofText "") hnames
  rw [show Path.parts (.ofText "") = [] by decide +kernel, List.foldl_map, List.map_map] at hparts
  exact hparts

theorem rooted (f : SourceFile) : f.Rooted where
  above := by
    by_cases h : f.packagePath.parts <:+ f.folder.map PathPart.name
    · exact rootFolder_of_suffix h ▸ List.take_prefix ..
    · exact rootFolder_of_not_suffix h ▸ List.prefix_rfl
  declared _ h := by
    have htake := List.suffix_iff_eq_append.mp h
    rwa [List.length_map, ← List.map_take, ← rootFolder_of_suffix h] at htake
  own h := by
    rcases h with hnil | h
    · rw [rootFolder_of_suffix (hnil ▸ List.nil_suffix ..), hnil]
      exact List.take_length ..
    · exact rootFolder_of_not_suffix h
  path := parts_packagePath

end SourceFile

/-! ### The index of some files -/

/-- What an index of some files holds. -/
structure RepoIndex.IndexOf (i : RepoIndex) (Uses : SourceFile → Prop) : Prop where
  /-- Every file has its key in the index. -/
  present : ∀ f, Uses f → i.sources.contains f.key = true
  /-- What is listed under a key is the first file that has it, name after name, and nothing else
  is listed. -/
  listed : ∀ k path, i.sources.find? k = some path ↔ ∃ g, Uses g ∧ g.key = k ∧
    (∀ h, Uses h → h.key = k → (compare g.names h.names).isLE = true) ∧ g.path = path
  ascending : i.sourceRoots.Pairwise (· < ·)
  /-- The roots are those of the files. -/
  roots : ∀ r, r ∈ i.sourceRoots ↔ ∃ f, Uses f ∧ slashPath f.rootFolder = r

theorem RepoIndex.indexOf_ofSources {files : List SourceFile}
    (hsorted : files.Pairwise fun f g => (compare f.names g.names).isLE = true)
    {Uses : SourceFile → Prop} (huses : ∀ f, f ∈ files ↔ Uses f) :
    (ofSources files).IndexOf Uses where
  present f hf := by
    rw [OrderedMap.contains, find?_ofSources, Option.isSome_map, List.find?_isSome]
    exact ⟨f, (huses f).mpr hf, decide_eq_true rfl⟩
  listed k path := by simp only [find?_ofSources_iff hsorted, huses]
  ascending := by
    refine List.pairwise_map.mpr ((OrderedMap.ascending _).imp fun h => ?_)
    exact compareOfLessAndEq_eq_lt.mp h
  roots r := by
    simp only [ofSources, OrderedMap.mem_keys_ofList, List.mem_map, huses]
    constructor
    · rintro ⟨e, ⟨f, hf, rfl⟩, rfl⟩
      exact ⟨f, hf, rfl⟩
    · rintro ⟨f, hf, rfl⟩
      exact ⟨_, ⟨f, hf, rfl⟩, rfl⟩

/-! ### The files that are used -/

/-- A file is used if a walk takes it and its stem is a text. -/
def FileTree.Uses (t : FileTree) (place : Place) (f : SourceFile) : Prop :=
  ∃ file, t.Takes sourceWalker place file ∧ SourceFile.ofFound? file = some f

/-- A walk through a folder comes to one that cannot be listed. -/
def FileTree.MeetsClosed (t : FileTree) (place : Place) : Prop :=
  ∃ folder, t.Reaches sourceWalker place folder ∧ place ++ folder ∈ t.closed

section Folder

variable {t : FileTree} {listing : Place → Listing} {root : Path} {place : Place}

/-- Files that are found in another order are sorted in the same one. -/
theorem sortedSources_perm {found found' : List FoundFile} (h : found.Perm found')
    (hunique : ∀ f ∈ found, ∀ g ∈ found, f.1 = g.1 → f = g) :
    sortedSources found = sortedSources found' := by
  have hperm : (sortedSources found).Perm (sortedSources found') :=
    ((List.mergeSort_perm ..).trans (h.trans (List.mergeSort_perm ..).symm)).filterMap _
  refine hperm.eq_of_pairwise (fun f g hf hg hfg hgf => ?_) (pairwise_sortedSources _)
    (pairwise_sortedSources _)
  obtain ⟨x, hx, hfx⟩ := mem_sortedSources.mp hf
  obtain ⟨y, hy, hgy⟩ := mem_sortedSources.mp (hperm.mem_iff.mpr hg)
  have hnames := Std.LawfulEqCmp.eq_of_compare (Std.OrientedCmp.isLE_antisymm hfg hgf)
  rw [SourceFile.names_of_ofFound? hfx, SourceFile.names_of_ofFound? hgy] at hnames
  obtain rfl := hunique x hx y hy hnames
  exact Option.some_inj.mp (hfx.symm.trans hgy)

variable (hplace : t.folderAt? root = some place)
include hplace

theorem foundSources_eq_some_iff {found : List FoundFile} :
    foundSources t listing root = some found ↔
      t.walk sourceWalker listing place = .ok found := by
  rw [foundSources, hplace, Option.bind_some]
  cases t.walk sourceWalker listing place with
  | error names => exact iff_of_false (nomatch ·) (nomatch ·)
  | ok all => exact Option.some_inj.trans (Except.ok.injEq all found).to_iff.symm

/-- If all folders that a walk comes to can be listed, it comes to its end. -/
theorem exists_foundSources (h : t.ListedBy listing) (hopen : ¬ t.MeetsClosed place) :
    ∃ found, foundSources t listing root = some found := by
  have hfolder := (FileTree.folderAt?_eq_some_iff.mp hplace).2.2
  cases hwalk : t.walk sourceWalker listing place with
  | error names => exact absurd ⟨names, FileTree.walk_eq_error h hfolder hwalk⟩ hopen
  | ok found => exact ⟨found, (foundSources_eq_some_iff hplace).mpr hwalk⟩

/-- What is found is what a walk takes, and all folders that it comes to can be listed. -/
theorem foundSources_spec (h : t.ListedBy listing) {found : List FoundFile}
    (hfound : foundSources t listing root = some found) :
    (∀ f, f ∈ found ↔ t.Takes sourceWalker place f) ∧ ¬ t.MeetsClosed place := by
  have hfolder := (FileTree.folderAt?_eq_some_iff.mp hplace).2.2
  have hwalk := (foundSources_eq_some_iff hplace).mp hfound
  obtain ⟨-, hmem, hopened⟩ := FileTree.walk_eq_ok h hfolder hwalk
  exact ⟨hmem, fun ⟨folder, hreached, hclosed⟩ => hopened folder hreached hclosed⟩

/-- Nothing is found if a folder that a walk comes to cannot be listed. -/
theorem foundSources_eq_none (h : t.ListedBy listing) (hclosed : t.MeetsClosed place) :
    foundSources t listing root = none :=
  Option.eq_none_iff_forall_ne_some.mpr fun _ hfound =>
    (foundSources_spec hplace h hfound).2 hclosed

end Folder

/-- In whatever order folders list their entries, the same files are indexed in the same order. -/
theorem indexedFiles_congr {t : FileTree} {listing listing' : Place → Listing}
    (h : t.ListedBy listing) (h' : t.ListedBy listing') (root : Path) :
    indexedFiles t listing root = indexedFiles t listing' root := by
  rw [indexedFiles, indexedFiles]
  cases hplace : t.folderAt? root with
  | none => rw [foundSources, foundSources, hplace, Option.bind_none, Option.bind_none]
  | some place =>
    by_cases hclosed : t.MeetsClosed place
    · rw [foundSources_eq_none hplace h hclosed, foundSources_eq_none hplace h' hclosed]
    · obtain ⟨found, hfound⟩ := exists_foundSources hplace h hclosed
      have hfolder := (FileTree.folderAt?_eq_some_iff.mp hplace).2.2
      have hwalk := (foundSources_eq_some_iff hplace).mp hfound
      obtain ⟨found', hwalk', hperm⟩ := FileTree.walk_perm h h' hfolder hwalk
      have hmem := (foundSources_spec hplace h hfound).1
      rw [hfound, (foundSources_eq_some_iff hplace).mpr hwalk']
      exact congrArg some <| sortedSources_perm hperm fun f hf g hg =>
        ((hmem f).mp hf).eq_of_names ((hmem g).mp hg)

/-- **The index of a folder holds the source files below it**, those that are reached without a
folder that is left out and whose stems are texts, and no others.  There is one exactly if the
folder is there and all folders that are reached can be listed, and it is the same in whatever order
they list their entries. -/
theorem scanRepository_complete (t : FileTree) (root : Path) :
    (t.folderAt? root = none → scanRepository t root = none) ∧
      (∀ place, t.folderAt? root = some place →
        (t.MeetsClosed place → scanRepository t root = none) ∧
          (¬ t.MeetsClosed place → ∃ i, scanRepository t root = some i ∧
            i.IndexOf (t.Uses place) ∧ ∀ f, t.Uses place f → f.Rooted)) ∧
      ∀ listing, t.ListedBy listing →
        (indexedFiles t listing root).map .ofSources = scanRepository t root := by
  refine ⟨fun hnone => ?_, fun place hplace => ⟨fun hclosed => ?_, fun hopen => ?_⟩, ?_⟩
  · rw [scanRepository, indexedFiles, foundSources, hnone]
    rfl
  · rw [scanRepository, indexedFiles, foundSources_eq_none hplace t.listedBy_list hclosed]
    rfl
  · obtain ⟨found, hfound⟩ := exists_foundSources hplace t.listedBy_list hopen
    refine ⟨.ofSources (sortedSources found), ?_, ?_, fun f _ => f.rooted⟩
    · rw [scanRepository, indexedFiles, hfound]
      rfl
    · refine RepoIndex.indexOf_ofSources (pairwise_sortedSources found) fun f => ?_
      rw [mem_sortedSources]
      exact exists_congr fun x =>
        and_congr_left' ((foundSources_spec hplace t.listedBy_list hfound).1 x)
  · intro listing hlisting
    rw [scanRepository, indexedFiles_congr hlisting t.listedBy_list]

/-- Listing the folders backwards comes to the same: the file in `src` that cannot be opened is used
like the other one, and `build` is not gone through, although it could not even be listed. -/
theorem scanRepository_complete_backwards :
    let place : Place := ["w", "r"]
    let t : FileTree := ⟨["w"], [(["w", "r", "src", "a", "G.java"], Text.encode "package a;"),
      (["w", "r", "src", "a", "H.kt"], ⟨true, none⟩)], [["w", "r", "build"]],
      [["w", "r", "build"]]⟩
    t.folderAt? "r" = some place ∧ ¬ t.MeetsClosed place ∧
      ∃ i, scanRepository t "r" = some i ∧ i.IndexOf (t.Uses place) ∧
        i.sources.entries = [("H", "src/a/H.kt"), ("a/G", "src/a/G.java")] ∧
        i.sourceRoots = ["src", "src/a"] ∧
        (indexedFiles t (fun p => ⟨(t.list p).names.reverse, (t.list p).whole⟩) "r").map .ofSources =
          some i := by
  intro place t
  have hplace : t.folderAt? "r" = some place := by decide +kernel
  have hopen : ¬ t.MeetsClosed place := by
    rintro ⟨folder, ⟨-, henters⟩, hclosed⟩
    have hbuild : folder = ["build"] := by simpa [t, place] using hclosed
    exact absurd (henters "build" (by simp [hbuild])) (by decide +kernel)
  obtain ⟨-, hindex, hlisting⟩ := scanRepository_complete t "r"
  obtain ⟨i, hscan, hindexOf, -⟩ := (hindex _ hplace).2 hopen
  have hbackwards := hlisting _ (FileTree.listedBy_reverse t.listedBy_list)
  have hfiles : i = .ofSources
      [⟨["src", "a", "G.java"], "G", ['a']⟩, ⟨["src", "a", "H.kt"], "H", []⟩] := by
    rw [scanRepository, indexedFiles_of_ascending (by decide +kernel)] at hscan
    rw [← Option.some_inj, ← hscan]
    decide +kernel
  refine ⟨hplace, hopen, i, hscan, hindexOf, ?_, ?_, hbackwards.trans hscan⟩
  · rw [hfiles]
    decide +kernel
  · rw [hfiles]
    decide +kernel

/-- A folder that cannot be listed leaves the whole repository without an index, and a file whose
stem is no text is taken, but has no key and no root. -/
theorem closed_folder_is_no_index :
    let place : Place := ["w", "r"]
    let app : FoundFile := (["App.java"], Text.encode "package app;")
    let t : FileTree := ⟨["w"], [(place ++ app.1, app.2)], [["w", "r", "sub"]],
      [["w", "r", "sub"]]⟩
    let unnamed : FoundFile := ([⟨0xff :: (RawText.ofText ".java").bytes⟩], FileEntry.ofContent [])
    let t' : FileTree := ⟨["w"], [(place ++ unnamed.1, unnamed.2)], [], []⟩
    (t.Takes sourceWalker place app ∧ scanRepository t "r" = none) ∧
      t'.Takes sourceWalker place unnamed ∧ scanRepository t' "r" = some .empty := by
  intro place app t unnamed t'
  refine ⟨⟨⟨[], _, rfl, List.forall_mem_nil _, ?_, ?_, ?_⟩, ?_⟩,
    ⟨[], _, rfl, List.forall_mem_nil _, ?_, ?_, ?_⟩, ?_⟩
  · decide +kernel
  · decide +kernel
  · decide +kernel
  · rw [scanRepository, indexedFiles_of_ascending (by decide +kernel)]
    decide +kernel
  · decide +kernel
  · decide +kernel
  · decide +kernel
  · rw [scanRepository, indexedFiles_of_ascending (by decide +kernel)]
    decide +kernel

end TestTelemetry
