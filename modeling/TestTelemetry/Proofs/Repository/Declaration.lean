/-
Which declarations of a package are read as they are meant.

Of the line that declares a package only the semicolons at its very end are left out.  So the name
is read if nothing follows the semicolon but others and blanks; with anything else behind it, such
as a comment, the semicolon and what follows become a part of the name.

* `IsDottedName`, `WellDeclared` — dotted names, and a text that declares one;
* `trim_dropSemicolons_iff` — when the name is what is left of its line;
* `WellDeclared.declaredPackage?_iff` — when the name is the package that is read;
* `listed_as_declared_iff` — when a file is listed under the package that it declares.
-/
import TestTelemetry.Proofs.Files.Tree
import TestTelemetry.Proofs.Repository.Indexing
import TestTelemetry.Proofs.Text.Trim

namespace TestTelemetry

open Text (trim isBlank)

variable {name tail gap blanks line text : List Char}

/-- Names with dots between them, without blanks and semicolons. -/
def IsDottedName (name : List Char) : Prop :=
  ∀ part ∈ pieces '.' name, part ≠ [] ∧ ∀ c ∈ part, isBlank c = false ∧ c ≠ ';'

instance (name : List Char) : Decidable (IsDottedName name) :=
  -- The characters of a part are looked at, not all characters that there are.
  letI (part : List Char) : Decidable (∀ c ∈ part, isBlank c = false ∧ c ≠ ';') :=
    List.decidableBAll _ part
  inferInstanceAs (Decidable (∀ part ∈ pieces '.' name, _))

/-- The first line of a text that begins with the word for a package, once it is trimmed, is a
declaration of a dotted name.  There may be blanks before the name and behind it, and anything
behind the semicolon that follows. -/
structure WellDeclared (text name tail : List Char) : Prop where
  dotted : IsDottedName name
  first : ∃ before line after, Text.lines text = before ++ line :: after ∧
    (∀ l ∈ before, ¬ packageWord <+: trim l) ∧
    ∃ gap blanks, (∀ c ∈ gap, isBlank c = true) ∧ (∀ c ∈ blanks, isBlank c = true) ∧
      trim line = packageWord ++ (gap ++ name ++ blanks ++ ';' :: tail)

namespace IsDottedName

theorem ne_nil (h : IsDottedName name) : name ≠ [] := by
  rintro rfl
  exact (h [] (List.mem_singleton_self _)).1 rfl

theorem plain (h : IsDottedName name) : ∀ c ∈ name, isBlank c = false ∧ c ≠ ';' := by
  intro c hc
  by_cases hdot : c = '.'
  · subst hdot
    decide
  · obtain ⟨part, hpart, hcpart⟩ := exists_piece_of_mem hc hdot
    exact (h part hpart).2 c hcpart

theorem semicolon_not_mem (h : IsDottedName name) : ';' ∉ name :=
  fun hc => (h.plain ';' hc).2 rfl

end IsDottedName

/-! ### One line -/

theorem dropSemicolons_of_not_mem {cs : List Char} (h : ';' ∉ cs) : dropSemicolons cs = cs := by
  have hkeep : cs.reverse.dropWhile (· = ';') = cs.reverse := by
    cases hcs : cs.reverse with
    | nil => rfl
    | cons c rest =>
      have hc : c ≠ ';' := fun heq => h (List.mem_reverse.mp (hcs ▸ heq ▸ List.mem_cons_self ..))
      rw [List.dropWhile_cons, if_neg (by simpa using hc)]
  rw [dropSemicolons, hkeep, List.reverse_reverse]

/-- Semicolons at the end are left out. -/
theorem dropSemicolons_append_of_all (cs : List Char) {rest : List Char}
    (h : ∀ c ∈ rest, c = ';') : dropSemicolons (cs ++ rest) = dropSemicolons cs := by
  have hreverse : ∀ c ∈ rest.reverse, decide (c = ';') = true :=
    fun c hc => decide_eq_true (h c (List.mem_reverse.mp hc))
  rw [dropSemicolons, List.reverse_append, List.dropWhile_append_of_pos hreverse, dropSemicolons]

/-- Semicolons before something else stay. -/
theorem dropSemicolons_append_of_exists (cs : List Char) {rest : List Char}
    (h : ¬ ∀ c ∈ rest, c = ';') : dropSemicolons (cs ++ rest) = cs ++ dropSemicolons rest := by
  have hsome : rest.reverse.dropWhile (· = ';') ≠ [] := by
    rw [Ne, Text.dropWhile_eq_nil_iff]
    exact fun hall => h fun c hc => of_decide_eq_true (hall c (List.mem_reverse.mpr hc))
  rw [dropSemicolons, List.reverse_append, List.dropWhile_append, if_neg (by simpa using hsome),
    List.reverse_append, List.reverse_reverse, dropSemicolons]

/-- A semicolon that something else follows is left in the line. -/
theorem semicolon_mem_trim (cs : List Char) (h : ¬ ∀ c ∈ tail, c = ';') :
    ';' ∈ trim (dropSemicolons (cs ++ ';' :: tail)) := by
  have hrest : ¬ ∀ c ∈ ';' :: tail, c = ';' :=
    fun hall => h fun c hc => hall c (List.mem_cons_of_mem _ hc)
  have hkeep : dropSemicolons (';' :: tail) = ';' :: dropSemicolons tail :=
    dropSemicolons_append_of_exists [';'] h
  rw [dropSemicolons_append_of_exists _ hrest, hkeep]
  exact Text.mem_trim (List.mem_append_right _ (List.mem_cons_self ..)) (by decide)

/-- **The name is what is left of its line exactly if only semicolons follow the first one.** -/
theorem trim_dropSemicolons_iff (hname : IsDottedName name) (hgap : ∀ c ∈ gap, isBlank c = true)
    (hblanks : ∀ c ∈ blanks, isBlank c = true) :
    trim (dropSemicolons (gap ++ name ++ blanks ++ ';' :: tail)) = name ↔ ∀ c ∈ tail, c = ';' := by
  constructor
  · intro h
    by_contra htail
    have hmem := semicolon_mem_trim (gap ++ name ++ blanks) htail
    rw [h] at hmem
    exact hname.semicolon_not_mem hmem
  · intro htail
    have hsemicolons : ∀ c ∈ ';' :: tail, c = ';' := List.forall_mem_cons.mpr ⟨rfl, htail⟩
    have hnone : ';' ∉ gap ++ name ++ blanks := by
      simp only [List.mem_append, not_or]
      refine ⟨⟨fun hc => ?_, hname.semicolon_not_mem⟩, fun hc => ?_⟩
      · exact absurd (hgap ';' hc) (by decide)
      · exact absurd (hblanks ';' hc) (by decide)
    rw [dropSemicolons_append_of_all _ hsemicolons, dropSemicolons_of_not_mem hnone,
      Text.trim_append_right hblanks, Text.trim_append_left hgap,
      Text.trim_of_not_blank fun c hc => (hname.plain c hc).1]

/-! ### The package of a text -/

/-- What is behind the word for a package, without the semicolons at the end, is the package. -/
theorem packageOfLine?_of_word {rest : List Char} (h : trim line = packageWord ++ rest) :
    packageOfLine? line = some (trim (dropSemicolons rest)) := by
  have hword : packageWord.isPrefixOf (trim line) = true :=
    List.isPrefixOf_iff_prefix.mpr ⟨rest, h.symm⟩
  have hrest : (trim line).drop packageWord.length = rest := by rw [h, List.drop_left]
  rw [packageOfLine?]
  exact (if_pos hword).trans (by rw [hrest])

theorem packageOfLine?_of_not_word (h : ¬ packageWord <+: trim line) :
    packageOfLine? line = none :=
  if_neg fun hword => h (List.isPrefixOf_iff_prefix.mp hword)

/-- Only what is left of a line when it is trimmed matters. -/
theorem packageOfLine?_congr {line' : List Char} (h : trim line = trim line') :
    packageOfLine? line = packageOfLine? line' := by
  rw [packageOfLine?, packageOfLine?, h]

namespace WellDeclared

/-- The package that is read is what is left of the line that declares it. -/
theorem declaredPackage?_eq (h : WellDeclared text name tail) : ∃ gap blanks,
    (∀ c ∈ gap, isBlank c = true) ∧ (∀ c ∈ blanks, isBlank c = true) ∧
      declaredPackage? text =
        some (trim (dropSemicolons (gap ++ name ++ blanks ++ ';' :: tail))) := by
  obtain ⟨before, line, after, hlines, hbefore, gap, blanks, hgap, hblanks, hline⟩ := h.first
  refine ⟨gap, blanks, hgap, hblanks, ?_⟩
  have hnone : before.findSome? packageOfLine? = none :=
    List.findSome?_eq_none_iff.mpr fun l hl => packageOfLine?_of_not_word (hbefore l hl)
  rw [declaredPackage?, hlines, List.findSome?_append, hnone, Option.none_or,
    List.findSome?_cons, packageOfLine?_of_word hline]

/-- The name is the package that is read exactly if only semicolons follow the first one. -/
theorem declaredPackage?_iff (h : WellDeclared text name tail) :
    declaredPackage? text = some name ↔ ∀ c ∈ tail, c = ';' := by
  obtain ⟨gap, blanks, hgap, hblanks, hpackage⟩ := h.declaredPackage?_eq
  rw [hpackage, Option.some_inj, trim_dropSemicolons_iff h.dotted hgap hblanks]

/-- If something else follows, the semicolon is in the package that is read. -/
theorem semicolon_mem (h : WellDeclared text name tail) (htail : ¬ ∀ c ∈ tail, c = ';') :
    ∃ package, declaredPackage? text = some package ∧ ';' ∈ package := by
  obtain ⟨gap, blanks, -, -, hpackage⟩ := h.declaredPackage?_eq
  exact ⟨_, hpackage, semicolon_mem_trim _ htail⟩

end WellDeclared

/-! ### The key of a file -/

/-- The key of a stem in a package: slashes for the dots of the package, and the stem. -/
def keyIn (package : List Char) (stem : String) : String :=
  String.ofList (package.map slashed) ++ "/" ++ stem

theorem SourceFile.key_of_package {f : SourceFile} (h : f.package ≠ []) :
    f.key = keyIn f.package f.stem := if_neg h

theorem map_slashed_of_keyIn {package : List Char} {stem : String}
    (h : keyIn package stem = keyIn name stem) : package.map slashed = name.map slashed := by
  have hlist := congrArg String.toList h
  simp only [keyIn, String.toList_append, String.toList_ofList] at hlist
  exact List.append_cancel_right (List.append_cancel_right hlist)

/-- The whole of a file is looked at that is shorter than what is looked at. -/
theorem packageOfFile?_of_short {content : List UInt8} (h : content.length < packageScanBytes) :
    packageOfFile? content = declaredPackage? (Text.decodeLossy content) := by
  rw [packageOfFile?, List.take_of_length_le (Nat.le_of_lt h)]

theorem WellDeclared.key_iff {file : FoundFile} {f : SourceFile} {content : List UInt8}
    (h : WellDeclared (Text.decodeLossy content) name tail)
    (hf : SourceFile.ofFound? file = some f) (hcontent : file.2.content = some content)
    (hlength : content.length < packageScanBytes) :
    f.key = keyIn name f.stem ↔ ∀ c ∈ tail, c = ';' := by
  have hpackage : f.package = (declaredPackage? (Text.decodeLossy content)).getD [] := by
    obtain ⟨stem, -, rfl⟩ := Option.map_eq_some_iff.mp hf
    rw [← packageOfFile?_of_short hlength, hcontent]
    rfl
  constructor
  · intro hkey
    by_contra htail
    obtain ⟨package, hread, hmem⟩ := h.semicolon_mem htail
    rw [hread, Option.getD_some] at hpackage
    have hne : package ≠ [] := List.ne_nil_of_mem hmem
    rw [SourceFile.key_of_package (hpackage ▸ hne), hpackage] at hkey
    have hslashed : ';' ∈ name.map slashed := by
      rw [← map_slashed_of_keyIn hkey]
      exact (mem_map_slashed (by decide) (by decide)).mpr hmem
    exact h.dotted.semicolon_not_mem ((mem_map_slashed (by decide) (by decide)).mp hslashed)
  · intro htail
    rw [h.declaredPackage?_iff.mpr htail, Option.getD_some] at hpackage
    rw [SourceFile.key_of_package (hpackage ▸ h.dotted.ne_nil), hpackage]

/-! ### Files that are told by their paths -/

/-- Names that are texts are cut from the path that is shown of them. -/
theorem pieces_slashPath {names : List FileName} (hne : names ≠ [])
    (hnames : ∀ n ∈ names, Path.IsName n) (htexts : ∀ n ∈ names, ∃ s, n = RawText.ofText s) :
    pieces '/' (slashPath names).toList = names.map fun n => n.display.toList := by
  rw [slashPath, String.toList_intercalate, List.map_map]
  refine pieces_intercalate (by simpa using hne) fun part hpart hslash => ?_
  obtain ⟨n, hn, rfl⟩ := List.mem_map.mp hpart
  obtain ⟨s, rfl⟩ := htexts n hn
  rw [Function.comp_apply, RawText.display_ofText] at hslash
  exact (hnames _ hn).2.2.2 (Text.slash_mem_encode.mpr hslash)

theorem slashPath_inj {names names' : List FileName} (hne : names ≠ []) (hne' : names' ≠ [])
    (hnames : ∀ n ∈ names, Path.IsName n) (hnames' : ∀ n ∈ names', Path.IsName n)
    (htexts : ∀ n ∈ names, ∃ s, n = RawText.ofText s)
    (htexts' : ∀ n ∈ names', ∃ s, n = RawText.ofText s) (h : slashPath names = slashPath names') :
    names = names' := by
  have hread : ∀ {l : List FileName}, (∀ n ∈ l, ∃ s, n = RawText.ofText s) →
      (l.map fun n => n.display.toList).map (fun cs => RawText.ofText (String.ofList cs)) = l := by
    intro l hl
    rw [List.map_map]
    refine (List.map_congr_left fun n hn => ?_).trans (List.map_id l)
    rw [Function.comp_apply, String.ofList_toList, RawText.ofText_display (hl n hn), id]
  rw [← hread htexts, ← hread htexts', ← pieces_slashPath hne hnames htexts, h,
    pieces_slashPath hne' hnames' htexts']

/-- If all names are texts, files that are shown at one path are one file. -/
theorem eq_of_path {t : FileTree} (ht : t.WellFormed) {root : Path} {found : List FoundFile}
    (hfound : foundSources t t.list root = some found)
    (htexts : ∀ x ∈ found, ∀ n ∈ x.1, ∃ s, n = RawText.ofText s) {f g : SourceFile}
    (hf : f ∈ sortedSources found) (hg : g ∈ sortedSources found) (h : f.path = g.path) : f = g := by
  obtain ⟨place, hplace⟩ : ∃ place, t.folderAt? root = some place := by
    obtain ⟨place, hplace, -⟩ := Option.bind_eq_some_iff.mp hfound
    exact ⟨place, hplace⟩
  have htakes : ∀ {x}, x ∈ found → t.Takes sourceWalker place x :=
    ((foundSources_spec hplace t.listedBy_list hfound).1 _).mp
  have hnames : ∀ {x}, x ∈ found → ∀ n ∈ x.1, Path.IsName n := fun hx n hn =>
    ht.isName_of_fileAt? (htakes hx).fileAt? n (List.mem_append_right _ hn)
  obtain ⟨x, hx, hfx⟩ := mem_sortedSources.mp hf
  obtain ⟨y, hy, hgy⟩ := mem_sortedSources.mp hg
  rw [SourceFile.path, SourceFile.path, SourceFile.names_of_ofFound? hfx,
    SourceFile.names_of_ofFound? hgy] at h
  have hsame := slashPath_inj (htakes hx).ne_nil (htakes hy).ne_nil (hnames hx) (hnames hy)
    (htexts x hx) (htexts y hy) h
  obtain rfl := (htakes hx).eq_of_names (htakes hy) hsame
  exact Option.some_inj.mp (hfx.symm.trans hgy)

/-- **A file is listed under the package that it declares exactly if only semicolons follow the
first one**, and no file that comes before it has this key too.  Whatever follows, its own key is
in the index, with the first file of this key.  (Names that are no texts may be shown alike, so that
another file seems to be listed in its place.) -/
theorem listed_as_declared_iff {t : FileTree} (ht : t.WellFormed) {root : Path} {i : RepoIndex}
    (hscan : scanRepository t root = some i) {found : List FoundFile}
    (hfound : foundSources t t.list root = some found) {file : FoundFile} (hfile : file ∈ found)
    {f : SourceFile} (hf : SourceFile.ofFound? file = some f) {content : List UInt8}
    (hcontent : file.2.content = some content) (hlength : content.length < packageScanBytes)
    (hdeclared : WellDeclared (Text.decodeLossy content) name tail) :
    let sources := sortedSources found
    let IsFirst := fun g : SourceFile =>
      ∀ h ∈ sources, h.key = keyIn name f.stem → (compare g.names h.names).isLE = true
    (f.key = keyIn name f.stem ↔ ∀ c ∈ tail, c = ';') ∧
      ((∀ c ∈ tail, c = ';') ∧ IsFirst f → i.sources.find? (keyIn name f.stem) = some f.path) ∧
      ((∀ x ∈ found, ∀ n ∈ x.1, ∃ s, n = RawText.ofText s) →
        (i.sources.find? (keyIn name f.stem) = some f.path ↔ (∀ c ∈ tail, c = ';') ∧ IsFirst f)) ∧
      ∃ g ∈ sources, g.key = f.key ∧
        (∀ h ∈ sources, h.key = f.key → (compare g.names h.names).isLE = true) ∧
        i.sources.find? f.key = some g.path := by
  intro sources IsFirst
  have hmem : f ∈ sources := mem_sortedSources.mpr ⟨file, hfile, hf⟩
  have hkey := hdeclared.key_iff hf hcontent hlength
  have hsources : indexedFiles t t.list root = some sources := by rw [indexedFiles, hfound]; rfl
  obtain rfl := eq_ofSources_of_scanRepository hscan hsources
  have hsorted := pairwise_sortedSources found
  have hlisted : (∀ c ∈ tail, c = ';') ∧ IsFirst f →
      (RepoIndex.ofSources sources).sources.find? (keyIn name f.stem) = some f.path :=
    fun h => (RepoIndex.find?_ofSources_iff hsorted).mpr ⟨f, hmem, hkey.mpr h.1, h.2, rfl⟩
  refine ⟨hkey, hlisted, fun htexts => ⟨fun hfind => ?_, hlisted⟩,
    RepoIndex.exists_first_of_mem hsorted hmem⟩
  obtain ⟨g, hg, hgkey, hfirst, hpath⟩ := (RepoIndex.find?_ofSources_iff hsorted).mp hfind
  obtain rfl := eq_of_path ht hfound htexts hg hmem hpath
  exact ⟨hkey.mp hgkey, hfirst⟩

/-- Blanks around the name and a second semicolon do not matter. -/
theorem listed_with_semicolons :
    let content := Text.encode "\n package  com.acme ;;\nclass X"
    let file : FoundFile := (["X.java"], content)
    let t : FileTree := ⟨["w"], [(["w", "r", "X.java"], file.2)], [], []⟩
    let f : SourceFile := ⟨["X.java"], "X", "com.acme".toList⟩
    let i := RepoIndex.ofSources [f]
    t.WellFormed ∧ scanRepository t "r" = some i ∧ foundSources t t.list "r" = some [file] ∧
      SourceFile.ofFound? file = some f ∧ content.length < packageScanBytes ∧
      WellDeclared (Text.decodeLossy content) "com.acme".toList [';'] ∧
      i.sources.find? "com/acme/X" = some "X.java" := by
  intro content file t f i
  have hwellFormed : t.WellFormed := by decide +kernel
  have hfound : foundSources t t.list "r" = some [file] := by decide +kernel
  have hf : SourceFile.ofFound? file = some f := by decide +kernel
  have hsources : sortedSources [file] = [f] := by
    rw [sortedSources, List.mergeSort_singleton, List.filterMap_cons_some hf, List.filterMap_nil]
  have hscan : scanRepository t "r" = some i := by
    rw [scanRepository, indexedFiles, hfound, Option.map_some, hsources, Option.map_some]
  have hlength : content.length < packageScanBytes := by decide +kernel
  have hdeclared : WellDeclared (Text.decodeLossy content) "com.acme".toList [';'] :=
    ⟨by decide +kernel, [[]], " package  com.acme ;;".toList, ["class X".toList], by decide +kernel,
      by decide +kernel, [' '], [' '], List.forall_mem_singleton.mpr rfl,
      List.forall_mem_singleton.mpr rfl, by decide +kernel⟩
  obtain ⟨-, -, hlisted, -⟩ := listed_as_declared_iff hwellFormed hscan hfound
    (List.mem_singleton_self _) hf rfl hlength hdeclared
  have htexts : ∀ x ∈ [file], ∀ n ∈ x.1, ∃ s, n = RawText.ofText s :=
    List.forall_mem_singleton.mpr (List.forall_mem_singleton.mpr ⟨"X.java", rfl⟩)
  have hkey : keyIn "com.acme".toList f.stem = "com/acme/X" := by decide +kernel
  have hpath : f.path = "X.java" := by decide +kernel
  rw [hkey, hpath, hsources] at hlisted
  have hfirst : ∀ h ∈ [f], h.key = "com/acme/X" → (compare f.names h.names).isLE = true :=
    List.forall_mem_singleton.mpr fun _ => Std.ReflOrd.isLE_rfl
  exact ⟨hwellFormed, hscan, hfound, hf, hlength, hdeclared,
    (hlisted htexts).mpr ⟨List.forall_mem_singleton.mpr rfl, hfirst⟩⟩

/-- A comment behind the semicolon becomes a part of the package, so that the file is not found
under the package that it declares, and its folder is not one of that package. -/
theorem comment_is_listed :
    let content := Text.encode "package a; // c"
    let file : FoundFile := (["src", "a", "G.java"], content)
    let t : FileTree := ⟨["w"], [(["w", "r", "src", "a", "G.java"], file.2)], [], []⟩
    t.WellFormed ∧ WellDeclared (Text.decodeLossy content) "a".toList " // c".toList ∧
      content.length < packageScanBytes ∧ foundSources t t.list "r" = some [file] ∧
      ∃ i, scanRepository t "r" = some i ∧ i.sources.find? "a/G" = none ∧
        i.sources.find? "a; // c/G" = some "src/a/G.java" ∧ i.sourceRoots = ["src/a"] := by
  intro content file t
  have hdeclared : WellDeclared (Text.decodeLossy content) "a".toList " // c".toList :=
    ⟨by decide +kernel, [], "package a; // c".toList, [], by decide +kernel, by decide, [], [],
      List.forall_mem_nil _, List.forall_mem_nil _, by decide +kernel⟩
  have hscan : scanRepository t "r" =
      some (.ofSources [⟨["src", "a", "G.java"], "G", "a; // c".toList⟩]) := by
    rw [scanRepository, indexedFiles_of_ascending (by decide +kernel)]
    decide +kernel
  exact ⟨by decide +kernel, hdeclared, by decide +kernel, by decide +kernel, _, hscan,
    by decide +kernel, by decide +kernel, by decide +kernel⟩

end TestTelemetry
