/-
Files and the paths that lead to them.

A tree that is made by putting files at paths has places that are made of names.  Then what lies below
a folder is found at the path that joins the folder and the names on the way, and paths with the same
parts lead to the same place.

* `FileTree.WellFormed`, `FileTree.wellFormed_ofList` — what holds of every tree that was put
  together file by file;
* `FileTree.locate?_below` — the place of a path that goes on with names;
* `FileTree.isFolderAt_iff`, `FileTree.mem_files_of_fileAt?` — where folders and files are;
* `FileTree.read?_of_write?`, `FileTree.readText_of_write?` — what was written is read back.
-/
import TestTelemetry.Proofs.Files.Path
import TestTelemetry.Proofs.Text.Utf8
import TestTelemetry.Files.Tree
import Mathlib.Data.List.Nodup

namespace TestTelemetry

theorem Path.isName_of_mem_parts {p : Path} {n : FileName} (h : .name n ∈ p.parts) : IsName n := by
  rw [parts_eq, List.mem_append] at h
  rcases h with h | h
  · rw [front] at h
    split at h
    · simp at h
    · split at h <;> simp at h
  · obtain ⟨piece, hpiece, hpart⟩ := List.mem_filterMap.mp h
    exact isName_of_partOf (separator_not_mem_pieces hpiece) hpart

namespace FileTree

variable {t : FileTree} {p q : Path} {place : Place} {names : List FileName} {file : FileEntry}

/-- The places of a tree are made of names. -/
def WellFormed (t : FileTree) : Prop := ∀ p ∈ t.places, ∀ n ∈ p, Path.IsName n

instance (t : FileTree) : Decidable t.WellFormed :=
  inferInstanceAs (Decidable (∀ p ∈ t.places, ∀ n ∈ p, Path.IsName n))

/-! ### Places -/

/-- Going on to the next part of a path leads to a place that is made of names. -/
theorem isName_of_stepInto {part : PathPart} {before : Place}
    (hbefore : ∀ n ∈ before, Path.IsName n) (hpart : ∀ n, part = .name n → Path.IsName n)
    (h : t.stepInto (some before) part = some place) : ∀ n ∈ place, Path.IsName n := by
  intro n hn
  cases part with
  | root =>
    obtain rfl : [] = place := Option.some_inj.mp h
    cases hn
  | here => exact hbefore n (Option.some_inj.mp h ▸ hn)
  | up =>
    obtain ⟨-, heq⟩ := Option.ite_none_right_eq_some.mp h
    exact hbefore n ((List.dropLast_sublist _).subset (Option.some_inj.mp heq ▸ hn))
  | name m =>
    obtain rfl : before ++ [m] = place := Option.some_inj.mp h
    rcases List.mem_append.mp hn with hn | hn
    · exact hbefore n hn
    · exact hpart n (congrArg _ (List.mem_singleton.mp hn).symm)

theorem foldl_stepInto_none (t : FileTree) (parts : List PathPart) :
    parts.foldl t.stepInto none = none := by
  induction parts with
  | nil => rfl
  | cons part parts ih => cases part <;> exact ih

theorem isName_of_foldl_stepInto {parts : List PathPart} {before : Place}
    (hbefore : ∀ n ∈ before, Path.IsName n) (hparts : ∀ n, .name n ∈ parts → Path.IsName n)
    (h : parts.foldl t.stepInto (some before) = some place) : ∀ n ∈ place, Path.IsName n := by
  induction parts generalizing before with
  | nil => exact Option.some_inj.mp h ▸ hbefore
  | cons part parts ih =>
    rw [List.foldl_cons] at h
    cases hstep : t.stepInto (some before) part with
    | none =>
      rw [hstep, foldl_stepInto_none] at h
      cases h
    | some next =>
      rw [hstep] at h
      refine ih (isName_of_stepInto hbefore (fun n hn => ?_) hstep)
        (fun n hn => hparts n (List.mem_cons_of_mem _ hn)) h
      exact hparts n (hn ▸ List.mem_cons_self ..)

/-- The place of a path is made of names if the working folder is. -/
theorem isName_of_locate? (hworking : ∀ n ∈ t.working, Path.IsName n)
    (h : t.locate? p = some place) : ∀ n ∈ place, Path.IsName n :=
  isName_of_foldl_stepInto hworking (fun _ => Path.isName_of_mem_parts) h

/-! ### Trees that are put together file by file -/

theorem mem_places {p : Place} :
    p ∈ t.places ↔ p = t.working ∨ p ∈ t.folders ∨ ∃ f ∈ t.files, f.1 = p := by
  rw [places, List.mem_append, List.mem_cons, List.mem_map, or_assoc]

theorem WellFormed.setFile (h : t.WellFormed) (hplace : ∀ n ∈ place, Path.IsName n)
    (file : FileEntry) : (t.setFile place file).WellFormed := by
  intro p hp
  rcases mem_places.mp hp with hp | hp | ⟨f, hf, rfl⟩
  · exact h p (mem_places.mpr (.inl hp))
  · exact h p (mem_places.mpr (.inr (.inl hp)))
  · rcases List.mem_cons.mp hf with rfl | hf
    · exact hplace
    · exact h f.1 (mem_places.mpr (.inr (.inr ⟨f, (List.mem_filter.mp hf).1, rfl⟩)))

theorem WellFormed.addFolder (h : t.WellFormed) (hplace : ∀ n ∈ place, Path.IsName n) :
    WellFormed { t with folders := place :: t.folders } := by
  intro p hp
  rcases mem_places.mp hp with hp | hp | hp
  · exact h p (mem_places.mpr (.inl hp))
  · rcases List.mem_cons.mp hp with rfl | hp
    · exact hplace
    · exact h p (mem_places.mpr (.inr (.inl hp)))
  · exact h p (mem_places.mpr (.inr (.inr hp)))

theorem WellFormed.put (h : t.WellFormed) (p : Path) (file : FileEntry) :
    (t.put p file).WellFormed := by
  rw [FileTree.put]
  split
  case h_1 => exact h
  case h_2 place hplace =>
    have hnames := isName_of_locate? (h _ (mem_places.mpr (.inl rfl))) hplace
    split
    · exact h.addFolder hnames
    · exact h.setFile hnames file

/-- A tree that was put together file by file is well formed. -/
theorem wellFormed_ofList {working : Place} (h : ∀ n ∈ working, Path.IsName n)
    (l : List (Path × FileEntry)) : (ofList working l).WellFormed := by
  suffices hputs : ∀ t : FileTree, t.WellFormed →
      (l.foldl (fun t f => t.put f.1 f.2) t).WellFormed by
    refine hputs ⟨working, [], [], []⟩ fun p hp => ?_
    obtain rfl : p = working := by simpa [mem_places] using hp
    exact h
  induction l with
  | nil => exact fun t ht => ht
  | cons f l ih => exact fun t ht => ih _ (ht.put f.1 f.2)

/-! ### Where folders and files are -/

theorem isFolderAt_iff {p : Place} : t.isFolderAt p = true ↔
    p <+: t.working ∨ (∃ q ∈ t.folders, p <+: q) ∨ ∃ f ∈ t.files, f.1 ≠ p ∧ p <+: f.1 := by
  simp only [isFolderAt, Bool.or_eq_true, List.any_eq_true, Bool.and_eq_true, decide_eq_true_eq,
    List.isPrefixOf_iff_prefix, or_assoc]

theorem folderAt?_eq_some_iff : t.folderAt? p = some place ↔
    p.bytes ≠ [] ∧ t.locate? p = some place ∧ t.isFolderAt place = true := by
  rw [folderAt?, isFolder]
  cases hlocate : t.locate? p with
  | none => simp
  | some place' =>
    simp only [Option.any_some, Option.ite_none_right_eq_some, Bool.and_eq_true,
      Option.some.injEq, Bool.not_eq_true', List.isEmpty_eq_false_iff]
    constructor
    · rintro ⟨⟨hne, hfolder⟩, rfl⟩
      exact ⟨hne, rfl, hfolder⟩
    · rintro ⟨hne, rfl, hfolder⟩
      exact ⟨⟨hne, hfolder⟩, rfl⟩

theorem mem_files_of_fileAt? {p : Place} (h : t.fileAt? p = some file) : (p, file) ∈ t.files := by
  obtain ⟨f, hf, rfl⟩ := Option.map_eq_some_iff.mp h
  obtain rfl : f.1 = p := by simpa using List.find?_some hf
  exact List.mem_of_find?_eq_some hf

theorem isSome_fileAt?_iff {p : Place} :
    (t.fileAt? p).isSome = true ↔ ∃ f ∈ t.files, f.1 = p := by
  simp [fileAt?]

theorem exists_place_of_isFolderAt {p : Place} (h : t.isFolderAt p = true) :
    ∃ q ∈ t.places, p <+: q := by
  simp only [mem_places]
  rcases isFolderAt_iff.mp h with h | ⟨q, hq, h⟩ | ⟨f, hf, -, h⟩
  · exact ⟨_, .inl rfl, h⟩
  · exact ⟨q, .inr (.inl hq), h⟩
  · exact ⟨f.1, .inr (.inr ⟨f, hf, rfl⟩), h⟩

theorem WellFormed.isName_of_fileAt? (ht : t.WellFormed) {p : Place}
    (h : t.fileAt? p = some file) : ∀ n ∈ p, Path.IsName n :=
  ht p (mem_places.mpr (.inr (.inr ⟨_, mem_files_of_fileAt? h, rfl⟩)))

/-- Every folder on the way to a folder is there. -/
theorem isFolderAt_of_begins {p q : Place} (h : p <+: q) (hq : t.isFolderAt q = true) :
    t.isFolderAt p = true := by
  rw [isFolderAt_iff] at hq ⊢
  rcases hq with hworking | ⟨r, hr, hbelow⟩ | ⟨f, hf, hne, hbelow⟩
  · exact .inl (h.trans hworking)
  · exact .inr (.inl ⟨r, hr, h.trans hbelow⟩)
  · refine .inr (.inr ⟨f, hf, fun heq => hne ?_, h.trans hbelow⟩)
    exact hbelow.eq_of_length_le (heq ▸ h.length_le) |>.symm

/-- Every folder on the way to a file is there. -/
theorem isFolderAt_of_fileAt? {p rest : Place} (h : t.fileAt? (p ++ rest) = some file)
    (hrest : rest ≠ []) : t.isFolderAt p = true :=
  isFolderAt_iff.mpr (.inr (.inr
    ⟨_, mem_files_of_fileAt? h, by simpa using hrest, List.prefix_append ..⟩))

/-! ### Files that are written -/

/-- Writing a file takes no folder away. -/
theorem isFolderAt_setFile {folder : Place} (h : t.isFolderAt folder = true) (place : Place)
    (file : FileEntry) : (t.setFile place file).isFolderAt folder = true := by
  rw [isFolderAt, Bool.or_eq_true, Bool.or_eq_true] at h ⊢
  refine h.imp_right fun hany => ?_
  obtain ⟨f, hf, hbelow⟩ := List.any_eq_true.mp hany
  refine List.any_eq_true.mpr ?_
  by_cases hplace : f.1 = place
  · exact ⟨(place, file), List.mem_cons_self .., hplace ▸ hbelow⟩
  · exact ⟨f, List.mem_cons_of_mem _ (List.mem_filter.mpr ⟨hf, decide_eq_true hplace⟩), hbelow⟩

/-- A path leads to where it led before a file was written. -/
theorem locate?_setFile {place' : Place} (h : t.locate? p = some place') (place : Place)
    (file : FileEntry) : (t.setFile place file).locate? p = some place' := by
  rw [locate?] at h ⊢
  show p.parts.foldl (t.setFile place file).stepInto (some t.working) = some place'
  generalize t.working = start at h ⊢
  generalize p.parts = parts at h ⊢
  induction parts generalizing start with
  | nil => exact h
  | cons part parts ih =>
    rw [List.foldl_cons] at h ⊢
    cases hstep : t.stepInto (some start) part with
    | none =>
      rw [hstep, foldl_stepInto_none] at h
      cases h
    | some next =>
      rw [hstep] at h
      have hsame : (t.setFile place file).stepInto (some start) part = some next := by
        cases part with
        | up =>
          obtain ⟨hfolder, hnext⟩ := Option.ite_none_right_eq_some.mp hstep
          exact (if_pos (isFolderAt_setFile hfolder place file)).trans hnext
        | root => exact hstep
        | here => exact hstep
        | name n => exact hstep
      rw [hsame]
      exact ih next h

@[simp]
theorem fileAt?_setFile (t : FileTree) (place : Place) (file : FileEntry) :
    (t.setFile place file).fileAt? place = some file := by
  simp [fileAt?, setFile]

/-- **What was written is read back.** -/
theorem read?_of_write? {content : List UInt8} (h : t.write? p content = some t') :
    t'.read? p = some content := by
  obtain ⟨hnames, h⟩ := Option.ite_none_left_eq_some.mp h
  cases hplace : t.locate? p with
  | none =>
    rw [hplace] at h
    cases h
  | some place =>
    rw [hplace] at h
    obtain ⟨-, heq⟩ := Option.ite_none_right_eq_some.mp h
    obtain rfl := Option.some_inj.mp heq
    rw [read?, entry?, if_neg hnames, locate?_setFile hplace, Option.bind_some, fileAt?_setFile,
      Option.bind_some]

theorem readText_of_write? {cs : List Char}
    (h : t.write? p (Text.encode (String.ofList cs)) = some t') : t'.readText p = .ok cs := by
  rw [readText, read?_of_write? h, Option.map_some, Text.decode?_encode]

end FileTree

end TestTelemetry
