/-
What the folders of a tree list.

A folder that can be listed lists the names of all files and folders in it, each once and in no
particular order.  The listing of another one breaks off behind some of these names, or before the
first.

* `FileTree.HasEntry` — what is in a folder;
* `FileTree.Lists`, `FileTree.ListedBy` — the ways in which one folder, and all of them, can be
  listed;
* `FileTree.lists_list`, `FileTree.listedBy_reverse` — every tree can be listed, in more than one
  order.
-/
import TestTelemetry.Proofs.Files.Tree
import Mathlib.Data.List.Infix

namespace TestTelemetry

theorem nodup_eraseDups {α : Type} [BEq α] [LawfulBEq α] (l : List α) : l.eraseDups.Nodup := by
  match l with
  | [] => exact .nil
  | x :: l =>
    rw [List.eraseDups_cons, List.nodup_cons, List.mem_eraseDups]
    exact ⟨by simp, nodup_eraseDups _⟩
termination_by l.length
decreasing_by exact Nat.lt_succ_of_le (List.length_filter_le ..)

namespace FileTree

variable {t : FileTree} {p : Place} {n : FileName}

/-- Whether a folder holds something of a name. -/
def HasEntry (t : FileTree) (p : Place) (n : FileName) : Prop :=
  t.isFolderAt (p ++ [n]) = true ∨ (t.fileAt? (p ++ [n])).isSome = true

/-- What a folder can list. -/
structure Lists (t : FileTree) (p : Place) (l : Listing) : Prop where
  nodup : l.names.Nodup
  sound : ∀ n ∈ l.names, t.HasEntry p n
  /-- A listing that comes to its end leaves nothing out. -/
  complete : l.whole = true → ∀ n, t.HasEntry p n → n ∈ l.names
  whole_iff : l.whole = true ↔ p ∉ t.closed

/-- All folders are listed in one of the ways in which they can be. -/
def ListedBy (t : FileTree) (listing : Place → Listing) : Prop :=
  ∀ p, t.isFolderAt p = true → t.Lists p (listing p)

theorem mem_entries_iff : n ∈ t.entries p ↔ ∃ q ∈ t.places, p ++ [n] <+: q := by
  simp only [entries, List.mem_eraseDups, List.mem_filterMap, Option.ite_none_right_eq_some,
    List.isPrefixOf_iff_prefix]
  refine exists_congr fun q => and_congr_right fun _ => ⟨?_, ?_⟩
  · rintro ⟨⟨rest, rfl⟩, hn⟩
    rw [List.drop_left] at hn
    obtain ⟨tail, rfl⟩ := List.head?_eq_some_iff.mp hn
    exact ⟨tail, List.append_assoc ..⟩
  · rintro ⟨tail, rfl⟩
    rw [List.append_assoc, List.drop_left]
    exact ⟨List.prefix_append .., rfl⟩

/-- The names behind a place are those of the files and folders there. -/
theorem mem_entries_iff_hasEntry : n ∈ t.entries p ↔ t.HasEntry p n := by
  rw [mem_entries_iff, HasEntry, isFolderAt_iff, isSome_fileAt?_iff]
  simp only [places, List.mem_append, List.mem_cons, List.mem_map]
  constructor
  · rintro ⟨q, (rfl | hq) | ⟨f, hf, rfl⟩, hbelow⟩
    · exact .inl (.inl hbelow)
    · exact .inl (.inr (.inl ⟨q, hq, hbelow⟩))
    · by_cases heq : f.1 = p ++ [n]
      · exact .inr ⟨f, hf, heq⟩
      · exact .inl (.inr (.inr ⟨f, hf, heq, hbelow⟩))
  · rintro ((hbelow | ⟨q, hq, hbelow⟩ | ⟨f, hf, -, hbelow⟩) | ⟨f, hf, heq⟩)
    · exact ⟨_, .inl (.inl rfl), hbelow⟩
    · exact ⟨q, .inl (.inr hq), hbelow⟩
    · exact ⟨f.1, .inr ⟨f, hf, rfl⟩, hbelow⟩
    · exact ⟨f.1, .inr ⟨f, hf, rfl⟩, heq ▸ List.prefix_rfl⟩

/-- What the tree lists of a folder is one of the things that the folder can list. -/
theorem lists_list (t : FileTree) (p : Place) : t.Lists p (t.list p) := by
  rw [list]
  split
  case isTrue hclosed =>
    exact ⟨.nil, nofun, fun h => (Bool.false_ne_true h).elim,
      iff_of_false Bool.false_ne_true (not_not_intro hclosed)⟩
  case isFalse hopen =>
    exact ⟨nodup_eraseDups _, fun n => mem_entries_iff_hasEntry.mp,
      fun _ n => mem_entries_iff_hasEntry.mpr, iff_of_true rfl hopen⟩

theorem listedBy_list (t : FileTree) : t.ListedBy t.list := fun p _ => t.lists_list p

/-- A folder can list its entries in any order. -/
theorem Lists.of_perm {l l' : Listing} (h : t.Lists p l) (hnames : l'.names.Perm l.names)
    (hwhole : l'.whole = l.whole) : t.Lists p l' where
  nodup := hnames.nodup_iff.mpr h.nodup
  sound n hn := h.sound n (hnames.mem_iff.mp hn)
  complete hl' n hn := hnames.mem_iff.mpr (h.complete (hwhole ▸ hl') n hn)
  whole_iff := hwhole ▸ h.whole_iff

theorem listedBy_reverse {listing : Place → Listing} (h : t.ListedBy listing) :
    t.ListedBy fun p => ⟨(listing p).names.reverse, (listing p).whole⟩ :=
  fun p hp => (h p hp).of_perm (List.reverse_perm _) rfl

end FileTree

end TestTelemetry
