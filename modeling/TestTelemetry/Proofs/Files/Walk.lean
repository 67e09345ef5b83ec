/-
What a walk finds.

A walk that comes to its end has found every file that it takes in the folders that it comes to, each
once, and none of these folders is closed.  One that does not come to its end names such a folder.
So it is the same in whatever order folders list what is in them, but for which of several closed
folders is named.

* `FileTree.Reaches`, `FileTree.Takes` — the folders that a walk comes to, and the files it takes;
* `FileTree.Collected`, `FileTree.collected_walkFolder` — what is found behind some names;
* `FileTree.walk_eq_ok`, `FileTree.walk_eq_error` — what a walk comes to;
* `FileTree.walk_perm` — the order of listings changes at most the order of what is found.
-/
import TestTelemetry.Proofs.Files.Listing
import TestTelemetry.Files.Walk

namespace TestTelemetry

namespace FileTree

variable {t : FileTree} {w : Walker} {start : Place} {names folder : List FileName} {n : FileName}
  {f : FoundFile} {found : List FoundFile}

/-- A walk comes to a folder that is there, if it goes into all on the way and into the folder. -/
def Reaches (t : FileTree) (w : Walker) (start : Place) (folder : List FileName) : Prop :=
  t.isFolderAt (start ++ folder) = true ∧ ∀ n ∈ folder, w.enters n = true

/-- A walk takes a file, if it goes into all folders on the way to it. -/
def Takes (t : FileTree) (w : Walker) (start : Place) (f : FoundFile) : Prop :=
  ∃ folder n, f.1 = folder ++ [n] ∧ (∀ m ∈ folder, w.enters m = true) ∧ w.takes n f.2 = true ∧
    t.isFolderAt (start ++ f.1) = false ∧ t.fileAt? (start ++ f.1) = some f.2

theorem Takes.fileAt? (h : t.Takes w start f) : t.fileAt? (start ++ f.1) = some f.2 := by
  obtain ⟨-, -, -, -, -, -, hfile⟩ := h
  exact hfile

theorem Takes.ne_nil (h : t.Takes w start f) : f.1 ≠ [] := by
  obtain ⟨folder, n, hnames, -⟩ := h
  rw [hnames]
  simp

/-- There is one file of some names. -/
theorem Takes.eq_of_names {g : FoundFile} (hf : t.Takes w start f) (hg : t.Takes w start g)
    (h : f.1 = g.1) : f = g := by
  have hfile := hf.fileAt?
  rw [h, hg.fileAt?] at hfile
  exact Prod.ext h (Option.some_inj.mp hfile).symm

/-! ### What lies behind some names -/

/-- What was found behind some names is all that the walk takes there, each once, and the walk comes
to no closed folder there. -/
structure Collected (t : FileTree) (w : Walker) (start : Place) (names : List FileName)
    (found : List FoundFile) : Prop where
  nodup : found.Nodup
  mem_iff : ∀ f, f ∈ found ↔ t.Takes w start f ∧ names <+: f.1
  opened : ∀ folder, t.Reaches w start folder → names <+: folder → start ++ folder ∉ t.closed

/-- What a walk takes behind the names of no folder is at these names. -/
theorem Takes.eq_of_not_folder (h : t.Takes w start f) (hbegins : names <+: f.1)
    (hfolder : t.isFolderAt (start ++ names) = false) : f.1 = names := by
  obtain ⟨rest, hrest⟩ := hbegins
  have hnil : rest = [] := by
    by_contra hne
    have hfile := h.fileAt?
    rw [← hrest, ← List.append_assoc] at hfile
    rw [isFolderAt_of_fileAt? hfile hne] at hfolder
    cases hfolder
  rw [← hrest, hnil, List.append_nil]

theorem Reaches.isFolderAt_of_begins (h : t.Reaches w start folder) (hbegins : names <+: folder) :
    t.isFolderAt (start ++ names) = true :=
  FileTree.isFolderAt_of_begins ((List.prefix_append_right_inj _).mpr hbegins) h.1

/-- Nothing is taken in a folder that is left out. -/
theorem Takes.enters_of_begins (h : t.Takes w start f) (hbegins : names ++ [n] <+: f.1)
    (hfolder : t.isFolderAt (start ++ (names ++ [n])) = true) : w.enters n = true := by
  obtain ⟨folder, m, hf, henters, -, hno, -⟩ := h
  obtain ⟨rest, hrest⟩ := hbegins
  rcases List.eq_nil_or_concat rest with rfl | ⟨rest, m', rfl⟩
  · rw [← hrest, List.append_nil, hfolder] at hno
    cases hno
  · have hsame : folder = names ++ [n] ++ rest := by
      have heq : names ++ [n] ++ rest ++ [m'] = folder ++ [m] := by
        rw [← hf, ← hrest, List.concat_eq_append, List.append_assoc _ rest]
      exact (List.append_inj_left' heq rfl).symm
    exact henters n (by simp [hsame])

/-- Nothing was found where there is nothing to take, and no folder to come to. -/
theorem Collected.nil (htakes : ∀ f, t.Takes w start f → ¬ names <+: f.1)
    (hreaches : ∀ folder, t.Reaches w start folder → ¬ names <+: folder) :
    t.Collected w start names [] where
  nodup := .nil
  mem_iff f := iff_of_false List.not_mem_nil fun h => htakes f h.1 h.2
  opened folder h hbegins := absurd hbegins (hreaches folder h)

/-! ### One entry -/

section Visit

variable {enter : List FileName → Except (List FileName) (List FoundFile)}

theorem visit_eq_enter (hfolder : t.isFolderAt (start ++ (names ++ [n])) = true)
    (henters : w.enters n = true) :
    t.visit w enter start names n = enter (names ++ [n]) := by
  rw [visit, if_pos hfolder, if_pos henters]

/-- What an entry adds, if what lies in folders is collected. -/
theorem collected_visit (hnames : ∀ m ∈ names, w.enters m = true)
    (henter : ∀ found, t.Reaches w start (names ++ [n]) → enter (names ++ [n]) = .ok found →
      t.Collected w start (names ++ [n]) found)
    (h : t.visit w enter start names n = .ok found) :
    t.Collected w start (names ++ [n]) found := by
  cases hfolder : t.isFolderAt (start ++ (names ++ [n])) with
  | true =>
    cases henters : w.enters n with
    | true =>
      rw [visit_eq_enter hfolder henters] at h
      refine henter found ⟨hfolder, List.forall_mem_append.mpr ⟨hnames, ?_⟩⟩ h
      exact List.forall_mem_singleton.mpr henters
    | false =>
      rw [visit, if_pos hfolder, henters, if_neg Bool.false_ne_true] at h
      obtain rfl := Except.ok.inj h
      refine .nil (fun f hf hbegins => ?_) fun folder hf hbegins => ?_
      · rw [hf.enters_of_begins hbegins hfolder] at henters
        cases henters
      · rw [hf.2 n (hbegins.subset (by simp))] at henters
        cases henters
  | false =>
    have hreaches : ∀ folder, t.Reaches w start folder → ¬ names ++ [n] <+: folder := by
      intro folder hf hbegins
      rw [hf.isFolderAt_of_begins hbegins] at hfolder
      cases hfolder
    rw [visit, hfolder, if_neg Bool.false_ne_true] at h
    cases hfile : t.fileAt? (start ++ (names ++ [n])) with
    | none =>
      rw [hfile] at h
      obtain rfl := Except.ok.inj h
      refine .nil (fun f hf hbegins => ?_) hreaches
      have hat := hf.fileAt?
      rw [hf.eq_of_not_folder hbegins hfolder, hfile] at hat
      cases hat
    | some file =>
      rw [hfile] at h
      -- The only file that can be taken here is the one at these names.
      have hfound : ∀ f, t.Takes w start f ∧ names ++ [n] <+: f.1 ↔
          w.takes n file = true ∧ f = (names ++ [n], file) := by
        intro f
        constructor
        · rintro ⟨hf, hbegins⟩
          have hsame := hf.eq_of_not_folder hbegins hfolder
          obtain ⟨folder, m, hf, -, htakes, -, hat⟩ := hf
          rw [hsame, hfile] at hat
          obtain ⟨-, rfl⟩ : names = folder ∧ n = m := by simpa using hsame.symm.trans hf
          exact ⟨Option.some_inj.mp hat ▸ htakes, Prod.ext hsame (Option.some_inj.mp hat).symm⟩
        · rintro ⟨htakes, rfl⟩
          exact ⟨⟨names, n, rfl, hnames, htakes, hfolder, hfile⟩, List.prefix_rfl⟩
      obtain rfl := Except.ok.inj h
      refine ⟨?_, fun f => (Iff.trans ?_ (hfound f).symm), fun folder hf hbegins =>
        absurd hbegins (hreaches folder hf)⟩
      · split
        · exact List.nodup_singleton _
        · exact .nil
      · rw [List.mem_ite_nil_right, List.mem_singleton]

/-- Only a folder that is gone through ends a walk. -/
theorem visit_eq_error (h : t.visit w enter start names n = .error folder) :
    t.isFolderAt (start ++ (names ++ [n])) = true ∧ w.enters n = true ∧
      enter (names ++ [n]) = .error folder := by
  cases hfolder : t.isFolderAt (start ++ (names ++ [n])) with
  | true =>
    cases henters : w.enters n with
    | true => exact ⟨rfl, rfl, (visit_eq_enter hfolder henters).symm.trans h⟩
    | false =>
      rw [visit, if_pos hfolder, henters, if_neg Bool.false_ne_true] at h
      cases h
  | false =>
    rw [visit, hfolder, if_neg Bool.false_ne_true] at h
    cases hfile : t.fileAt? (start ++ (names ++ [n])) <;> rw [hfile] at h <;> cases h

end Visit

/-! ### One folder -/

theorem length_le_depth {p : Place} (h : t.isFolderAt p = true) : p.length ≤ t.depth := by
  have hplaces : ∀ {l : List Place} {q : Place}, q ∈ l →
      q.length ≤ l.foldr (fun p deepest => max p.length deepest) 0 := by
    intro l q hq
    induction l with
    | nil => cases hq
    | cons r l ih =>
      rcases List.mem_cons.mp hq with rfl | hq
      · exact Nat.le_max_left ..
      · exact Nat.le_trans (ih hq) (Nat.le_max_right ..)
  obtain ⟨q, hq, hbegins⟩ := exists_place_of_isFolderAt h
  exact Nat.le_trans hbegins.length_le (hplaces hq)

/-- What is found behind some names of a folder, one after the other. -/
theorem collected_flatten {ns : List FileName} {parts : List (List FoundFile)} (hns : ns.Nodup)
    (h : List.Forall₂ (fun n part => t.Collected w start (names ++ [n]) part) ns parts) :
    parts.flatten.Nodup ∧
      (∀ f, f ∈ parts.flatten ↔ t.Takes w start f ∧ ∃ n ∈ ns, names ++ [n] <+: f.1) ∧
      ∀ folder, t.Reaches w start folder → (∃ n ∈ ns, names ++ [n] <+: folder) →
        start ++ folder ∉ t.closed := by
  induction h with
  | nil => exact ⟨.nil, fun f => by simp, fun folder _ ⟨n, hn, _⟩ => absurd hn List.not_mem_nil⟩
  | @cons n part ns parts hn _ ih =>
    obtain ⟨hnew, hns⟩ := List.nodup_cons.mp hns
    obtain ⟨hnodup, hmem, hopened⟩ := ih hns
    refine ⟨List.nodup_append.mpr ⟨hn.nodup, hnodup, ?_⟩, fun f => ?_, ?_⟩
    · -- No names begin in two ways.
      rintro f hf g hg rfl
      obtain ⟨-, m, hm, hbegins⟩ := (hmem f).mp hg
      have hsame := List.prefix_of_prefix_length_le ((hn.mem_iff f).mp hf).2 hbegins (by simp)
      have heq : n = m := by simpa using hsame.eq_of_length (by simp)
      exact hnew (heq ▸ hm)
    · rw [List.flatten_cons, List.mem_append, hn.mem_iff, hmem, List.exists_mem_cons_iff, and_or_left]
    · intro folder hf hbegins
      rcases (List.exists_mem_cons_iff ..).mp hbegins with hbegins | hbegins
      · exact hn.opened folder hf hbegins
      · exact hopened folder hf hbegins

/-- What is found behind the names that a folder lists is what is found in the folder. -/
theorem Collected.of_listing {l : Listing} (hlists : t.Lists (start ++ names) l)
    (hwhole : l.whole = true) (hfolder : t.isFolderAt (start ++ names) = true)
    {parts : List (List FoundFile)}
    (h : List.Forall₂ (fun n part => t.Collected w start (names ++ [n]) part) l.names parts) :
    t.Collected w start names parts.flatten := by
  obtain ⟨hnodup, hmem, hopened⟩ := collected_flatten hlists.nodup h
  -- Whatever lies in the folder lies behind a name that is listed.
  have hlisted : ∀ {full}, names <+: full → full ≠ names →
      t.isFolderAt (start ++ full) = true ∨ (t.fileAt? (start ++ full)).isSome = true →
      ∃ n ∈ l.names, names ++ [n] <+: full := by
    rintro full ⟨rest, rfl⟩ hne hthere
    have hrest : rest ≠ [] := by
      rintro rfl
      exact hne (List.append_nil _)
    obtain ⟨n, rest, rfl⟩ := List.exists_cons_of_ne_nil hrest
    have hbegins : names ++ [n] <+: names ++ n :: rest := ⟨rest, by simp⟩
    refine ⟨n, hlists.complete hwhole n ?_, hbegins⟩
    rw [HasEntry, List.append_assoc]
    rcases hthere with hthere | hthere
    · exact .inl (isFolderAt_of_begins ((List.prefix_append_right_inj _).mpr hbegins) hthere)
    · obtain ⟨file, hfile⟩ := Option.isSome_iff_exists.mp hthere
      cases rest with
      | nil => exact .inr hthere
      | cons m rest =>
        rw [List.append_cons, ← List.append_assoc] at hfile
        exact .inl (isFolderAt_of_fileAt? hfile (List.cons_ne_nil m rest))
  refine ⟨hnodup, fun f => (hmem f).trans (and_congr_right fun hf => ⟨?_, fun hbegins => ?_⟩),
    fun folder hf hbegins => ?_⟩
  · rintro ⟨n, -, hbegins⟩
    exact (List.prefix_append ..).trans hbegins
  · refine hlisted hbegins (fun heq => ?_) (.inr (Option.isSome_of_eq_some hf.fileAt?))
    obtain ⟨-, -, -, -, -, hno, -⟩ := hf
    rw [heq, hfolder] at hno
    cases hno
  · by_cases heq : folder = names
    · exact heq ▸ hlists.whole_iff.mp hwhole
    · exact hopened folder hf (hlisted hbegins heq (.inl hf.1))

/-! ### The whole walk -/

theorem forall₂_of_inTurn {α ε β : Type} {f : α → Except ε (List β)} {l : List α} {found : List β}
    (h : inTurn (l.map f) = .ok found) : ∃ parts : List (List β),
      List.Forall₂ (fun x part => f x = .ok part) l parts ∧ parts.flatten = found := by
  obtain ⟨parts, hparts, hflatten⟩ := inTurn_eq_ok h
  refine ⟨parts, ?_, hflatten⟩
  rw [← List.forall₂_eq_eq_eq, List.forall₂_map_left_iff, List.forall₂_map_right_iff] at hparts
  exact hparts

section Walk

variable {listing : Place → Listing} (hlisting : t.ListedBy listing)

include hlisting

/-- A walk through a folder that comes to its end has found what it takes there. -/
theorem collected_walkFolder {levels : Nat} (hfolder : t.Reaches w start names)
    (hlevels : t.depth < (start ++ names).length + levels)
    (h : t.walkFolder w listing start levels names = .ok found) :
    t.Collected w start names found := by
  induction levels generalizing names found with
  | zero => exact absurd (length_le_depth hfolder.1) (Nat.not_le_of_lt hlevels)
  | succ levels ih =>
    rw [walkFolder] at h
    cases hinTurn : inTurn ((listing (start ++ names)).names.map
        (t.visit w (t.walkFolder w listing start levels) start names)) with
    | error e =>
      simp only [hinTurn] at h
      cases h
    | ok all =>
      simp only [hinTurn] at h
      obtain ⟨hwhole, heq⟩ : (listing (start ++ names)).whole = true ∧ all = found := by
        split at h
        case isTrue hwhole => exact ⟨hwhole, Except.ok.inj h⟩
        case isFalse => cases h
      obtain ⟨parts, hparts, rfl⟩ := forall₂_of_inTurn hinTurn
      rw [← heq]
      refine .of_listing (hlisting _ hfolder.1) hwhole hfolder.1 (hparts.imp fun n part hvisit => ?_)
      refine collected_visit hfolder.2 (fun found hn hfound => ih hn ?_ hfound) hvisit
      simp only [List.length_append, List.length_singleton] at hlevels ⊢
      omega

/-- A walk through a folder ends early at a folder that it comes to and that cannot be listed. -/
theorem closed_of_walkFolder {levels : Nat} (hfolder : t.Reaches w start names)
    (h : t.walkFolder w listing start levels names = .error folder) :
    t.Reaches w start folder ∧ start ++ folder ∈ t.closed := by
  induction levels generalizing names with
  | zero => cases h
  | succ levels ih =>
    rw [walkFolder] at h
    cases hinTurn : inTurn ((listing (start ++ names)).names.map
        (t.visit w (t.walkFolder w listing start levels) start names)) with
    | error e =>
      simp only [hinTurn] at h
      obtain rfl := Except.error.inj h
      obtain ⟨n, -, hvisit⟩ := List.mem_map.mp (mem_of_inTurn_eq_error hinTurn)
      obtain ⟨hn, henters, hsub⟩ := visit_eq_error hvisit
      refine ih ⟨hn, List.forall_mem_append.mpr ⟨hfolder.2, ?_⟩⟩ hsub
      exact List.forall_mem_singleton.mpr henters
    | ok all =>
      simp only [hinTurn] at h
      split at h
      case isTrue => cases h
      case isFalse hpart =>
        obtain rfl := Except.error.inj h
        refine ⟨hfolder, ?_⟩
        by_contra hopen
        exact hpart ((hlisting _ hfolder.1).whole_iff.mpr hopen)

/-- **A walk that comes to its end** has found what it takes, each file once, and has come to no
closed folder. -/
theorem walk_eq_ok (hstart : t.isFolderAt start = true) (h : t.walk w listing start = .ok found) :
    found.Nodup ∧ (∀ f, f ∈ found ↔ t.Takes w start f) ∧
      ∀ folder, t.Reaches w start folder → start ++ folder ∉ t.closed := by
  have hroot : t.Reaches w start [] := ⟨by rwa [List.append_nil], List.forall_mem_nil _⟩
  have hcollected := collected_walkFolder hlisting hroot (by simp only [List.append_nil]; omega) h
  exact ⟨hcollected.nodup, fun f => (hcollected.mem_iff f).trans (and_iff_left List.nil_prefix),
    fun folder hf => hcollected.opened folder hf List.nil_prefix⟩

/-- **A walk that does not come to its end** names a closed folder that it came to. -/
theorem walk_eq_error (hstart : t.isFolderAt start = true)
    (h : t.walk w listing start = .error folder) :
    t.Reaches w start folder ∧ start ++ folder ∈ t.closed :=
  closed_of_walkFolder hlisting ⟨by rwa [List.append_nil], List.forall_mem_nil _⟩ h

end Walk

/-- The order of listings changes at most the order of what is found. -/
theorem walk_perm {listing listing' : Place → Listing} (h : t.ListedBy listing)
    (h' : t.ListedBy listing') (hstart : t.isFolderAt start = true)
    (hfound : t.walk w listing start = .ok found) :
    ∃ found', t.walk w listing' start = .ok found' ∧ found.Perm found' := by
  obtain ⟨hnodup, hmem, hopened⟩ := walk_eq_ok h hstart hfound
  cases hwalk : t.walk w listing' start with
  | error folder =>
    obtain ⟨hreached, hclosed⟩ := walk_eq_error h' hstart hwalk
    exact absurd hclosed (hopened folder hreached)
  | ok found' =>
    obtain ⟨hnodup', hmem', -⟩ := walk_eq_ok h' hstart hwalk
    refine ⟨found', rfl, (List.perm_ext_iff_of_nodup hnodup hnodup').mpr fun f => ?_⟩
    rw [hmem, hmem']

end FileTree

end TestTelemetry
