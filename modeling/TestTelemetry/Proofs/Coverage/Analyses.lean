/-
The analyses of several lists of folders.

The analyses below some folders are read in the order of their paths, and the first of each class
counts.  What lies below other folders may stand anywhere between them; as long as it is of other
classes, it takes nothing away.

* `readAnalyses_eq_ok_iff` — reading files, file by file;
* `filter_firstOfEach` — the first of each class among some classes;
* `filter_inPathOrder` — some files picked from those that were put in order with others;
* `loadAnalyses_append` — the analyses of two lists of folders together.
-/
import TestTelemetry.Proofs.Data.Sorting
import TestTelemetry.Coverage.Analysis

namespace TestTelemetry

/-- Files are read one by one. -/
theorem readAnalyses_eq_ok_iff {files : List (Path × FileEntry)} {l : List ClassAnalysis} :
    readAnalyses files = .ok l ↔ files.map ClassAnalysis.ofFile = l.map .ok := by
  induction files generalizing l with
  | nil => cases l <;> simp [readAnalyses]
  | cons f rest ih =>
    rw [readAnalyses, List.map_cons]
    cases ClassAnalysis.ofFile f with
    | error e => cases l <;> simp
    | ok a =>
      cases l with
      | nil => cases readAnalyses rest <;> simp [Except.map]
      | cons b l =>
        rw [List.map_cons, List.cons.injEq, ← ih]
        cases readAnalyses rest <;> simp [Except.map]

/-- Files can be read together if each of them can. -/
theorem exists_readAnalyses {files : List (Path × FileEntry)}
    (h : ∀ f ∈ files, ∃ a, ClassAnalysis.ofFile f = .ok a) : ∃ l, readAnalyses files = .ok l := by
  induction files with
  | nil => exact ⟨[], rfl⟩
  | cons f rest ih =>
    obtain ⟨a, ha⟩ := h f (List.mem_cons_self ..)
    obtain ⟨l, hl⟩ := ih fun g hg => h g (List.mem_cons_of_mem _ hg)
    exact ⟨a :: l, by rw [readAnalyses, ha, hl]; rfl⟩

/-- Every file that was read holds one of the analyses. -/
theorem mem_of_readAnalyses {files : List (Path × FileEntry)} {l : List ClassAnalysis}
    (h : readAnalyses files = .ok l) {f : Path × FileEntry} (hf : f ∈ files) :
    ∃ a ∈ l, ClassAnalysis.ofFile f = .ok a := by
  have hmem : ClassAnalysis.ofFile f ∈ l.map .ok :=
    readAnalyses_eq_ok_iff.mp h ▸ List.mem_map_of_mem hf
  obtain ⟨a, ha, heq⟩ := List.mem_map.mp hmem
  exact ⟨a, ha, heq.symm⟩

/-- Whether a file holds an analysis with a property. -/
def ClassAnalysis.fileSatisfies (p : ClassAnalysis → Bool) (f : Path × FileEntry) : Bool :=
  match ofFile f with
  | .ok a => p a
  | .error _ => false

theorem ClassAnalysis.fileSatisfies_of_ok {p : ClassAnalysis → Bool} {f : Path × FileEntry}
    {a : ClassAnalysis} (h : ofFile f = .ok a) : fileSatisfies p f = p a := by
  rw [fileSatisfies, h]

/-- The files of some of the analyses hold just these. -/
theorem readAnalyses_filter {files : List (Path × FileEntry)} {l : List ClassAnalysis}
    (h : readAnalyses files = .ok l) (p : ClassAnalysis → Bool) :
    readAnalyses (files.filter (ClassAnalysis.fileSatisfies p)) = .ok (l.filter p) := by
  induction files generalizing l with
  | nil =>
    obtain rfl := Except.ok.inj h
    rfl
  | cons f rest ih =>
    rw [readAnalyses_eq_ok_iff, List.map_cons] at h
    obtain ⟨a, l, rfl, ha, hrest⟩ := List.map_eq_cons_iff.mp h.symm
    have hlater := ih (readAnalyses_eq_ok_iff.mpr hrest.symm)
    have hpick : ClassAnalysis.fileSatisfies p f = p a :=
      ClassAnalysis.fileSatisfies_of_ok ha.symm
    cases hp : p a with
    | false =>
      rw [List.filter_cons_of_neg (by simp [hpick, hp]), List.filter_cons_of_neg (by simp [hp]),
        hlater]
    | true =>
      rw [List.filter_cons_of_pos (by simp [hpick, hp]), List.filter_cons_of_pos (by simp [hp]),
        readAnalyses, ← ha, hlater]
      rfl

/-- Files all of whose analyses agree on a property. -/
theorem fileSatisfies_of_readAnalyses {files : List (Path × FileEntry)} {l : List ClassAnalysis}
    (h : readAnalyses files = .ok l) {p : ClassAnalysis → Bool} {b : Bool}
    (hp : ∀ a ∈ l, p a = b) : ∀ f ∈ files, ClassAnalysis.fileSatisfies p f = b := by
  intro f hf
  obtain ⟨a, ha, hfile⟩ := mem_of_readAnalyses h hf
  rw [ClassAnalysis.fileSatisfies_of_ok hfile, hp a ha]

/-! ### The first of each class -/

/-- Of the classes that were seen only those matter that come again. -/
theorem firstOfEach_congr {seen seen' : List UInt64} {l : List ClassAnalysis}
    (h : ∀ a ∈ l, a.id ∈ seen ↔ a.id ∈ seen') : firstOfEach seen l = firstOfEach seen' l := by
  induction l generalizing seen seen' with
  | nil => rfl
  | cons a rest ih =>
    have hrest : ∀ b ∈ rest, b.id ∈ seen ↔ b.id ∈ seen' :=
      fun b hb => h b (List.mem_cons_of_mem _ hb)
    have ha := h a (List.mem_cons_self ..)
    by_cases hseen : a.id ∈ seen
    · rw [firstOfEach, firstOfEach, if_pos hseen, if_pos (ha.mp hseen), ih hrest]
    · rw [firstOfEach, firstOfEach, if_neg hseen, if_neg (mt ha.mpr hseen)]
      refine congrArg _ (ih fun b hb => ?_)
      rw [List.mem_cons, List.mem_cons, hrest b hb]

/-- Which classes are looked at does not change which analysis of a class is the first. -/
theorem filter_firstOfEach (q : UInt64 → Bool) (seen : List UInt64) (l : List ClassAnalysis) :
    (firstOfEach seen l).filter (fun a => q a.id) =
      firstOfEach seen (l.filter fun a => q a.id) := by
  induction l generalizing seen with
  | nil => rfl
  | cons a rest ih =>
    by_cases hseen : a.id ∈ seen
    · rw [firstOfEach, if_pos hseen, ih, List.filter_cons]
      cases q a.id with
      | false => rfl
      | true => rw [if_pos rfl, firstOfEach, if_pos hseen]
    · rw [firstOfEach, if_neg hseen, List.filter_cons, List.filter_cons, ih]
      cases hq : q a.id with
      | true => rw [if_pos rfl, if_pos rfl, firstOfEach, if_neg hseen]
      | false =>
        -- The class of `a` is not looked at, so it does not matter that it was seen.
        refine firstOfEach_congr fun b hb => ?_
        have hne : b.id ≠ a.id := by
          intro heq
          have hb := (List.mem_filter.mp hb).2
          rw [heq, hq] at hb
          cases hb
        rw [List.mem_cons, or_iff_right hne]

/-- Of every class that was not seen before one analysis is the first. -/
theorem exists_mem_firstOfEach {seen : List UInt64} {l : List ClassAnalysis} {a : ClassAnalysis}
    (ha : a ∈ l) (hseen : a.id ∉ seen) : ∃ b ∈ firstOfEach seen l, b.id = a.id := by
  induction l generalizing seen with
  | nil => cases ha
  | cons c rest ih =>
    by_cases hc : c.id ∈ seen
    · rw [firstOfEach, if_pos hc]
      rcases List.mem_cons.mp ha with rfl | ha
      · exact absurd hc hseen
      · exact ih ha hseen
    · rw [firstOfEach, if_neg hc]
      by_cases hac : c.id = a.id
      · exact ⟨c, List.mem_cons_self .., hac⟩
      · have hrest : a ∈ rest := by
          rcases List.mem_cons.mp ha with rfl | ha
          · exact absurd rfl hac
          · exact ha
        have hnew : a.id ∉ c.id :: seen := by
          rw [List.mem_cons, not_or]
          exact ⟨Ne.symm hac, hseen⟩
        obtain ⟨b, hb, hid⟩ := ih hrest hnew
        exact ⟨b, List.mem_cons_of_mem _ hb, hid⟩

/-! ### Folders -/

theorem mem_inPathOrder {files : List (Path × FileEntry)} {f : Path × FileEntry} :
    f ∈ inPathOrder files ↔ f ∈ files := List.mem_mergeSort

/-- Picking files before they are put in order, or after. -/
theorem filter_inPathOrder_eq (files : List (Path × FileEntry)) (p : Path × FileEntry → Bool) :
    (inPathOrder files).filter p = inPathOrder (files.filter p) := by
  have htrans : ∀ f g h : Path × FileEntry,
      f.1.le g.1 = true → g.1.le h.1 = true → f.1.le h.1 = true := fun _ _ _ => Path.le_trans
  have htotal : ∀ f g : Path × FileEntry, (f.1.le g.1 || g.1.le f.1) = true :=
    fun f g => Path.le_total f.1 g.1
  rw [inPathOrder, inPathOrder, filter_mergeSort htrans htotal]

/-- Some files, picked from those that were put in order with others. -/
theorem filter_inPathOrder {files others : List (Path × FileEntry)} {p : Path × FileEntry → Bool}
    (hin : ∀ f ∈ inPathOrder files, p f = true) (hout : ∀ f ∈ inPathOrder others, p f = false) :
    (inPathOrder (files ++ others)).filter p = inPathOrder files ∧
      (inPathOrder (others ++ files)).filter p = inPathOrder files := by
  have hall : files.filter p = files :=
    List.filter_eq_self.mpr fun f hf => hin f (mem_inPathOrder.mpr hf)
  have hnone : others.filter p = [] :=
    List.filter_eq_nil_iff.mpr fun f hf => Bool.eq_false_iff.mp (hout f (mem_inPathOrder.mpr hf))
  constructor
  · rw [filter_inPathOrder_eq, List.filter_append, hall, hnone, List.append_nil]
  · rw [filter_inPathOrder_eq, List.filter_append, hall, hnone, List.nil_append]

theorem analysesOf_eq_ok_iff {files : List (Path × FileEntry)} {l : List ClassAnalysis} :
    analysesOf files = .ok l ↔
      ∃ all, readAnalyses (inPathOrder files) = .ok all ∧ firstOfEach [] all = l := by
  rw [analysesOf]
  cases readAnalyses (inPathOrder files) <;> simp [Except.map]

theorem loadAnalyses_eq_ok_iff {t : FileTree} {dirs : List Path} {l : List ClassAnalysis} :
    loadAnalyses t dirs = .ok l ↔
      ∃ files, analysisFiles t dirs = .ok files ∧ analysesOf files = .ok l := by
  rw [loadAnalyses]
  cases analysisFiles t dirs <;> simp [Except.bind]

/-- Analyses of classes that no other folder has are loaded together with those of other folders as
they are alone, and in the same order. -/
theorem loadAnalyses_append {t : FileTree} {dirs dirs' : List Path} {as bs : List ClassAnalysis}
    (has : loadAnalyses t dirs = .ok as) (hbs : loadAnalyses t dirs' = .ok bs)
    (hids : ∀ a ∈ as, ∀ b ∈ bs, a.id ≠ b.id) :
    ∃ cs, loadAnalyses t (dirs ++ dirs') = .ok cs ∧
      cs.filter (fun c => decide (c.id ∈ as.map ClassAnalysis.id)) = as ∧
      cs.filter (fun c => !decide (c.id ∈ as.map ClassAnalysis.id)) = bs := by
  obtain ⟨files, hfiles, has⟩ := loadAnalyses_eq_ok_iff.mp has
  obtain ⟨files', hfiles', hbs⟩ := loadAnalyses_eq_ok_iff.mp hbs
  obtain ⟨as', has', rfl⟩ := analysesOf_eq_ok_iff.mp has
  obtain ⟨bs', hbs', rfl⟩ := analysesOf_eq_ok_iff.mp hbs
  -- The files of the two lists are told apart by the classes that they are of.
  let known (id : UInt64) : Bool := decide (id ∈ (firstOfEach [] as').map ClassAnalysis.id)
  have hknown : ∀ a ∈ as', known a.id = true := by
    intro a ha
    obtain ⟨b, hb, hid⟩ := exists_mem_firstOfEach ha List.not_mem_nil
    exact decide_eq_true (hid ▸ List.mem_map_of_mem hb)
  have hunknown : ∀ b ∈ bs', known b.id = false := by
    intro b hb
    obtain ⟨c, hc, hid⟩ := exists_mem_firstOfEach hb List.not_mem_nil
    refine decide_eq_false fun hmem => ?_
    obtain ⟨a, ha, heq⟩ := List.mem_map.mp hmem
    exact hids a ha c hc (heq.trans hid.symm)
  obtain ⟨cs', hcs'⟩ : ∃ l, readAnalyses (inPathOrder (files ++ files')) = .ok l := by
    refine exists_readAnalyses fun f hf => ?_
    rcases List.mem_append.mp (mem_inPathOrder.mp hf) with hf | hf
    · exact (mem_of_readAnalyses has' (mem_inPathOrder.mpr hf)).imp fun a h => h.2
    · exact (mem_of_readAnalyses hbs' (mem_inPathOrder.mpr hf)).imp fun b h => h.2
  -- Picking files picks what is read from them, whether they were read alone or among others.
  have hfirst : cs'.filter (fun a => known a.id) = as' := by
    have hfiles := (filter_inPathOrder (fileSatisfies_of_readAnalyses has' hknown)
      (fileSatisfies_of_readAnalyses hbs' hunknown)).1
    have hread := readAnalyses_filter hcs' fun a => known a.id
    rw [hfiles, has'] at hread
    exact (Except.ok.inj hread).symm
  have hsecond : cs'.filter (fun a => !known a.id) = bs' := by
    have hin : ∀ b ∈ bs', (!known b.id) = true := fun b hb => by rw [hunknown b hb, Bool.not_false]
    have hout : ∀ a ∈ as', (!known a.id) = false := fun a ha => by rw [hknown a ha, Bool.not_true]
    have hfiles := (filter_inPathOrder (fileSatisfies_of_readAnalyses hbs' hin)
      (fileSatisfies_of_readAnalyses has' hout)).2
    have hread := readAnalyses_filter hcs' fun a => !known a.id
    rw [hfiles, hbs'] at hread
    exact (Except.ok.inj hread).symm
  have hall : analysisFiles t (dirs ++ dirs') = .ok (files ++ files') := by
    rw [analysisFiles] at hfiles hfiles' ⊢
    rw [List.map_append, inTurn_append hfiles, hfiles']
    rfl
  refine ⟨firstOfEach [] cs', loadAnalyses_eq_ok_iff.mpr
    ⟨_, hall, analysesOf_eq_ok_iff.mpr ⟨cs', hcs', rfl⟩⟩, ?_, ?_⟩
  · exact (filter_firstOfEach known [] cs').trans (congrArg _ hfirst)
  · exact (filter_firstOfEach (fun id => !known id) [] cs').trans (congrArg _ hsecond)

end TestTelemetry
