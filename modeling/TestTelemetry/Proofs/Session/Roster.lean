/-
Who is active in a session.

A *roster* is what a registry knows of its modules: by which number and name each was started,
whether it has ended, and which place stands under which name.  It is sound if exactly the modules
that have not ended stand in it, each under its own name.  Modules enter a roster and leave it, and
whichever way a module leaves, a sound roster stays sound.

* `Roster.Sound` — the names lead to the modules that have not ended, and to all of them;
* `Roster.Sound.enter`, `Roster.Sound.leave` — a sound roster stays sound;
* `Registry.mem_active_iff`, `Registry.find?_eq_some_iff`, `Registry.nodup_active` — what a
  registry with a sound roster answers.
-/
import TestTelemetry.Proofs.Data.Keyed
import TestTelemetry.Proofs.Data.Modify
import TestTelemetry.Session.Registry
import Mathlib.Data.List.Basic

namespace TestTelemetry

/-- What a module is known by, and whether it has ended. -/
structure Standing where
  descriptor : ModuleDescriptor
  ended : Bool

/-- The module once it has ended. -/
def Standing.end (m : Standing) : Standing := { m with ended := true }

def ModuleRun.standing (m : ModuleRun) : Standing := ⟨m.descriptor, m.ended⟩

/-- All modules that were started, and for each name the place of its active one. -/
structure Roster where
  places : Keyed String Nat
  modules : List Standing

def Registry.roster (r : Registry) : Roster := ⟨r.places, r.run.modules.map ModuleRun.standing⟩

namespace Roster

variable {o : Roster} {d : ModuleDescriptor} {place : Nat}

/-- What the module at a place is known by, if there is one that has not ended. -/
def runningAt? (o : Roster) (place : Nat) : Option ModuleDescriptor :=
  o.modules[place]?.bind fun m => if m.ended then none else some m.descriptor

/-- The names lead to the modules that have not ended, and to all of them. -/
def Sound (o : Roster) : Prop :=
  ∀ name place, o.places.find? name = some place ↔
    ∃ d, o.runningAt? place = some d ∧ d.name = name

/-- A module is started. -/
def enter (o : Roster) (d : ModuleDescriptor) : Roster :=
  ⟨o.places.set d.name o.modules.length, o.modules ++ [⟨d, false⟩]⟩

/-- The module at a place ends, if there is one that has not. -/
def leave (o : Roster) (place : Nat) : Roster :=
  match o.runningAt? place with
  | none => o
  | some d => ⟨o.places.erase d.name, o.modules.modify place Standing.end⟩

theorem length_enter (o : Roster) (d : ModuleDescriptor) :
    (o.enter d).modules.length = o.modules.length + 1 :=
  List.length_append

theorem runningAt?_enter (o : Roster) (d : ModuleDescriptor) (place : Nat) :
    (o.enter d).runningAt? place =
      if place = o.modules.length then some d else o.runningAt? place := by
  unfold runningAt?
  by_cases hplace : place = o.modules.length
  · simp [enter, hplace]
  · rw [if_neg hplace]
    rcases Nat.lt_or_ge place o.modules.length with hlt | hge
    · rw [enter, List.getElem?_append_left hlt]
    · have hlength : (o.enter d).modules.length ≤ place := by
        rw [length_enter]
        omega
      rw [List.getElem?_eq_none hlength, List.getElem?_eq_none hge]

/-- Whether a module that was started at a place has ended. -/
def EndedAt (o : Roster) (place : Nat) : Prop :=
  place < o.modules.length ∧ o.runningAt? place = none

/-- How many modules have ended. -/
def endedCount (o : Roster) : Nat := o.modules.countP Standing.ended

theorem leave_of_none (hrun : o.runningAt? place = none) : o.leave place = o := by
  rw [leave, hrun]

theorem leave_of_some (hrun : o.runningAt? place = some d) :
    o.leave place = ⟨o.places.erase d.name, o.modules.modify place Standing.end⟩ := by
  rw [leave, hrun]

theorem runningAt?_leave (o : Roster) (place other : Nat) :
    (o.leave place).runningAt? other = if place = other then none else o.runningAt? other := by
  cases hrun : o.runningAt? place with
  | none =>
    rw [leave_of_none hrun]
    by_cases hother : place = other
    · rw [if_pos hother, ← hother, hrun]
    · rw [if_neg hother]
  | some d =>
    rw [leave_of_some hrun]
    simp only [runningAt?, List.getElem?_modify]
    cases o.modules[other]? with
    | none => simp
    | some m => by_cases hother : place = other <;> simp [hother, Standing.end]

theorem descriptors_leave (o : Roster) (place : Nat) :
    (o.leave place).modules.map Standing.descriptor = o.modules.map Standing.descriptor := by
  cases hrun : o.runningAt? place with
  | none => rw [leave_of_none hrun]
  | some d =>
    rw [leave_of_some hrun]
    exact map_modify_of_eq fun _ => rfl

theorem length_leave (o : Roster) (place : Nat) :
    (o.leave place).modules.length = o.modules.length := by
  simpa only [List.length_map] using congrArg List.length (o.descriptors_leave place)

/-- Nothing runs at places where modules were ended one after the other. -/
theorem runningAt?_foldl_leave (o : Roster) (l : List Nat) (place : Nat) :
    (l.foldl leave o).runningAt? place = if place ∈ l then none else o.runningAt? place := by
  induction l generalizing o with
  | nil => rfl
  | cons other rest ih =>
    rw [List.foldl_cons, ih, runningAt?_leave]
    by_cases hlater : place ∈ rest
    · simp [hlater]
    · by_cases hnow : other = place
      · simp [hnow]
      · simp [hlater, hnow, Ne.symm hnow]

theorem descriptors_foldl_leave (o : Roster) (l : List Nat) :
    (l.foldl leave o).modules.map Standing.descriptor = o.modules.map Standing.descriptor := by
  induction l generalizing o with
  | nil => rfl
  | cons other rest ih => rw [List.foldl_cons, ih, descriptors_leave]

/-! ### Modules that have ended -/

theorem EndedAt.enter (h : o.EndedAt place) (d : ModuleDescriptor) : (o.enter d).EndedAt place := by
  refine ⟨(length_enter o d).symm ▸ Nat.lt_succ_of_lt h.1, ?_⟩
  rw [runningAt?_enter, if_neg (Nat.ne_of_lt h.1)]
  exact h.2

theorem EndedAt.leave (h : o.EndedAt place) (other : Nat) : (o.leave other).EndedAt place := by
  refine ⟨(length_leave o other).symm ▸ h.1, ?_⟩
  rw [runningAt?_leave, h.2, ite_self]

theorem lt_length_of_runningAt? (hrun : o.runningAt? place = some d) :
    place < o.modules.length := by
  obtain ⟨m, hm, -⟩ := Option.bind_eq_some_iff.mp hrun
  exact (List.getElem?_eq_some_iff.mp hm).1

theorem endedAt_leave (hrun : o.runningAt? place = some d) : (o.leave place).EndedAt place := by
  refine ⟨(length_leave o place).symm ▸ lt_length_of_runningAt? hrun, ?_⟩
  rw [runningAt?_leave, if_pos rfl]

theorem endedCount_enter (o : Roster) (d : ModuleDescriptor) :
    (o.enter d).endedCount = o.endedCount := by
  simp [endedCount, Roster.enter]

theorem endedCount_leave (o : Roster) (place : Nat) :
    (o.leave place).endedCount =
      o.endedCount + if (o.runningAt? place).isSome then 1 else 0 := by
  cases hrun : o.runningAt? place with
  | none =>
    rw [leave_of_none hrun]
    rfl
  | some d =>
    obtain ⟨m, hm, hended⟩ := Option.bind_eq_some_iff.mp hrun
    have hrunning : m.ended = false := by
      by_contra h
      simp [h] at hended
    rw [leave_of_some hrun]
    exact countP_modify hm (by simp [hrunning]) rfl

/-- When no module runs any more, all have ended. -/
theorem endedCount_eq_length (h : ∀ place, o.runningAt? place = none) :
    o.endedCount = o.modules.length := by
  refine List.countP_eq_length.mpr fun m hm => ?_
  obtain ⟨place, hplace⟩ := List.mem_iff_getElem?.mp hm
  by_contra hended
  have hrun := h place
  simp [runningAt?, hplace, hended] at hrun

namespace Sound

/-- Of one name at most one module has not ended. -/
theorem place_unique (h : o.Sound) {p q : Nat} {d e : ModuleDescriptor}
    (hp : o.runningAt? p = some d) (hq : o.runningAt? q = some e) (hname : d.name = e.name) :
    p = q := by
  have hfindp : o.places.find? d.name = some p := (h d.name p).mpr ⟨d, hp, rfl⟩
  have hfindq : o.places.find? d.name = some q := (h d.name q).mpr ⟨e, hq, hname.symm⟩
  rw [hfindp, Option.some_inj] at hfindq
  exact hfindq

/-- A roster stays sound when a module is started under a name that is free. -/
theorem enter (h : o.Sound) (hfree : o.places.find? d.name = none) : (o.enter d).Sound := by
  have hout : o.runningAt? o.modules.length = none := by
    rw [runningAt?, List.getElem?_eq_none (Nat.le_refl _)]
    rfl
  intro name place
  rw [runningAt?_enter]
  simp only [Roster.enter, Keyed.find?_set]
  by_cases hplace : place = o.modules.length
  · rw [if_pos hplace]
    by_cases hname : d.name = name
    · simp [hname, hplace]
    · -- No other name leads to the new place, since nothing stood there before.
      rw [if_neg hname, h name place, hplace, hout]
      simp [hname]
  · rw [if_neg hplace]
    by_cases hname : d.name = name
    · have hnone : ¬ ∃ e, o.runningAt? place = some e ∧ e.name = name := by
        rw [← h name place, ← hname, hfree]
        simp
      rw [if_pos hname, Option.some_inj]
      exact ⟨fun heq => absurd heq.symm hplace, fun he => absurd he hnone⟩
    · rw [if_neg hname]
      exact h name place

/-- A roster stays sound when a module ends. -/
theorem leave (h : o.Sound) (place : Nat) : (o.leave place).Sound := by
  cases hrun : o.runningAt? place with
  | none =>
    rw [leave_of_none hrun]
    exact h
  | some d =>
    intro name other
    have hplaces : (o.leave place).places = o.places.erase d.name := by rw [leave_of_some hrun]
    rw [runningAt?_leave, hplaces, Keyed.find?_erase]
    by_cases hname : d.name = name
    · -- The name is free now, and nobody else had it.
      rw [if_pos hname]
      refine ⟨fun he => absurd he (by simp), fun ⟨e, he, hen⟩ => ?_⟩
      obtain ⟨hne, he⟩ := Option.ite_none_left_eq_some.mp he
      exact absurd (h.place_unique hrun he (hname.trans hen.symm)) hne
    · rw [if_neg hname, h name other]
      by_cases hother : place = other
      · subst hother
        rw [if_pos rfl, hrun]
        simp [hname]
      · rw [if_neg hother]

end Sound

end Roster

namespace Registry

variable {r : Registry} {place : Nat} {m : ModuleRun} {name : String}

theorem runningAt?_roster {d : ModuleDescriptor} :
    r.roster.runningAt? place = some d ↔
      ∃ m, r.moduleAt? place = some m ∧ m.ended = false ∧ m.descriptor = d := by
  simp only [Roster.runningAt?, roster, moduleAt?, List.getElem?_map]
  cases r.run.modules[place]? with
  | none => simp
  | some m => cases hended : m.ended <;> simp [ModuleRun.standing, hended]

/-- A registry with a sound roster finds the modules that have not ended by their names. -/
theorem find?_eq_some_iff (h : r.roster.Sound) :
    r.find? name = some (place, m) ↔
      r.moduleAt? place = some m ∧ m.ended = false ∧ m.name = name := by
  have hplaces := h name
  simp only [runningAt?_roster] at hplaces
  rw [find?, Option.bind_eq_some_iff]
  constructor
  · rintro ⟨p, hp, hm⟩
    obtain ⟨m', hm', heq⟩ := Option.map_eq_some_iff.mp hm
    obtain ⟨rfl, rfl⟩ := Prod.mk.inj heq
    obtain ⟨d, ⟨m'', hm'', hended, rfl⟩, hname⟩ := (hplaces p).mp hp
    rw [hm', Option.some_inj] at hm''
    subst hm''
    exact ⟨hm', hended, hname⟩
  · rintro ⟨hm, hended, hname⟩
    exact ⟨place, (hplaces place).mpr ⟨m.descriptor, ⟨m, hm, hended, rfl⟩, hname⟩, by rw [hm]; rfl⟩

/-- The active modules of a registry with a sound roster are those that have not ended. -/
theorem mem_active_iff (h : r.roster.Sound) :
    (place, m) ∈ r.active ↔ r.moduleAt? place = some m ∧ m.ended = false := by
  rw [active, List.mem_mergeSort, List.mem_filterMap]
  constructor
  · rintro ⟨p, hp, hm⟩
    obtain ⟨m', hm', heq⟩ := Option.map_eq_some_iff.mp hm
    obtain ⟨rfl, rfl⟩ := Prod.mk.inj heq
    obtain ⟨⟨name, q⟩, hentry, hq⟩ := List.mem_map.mp hp
    obtain rfl : q = p := hq
    obtain ⟨d, hd, -⟩ := (h name q).mp (Keyed.find?_eq_some_iff.mpr hentry)
    obtain ⟨m'', hm'', hended, -⟩ := runningAt?_roster.mp hd
    rw [hm', Option.some_inj] at hm''
    exact ⟨hm', hm''.symm ▸ hended⟩
  · rintro ⟨hm, hended⟩
    have hfind : r.places.find? m.name = some place :=
      (h m.name place).mpr ⟨m.descriptor, runningAt?_roster.mpr ⟨m, hm, hended, rfl⟩, rfl⟩
    exact ⟨place, List.mem_map_of_mem (Keyed.find?_eq_some_iff.mp hfind), by rw [hm]; rfl⟩

/-- A name under which a registry with a sound roster finds nothing is free. -/
theorem places_find?_eq_none (h : r.roster.Sound) (hfree : r.find? name = none) :
    r.roster.places.find? name = none := by
  by_contra hne
  obtain ⟨place, hplace⟩ := Option.ne_none_iff_exists'.mp hne
  obtain ⟨d, hd, hname⟩ := (h name place).mp hplace
  obtain ⟨m, hm, hended, rfl⟩ := runningAt?_roster.mp hd
  have hfind := (find?_eq_some_iff h).mpr ⟨hm, hended, hname⟩
  exact absurd (hfree.symm.trans hfind) (by simp)

/-- Nobody stands in a registry whose modules have all ended. -/
theorem places_eq_nil (h : r.roster.Sound) (hnone : ∀ place, r.roster.runningAt? place = none) :
    r.places.entries = [] := by
  rw [List.eq_nil_iff_forall_not_mem]
  rintro ⟨name, place⟩ he
  obtain ⟨d, hd, -⟩ := (h name place).mp (Keyed.find?_eq_some_iff.mpr he)
  exact absurd ((hnone place).symm.trans hd) (by simp)

/-- The names of the active modules are those that stand in the registry. -/
theorem active_names_perm (h : r.roster.Sound) :
    (r.active.map (·.2.name)).Perm r.places.keys := by
  have hentry : ∀ e ∈ r.places.entries,
      (r.moduleAt? e.2).map (fun m => m.name) = some e.1 := by
    rintro ⟨name, place⟩ he
    obtain ⟨d, hd, hname⟩ := (h name place).mp (Keyed.find?_eq_some_iff.mpr he)
    obtain ⟨m, hm, -, rfl⟩ := runningAt?_roster.mp hd
    rw [hm, Option.map_some]
    exact congrArg some hname
  refine ((List.mergeSort_perm _ _).map _).trans ?_
  rw [Keyed.values, Keyed.keys, List.filterMap_map, List.map_filterMap]
  rw [← List.filterMap_eq_map (f := fun e : String × Nat => e.1)]
  refine List.Perm.of_eq (List.filterMap_congr fun e he => ?_)
  rw [Function.comp_apply, Option.map_map]
  exact hentry e he

/-- Of one name at most one module is active. -/
theorem nodup_active (h : r.roster.Sound) : (r.active.map (·.2.name)).Nodup :=
  (active_names_perm h).nodup_iff.mpr r.places.nodup

end Registry

end TestTelemetry
