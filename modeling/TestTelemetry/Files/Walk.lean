/-
Walks through folders.

A walk goes through what a folder lists, one entry after the other, and through the folders in it.
The first listing that does not come to its end ends the walk with the names of its folder.  In
which order a folder lists its entries is up to the system.

* `inTurn`, `inTurn_eq_ok`, `mem_of_inTurn_eq_error` — several answers one after the other, up to
  the first error;
* `Walker` — which folders a walk goes into, and which files it takes;
* `FileTree.walk` — the files that a walk finds below a place.
-/
import TestTelemetry.Files.Tree

namespace TestTelemetry

/-- What is found one after the other, or the first error. -/
def inTurn {ε α : Type} : List (Except ε (List α)) → Except ε (List α)
  | [] => .ok []
  | .error e :: _ => .error e
  | .ok l :: rest => (inTurn rest).map (l ++ ·)

section InTurn

variable {ε α : Type}

theorem inTurn_cons_ok (x : List α) (l : List (Except ε (List α))) :
    inTurn (.ok x :: l) = (inTurn l).map (x ++ ·) := rfl

theorem inTurn_oks (parts : List (List α)) :
    inTurn (parts.map (Except.ok (ε := ε))) = .ok parts.flatten := by
  induction parts with
  | nil => rfl
  | cons x parts ih => rw [List.map_cons, inTurn_cons_ok, ih, Except.map, List.flatten_cons]

theorem inTurn_error (parts : List (List α)) (e : ε) (rest : List (Except ε (List α))) :
    inTurn (parts.map .ok ++ .error e :: rest) = .error e := by
  induction parts with
  | nil => rfl
  | cons x parts ih => rw [List.map_cons, List.cons_append, inTurn_cons_ok, ih, Except.map]

/-- Either everything was found, or there is a first error. -/
theorem all_ok_or_first_error (l : List (Except ε (List α))) :
    (∃ parts : List (List α), l = parts.map .ok) ∨
      ∃ (parts : List (List α)) (e : ε) (rest : List (Except ε (List α))),
        l = parts.map .ok ++ .error e :: rest := by
  induction l with
  | nil => exact .inl ⟨[], rfl⟩
  | cons x l ih =>
    cases x with
    | error e => exact .inr ⟨[], e, l, rfl⟩
    | ok x =>
      rcases ih with ⟨parts, rfl⟩ | ⟨parts, e, rest, rfl⟩
      · exact .inl ⟨x :: parts, rfl⟩
      · exact .inr ⟨x :: parts, e, rest, rfl⟩

theorem inTurn_eq_ok {l : List (Except ε (List α))} {xs : List α} (h : inTurn l = .ok xs) :
    ∃ parts : List (List α), l = parts.map .ok ∧ parts.flatten = xs := by
  rcases all_ok_or_first_error l with ⟨parts, rfl⟩ | ⟨parts, e, rest, rfl⟩
  · rw [inTurn_oks] at h
    exact ⟨parts, rfl, Except.ok.inj h⟩
  · rw [inTurn_error] at h
    cases h

theorem inTurn_append {l : List (Except ε (List α))} {xs : List α} (h : inTurn l = .ok xs)
    (l' : List (Except ε (List α))) : inTurn (l ++ l') = (inTurn l').map (xs ++ ·) := by
  obtain ⟨parts, rfl, rfl⟩ := inTurn_eq_ok h
  rcases all_ok_or_first_error l' with ⟨parts', rfl⟩ | ⟨parts', e, rest, rfl⟩
  · rw [← List.map_append, inTurn_oks, inTurn_oks, List.flatten_append, Except.map]
  · rw [← List.append_assoc, ← List.map_append, inTurn_error, inTurn_error, Except.map]

theorem mem_of_inTurn_eq_error {l : List (Except ε (List α))} {e : ε} (h : inTurn l = .error e) :
    .error e ∈ l := by
  rcases all_ok_or_first_error l with ⟨parts, rfl⟩ | ⟨parts, e', rest, rfl⟩
  · rw [inTurn_oks] at h
    cases h
  · rw [inTurn_error] at h
    exact Except.error.inj h ▸ List.mem_append_right _ (List.mem_cons_self ..)

end InTurn

/-- Which folders a walk goes into, and which files it takes. -/
structure Walker where
  enters : FileName → Bool
  takes : FileName → FileEntry → Bool

/-- A file with its names from the folder where a walk began. -/
abbrev FoundFile := List FileName × FileEntry

namespace FileTree

variable (t : FileTree) (w : Walker)

/-- Look at an entry of a folder, whose names from the start of the walk are given.  `enter` goes
through the folder with some names. -/
def visit (enter : List FileName → Except (List FileName) (List FoundFile)) (start : Place)
    (names : List FileName) (n : FileName) : Except (List FileName) (List FoundFile) :=
  let names := names ++ [n]
  if t.isFolderAt (start ++ names) then
    if w.enters n then enter names else .ok []
  else
    match t.fileAt? (start ++ names) with
    | some file => .ok (if w.takes n file then [(names, file)] else [])
    | none => .ok []

/-- Walk through the folder with some names from the start, as many levels deep as are given. -/
def walkFolder (listing : Place → Listing) (start : Place) :
    Nat → List FileName → Except (List FileName) (List FoundFile)
  | 0, _ => .ok []
  | levels + 1, names =>
    let l := listing (start ++ names)
    match inTurn (l.names.map (t.visit w (walkFolder listing start levels) start names)) with
    | .error e => .error e
    | .ok found => if l.whole then .ok found else .error names

/-- The length of the longest place, which no folder lies deeper than. -/
def depth : Nat := t.places.foldr (fun p deepest => max p.length deepest) 0

/-- The files that a walk finds below a place, or the folder whose listing ended it. -/
def walk (listing : Place → Listing) (start : Place) : Except (List FileName) (List FoundFile) :=
  t.walkFolder w listing start (t.depth + 1) []

end FileTree

end TestTelemetry
