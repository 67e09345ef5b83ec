/-
What is cut at separators was put together with them.

* `pieces_append` — what holds no separator goes to the first piece;
* `pieces_append_cons` — cutting at one separator first;
* `exists_last_piece` — what follows goes on with the last piece;
* `head?_pieces`, `getLast?_pieces` — what comes before the first separator, and after the last;
* `pieces_intercalate` — pieces that were joined are cut into the same pieces;
* `pieces_flatMap` — cutting a text after it was written in another alphabet;
* `endedPieces_lines` — lines that were written one after the other are cut into the same lines;
* `endedPieces_append` — the first line is cut off, and the rest is cut as it is alone.
-/
import TestTelemetry.Data.Pieces
import Mathlib.Data.List.Induction

namespace TestTelemetry

variable {α β : Type} [DecidableEq α] [DecidableEq β] {sep : α}

theorem pieces_cons_self (sep : α) (l : List α) : pieces sep (sep :: l) = [] :: pieces sep l := by
  rw [pieces, if_pos rfl]

/-- What holds no separator goes to the first piece. -/
theorem pieces_append {l : List α} (h : sep ∉ l) (rest : List α) :
    pieces sep (l ++ rest) = (pieces sep rest).modifyHead (l ++ ·) := by
  induction l with
  | nil =>
    cases hp : pieces sep rest with
    | nil => exact absurd hp (pieces_ne_nil sep rest)
    | cons p ps => exact hp
  | cons x l ih =>
    rw [List.mem_cons, not_or] at h
    obtain ⟨hx, hl⟩ := h
    rw [List.cons_append, pieces, if_neg (Ne.symm hx), ih hl]
    cases hp : pieces sep rest with
    | nil => exact absurd hp (pieces_ne_nil sep rest)
    | cons p ps => rfl

theorem pieces_of_not_mem {l : List α} (h : sep ∉ l) : pieces sep l = [l] := by
  have hcut := pieces_append h []
  rwa [List.append_nil, pieces, List.modifyHead_cons, List.append_nil] at hcut

/-- A list is cut at one of its separators first, and then each side alone. -/
theorem pieces_append_cons (l rest : List α) :
    pieces sep (l ++ sep :: rest) = pieces sep l ++ pieces sep rest := by
  induction l with
  | nil => exact pieces_cons_self sep rest
  | cons x l ih =>
    rw [List.cons_append, pieces, pieces, ih]
    by_cases hx : x = sep
    · rw [if_pos hx, if_pos hx, List.cons_append]
    · rw [if_neg hx, if_neg hx]
      cases hp : pieces sep l with
      | nil => exact absurd hp (pieces_ne_nil sep l)
      | cons p ps => rfl

/-- What follows a list goes on with its last piece, and the pieces before that one stay. -/
theorem exists_last_piece (sep : α) (l : List α) :
    ∃ before last, pieces sep l = before ++ [last] ∧ ∀ rest first more,
      pieces sep rest = first :: more → pieces sep (l ++ rest) = before ++ (last ++ first) :: more := by
  induction l with
  | nil => exact ⟨[], [], rfl, fun _ _ _ h => h⟩
  | cons x l ih =>
    obtain ⟨before, last, hl, happend⟩ := ih
    by_cases hx : x = sep
    · subst hx
      refine ⟨[] :: before, last, ?_, fun rest first more h => ?_⟩
      · rw [pieces_cons_self, hl, List.cons_append]
      · rw [List.cons_append, pieces_cons_self, happend rest first more h, List.cons_append]
    · have hcons : ∀ r, pieces sep (x :: r) = (pieces sep r).modifyHead (x :: ·) :=
        fun r => pieces_append (l := [x]) (by simpa using Ne.symm hx) r
      cases before with
      | nil =>
        refine ⟨[], x :: last, ?_, fun rest first more h => ?_⟩
        · rw [hcons, hl]
          rfl
        · rw [List.cons_append, hcons, happend rest first more h]
          rfl
      | cons piece before =>
        refine ⟨(x :: piece) :: before, last, ?_, fun rest first more h => ?_⟩
        · rw [hcons, hl]
          rfl
        · rw [List.cons_append, hcons, happend rest first more h]
          rfl

/-- The first piece is what comes before the first separator. -/
theorem head?_pieces (sep : α) (l : List α) : (pieces sep l).head? = some (l.takeWhile (· ≠ sep)) := by
  induction l with
  | nil => rfl
  | cons x l ih =>
    rw [pieces]
    by_cases hx : x = sep
    · rw [if_pos hx, List.takeWhile_cons_of_neg (by simpa using hx)]
      rfl
    · obtain ⟨ps, hp⟩ := List.head?_eq_some_iff.mp ih
      rw [if_neg hx, hp, List.takeWhile_cons_of_pos (by simpa using hx)]
      rfl

/-- The last piece is what comes after the last separator. -/
theorem getLast?_pieces (sep : α) (l : List α) :
    (pieces sep l).getLast? = some (l.reverse.takeWhile (· ≠ sep)).reverse := by
  induction l using List.reverseRecOn with
  | nil => rfl
  | append_singleton l x ih =>
    rw [List.reverse_concat]
    by_cases hx : x = sep
    · subst hx
      rw [pieces_append_cons, List.takeWhile_cons_of_neg (by simp), List.getLast?_append]
      rfl
    · obtain ⟨before, last, hl, happend⟩ := exists_last_piece sep l
      have hlast : last = (l.reverse.takeWhile (· ≠ sep)).reverse := by
        rw [hl, List.getLast?_concat] at ih
        exact Option.some_inj.mp ih
      rw [happend [x] [x] [] (pieces_of_not_mem (by simpa using Ne.symm hx)),
        List.getLast?_concat, List.takeWhile_cons_of_pos (by simpa using hx), List.reverse_cons,
        hlast]

/-- What is no separator is in one of the pieces. -/
theorem exists_piece_of_mem {l : List α} {x : α} (h : x ∈ l) (hx : x ≠ sep) :
    ∃ p ∈ pieces sep l, x ∈ p := by
  obtain ⟨before, after, rfl⟩ := List.append_of_mem h
  obtain ⟨ps, last, -, happend⟩ := exists_last_piece sep before
  obtain ⟨first, more, hafter⟩ := List.exists_cons_of_ne_nil (pieces_ne_nil sep after)
  have hrest : pieces sep (x :: after) = (x :: first) :: more := by
    rw [pieces, if_neg hx, hafter]
  rw [happend _ _ _ hrest]
  exact ⟨last ++ x :: first, by simp, by simp⟩

/-- What is in a piece is in the list. -/
theorem mem_of_mem_pieces {l p : List α} {x : α} (hp : p ∈ pieces sep l) (hx : x ∈ p) : x ∈ l := by
  induction l generalizing p with
  | nil =>
    obtain rfl := List.mem_singleton.mp hp
    exact hx
  | cons y l ih =>
    rw [pieces] at hp
    split at hp
    case isTrue =>
      rcases List.mem_cons.mp hp with rfl | hp
      · exact absurd hx List.not_mem_nil
      · exact List.mem_cons_of_mem _ (ih hp hx)
    case isFalse =>
      split at hp
      case h_1 hl => exact absurd hl (pieces_ne_nil _ _)
      case h_2 first more hl =>
        rcases List.mem_cons.mp hp with rfl | hp
        · rcases List.mem_cons.mp hx with rfl | hx
          · exact List.mem_cons_self ..
          · exact List.mem_cons_of_mem _ (ih (hl ▸ List.mem_cons_self ..) hx)
        · exact List.mem_cons_of_mem _ (ih (hl ▸ List.mem_cons_of_mem _ hp) hx)

/-- Pieces that were joined by separators are cut into the same pieces. -/
theorem pieces_intercalate {ps : List (List α)} (hne : ps ≠ []) (h : ∀ p ∈ ps, sep ∉ p) :
    pieces sep (List.intercalate [sep] ps) = ps := by
  induction ps with
  | nil => exact absurd rfl hne
  | cons p ps ih =>
    obtain ⟨hp, hps⟩ := List.forall_mem_cons.mp h
    cases ps with
    | nil => rw [List.intercalate_singleton, pieces_of_not_mem hp]
    | cons q ps =>
      rw [List.intercalate_cons_cons, List.append_assoc, List.singleton_append,
        pieces_append_cons, pieces_of_not_mem hp, ih (by simp) hps, List.singleton_append]

/-- Cutting a text that was written in another alphabet, where only the separator is written with
the separator. -/
theorem pieces_flatMap {f : α → List β} {sep' : β} (hsep : f sep = [sep'])
    (hother : ∀ x, x ≠ sep → sep' ∉ f x) (l : List α) :
    pieces sep' (l.flatMap f) = (pieces sep l).map (·.flatMap f) := by
  induction l with
  | nil => rfl
  | cons x l ih =>
    rw [List.flatMap_cons]
    by_cases hx : x = sep
    · subst hx
      rw [hsep, List.singleton_append, pieces_cons_self, pieces_cons_self, ih]
      rfl
    · rw [pieces_append (hother x hx), ih, pieces, if_neg hx]
      cases hp : pieces sep l with
      | nil => exact absurd hp (pieces_ne_nil sep l)
      | cons p ps => rfl

theorem endedPieces_of_ended {l : List α} {ps : List (List α)} (h : pieces sep l = ps ++ [[]]) :
    endedPieces sep l = ps := by
  rw [endedPieces, h, List.reverse_append]
  exact List.reverse_reverse ps

theorem endedPieces_of_open {l last : List α} {ps : List (List α)}
    (h : pieces sep l = ps ++ [last]) (hlast : last ≠ []) : endedPieces sep l = ps ++ [last] := by
  rw [endedPieces, h, List.reverse_append]
  cases last with
  | nil => exact absurd rfl hlast
  | cons x last =>
    show ((x :: last) :: ps.reverse).reverse = _
    rw [List.reverse_cons, List.reverse_reverse]

theorem endedPieces_flatMap {f : α → List β} {sep' : β} (hsep : f sep = [sep'])
    (hother : ∀ x, x ≠ sep → sep' ∉ f x) (hne : ∀ x, f x ≠ []) (l : List α) :
    endedPieces sep' (l.flatMap f) = (endedPieces sep l).map (·.flatMap f) := by
  have hpieces := pieces_flatMap hsep hother l
  obtain ⟨ps, last, hlast⟩ := List.eq_nil_or_concat (pieces sep l) |>.resolve_left
    (pieces_ne_nil sep l)
  rw [List.concat_eq_append] at hlast
  rw [hlast, List.map_append] at hpieces
  cases last with
  | nil => rw [endedPieces_of_ended hlast, endedPieces_of_ended hpieces]
  | cons x last =>
    rw [endedPieces_of_open hlast (by simp), endedPieces_of_open hpieces (by simp [hne]),
      List.map_append]
    rfl

/-- Lines that were written one after the other are the pieces, and nothing is left behind them. -/
theorem pieces_lines {ls : List (List α)} (h : ∀ l ∈ ls, sep ∉ l) :
    pieces sep (ls.flatMap (· ++ [sep])) = ls ++ [[]] := by
  induction ls with
  | nil => rfl
  | cons l ls ih =>
    obtain ⟨hl, hls⟩ := List.forall_mem_cons.mp h
    rw [List.flatMap_cons, List.append_assoc, pieces_append hl, List.singleton_append,
      pieces_cons_self, ih hls]
    simp

/-- Lines that were written one after the other are cut into the same lines. -/
theorem endedPieces_lines {ls : List (List α)} (h : ∀ l ∈ ls, sep ∉ l) :
    endedPieces sep (ls.flatMap (· ++ [sep])) = ls :=
  endedPieces_of_ended (pieces_lines h)

/-- The first line is cut off, and the rest is cut as it is alone. -/
theorem endedPieces_append {l : List α} (h : sep ∉ l) (rest : List α) :
    endedPieces sep (l ++ sep :: rest) = l :: endedPieces sep rest := by
  have hpieces : pieces sep (l ++ sep :: rest) = l :: pieces sep rest := by
    rw [pieces_append h, pieces_cons_self]
    simp
  obtain ⟨ps, last, hlast⟩ := List.eq_nil_or_concat (pieces sep rest) |>.resolve_left
    (pieces_ne_nil sep rest)
  rw [List.concat_eq_append] at hlast
  rw [hlast, ← List.cons_append] at hpieces
  cases last with
  | nil => rw [endedPieces_of_ended hlast, endedPieces_of_ended hpieces]
  | cons x last =>
    rw [endedPieces_of_open hlast (by simp), endedPieces_of_open hpieces (by simp),
      List.cons_append]

end TestTelemetry
