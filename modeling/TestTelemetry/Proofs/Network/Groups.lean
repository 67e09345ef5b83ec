/-
The parts of an address survive their texts.

Numbers are written in digits without zeros before them, so that the strict readers take them.  The
eight groups of an address of version 6 are cut at the first two colons in a row.  No group is empty, so
that these two are the ones that stand for zeros that were left out; and at least two zeros were left
out, so that the groups on both sides are too few to be all.

* `readDecimal?_decimalText`, `readGroup?_hexText` — one number;
* `readV4?_v4Text` — the four numbers of an address of version 4;
* `readSide?_groupsText` — groups with colons between them;
* `splitDoubleColon_joinWith` — where a text of groups is cut;
* `exists_longestZeros` — what is left out are zeros;
* `readV6?_v6Text` — the eight groups of an address of version 6.
-/
import TestTelemetry.Network.Address
import TestTelemetry.Proofs.Data.Pieces
import TestTelemetry.Proofs.Decimal.Natural

namespace TestTelemetry

/-! ### Numbers -/

/-- The digits of a number stand for less than its base. -/
theorem exists_digitChar_of_mem_toDigits {b n : Nat} (hb : 1 < b) {c : Char}
    (hc : c ∈ Nat.toDigits b n) : ∃ d < b, c = Nat.digitChar d := by
  induction n using Nat.strongRecOn with
  | ind n ih =>
    rcases Nat.lt_or_ge n b with hlt | hge
    · rw [Nat.toDigits_of_lt_base hlt, List.mem_singleton] at hc
      exact ⟨n, hlt, hc⟩
    · rw [Nat.toDigits_of_base_le hb hge, List.mem_append, List.mem_singleton] at hc
      rcases hc with hc | hc
      · exact ih (n / b) (Nat.div_lt_self (by omega) hb) hc
      · exact ⟨n % b, Nat.mod_lt n (by omega), hc⟩

/-- A number in decimal digits is read, whether zeros may stand before it or not. -/
theorem readDecimal?_decimalText {n max : Nat} (padded : Bool) (h : n ≤ max) :
    readDecimal? padded max (decimalText n) = some n := by
  have hdigits : (decimalText n).all Char.isDigit = true :=
    List.all_eq_true.mpr fun c hc => Decimal.isDigit_of_mem hc
  have hread : ¬(decimalText n = [] ∨ (!(decimalText n).all Char.isDigit) = true) := by
    rintro (hnil | hother)
    · exact Nat.toDigits_ne_nil hnil
    · rw [hdigits] at hother
      exact absurd hother (by decide)
  have hzero : ¬((!padded) = true ∧ (decimalText n).length > 1 ∧
      (decimalText n).head? = some '0') := by
    rintro ⟨-, hlength, hhead⟩
    obtain ⟨rest, hrest⟩ := List.head?_eq_some_iff.mp hhead
    -- Only zero begins with a zero, and it has no other digits.
    rcases Nat.eq_zero_or_pos n with rfl | hn
    · rw [decimalText, Nat.toDigits_zero] at hlength
      exact absurd hlength (by decide)
    · exact Decimal.head_toDigits hn rest hrest
  have hvalue : Nat.ofDigitChars 10 (decimalText n) 0 = n := Nat.ofDigitChars_ten_toDigits
  simp only [readDecimal?, if_neg hread, if_neg hzero, hvalue, if_pos h]

theorem hexValue?_digitChar : ∀ d < 16, Text.hexValue? (Nat.digitChar d) = some d := by decide

theorem hexNumber?_append_singleton (cs : List Char) (c : Char) : Text.hexNumber? (cs ++ [c]) =
    (Text.hexNumber? cs).bind fun n => (Text.hexValue? c).map (n * 16 + ·) := by
  rw [Text.hexNumber?, List.foldl_append]
  rfl

theorem hexNumber?_hexText (n : Nat) : Text.hexNumber? (hexText n) = some n := by
  induction n using Nat.strongRecOn with
  | ind n ih =>
    rcases Nat.lt_or_ge n 16 with hlt | hge
    · rw [hexText, Nat.toDigits_of_lt_base hlt, ← List.nil_append [_], hexNumber?_append_singleton,
        hexValue?_digitChar n hlt]
      simp [Text.hexNumber?]
    · have hrest : Text.hexNumber? (Nat.toDigits 16 (n / 16)) = some (n / 16) := ih (n / 16) (by omega)
      rw [hexText, Nat.toDigits_of_base_le (by decide) hge, hexNumber?_append_singleton, hrest,
        hexValue?_digitChar _ (by omega), Option.bind_some, Option.map_some]
      congr 1
      omega

/-- A group has at most four digits. -/
theorem readGroup?_hexText (g : UInt16) : readGroup? (hexText g.toNat) = some g := by
  have hlength : (hexText g.toNat).length ≤ 4 :=
    (Nat.length_toDigits_le_iff (by decide) (by decide)).mpr g.toNat_lt
  have hread : ¬(hexText g.toNat = [] ∨ (hexText g.toNat).length > 4) := by
    rintro (hnil | hlong)
    · exact Nat.toDigits_ne_nil hnil
    · omega
  rw [readGroup?, if_neg hread, hexNumber?_hexText, Option.map_some, UInt16.ofNat_toNat]

/-! ### Texts with a separator between them -/

theorem joinWith_eq_intercalate (sep : Char) (ws : List (List Char)) :
    joinWith sep ws = List.intercalate [sep] ws := by
  induction ws with
  | nil => rfl
  | cons w ws ih =>
    cases ws with
    | nil => exact List.intercalate_singleton.symm
    | cons w' ws =>
      rw [joinWith, ih, List.intercalate_cons_cons, List.append_assoc, List.singleton_append]
      simp

/-- Texts that were joined are cut into the same texts. -/
theorem pieces_joinWith {sep : Char} {ws : List (List Char)} (hne : ws ≠ [])
    (h : ∀ w ∈ ws, sep ∉ w) : pieces sep (joinWith sep ws) = ws := by
  rw [joinWith_eq_intercalate, pieces_intercalate hne h]

theorem mem_joinWith {sep c : Char} {ws : List (List Char)} (h : c ∈ joinWith sep ws) :
    c = sep ∨ ∃ w ∈ ws, c ∈ w := by
  induction ws with
  | nil => exact absurd h List.not_mem_nil
  | cons w ws ih =>
    cases ws with
    | nil => exact .inr ⟨w, List.mem_cons_self .., h⟩
    | cons w' ws =>
      rw [joinWith, List.mem_append, List.mem_cons] at h
      · rcases h with hw | hsep | hrest
        · exact .inr ⟨w, List.mem_cons_self .., hw⟩
        · exact .inl hsep
        · rcases ih hrest with hsep | ⟨v, hv, hc⟩
          · exact .inl hsep
          · exact .inr ⟨v, List.mem_cons_of_mem _ hv, hc⟩
      · simp

/-! ### Version 4 -/

theorem readV4?_v4Text (a b c d : UInt8) : readV4? (v4Text a b c d) = some (a, b, c, d) := by
  have hpoint : ∀ w ∈ [a, b, c, d].map fun x => decimalText x.toNat, '.' ∉ w := by
    intro w hw hc
    obtain ⟨x, -, rfl⟩ := List.mem_map.mp hw
    exact absurd (Decimal.isDigit_of_mem hc) (by decide)
  have hpart : ∀ x : UInt8, readDecimal? false 255 (decimalText x.toNat) = some x.toNat :=
    fun x => readDecimal?_decimalText false (by have := x.toNat_lt; omega)
  rw [readV4?, v4Text, pieces_joinWith (by simp) hpoint]
  simp [hpart]

theorem not_mem_v4Text {ch : Char} (hpoint : ch ≠ '.') (h : ∀ d < 10, ch ≠ Nat.digitChar d)
    (a b c d : UInt8) : ch ∉ v4Text a b c d := by
  intro hc
  rcases mem_joinWith hc with hsep | ⟨w, hw, hcw⟩
  · exact hpoint hsep
  · obtain ⟨x, -, rfl⟩ := List.mem_map.mp hw
    obtain ⟨e, he, rfl⟩ := exists_digitChar_of_mem_toDigits (by decide) hcw
    exact h e he rfl

/-- An address of version 4 has points. -/
theorem readV4?_eq_none {cs : List Char} (h : '.' ∉ cs) : readV4? cs = none := by
  rw [readV4?, pieces_of_not_mem h]

/-! ### Version 6 -/

theorem not_mem_hexText {c : Char} (n : Nat) (h : ∀ d < 16, c ≠ Nat.digitChar d) :
    c ∉ hexText n := by
  intro hc
  obtain ⟨d, hd, rfl⟩ := exists_digitChar_of_mem_toDigits (by decide) hc
  exact h d hd rfl

theorem readV4?_hexText (n : Nat) : readV4? (hexText n) = none :=
  readV4?_eq_none (not_mem_hexText n (by decide))

theorem readGroups?_hexTexts (l : List UInt16) :
    readGroups? (l.map fun g => hexText g.toNat) = some l := by
  induction l with
  | nil => rfl
  | cons g l ih =>
    cases l with
    | nil =>
      simp only [List.map_cons, List.map_nil, readGroups?, readV4?_hexText, readGroup?_hexText]
      rfl
    | cons g' l =>
      rw [List.map_cons] at ih ⊢
      rw [List.map_cons, readGroups?, readGroup?_hexText, ih]
      · rfl
      · simp

/-- Groups with colons between them are read, also when there are none. -/
theorem readSide?_groupsText (l : List UInt16) : readSide? (groupsText l) = some l := by
  cases l with
  | nil => rfl
  | cons g l =>
    have hcolon : ∀ w ∈ (g :: l).map fun g => hexText g.toNat, ':' ∉ w := by
      intro w hw
      obtain ⟨x, -, rfl⟩ := List.mem_map.mp hw
      exact not_mem_hexText x.toNat (by decide)
    have hpieces := pieces_joinWith (by simp) hcolon
    have hne : groupsText (g :: l) ≠ [] := by
      intro hnil
      rw [← groupsText, hnil, List.map_cons] at hpieces
      exact Nat.toDigits_ne_nil (List.cons.inj hpieces).1.symm
    rw [readSide?, if_neg hne, groupsText, hpieces, readGroups?_hexTexts]

/-! #### Where the text is cut -/

/-- A colon alone does not cut. -/
theorem splitDoubleColon_colon {c : Char} (hc : c ≠ ':') (before rest : List Char) :
    splitDoubleColon before (':' :: c :: rest) = splitDoubleColon (':' :: before) (c :: rest) := by
  rw [splitDoubleColon]
  simp [hc]

theorem splitDoubleColon_append {w : List Char} (h : ':' ∉ w) (before rest : List Char) :
    splitDoubleColon before (w ++ rest) = splitDoubleColon (w.reverse ++ before) rest := by
  induction w generalizing before with
  | nil => rfl
  | cons c w ih =>
    rw [List.mem_cons, not_or] at h
    rw [List.cons_append, splitDoubleColon, ih h.2, List.reverse_cons, List.append_assoc]
    · rfl
    · rintro rest rfl
      exact absurd rfl h.1

/-- Texts that hold no colon and are not empty are not cut when colons join them. -/
theorem splitDoubleColon_joinWith {ws : List (List Char)} (h : ∀ w ∈ ws, w ≠ [] ∧ ':' ∉ w)
    (before rest : List Char) : splitDoubleColon before (joinWith ':' ws ++ rest) =
      splitDoubleColon ((joinWith ':' ws).reverse ++ before) rest := by
  induction ws generalizing before with
  | nil => rfl
  | cons w ws ih =>
    obtain ⟨⟨-, hw⟩, hws⟩ := List.forall_mem_cons.mp h
    cases ws with
    | nil => exact splitDoubleColon_append hw before rest
    | cons w' ws =>
      -- The next text begins with something else than a colon, so that the colon before it is alone.
      obtain ⟨⟨hne, hw'⟩, -⟩ := List.forall_mem_cons.mp hws
      obtain ⟨c, cs, rfl⟩ := List.exists_cons_of_ne_nil hne
      obtain ⟨tail, htail⟩ : ∃ tail, joinWith ':' ((c :: cs) :: ws) = c :: tail := by
        cases ws with
        | nil => exact ⟨cs, rfl⟩
        | cons w' ws => exact ⟨_, rfl⟩
      have hc : c ≠ ':' := fun hc => hw' (hc ▸ List.mem_cons_self ..)
      have hjoin : joinWith ':' (w :: (c :: cs) :: ws) =
          w ++ ':' :: joinWith ':' ((c :: cs) :: ws) := rfl
      have hrest := ih hws (':' :: (w.reverse ++ before))
      rw [htail, List.cons_append] at hrest
      rw [hjoin, htail, List.append_assoc, List.cons_append, List.cons_append,
        splitDoubleColon_append hw, splitDoubleColon_colon hc, hrest]
      simp

/-! #### What is left out -/

/-- The run that is found consists of zeros. -/
theorem exists_longestZeros (start : Nat) (l : List UInt16) : ∃ before after,
    l = before ++ List.replicate (longestZeros start l).2 0 ++ after ∧
      (longestZeros start l).1 = start + before.length := by
  induction l generalizing start with
  | nil => exact ⟨[], [], rfl, rfl⟩
  | cons g l ih =>
    rw [longestZeros]
    split
    · obtain ⟨before, after, hl, hstart⟩ := ih (start + 1)
      refine ⟨g :: before, after, ?_, ?_⟩
      · rw [List.cons_append, List.cons_append, ← hl]
      · rw [hstart, List.length_cons]
        omega
    · have hzeros : List.replicate (leadingZeros (g :: l)) 0 = (g :: l).takeWhile (· = 0) :=
        (List.eq_replicate_iff.mpr ⟨rfl, fun x hx => by simpa using List.mem_takeWhile_imp hx⟩).symm
      refine ⟨[], (g :: l).dropWhile (· = 0), ?_, rfl⟩
      rw [List.nil_append, hzeros, List.takeWhile_append_dropWhile]

/-! #### The eight groups -/

theorem vectorOf?_toList (v : Vector UInt16 8) : vectorOf? v.toList = some v := by
  rw [vectorOf?, dif_pos (by simp)]
  rfl

/-- A text of groups is made of digits and colons. -/
theorem not_mem_groupsText {c : Char} (l : List UInt16) (hcolon : c ≠ ':')
    (h : ∀ d < 16, c ≠ Nat.digitChar d) : c ∉ groupsText l := by
  intro hc
  rcases mem_joinWith hc with hsep | ⟨w, hw, hcw⟩
  · exact hcolon hsep
  · obtain ⟨g, -, rfl⟩ := List.mem_map.mp hw
    exact not_mem_hexText g.toNat h hcw

theorem splitDoubleColon_groupsText (l : List UInt16) (rest : List Char) :
    splitDoubleColon [] (groupsText l ++ rest) = splitDoubleColon (groupsText l).reverse rest := by
  have hwords : ∀ w ∈ l.map fun g => hexText g.toNat, w ≠ [] ∧ ':' ∉ w := by
    intro w hw
    obtain ⟨g, -, rfl⟩ := List.mem_map.mp hw
    exact ⟨Nat.toDigits_ne_nil, not_mem_hexText g.toNat (by decide)⟩
  rw [groupsText, splitDoubleColon_joinWith hwords, List.append_nil]

/-- Two colons stand for as many zeros as are missing. -/
theorem readV6?_of_zeros {l r : List UInt16} (h : l.length + r.length ≤ 7) :
    readV6? (groupsText l ++ [':', ':'] ++ groupsText r) =
      vectorOf? (l ++ List.replicate (8 - l.length - r.length) 0 ++ r) := by
  have hsplit : splitDoubleColon [] (groupsText l ++ [':', ':'] ++ groupsText r) =
      some (groupsText l, groupsText r) := by
    rw [List.append_assoc, splitDoubleColon_groupsText]
    show some ((groupsText l).reverse.reverse, _) = _
    rw [List.reverse_reverse]
    rfl
  have hpoint : (groupsText l).contains '.' = false := by
    simpa using not_mem_groupsText l (by decide) (by decide)
  simp only [readV6?, hsplit, hpoint, readSide?_groupsText]
  simp only [Option.bind_eq_bind, Option.bind_some]
  rw [if_neg (by simp), if_neg (by omega)]

/-- All groups are written. -/
theorem readV6?_groupsText (l : List UInt16) : readV6? (groupsText l) = vectorOf? l := by
  have hsplit : splitDoubleColon [] (groupsText l) = none := by
    have hnil := splitDoubleColon_groupsText l []
    rwa [List.append_nil, splitDoubleColon] at hnil
  simp only [readV6?, hsplit, readSide?_groupsText, Option.bind_some]

theorem readV6?_compressedText {l : List UInt16} (h : l.length = 8) :
    readV6? (compressedText l) = vectorOf? l := by
  obtain ⟨before, after, hl, hstart⟩ := exists_longestZeros 0 l
  generalize hrun : longestZeros 0 l = run at hl hstart
  obtain ⟨start, length⟩ := run
  have hstart : start = before.length := by simpa using hstart
  have hsum : before.length + length + after.length = 8 := by
    rw [hl, List.length_append, List.length_append, List.length_replicate] at h
    exact h
  simp only [compressedText, hrun]
  split
  case isTrue hlong =>
    -- At least two zeros are left out, so that the groups on both sides are six at most.
    have htake : l.take start = before := by
      rw [hl, hstart, List.append_assoc, List.take_left]
    have hdrop : l.drop (start + length) = after := by
      have hlength : (before ++ List.replicate length 0).length = start + length := by
        rw [List.length_append, List.length_replicate, hstart]
      rw [hl, ← hlength, List.drop_left]
    have hzeros : 8 - before.length - after.length = length := by omega
    rw [htake, hdrop, readV6?_of_zeros (by omega), hzeros, ← hl]
  case isFalse => exact readV6?_groupsText l

/-- The two bytes of a group are put together again. -/
theorem join_bytes (g : UInt16) : (g >>> 8).toUInt8.toUInt16 <<< 8 ||| g.toUInt8.toUInt16 = g := by
  have hg := g.toNat_lt
  have hlow : g.toNat % 256 < 2 ^ 8 := Nat.mod_lt _ (by decide)
  have hhigh : g.toNat / 256 % 256 = g.toNat / 256 := Nat.mod_eq_of_lt (by omega)
  have hfits : g.toNat / 256 * 256 % 65536 = g.toNat / 256 * 256 := Nat.mod_eq_of_lt (by omega)
  apply UInt16.toNat_inj.mp
  calc ((g >>> 8).toUInt8.toUInt16 <<< 8 ||| g.toUInt8.toUInt16).toNat
      = (g.toNat / 256) <<< 8 ||| g.toNat % 256 := by
        simp [Nat.shiftLeft_eq, Nat.shiftRight_eq_div_pow, hhigh, hfits]
    _ = (g.toNat / 256) <<< 8 + g.toNat % 256 := (Nat.shiftLeft_add_eq_or_of_lt hlow _).symm
    _ = g.toNat := by
        rw [Nat.shiftLeft_eq]
        omega

/-- A version 4 address in disguise is read as the two groups that it fills. -/
theorem readV6?_disguise (g h : UInt16) :
    readV6? ("::ffff:".toList ++
      v4Text (g >>> 8).toUInt8 g.toUInt8 (h >>> 8).toUInt8 h.toUInt8) =
        vectorOf? [0, 0, 0, 0, 0, 0xffff, g, h] := by
  generalize htext : v4Text (g >>> 8).toUInt8 g.toUInt8 (h >>> 8).toUInt8 h.toUInt8 = text
  have hcolon : ':' ∉ text := htext ▸ not_mem_v4Text (by decide) (by decide) _ _ _ _
  have hpieces : pieces ':' ("ffff".toList ++ ':' :: text) = ["ffff".toList, text] := by
    rw [pieces_append_cons, pieces_of_not_mem hcolon]
    rfl
  -- An address of version 4 counts as two groups only at the end.
  have hlast : readGroups? [text] = some [g, h] := by
    rw [readGroups?, ← htext, readV4?_v4Text]
    simp only [join_bytes]
  have hside : readSide? ("ffff".toList ++ ':' :: text) = some [0xffff, g, h] := by
    rw [readSide?, if_neg (by simp), hpieces, readGroups?, hlast]
    · rfl
    · simp
  have hsplit : splitDoubleColon [] ("::ffff:".toList ++ text) =
      some ([], "ffff".toList ++ ':' :: text) := rfl
  simp only [readV6?, hsplit, hside]
  rfl

theorem eq_of_disguised? {l : List UInt16} {g h : UInt16} (hl : disguised? l = some (g, h)) :
    l = [0, 0, 0, 0, 0, 0xffff, g, h] := by
  unfold disguised? at hl
  split at hl
  case h_1 a b c d e f g' h' =>
    split at hl
    case isTrue hfirst =>
      obtain ⟨rfl, rfl⟩ := Prod.mk.inj (Option.some.inj hl)
      simpa using hfirst
    case isFalse => cases hl
  case h_2 => cases hl

/-- **The text of eight groups is read as these groups.** -/
theorem readV6?_v6Text (v : Vector UInt16 8) : readV6? (v6Text v.toList) = some v := by
  rw [v6Text]
  split
  case h_1 g h hdisguised =>
    rw [readV6?_disguise, ← eq_of_disguised? hdisguised, vectorOf?_toList]
  case h_2 => rw [readV6?_compressedText (by simp), vectorOf?_toList]

end TestTelemetry
