/-
An address is found again behind its text.

A host is joined to its port by a colon and stands there without brackets, also when it has colons of
its own.  Such a target is no address with a port, so that it is cut at its last colon, and what
stands before that is an address without a port.

* `IpAddress.not_mem_text` — what an address is written with;
* `IpAddress.ofText?_text` — an address without a port;
* `resolveHost?_text` — an address as a host;
* `resolve?_text` — an address and a port joined by a colon.
-/
import TestTelemetry.Proofs.Network.Groups

namespace TestTelemetry

/-! ### Without a port -/

/-- What begins with a colon is no address of version 4. -/
theorem readV4?_colon (cs : List Char) : readV4? (':' :: cs) = none := by
  have hfirst : ∀ p : List Char, readDecimal? false 255 (':' :: p) = none := fun p => by
    rw [readDecimal?, if_pos]
    exact .inr (by rw [List.all_cons]; rfl)
  obtain ⟨p, ps, hps⟩ := List.exists_cons_of_ne_nil (pieces_ne_nil '.' cs)
  have hpieces : pieces '.' (':' :: cs) = (':' :: p) :: ps := by
    rw [pieces, if_neg (by decide), hps]
  rw [readV4?, hpieces]
  split
  case h_1 hcut =>
    obtain ⟨rfl, -⟩ := List.cons.inj hcut
    rw [hfirst]
    rfl
  case h_2 => rfl

theorem not_mem_compressedText {c : Char} (l : List UInt16) (hcolon : c ≠ ':')
    (h : ∀ d < 16, c ≠ Nat.digitChar d) : c ∉ compressedText l := by
  have hgroups := fun l => not_mem_groupsText l hcolon h
  rw [compressedText]
  obtain ⟨start, length⟩ := longestZeros 0 l
  dsimp only
  split
  case isTrue => simp [hgroups, hcolon]
  case isFalse => exact hgroups l

theorem readV4?_v6Text (l : List UInt16) : readV4? (v6Text l) = none := by
  unfold v6Text
  split
  case h_1 => exact readV4?_colon _
  case h_2 => exact readV4?_eq_none (not_mem_compressedText l (by decide) (by decide))

namespace IpAddress

/-- An address is written with hexadecimal digits, points and colons. -/
theorem not_mem_text {c : Char} (ip : IpAddress) (hpoint : c ≠ '.') (hcolon : c ≠ ':')
    (h : ∀ d < 16, c ≠ Nat.digitChar d) : c ∉ ip.text := by
  have hv4 := not_mem_v4Text hpoint fun d hd => h d (by omega)
  cases ip with
  | v4 a b c d => exact hv4 a b c d
  | v6 groups =>
    show c ∉ v6Text groups.toList
    unfold v6Text
    split
    case h_1 g h' _ =>
      have hf : c ≠ 'f' := h 15 (by decide)
      simp [hv4, hcolon, hf]
    case h_2 => exact not_mem_compressedText groups.toList hcolon h

theorem ofText?_text (ip : IpAddress) : ofText? ip.text = some ip := by
  cases ip with
  | v4 a b c d => rw [text, ofText?, readV4?_v4Text]
  | v6 groups => rw [text, ofText?, readV4?_v6Text, readV6?_v6Text, Option.map_some]

end IpAddress

/-- An address is no name, and it has no scope. -/
theorem resolveHost?_text (ip : IpAddress) : resolveHost? ip.text = some (ip, 0) := by
  have hname : ip.text.map Char.toLower ≠ localHostName := by
    intro hname
    -- The first letter of the name is no hexadecimal digit, in capitals or not.
    have hletter : 'l' ∈ ip.text.map Char.toLower := hname ▸ by decide
    obtain ⟨c, hc, hlower⟩ := List.mem_map.mp hletter
    have hdigits : ∀ d < 16, (Nat.digitChar d).toLower ≠ 'l' := by decide
    refine ip.not_mem_text ?_ ?_ ?_ hc
    · rintro rfl
      exact absurd hlower (by decide)
    · rintro rfl
      exact absurd hlower (by decide)
    · rintro d hd rfl
      exact hdigits d hd hlower
  have hscope : splitPercent ip.text = (ip.text, none) := by
    have hpercent : ∀ c ∈ ip.text, decide (c ≠ '%') = true := fun c hc => decide_eq_true fun h =>
      ip.not_mem_text (by decide) (by decide) (by decide) (h ▸ hc)
    rw [splitPercent, List.takeWhile_eq_self_iff.mpr hpercent, List.dropWhile_eq_nil_iff.mpr hpercent]
    rfl
  rw [resolveHost?, if_neg hname, hscope]
  simp only [ip.ofText?_text, Option.some_or, Option.map_some]

/-! ### With a port -/

section Target

variable (port : UInt16)

theorem readDecimal?_port : readDecimal? true 65535 (decimalText port.toNat) = some port.toNat :=
  readDecimal?_decimalText true (by have := port.toNat_lt; omega)

theorem colon_not_mem_decimalText (n : Nat) : ':' ∉ decimalText n :=
  fun h => absurd (Decimal.isDigit_of_mem h) (by decide)

theorem bracket_not_mem_target (ip : IpAddress) (n : Nat) :
    '[' ∉ ip.text ++ ':' :: decimalText n := by
  intro h
  rcases List.mem_append.mp h with hip | hport
  · exact ip.not_mem_text (by decide) (by decide) (by decide) hip
  · rcases List.mem_cons.mp hport with hcolon | hdigit
    · exact absurd hcolon (by decide)
    · exact absurd (Decimal.isDigit_of_mem hdigit) (by decide)

/-- An address of version 4 with its port is read as it stands. -/
theorem ofText?_v4_port (a b c d : UInt8) :
    SocketAddress.ofText? ((IpAddress.v4 a b c d).text ++ ':' :: decimalText port.toNat) =
      some { ip := .v4 a b c d, port } := by
  have hcolon : ∀ x ∈ v4Text a b c d, decide (x ≠ ':') = true := fun x hx => decide_eq_true fun h =>
    not_mem_v4Text (by decide) (by decide) a b c d (h ▸ hx)
  have hbracket := bracket_not_mem_target (.v4 a b c d) port.toNat
  unfold SocketAddress.ofText?
  split
  case h_1 rest hrest => exact absurd (hrest ▸ List.mem_cons_self ..) hbracket
  case h_2 =>
    rw [IpAddress.text, List.takeWhile_append_of_pos hcolon, List.dropWhile_append_of_pos hcolon]
    simp [readV4?_v4Text, readDecimal?_port]

/-- What stands before the first colon of an address of version 6 has no points. -/
theorem point_not_mem_takeWhile (l : List UInt16) (n : Nat) :
    '.' ∉ (v6Text l ++ ':' :: decimalText n).takeWhile (· ≠ ':') := by
  unfold v6Text
  split
  case h_1 => exact List.not_mem_nil -- a disguised address begins with the colon
  case h_2 =>
    intro h
    rcases List.mem_append.mp ((List.takeWhile_sublist _).subset h) with hgroups | hport
    · exact not_mem_compressedText l (by decide) (by decide) hgroups
    · rcases List.mem_cons.mp hport with hcolon | hdigit
      · exact absurd hcolon (by decide)
      · exact absurd (Decimal.isDigit_of_mem hdigit) (by decide)

/-- An address of version 6 with a port but without brackets is no address with a port. -/
theorem ofText?_v6_port (groups : Vector UInt16 8) :
    SocketAddress.ofText? ((IpAddress.v6 groups).text ++ ':' :: decimalText port.toNat) = none := by
  have hbracket := bracket_not_mem_target (.v6 groups) port.toNat
  unfold SocketAddress.ofText?
  split
  case h_1 rest hrest => exact absurd (hrest ▸ List.mem_cons_self ..) hbracket
  case h_2 =>
    rw [IpAddress.text, readV4?_eq_none (point_not_mem_takeWhile groups.toList port.toNat)]
    rfl

/-- What is no address with a port is cut at its last colon. -/
theorem resolve?_of_none {host : List Char}
    (h : SocketAddress.ofText? (host ++ ':' :: decimalText port.toNat) = none) :
    resolve? (host ++ ':' :: decimalText port.toNat) =
      (resolveHost? host).map fun r => { ip := r.1, port, scope := r.2 } := by
  -- The port has no colon, so that the last one is the one that joins.
  have hcolon : ∀ x ∈ (decimalText port.toNat).reverse, decide (x ≠ ':') = true :=
    fun x hx => decide_eq_true fun hx' =>
      colon_not_mem_decimalText port.toNat (hx' ▸ List.mem_reverse.mp hx)
  have hreverse : (host ++ ':' :: decimalText port.toNat).reverse =
      (decimalText port.toNat).reverse ++ ':' :: host.reverse := by simp
  rw [resolve?, h]
  simp only [hreverse, List.takeWhile_append_of_pos hcolon, List.dropWhile_append_of_pos hcolon]
  cases hhost : resolveHost? host <;> simp [readDecimal?_port, hhost]

/-- **An address and a port that were joined by a colon are told apart again.** -/
theorem resolve?_text (ip : IpAddress) :
    resolve? (ip.text ++ ':' :: decimalText port.toNat) = some { ip, port } := by
  cases ip with
  | v4 a b c d =>
    have hread := ofText?_v4_port port a b c d
    rw [resolve?, hread]
  | v6 groups =>
    rw [resolve?_of_none port (ofText?_v6_port port groups), resolveHost?_text]
    rfl

end Target

end TestTelemetry
