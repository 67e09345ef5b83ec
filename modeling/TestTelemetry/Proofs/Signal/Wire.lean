/-
Messages survive the wire.

A message is a line: its only newline is its last character, in its bytes as in its text.  So lines
written one after the other are told apart, and every one of them is read as the message that was
written.

* `Text.trim_framed` — trimming stops at characters that are not blank;
* `decodeLine_compact`, `decodeLine_encodeLine` — a line read, with and without its newline;
* `Survives` — what is said of a kind of messages;
* `messages_survive` — signals, responses and the client that sends and reads them.
-/
import TestTelemetry.Proofs.Json.Reading
import TestTelemetry.Proofs.Signal.RoundTrip
import TestTelemetry.Proofs.Text.Utf8
import TestTelemetry.Session.Server
import TestTelemetry.Signal.Client

namespace TestTelemetry

open Json (Decoder Undoes plain)

/-! ### One line -/

/-- Trimming stops at characters that are not blank. -/
theorem Text.trim_framed {first last : Char} (hfirst : Text.isBlank first = false)
    (hlast : Text.isBlank last = false) (body : List Char) {blanks : List Char}
    (hblanks : ∀ c ∈ blanks, Text.isBlank c = true) :
    Text.trim (first :: body ++ [last] ++ blanks) = first :: body ++ [last] := by
  have hleft : (first :: body ++ [last] ++ blanks).dropWhile Text.isBlank =
      first :: body ++ [last] ++ blanks := by
    simp only [List.cons_append, List.dropWhile_cons, hfirst, Bool.false_eq_true, if_false]
  have hblanks' : ∀ c ∈ blanks.reverse, Text.isBlank c = true :=
    fun c hc => hblanks c (List.mem_reverse.mp hc)
  rw [Text.trim, hleft, List.reverse_append, List.dropWhile_append_of_pos hblanks',
    List.reverse_append, List.reverse_singleton, List.singleton_append, List.dropWhile_cons,
    if_neg (by simp [hlast]), List.reverse_cons, List.reverse_reverse]

/-- The text of an object stands between braces. -/
theorem Json.compact_obj (ms : List (String × Json)) :
    ∃ body, Json.compact (.obj ms) = '{' :: body ++ ['}'] := by
  cases ms with
  | nil => exact ⟨[], by rw [Json.compact]; rfl⟩
  | cons m ms =>
    refine ⟨Json.quote m.1 ++ ':' :: m.2.compact ++ Json.compactMembers ms, ?_⟩
    rw [Json.compact]
    simp only [List.cons_append, List.append_assoc]

section Line

variable {α : Type} {d : Decoder α} {depth : Nat} {ms : List (String × Json)} {x : α}

/-- An object is read as its members are, whatever blanks follow it. -/
theorem decodeLine_append (hplain : plain depth (.obj ms) = true)
    (hread : d .stream (Json.Node.ofJson (.obj ms)) = .ok x) {blanks : List Char}
    (hblanks : ∀ c ∈ blanks, Text.isBlank c = true) :
    decodeLine d (Json.compact (.obj ms) ++ blanks) = .ok x := by
  obtain ⟨body, hbody⟩ := Json.compact_obj ms
  have htrim : Text.trim (Json.compact (.obj ms) ++ blanks) = Json.compact (.obj ms) := by
    rw [hbody]
    exact Text.trim_framed (by decide) (by decide) body hblanks
  have hne : Json.compact (.obj ms) ≠ [] := by
    rw [hbody]
    exact List.cons_ne_nil _ _
  have htext : Json.decodeText d (Json.compact (.obj ms)) = .ok x := by
    rw [Json.decodeText, Json.read_compact hplain, Json.Document.decode]
    simp only [hread]
    rfl
  rw [decodeLine]
  simp only [htrim, hne, if_false, htext]

/-- A line is read with or without its newline. -/
theorem decodeLine_compact (hplain : plain depth (.obj ms) = true)
    (hread : d .stream (Json.Node.ofJson (.obj ms)) = .ok x) :
    decodeLine d (Json.compact (.obj ms)) = .ok x := by
  have hnone : ∀ c ∈ ([] : List Char), Text.isBlank c = true := by simp
  simpa using decodeLine_append hplain hread hnone

theorem decodeLine_encodeLine (hplain : plain depth (.obj ms) = true)
    (hread : d .stream (Json.Node.ofJson (.obj ms)) = .ok x) :
    decodeLine d (encodeLine (.obj ms)) = .ok x :=
  decodeLine_append hplain hread (List.forall_mem_singleton.mpr (by decide))

end Line

theorem newline_not_mem_compact {depth : Nat} {v : Json} (h : plain depth v = true) :
    '\n' ∉ v.compact :=
  fun hmem => absurd (Json.control_not_mem_compact v h hmem) (by decide)

/-! ### Bytes -/

/-- The bytes of a message. -/
def lineBytes (v : Json) : List UInt8 := Text.encode (String.ofList (encodeLine v))

theorem lineBytes_eq (v : Json) :
    lineBytes v = Text.encode (String.ofList v.compact) ++ [10] := by
  rw [lineBytes, encodeLine, Text.encode_append, Text.encode_ofList ['\n']]
  rfl

theorem newline_not_mem_encode {cs : List Char} (h : '\n' ∉ cs) :
    10 ∉ Text.encode (String.ofList cs) := by
  rw [Text.encode_ofList, List.mem_flatMap]
  rintro ⟨c, hc, hnewline⟩
  exact h (Text.newline_mem_encodeChar.mp hnewline ▸ hc)

theorem textLines_encode (ls : List (List Char)) :
    textLines (ls.map fun l => Text.encode (String.ofList l)) = ls := by
  induction ls with
  | nil => rfl
  | cons l ls ih => rw [List.map_cons, textLines, Text.decode?_encode, ih]

/-- The lines of the bytes of a text are the lines of the text. -/
theorem textLines_byteLines (cs : List Char) :
    textLines (byteLines (Text.encode (String.ofList cs))) = endedPieces '\n' cs := by
  rw [byteLines, Text.endedPieces_encode, textLines_encode]

theorem firstLine_append {l : List UInt8} (h : 10 ∉ l) (rest : List UInt8) :
    firstLine (l ++ 10 :: rest) = l ++ [10] := by
  induction l with
  | nil => rfl
  | cons b l ih =>
    rw [List.mem_cons, not_or] at h
    rw [List.cons_append, firstLine, if_neg (Ne.symm h.1), ih h.2]
    rfl

/-! ### Messages -/

/-- Messages of a kind survive the wire. -/
structure Survives {α : Type} (d : Decoder α) (write : α → Json) : Prop where
  /-- The only newline among the bytes of a message is the last of them. -/
  one_newline : ∀ x, ∃ bytes, lineBytes (write x) = bytes ++ [10] ∧ 10 ∉ bytes
  /-- A line is read as the message that was written. -/
  read_back : ∀ x, decodeLine d (encodeLine (write x)) = .ok x
  /-- Messages that are written one after the other are read as these messages. -/
  told_apart : ∀ xs : List α,
    (textLines (byteLines (xs.flatMap fun x => lineBytes (write x)))).map (decodeLine d) =
      xs.map .ok

theorem Json.Undoes.survives {α : Type} {d : Decoder α} {write : α → Json}
    {members : α → List (String × Json)} {depth : Nat} (h : Undoes d write)
    (hobj : ∀ x, write x = .obj (members x)) (hplain : ∀ x, plain depth (write x) = true) :
    Survives d write where
  one_newline x :=
    ⟨_, lineBytes_eq _, newline_not_mem_encode (newline_not_mem_compact (hplain x))⟩
  read_back x := by
    rw [hobj]
    exact decodeLine_encodeLine (hobj x ▸ hplain x) (hobj x ▸ h .stream x)
  told_apart xs := by
    have hlines : endedPieces 10 (xs.flatMap fun x => lineBytes (write x)) =
        (xs.map fun x => (write x).compact).map fun l => Text.encode (String.ofList l) := by
      have hopen : ∀ l ∈ xs.map fun x => Text.encode (String.ofList (write x).compact), 10 ∉ l :=
        List.forall_mem_map.mpr fun x _ =>
          newline_not_mem_encode (newline_not_mem_compact (hplain x))
      have hcut := endedPieces_lines hopen
      rw [List.flatMap_map] at hcut
      simp only [lineBytes_eq]
      rw [hcut, List.map_map]
      rfl
    rw [byteLines, hlines, textLines_encode, List.map_map]
    refine List.map_congr_left fun x _ => ?_
    show decodeLine d (write x).compact = .ok x
    rw [hobj]
    exact decodeLine_compact (hobj x ▸ hplain x) (hobj x ▸ h .stream x)

theorem Signal.survives : Survives Signal.decoder Signal.toJson :=
  Signal.undoes.survives (fun _ => rfl) (Signal.plain_toJson 0)

theorem Response.survives : Survives Response.decoder Response.toJson :=
  Response.undoes.survives (fun _ => rfl) (Response.plain_toJson 0)

namespace Client

/-- A client reads the response that was written. -/
theorem readResponse_lineBytes (r : Response) :
    readResponse (some (lineBytes r.toJson)) = .ok r := by
  obtain ⟨bytes, hbytes, hnewline⟩ := Response.survives.one_newline r
  have hfirst : firstLine (lineBytes r.toJson) = lineBytes r.toJson := by
    rw [hbytes]
    exact firstLine_append hnewline []
  have hline : Text.decode? (lineBytes r.toJson) = some (encodeLine r.toJson) :=
    Text.decode?_encode _
  cases hreply : lineBytes r.toJson with
  | nil => exact absurd (hreply.symm.trans hbytes) (by simp)
  | cons b rest =>
    rw [hreply] at hfirst hline
    rw [readResponse, hfirst, hline]
    · simp only [Response.survives.read_back r]
    · exact fun h => nomatch h

end Client

/-- **Messages survive the wire.**  Every signal and every response is read back from its line,
alone and among others.  A client that sends a signal gets the response that was written; one that
asks for something gets it too, or is rejected with the message if it is an error. -/
theorem messages_survive :
    Survives Signal.decoder Signal.toJson ∧ Survives Response.decoder Response.toJson ∧
    ∀ (s : Signal) (r : Response),
      Client.send? (fun _ => some (lineBytes r.toJson)) s = .ok r ∧
      (∀ kind message, Client.request? (fun _ => some (lineBytes r.toJson)) s =
          .error (.rejected kind message) ↔ kind = s.kind.name ∧ r = .error message) ∧
      ∀ answer, Client.request? (fun _ => some (lineBytes r.toJson)) s = .ok answer ↔
        answer = r ∧ r.isError = false := by
  refine ⟨Signal.survives, Response.survives, fun s r => ?_⟩
  have hsend : Client.send? (fun _ => some (lineBytes r.toJson)) s = .ok r :=
    Client.readResponse_lineBytes r
  refine ⟨hsend, fun kind message => ?_, fun answer => ?_⟩
  · rw [Client.request?, hsend]
    cases r <;> simp [eq_comm]
  · rw [Client.request?, hsend]
    cases r <;> simp [Response.isError, eq_comm]

end TestTelemetry
