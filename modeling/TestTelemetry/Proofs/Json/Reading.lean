/-
The text of a value is read as the shape of that value.

The induction is on the value.  What has been read after its text is not always the same as if the
value had been handed on, since only the next character tells where a number ends.

* `Json.State.Like` — states that go on alike where a value can end;
* `Json.like_compact` — reading the text of a plain value hands on its shape;
* `Json.read_compact` — a whole text.
-/
import TestTelemetry.Proofs.Json.Escape
import TestTelemetry.Proofs.Json.Plain

namespace TestTelemetry.Json

open Decimal (naturalPhase)

/-! ### First characters -/

/-- A digit is no blank and begins nothing but a number. -/
theorem digit_ne {c : Char} (h : c.isDigit = true) :
    isSpace c = false ∧ c ≠ ']' ∧ c ≠ '"' ∧ c ≠ '{' ∧ c ≠ '[' ∧ c ≠ 'n' ∧ c ≠ 't' ∧ c ≠ 'f' := by
  have hne : ∀ d : Char, d.isDigit = false → c ≠ d := by
    rintro d hd rfl
    rw [hd] at h
    cases h
  have hspace : isSpace c = false := by
    simp only [isSpace, hne ' ' rfl, hne '\n' rfl, hne '\t' rfl, hne '\r' rfl, decide_false,
      Bool.or_self]
  exact ⟨hspace, hne ']' rfl, hne '"' rfl, hne '{' rfl, hne '[' rfl, hne 'n' rfl, hne 't' rfl,
    hne 'f' rfl⟩

/-- The text of a plain value begins with no blank and with no end of an array. -/
theorem compact_head {depth : Nat} {v : Json} (h : plain depth v = true) :
    ∃ c cs, compact v = c :: cs ∧ isSpace c = false ∧ c ≠ ']' := by
  cases v with
  | null => exact ⟨'n', _, by rw [compact], by decide, by decide⟩
  | bool b => cases b <;> exact ⟨_, _, by rw [compact], by decide, by decide⟩
  | int n =>
    obtain ⟨m, rfl, -⟩ := plain_int h
    obtain ⟨c, cs, hdigits, -⟩ := Decimal.scan_natural m
    obtain ⟨hspace, hbracket, -⟩ := digit_ne (Decimal.isDigit_of_mem
      (show c ∈ Nat.toDigits 10 m from hdigits ▸ List.mem_cons_self ..))
    exact ⟨c, cs, by rw [compact, intText_natural, hdigits], hspace, hbracket⟩
  | float x => rw [plain] at h; cases h
  | str s => exact ⟨'"', _, by rw [compact, quote]; rfl, by decide, by decide⟩
  | arr items =>
    cases items with
    | nil => exact ⟨'[', _, by rw [compact], by decide, by decide⟩
    | cons v vs => exact ⟨'[', _, by rw [compact]; rfl, by decide, by decide⟩
  | obj members =>
    cases members with
    | nil => exact ⟨'{', _, by rw [compact], by decide, by decide⟩
    | cons m ms => exact ⟨'{', _, by rw [compact]; rfl, by decide, by decide⟩

/-! ### Strings and keys -/

namespace State

/-- A quoted text is gathered as far as it goes on, in a value as in a key. -/
theorem foldl_follow (quoting : List Char → Escape → State)
    (hquoting : ∀ {raw e e' c}, e.next c = .more e' →
      step (quoting raw e) c = quoting (c :: raw) e')
    {raw : List Char} {e e' : Escape} {cs : List Char} (h : e.follow cs = some e') :
    cs.foldl step (quoting raw e) = quoting (cs.reverse ++ raw) e' := by
  induction cs generalizing raw e with
  | nil =>
    obtain rfl := Option.some_inj.mp h
    rfl
  | cons c cs ih =>
    rw [Escape.follow] at h
    cases hnext : e.next c with
    | close => rw [hnext] at h; cases h
    | bad => rw [hnext] at h; cases h
    | more after =>
      rw [hnext] at h
      rw [List.foldl_cons, hquoting hnext, ih h, List.reverse_cons, List.append_assoc,
        List.singleton_append]

/-- A quoted text is read up to its closing quote. -/
theorem foldl_quote (quoting : List Char → Escape → State)
    (hquoting : ∀ {raw e e' c}, e.next c = .more e' →
      step (quoting raw e) c = quoting (c :: raw) e')
    {before : State} (hopen : step before '"' = quoting [] .plain) (s : String) :
    (quote s).foldl step before = step (quoting (escape s.toList).reverse .plain) '"' := by
  rw [quote, List.cons_append, List.foldl_cons, hopen, List.foldl_append,
    foldl_follow quoting hquoting (Escape.follow_escape s.toList), List.append_nil]
  rfl

theorem foldl_string (s : String) (stack : List Frame) :
    (quote s).foldl step (reading .value stack) = put (.string (escape s.toList)) stack := by
  have hquoting : ∀ {raw e e' c}, Escape.next e c = .more e' →
      step (reading (.quoted raw e) stack) c = reading (.quoted (c :: raw) e') stack := by
    intro raw e e' c hnext
    simp only [step, resume, stepIn, hnext]
  rw [foldl_quote (fun raw e => reading (.quoted raw e) stack) hquoting rfl]
  show put (.string (escape s.toList).reverse.reverse) stack = _
  rw [List.reverse_reverse]

theorem foldl_key (s : String) (members : List (Key × Node)) (stack : List Frame) :
    (quote s).foldl step (reading (.nextKey members) stack) =
      reading (.colon members ⟨escape s.toList, true⟩) stack := by
  have hquoting : ∀ {raw e e' c}, Escape.next e c = .more e' →
      step (reading (.key members raw e) stack) c = reading (.key members (c :: raw) e') stack := by
    intro raw e e' c hnext
    simp only [step, resume, stepIn, hnext]
  rw [foldl_quote (fun raw e => reading (.key members raw e) stack) hquoting rfl]
  show reading (.colon members ⟨(escape s.toList).reverse.reverse, true⟩) stack = _
  rw [List.reverse_reverse]

theorem foldl_firstKey (s : String) (stack : List Frame) :
    (quote s).foldl step (reading .firstKey stack) =
      reading (.colon [] ⟨escape s.toList, true⟩) stack :=
  foldl_key s [] stack

/-! ### Where a value can end -/

/-- States that go on alike where a value can end. -/
structure Like (s t : State) : Prop where
  finish : s.finish = t.finish
  step : ∀ c, c = ',' ∨ c = ']' ∨ c = '}' → s.step c = t.step c

theorem Like.of_eq {s t : State} (h : s = t) : Like s t := h ▸ ⟨rfl, fun _ _ => rfl⟩

theorem step_put (v : Node) (stack : List Frame) (c : Char) :
    step (put v stack) c = resume (put v stack) c := by
  cases stack with
  | nil => rfl
  | cons frame stack => cases frame <;> rfl

/-- A natural number is handed on by what follows it. -/
theorem like_natural (n : Nat) (stack : List Frame) :
    Like ((Nat.toDigits 10 n).foldl step (reading .value stack))
      (put (.number (Nat.toDigits 10 n)) stack) := by
  obtain ⟨c, cs, hdigits, hfirst, hmore⟩ := Decimal.scan_natural n
  obtain ⟨hspace, -, hne⟩ := digit_ne (Decimal.isDigit_of_mem
    (show c ∈ Nat.toDigits 10 n from hdigits ▸ List.mem_cons_self ..))
  have hbegin : step (reading .value stack) c = reading (.number (naturalPhase n) [c]) stack := by
    simp only [step, resume, stepIn, hspace, Bool.false_eq_true, if_false, begin?, hne, hfirst]
  -- After the first digit the phase stays, so only the digits are gathered.
  have hdigits' : ∀ raw, cs.foldl step (reading (.number (naturalPhase n) raw) stack) =
      reading (.number (naturalPhase n) (cs.reverse ++ raw)) stack := by
    clear hdigits
    induction cs with
    | nil => exact fun raw => rfl
    | cons d cs ih =>
      intro raw
      have hstep : step (reading (.number (naturalPhase n) raw) stack) d =
          reading (.number (naturalPhase n) (d :: raw)) stack := by
        simp only [step, hmore d (List.mem_cons_self ..)]
      rw [List.foldl_cons, hstep, ih fun d hd => hmore d (List.mem_cons_of_mem _ hd),
        List.reverse_cons, List.append_assoc, List.singleton_append]
  have hend : (cs.reverse ++ [c]).reverse = c :: cs := by simp
  -- The numeral ends with the text, or with a character that is read once more behind it.
  rw [hdigits, List.foldl_cons, hbegin, hdigits']
  refine ⟨?_, fun d hd => ?_⟩
  · simp only [finish, Decimal.complete_naturalPhase, if_true, hend]
    cases stack with
    | nil => rfl
    | cons frame stack => cases frame <;> rfl
  · have hstop : (naturalPhase n).next d = .stop := by
      rcases hd with rfl | rfl | rfl <;> exact Decimal.naturalPhase_next n rfl (by decide)
    rw [step_put]
    simp only [step, hstop, hend]

end State

/-! ### Values -/

open State

theorem foldl_firstItem {depth : Nat} {v : Json} (h : plain depth v = true) (stack : List Frame) :
    (compact v).foldl step (reading .firstItem stack) =
      (compact v).foldl step (reading .value (.array [] :: stack)) := by
  obtain ⟨c, cs, hcompact, hspace, hbracket⟩ := compact_head h
  have hstep : step (reading .firstItem stack) c =
      step (reading .value (.array [] :: stack)) c := by
    simp only [step, resume, stepIn, hspace, hbracket, Bool.false_eq_true, if_false]
  rw [hcompact, List.foldl_cons, List.foldl_cons, hstep]

mutual

/-- **Reading the text of a plain value hands on its shape.** -/
theorem like_compact {depth : Nat} : ∀ (v : Json), plain depth v = true → ∀ stack : List Frame,
    Like ((compact v).foldl step (reading .value stack)) (put (Node.ofJson v) stack)
  | null, _, stack => .of_eq (by rw [compact, Node.ofJson]; rfl)
  | bool true, _, stack => .of_eq (by rw [compact, Node.ofJson]; rfl)
  | bool false, _, stack => .of_eq (by rw [compact, Node.ofJson]; rfl)
  | int n, h, stack => by
    obtain ⟨m, rfl, -⟩ := plain_int h
    rw [compact, Node.ofJson, intText_natural]
    exact like_natural m stack
  | float x, h, stack => by rw [plain] at h; cases h
  | str s, _, stack => .of_eq (by rw [compact, Node.ofJson]; exact foldl_string s stack)
  | arr [], _, stack => .of_eq (by rw [compact, Node.ofJson, Node.ofItems]; rfl)
  | arr (v :: vs), h, stack => by
    rw [plain, plainItems, Bool.and_eq_true, Bool.and_eq_true] at h
    obtain ⟨-, hv, hvs⟩ := h
    have hfirst : Like ((compact v).foldl step (reading .firstItem stack))
        (reading (.afterItem [Node.ofJson v]) stack) := by
      rw [foldl_firstItem hv]
      exact like_compact v hv (.array [] :: stack)
    -- The bracket is read alike, whatever the last item was.
    have hrest := like_compactItems vs hvs hfirst
    have hend : (compact (arr (v :: vs))).foldl step (reading .value stack) =
        step ((compactItems vs).foldl step ((compact v).foldl step (reading .firstItem stack)))
          ']' := by
      simp only [compact, List.cons_append, List.foldl_cons, List.foldl_append, List.foldl_nil]
      rfl
    refine .of_eq ?_
    rw [hend, hrest.step ']' (by decide), Node.ofJson, Node.ofItems]
    show put (.array ((Node.ofItems vs).reverse ++ [Node.ofJson v]).reverse true) stack = _
    rw [List.reverse_append, List.reverse_reverse]
    rfl
  | obj [], _, stack => .of_eq (by rw [compact, Node.ofJson, Node.ofMembers]; rfl)
  | obj ((k, v) :: ms), h, stack => by
    rw [plain, plainMembers, Bool.and_eq_true, Bool.and_eq_true] at h
    obtain ⟨-, hv, hms⟩ := h
    have hfirst : Like ((compact v).foldl step
          (reading .value (.member [] ⟨escape k.toList, true⟩ :: stack)))
        (reading (.afterMember [(⟨escape k.toList, true⟩, Node.ofJson v)]) stack) :=
      like_compact v hv _
    have hrest := like_compactMembers ms hms hfirst
    have hend : (compact (obj ((k, v) :: ms))).foldl step (reading .value stack) =
        step ((compactMembers ms).foldl step ((compact v).foldl step
          (reading .value (.member [] ⟨escape k.toList, true⟩ :: stack)))) '}' := by
      simp only [compact, List.cons_append, List.append_assoc, List.foldl_cons,
        List.foldl_append, List.foldl_nil]
      rw [show step (reading .value stack) '{' = reading .firstKey stack from rfl, foldl_firstKey]
      rfl
    refine .of_eq ?_
    rw [hend, hrest.step '}' (by decide), Node.ofJson, Node.ofMembers]
    show put (.object ((Node.ofMembers ms).reverse ++ [_]).reverse true) stack = _
    rw [List.reverse_append, List.reverse_reverse]
    rfl

/-- The items of an array are gathered, newest first. -/
theorem like_compactItems {depth : Nat} : ∀ (vs : List Json), plainItems depth vs = true →
    ∀ {items : List Node} {stack : List Frame} {s : State},
    Like s (reading (.afterItem items) stack) →
      Like ((compactItems vs).foldl step s)
        (reading (.afterItem ((Node.ofItems vs).reverse ++ items)) stack)
  | [], _, items, stack, s, hs => by rw [compactItems, Node.ofItems]; exact hs
  | v :: vs, h, items, stack, s, hs => by
    rw [plainItems, Bool.and_eq_true] at h
    obtain ⟨hv, hvs⟩ := h
    have hcomma : step s ',' = reading .value (.array items :: stack) := hs.step ',' (by decide)
    have hnext := like_compactItems vs hvs (like_compact v hv (.array items :: stack))
    rw [compactItems, Node.ofItems, List.cons_append, List.foldl_cons, hcomma, List.foldl_append,
      List.reverse_cons, List.append_assoc]
    exact hnext

/-- The members of an object are gathered, newest first. -/
theorem like_compactMembers {depth : Nat} : ∀ (ms : List (String × Json)),
    plainMembers depth ms = true →
    ∀ {members : List (Key × Node)} {stack : List Frame} {s : State},
    Like s (reading (.afterMember members) stack) →
      Like ((compactMembers ms).foldl step s)
        (reading (.afterMember ((Node.ofMembers ms).reverse ++ members)) stack)
  | [], _, members, stack, s, hs => by rw [compactMembers, Node.ofMembers]; exact hs
  | (k, v) :: ms, h, members, stack, s, hs => by
    rw [plainMembers, Bool.and_eq_true] at h
    obtain ⟨hv, hms⟩ := h
    have hcomma : step s ',' = reading (.nextKey members) stack := hs.step ',' (by decide)
    have hnext := like_compactMembers ms hms
      (like_compact v hv (.member members ⟨escape k.toList, true⟩ :: stack))
    simp only [compactMembers, List.cons_append, List.foldl_cons, List.foldl_append]
    rw [hcomma, foldl_key, Node.ofMembers, List.reverse_cons, List.append_assoc]
    exact hnext

end

/-- **The text of a plain value is read as its shape**, and nothing follows it. -/
theorem read_compact {depth : Nat} {v : Json} (h : plain depth v = true) :
    Document.read (compact v) = ⟨Node.ofJson v, false⟩ :=
  (like_compact v h []).finish

end TestTelemetry.Json
