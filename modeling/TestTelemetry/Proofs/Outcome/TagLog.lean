/-
Tags once their owner has ended.

The last write before a log is closed is what it answers from then on.
-/
import TestTelemetry.Outcome.Tags

namespace TestTelemetry

namespace TagLog

variable {l : TagLog} {key : String} {value : TagValue}

theorem closed_set : (l.set key value).closed = l.closed := by
  unfold set
  split <;> rfl

theorem closed_setAll (tags : List (String × TagValue)) : (l.setAll tags).closed = l.closed := by
  unfold setAll
  induction tags generalizing l with
  | nil => rfl
  | cons t rest ih => rw [List.foldl_cons, ih, closed_set]

/-- A log that is closed takes no more tags. -/
theorem set_of_closed (h : l.closed = true) : l.set key value = l := if_pos h

/-- A log that is open keeps a tag behind the others. -/
theorem set_of_open (h : l.closed = false) :
    l.set key value = { l with entries := l.entries ++ [(key, value)] } :=
  if_neg (by rw [h]; exact Bool.false_ne_true)

theorem setAll_of_closed (h : l.closed = true) (tags : List (String × TagValue)) :
    l.setAll tags = l := by
  unfold setAll
  induction tags with
  | nil => rfl
  | cons t rest ih => rw [List.foldl_cons, set_of_closed h, ih]

theorem close_of_closed (h : l.closed = true) : l.close = l := by
  rw [close, ← h]

/-- A log that is open answers what was written last. -/
theorem get_set_self (h : l.closed = false) : (l.set key value).get key = some value := by
  simp [set, get, h]

/-- Tags of other keys do not change what a log answers. -/
theorem get_set_of_ne {other : String} (h : other ≠ key) :
    (l.set other value).get key = l.get key := by
  unfold set
  split
  · rfl
  · simp [get, h]

theorem get_setAll_of_ne {tags : List (String × TagValue)} (h : ∀ t ∈ tags, t.1 ≠ key) :
    (l.setAll tags).get key = l.get key := by
  unfold setAll
  induction tags generalizing l with
  | nil => rfl
  | cons t rest ih =>
    rw [List.foldl_cons, ih fun u hu => h u (List.mem_cons_of_mem _ hu),
      get_set_of_ne (h t (List.mem_cons_self ..))]

/-- A log that is open takes all tags, one after the other. -/
theorem setAll_of_open (h : l.closed = false) (tags : List (String × TagValue)) :
    l.setAll tags = { l with entries := l.entries ++ tags } := by
  unfold setAll
  induction tags generalizing l with
  | nil => rw [List.append_nil, List.foldl_nil]
  | cons t rest ih =>
    have hrest := ih (l := { l with entries := l.entries ++ [t] }) h
    rw [List.foldl_cons, set_of_open h, hrest, List.append_assoc, List.singleton_append]

/-- Of some tags that an open log takes the last with a key is what it answers then. -/
theorem get_setAll (h : l.closed = false) (tags : List (String × TagValue)) (key : String) :
    (l.setAll tags).get key =
      ((tags.reverse.find? fun t => t.1 = key).map (·.2)).or (l.get key) := by
  rw [setAll_of_open h, get, List.reverse_append, List.find?_append, Option.map_or]
  rfl

@[simp]
theorem get_close : l.close.get key = l.get key := rfl

end TagLog

end TestTelemetry
