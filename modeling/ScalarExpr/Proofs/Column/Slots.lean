import ScalarExpr.Column.Buffer
import ScalarExpr.Proofs.Traversal
import ScalarExpr.Proofs.Evaluation.Rows
/-!
Columns as lists of results of a kind: what a buffer holds once a column was put into it.
-/
namespace ScalarExpr

set_option autoImplicit true

/-- The failure says that a column or an item of it cannot be converted. -/
def Failure.isOfColumn : Failure → Bool
  | .error (.column _) | .fault .integerOverflow => true
  | _ => false

theorem Failure.isRefusal_of_isOfColumn {f : Failure} (h : f.isOfColumn) : f.isRefusal = false := by
  cases f with
  | error e =>
    cases e with
    | column => rfl
    | _ => cases h
  | fault => rfl

/-- The slots of a filled buffer. -/
def Buffer.slots (b : Buffer) : (k : Kind) → Except Failure (List (Option k.Item))
  | .int => b.int64s
  | .real => b.float64s
  | .text => b.strings

namespace Column

/-- The slots of the column in a new buffer for results of the kind. -/
def slots (c : Column) (k : Kind) : Except Failure (List (Option k.Item)) := do
  let b ← (Buffer.empty k.category).fill c
  b.slots k

/-- A column that buffers do not hold as it is gives the slots of what it is converted to. -/
theorem slots_of_cast {c : Column} (h : k.category.accepts c.type = false) :
    c.slots k =
      c.cast k.category >>= fun d => Buffer.slots ⟨k.category, some d, false⟩ k := by
  rw [slots, Buffer.fill_eq, if_neg (by rw [Buffer.empty, h]; exact Bool.false_ne_true),
    Buffer.empty]
  cases c.cast k.category with
  | error f => rfl
  | ok d => cases k <;> rfl

theorem exists_slots {c : Column} (h : (Buffer.empty k.category).fill c = .ok b) :
    ∃ xs, b.slots k = .ok xs := by
  rw [Buffer.fill_eq] at h
  split at h
  case isTrue ha =>
    cases h
    obtain ⟨type, xs⟩ := c
    cases k with
    | int =>
      cases type with
      | int64 | uint64 => exact ⟨_, rfl⟩
      | _ => cases ha
    | real =>
      cases type with
      | float64 => exact ⟨_, rfl⟩
      | _ => cases ha
    | text =>
      cases type with
      | utf8 => exact ⟨_, rfl⟩
      | _ => cases ha
  case isFalse =>
    obtain ⟨d, hd, hb⟩ := bind_ok_iff.1 h
    cases hb
    cases k with
    | int | real | text =>
      obtain ⟨xs, -, hx⟩ := bind_ok_iff.1 hd
      cases hx
      exact ⟨xs, rfl⟩

theorem exists_slots_of_accepts {c : Column} (h : k.category.accepts c.type) :
    ∃ xs, c.slots k = .ok xs := by
  have hf : (Buffer.empty k.category).fill c = .ok ⟨k.category, some c, c.hasNull⟩ := by
    rw [Buffer.fill_eq]
    exact if_pos h
  obtain ⟨xs, hx⟩ := exists_slots hf
  exact ⟨xs, bind_ok_iff.2 ⟨_, hf, hx⟩⟩

theorem fill_error_iff {b : Buffer} {c : Column} (hb : b.category = k.category) :
    b.fill c = .error f ↔ c.slots k = .error f := by
  rw [Buffer.fill_eq, hb]
  split
  case isTrue ha =>
    obtain ⟨xs, hx⟩ := exists_slots_of_accepts ha
    rw [hx]
    exact ⟨nofun, nofun⟩
  case isFalse ha =>
    rw [slots_of_cast (eq_false_of_ne_true ha), bind_error_iff, bind_error_iff]
    apply or_congr_right
    constructor
    · intro h
      obtain ⟨d, -, h⟩ := h
      cases h
    · intro h
      obtain ⟨d, hd, h⟩ := h
      cases k with
      | int | real | text =>
        obtain ⟨xs, -, hx⟩ := bind_ok_iff.1 hd
        cases hx
        cases h

theorem slots_int {c : Column} (h : c.type ≠ .uint64) : c.slots .int = c.toInts .int := by
  have hc (hn : Category.int.accepts c.type = false) : c.slots .int = c.toInts .int := by
    rw [slots_of_cast (k := .int) hn]
    show (c.toInts .int >>= fun xs => pure (⟨.int64, xs⟩ : Column)) >>= _ = _
    cases c.toInts .int <;> rfl
  obtain ⟨type, xs⟩ := c
  cases type with
  | uint64 => exact (h rfl).elim
  | int64 => rfl
  | _ => exact hc rfl

theorem slots_real (c : Column) : c.slots .real = c.toReals := by
  have hc (hn : Category.real.accepts c.type = false) : c.slots .real = c.toReals := by
    rw [slots_of_cast (k := .real) hn]
    show (c.toReals >>= fun xs => pure (⟨.float64, xs⟩ : Column)) >>= _ = _
    cases c.toReals <;> rfl
  obtain ⟨type, xs⟩ := c
  cases type with
  | float64 => rfl
  | _ => exact hc rfl

theorem slots_text (c : Column) : c.slots .text = c.toTexts := by
  have hc (hn : Category.text.accepts c.type = false) : c.slots .text = c.toTexts := by
    rw [slots_of_cast (k := .text) hn]
    show (c.toTexts >>= fun xs => pure (⟨.utf8, xs⟩ : Column)) >>= _ = _
    cases c.toTexts <;> rfl
  obtain ⟨type, xs⟩ := c
  cases type with
  | utf8 => rfl
  | _ => exact hc rfl

/-- The conversion keeps the number of slots, and its failures are about items or types of
columns. -/
structure Converts (c : Column) (r : Except Failure (List (Option α))) : Prop where
  length : ∀ xs, r = .ok xs → xs.length = c.size
  failure : ∀ f, r = .error f → f.isOfColumn

namespace Converts

theorem ok {xs : List (Option α)} (h : xs.length = c.size) : Converts c (.ok xs) where
  length ys hy := by
    cases hy
    exact h
  failure f hf := by cases hf

theorem error {f : Failure} (h : f.isOfColumn) : Converts (α := α) c (.error f) where
  length ys hy := by cases hy
  failure g hg := by
    cases hg
    exact h

theorem mapSlots {xs : List (Option α)} {f : α → Option β} (h : xs.length = c.size) :
    Converts c (.ok (Column.mapSlots xs f)) :=
  .ok (by rw [Column.mapSlots, List.length_map, h])

theorem mapSlotsM {xs : List (Option α)} {f : α → Except Failure β} (h : xs.length = c.size)
    (hf : ∀ a e, f a = .error e → e.isOfColumn) :
    Converts c (Column.mapSlotsM xs f) where
  length ys hy := (mapM_ok_iff.1 hy).length_eq.symm.trans h
  failure e he := by
    obtain ⟨before, x, after, -, -, hx⟩ := mapM_error_iff.1 he
    cases x with
    | none => cases hx
    | some a => exact hf a e (map_error_iff.1 hx)

theorem map {r : Except Failure (List (Option α))} {f : α → Option β} (h : Converts c r) :
    Converts c (do return Column.mapSlots (← r) f) := by
  cases r with
  | error e => exact .error (h.failure e rfl)
  | ok xs => exact .mapSlots (h.length xs rfl)

end Converts

theorem converts_toInts (c : Column) (t : Category) : Converts c (c.toInts t) := by
  unfold toInts
  split
  case h_14 =>
    split
    · exact .mapSlots rfl
    · exact .error rfl
  all_goals first | exact .mapSlots rfl | exact .ok rfl | exact .error rfl

theorem converts_toReals (c : Column) : Converts c c.toReals := by
  unfold toReals
  split
  all_goals
    first | exact .mapSlots rfl | exact .ok rfl | exact .error rfl | exact (converts_toInts c _).map

theorem momentText_error (h : momentText t unit shown count = .error f) : f.isOfColumn := by
  unfold momentText at h
  dsimp only at h
  split at h
  · cases h
  · cases h
    rfl

theorem dateText_error (h : dateText days = .error f) : f.isOfColumn := by
  unfold dateText at h
  dsimp only at h
  split at h
  · cases h
  · cases h
    rfl

theorem dateTimeText_error (h : dateTimeText millis = .error f) : f.isOfColumn := by
  unfold dateTimeText at h
  dsimp only at h
  split at h
  · cases h
  · cases h
    rfl

theorem durationColumnText_error (h : durationColumnText unit count = .error f) :
    f.isOfColumn := by
  unfold durationColumnText at h
  split at h
  · cases h
  · cases h
    rfl

theorem converts_toTexts (c : Column) : Converts c c.toTexts := by
  unfold toTexts
  split
  case h_9 => exact .mapSlotsM rfl fun _ _ h => momentText_error h
  case h_10 =>
    split
    · exact .mapSlotsM rfl fun _ _ h => momentText_error h
    · exact .error rfl
  case h_11 => exact .mapSlotsM rfl fun _ _ h => durationColumnText_error h
  case h_12 => exact .mapSlotsM rfl fun _ _ h => dateText_error h
  case h_13 => exact .mapSlotsM rfl fun _ _ h => dateTimeText_error h
  all_goals
    first | exact .mapSlots rfl | exact .ok rfl | exact .error rfl | exact (converts_toInts c _).map

theorem converts_slots (c : Column) (k : Kind) : Converts c (c.slots k) := by
  cases k with
  | real =>
    rw [slots_real]
    exact converts_toReals c
  | text =>
    rw [slots_text]
    exact converts_toTexts c
  | int =>
    by_cases h : c.type = .uint64
    · obtain ⟨type, xs⟩ := c
      cases h
      exact .ok (by rw [List.length_map, size])
    · rw [slots_int h]
      exact converts_toInts c .int

end Column

end ScalarExpr
