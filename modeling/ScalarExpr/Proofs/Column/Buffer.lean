import ScalarExpr.Proofs.Column.Slots
/-!
Output buffers. Whatever is put in, dropped and taken out, and in whatever order, a buffer holds a
column of its category or none, and that column is what was put in last.
-/
namespace ScalarExpr

set_option autoImplicit true

/-! ### Conversions to all categories -/

namespace Column

variable {c d : Column} {t : Category}

theorem checkedInt64_error (h : checkedInt64 n = .error f) : f = .integerOverflow := by
  unfold checkedInt64 at h
  split at h
  · cases h
  · cases h
    rfl

theorem Converts.checked {xs : List (Option α)} {f : α → Except Fault β} (h : xs.length = c.size)
    (hf : ∀ a e, f a = .error e → e = .integerOverflow) :
    Converts c (Failure.ofFault (Column.mapSlotsM xs f)) := by
  cases hm : Column.mapSlotsM xs f with
  | ok ys => exact .ok ((mapM_ok_iff.1 hm).length_eq.symm.trans h)
  | error e =>
    obtain ⟨before, x, after, -, -, hx⟩ := mapM_error_iff.1 hm
    cases x with
    | none => cases hx
    | some a =>
      obtain rfl := hf a e (map_error_iff.1 hx)
      exact .error rfl

theorem converts_toDecimals (c : Column) : Converts c c.toDecimals := by
  unfold toDecimals
  split
  all_goals first | exact .mapSlots rfl | exact .error rfl | exact (converts_toInts c _).map

theorem converts_toDatetimes (c : Column) : Converts c c.toDatetimes := by
  unfold toDatetimes
  split
  case h_2 | h_3 => exact .checked rfl fun _ _ h => checkedInt64_error h
  all_goals first | exact .mapSlots rfl | exact .error rfl | exact converts_toInts c _

theorem converts_toDurations (c : Column) : Converts c c.toDurations := by
  unfold toDurations
  split
  all_goals first | exact .mapSlots rfl | exact .error rfl | exact converts_toInts c _

/-- A conversion to a category is one of the slots to those of its column type. -/
theorem exists_cast_eq (c : Column) (t : Category) :
    ∃ r : Except Failure (List (Option t.columnType.Item)), Converts c r ∧
      c.cast t = r.map fun xs => ⟨t.columnType, xs⟩ := by
  cases t with
  | int => exact ⟨_, converts_toInts c .int, rfl⟩
  | real => exact ⟨_, converts_toReals c, rfl⟩
  | decimal => exact ⟨_, converts_toDecimals c, rfl⟩
  | text => exact ⟨_, converts_toTexts c, rfl⟩
  | datetime => exact ⟨_, converts_toDatetimes c, rfl⟩
  | duration => exact ⟨_, converts_toDurations c, rfl⟩

/-- A column that is converted has the type of the category and as many slots as before. -/
theorem cast_ok (h : c.cast t = .ok d) : d.type = t.columnType ∧ d.size = c.size := by
  obtain ⟨r, hr, he⟩ := c.exists_cast_eq t
  rw [he] at h
  obtain ⟨xs, hx, rfl⟩ := map_ok_iff.1 h
  exact ⟨rfl, hr.length xs hx⟩

theorem cast_error (h : c.cast t = .error f) : f.isOfColumn := by
  obtain ⟨r, hr, he⟩ := c.exists_cast_eq t
  rw [he] at h
  exact hr.failure f (map_error_iff.1 h)

end Column

theorem Category.accepts_columnType (t : Category) : t.accepts t.columnType := by
  cases t <;> rfl

/-! ### What a buffer stores -/

/-- What a buffer of the category stores of a column. -/
def Category.stored (t : Category) (c : Column) : Except Failure Column :=
  if t.accepts c.type then .ok c else c.cast t

theorem Category.stored_ok {t : Category} (h : t.stored c = .ok d) :
    t.accepts d.type ∧ d.size = c.size := by
  unfold stored at h
  split at h
  case isTrue ha =>
    cases h
    exact ⟨ha, rfl⟩
  case isFalse =>
    obtain ⟨ht, hs⟩ := Column.cast_ok h
    rw [ht]
    exact ⟨t.accepts_columnType, hs⟩

theorem Category.stored_error {t : Category} (h : t.stored c = .error f) : f.isOfColumn := by
  unfold stored at h
  split at h
  · cases h
  · exact Column.cast_error h

namespace Buffer

variable {b b' : Buffer} {c d : Column} {t : Category}

/-- A column that is put in is stored, or it fails and the buffer is as it was. -/
theorem exists_put_run (b : Buffer) (c : Column) :
    ∃ tabulated : Column → Bool, (put c).run b =
      match b.category.stored c with
      | .ok d => .ok () ⟨b.category, some d, tabulated d⟩
      | .error f => .error f b := by
  rw [put_run]
  unfold Category.stored
  cases b.category.accepts c.type with
  | true => exact ⟨fun _ => c.hasNull, rfl⟩
  | false => exact ⟨fun d => d.hasNull || Column.castTabulates c.type b.category, rfl⟩

/-- An array of a type that no column has and no category accepts. Its conversions give columns of
the type that they are asked for, with as many slots. -/
structure ForeignArray where
  size : Nat
  cast : Category → Except Failure Column
  castTabulates : Category → Bool
  cast_ok : ∀ {t d}, cast t = .ok d → d.type = t.columnType ∧ d.size = size

/-- An array with a dictionary: a slot is NULL or names one of the values by its place. The values
are converted, and each slot takes the one that it names. -/
def ForeignArray.dictionary (values : Column) (keys : List (Option Nat)) : ForeignArray where
  size := keys.length
  cast t := (values.cast t).map fun d => ⟨d.type, keys.map (·.bind fun i => d.items[i]?.join)⟩
  castTabulates _ := false
  cast_ok h := by
    obtain ⟨d, hd, rfl⟩ := map_ok_iff.1 h
    exact ⟨(Column.cast_ok hd).1, List.length_map _⟩

/-- What a buffer can be filled with. -/
inductive Source
  | column (c : Column)
  | foreign (a : ForeignArray)

namespace Source

def size : Source → Nat
  | column c => c.size
  | foreign a => a.size

/-- What a buffer of the category stores. -/
def stored (t : Category) : Source → Except Failure Column
  | column c => t.stored c
  | foreign a => a.cast t

theorem stored_ok {source : Source} (h : source.stored t = .ok d) :
    t.accepts d.type ∧ d.size = source.size := by
  cases source with
  | column c => exact Category.stored_ok h
  | foreign a =>
    obtain ⟨ht, hs⟩ := a.cast_ok h
    rw [ht]
    exact ⟨t.accepts_columnType, hs⟩

end Source

/-- Puts in what is there. A foreign array is converted first, like a column. -/
def putFrom : Source → EStateM Failure Buffer Unit
  | .column c => put c
  | .foreign a => do
    let b ← get
    let d ← MonadExcept.ofExcept (a.cast b.category)
    set { b with content := some d, tabulated := d.hasNull || a.castTabulates b.category }

/-- The buffer that is left where that does not fail. -/
def fillFrom (b : Buffer) (source : Source) : Except Failure Buffer :=
  match (putFrom source).run b with
  | .ok _ b' => .ok b'
  | .error f _ => .error f

variable {source : Source}

theorem exists_putFrom_run (b : Buffer) (source : Source) :
    ∃ tabulated : Column → Bool, (putFrom source).run b =
      match source.stored b.category with
      | .ok d => .ok () ⟨b.category, some d, tabulated d⟩
      | .error f => .error f b := by
  cases source with
  | column c => exact b.exists_put_run c
  | foreign a =>
    refine ⟨fun d => d.hasNull || a.castTabulates b.category, ?_⟩
    have hs : (Source.foreign a).stored b.category = a.cast b.category := rfl
    rw [hs]
    show EStateM.bind _ _ b = _
    cases a.cast b.category with
    | error f => rfl
    | ok d => rfl

/-- A fill stores what is there or changes nothing. -/
theorem putFrom_cases (b : Buffer) (source : Source) :
    (∃ d b', source.stored b.category = .ok d ∧ (putFrom source).run b = .ok () b' ∧
      b'.category = b.category ∧ b'.content = some d) ∨
    ∃ f, source.stored b.category = .error f ∧ (putFrom source).run b = .error f b := by
  obtain ⟨tabulated, he⟩ := b.exists_putFrom_run source
  cases hs : source.stored b.category with
  | ok d =>
    rw [hs] at he
    exact .inl ⟨d, _, rfl, he, rfl, rfl⟩
  | error f =>
    rw [hs] at he
    exact .inr ⟨f, rfl, he⟩

theorem fillFrom_ok (h : b.fillFrom source = .ok b') :
    b'.category = b.category ∧ ∃ d, b'.content = some d ∧ source.stored b.category = .ok d := by
  obtain ⟨d, b'', hs, hr, hc, hd⟩ | ⟨f, -, hr⟩ := b.putFrom_cases source
  · rw [fillFrom, hr] at h
    cases h
    exact ⟨hc, d, hd, hs⟩
  · rw [fillFrom, hr] at h
    cases h

theorem fillFrom_error : b.fillFrom source = .error f ↔ source.stored b.category = .error f := by
  obtain ⟨d, b', hs, hr, -, -⟩ | ⟨f', hs, hr⟩ := b.putFrom_cases source
  · rw [fillFrom, hr, hs]
    exact ⟨nofun, nofun⟩
  · rw [fillFrom, hr, hs]
    simp

theorem fill_isOfColumn (h : b.fill c = .error f) : f.isOfColumn := by
  have h : b.fillFrom (.column c) = .error f := h
  exact Category.stored_error (fillFrom_error.1 h)

theorem fillFrom_size (h : b.fillFrom source = .ok b') : b'.size = source.size := by
  obtain ⟨-, d, hd, hs⟩ := fillFrom_ok h
  rw [size, hd]
  exact (Source.stored_ok hs).2

/-! ### Histories -/

inductive Action
  | fill (source : Source)
  | reset
  | take

/-- The answer to an action, which is nothing, a column or a failure, and the buffer after it. -/
def perform (b : Buffer) : Action → Except Failure (Option Column) × Buffer
  | .fill source =>
    match (putFrom source).run b with
    | .ok _ b' => (.ok none, b')
    | .error f b' => (.error f, b')
  | .reset => (.ok none, b.reset)
  | .take =>
    match b.take with
    | .ok (c, b') => (.ok (some c), b')
    | .error e => (.error (.error e), b)

def run (b : Buffer) (actions : List Action) : Buffer :=
  actions.foldl (fun b a => (b.perform a).2) b

/-- In the history of a buffer of the category, the last fill that succeeded stored the column, and
since then there were only fills that failed. -/
def LastStored (t : Category) (actions : List Action) (d : Column) : Prop :=
  ∃ before source after, actions = before ++ .fill source :: after ∧ source.stored t = .ok d ∧
    ∀ a ∈ after, ∃ source f, a = .fill source ∧ source.stored t = .error f

namespace LastStored

variable {actions : List Action}

theorem accepts (h : LastStored t actions d) : t.accepts d.type := by
  obtain ⟨before, source, after, -, hd, -⟩ := h
  exact (Source.stored_ok hd).1

theorem nil : ¬LastStored t [] d := by
  intro h
  obtain ⟨before, source, after, h, -⟩ := h
  simp at h

/-- The last action is the fill that stored the column, or one that failed. -/
theorem concat_iff : LastStored t (actions ++ [a]) d ↔ ∃ source, a = .fill source ∧
    (source.stored t = .ok d ∨
      (∃ f, source.stored t = .error f) ∧ LastStored t actions d) := by
  constructor
  · intro h
    obtain ⟨before, source, after, h, hd, hf⟩ := h
    obtain rfl | ⟨after, x, rfl⟩ := after.eq_nil_or_concat'
    · obtain ⟨-, h⟩ := List.append_inj' h rfl
      cases h
      exact ⟨source, rfl, .inl hd⟩
    · rw [← List.cons_append, ← List.append_assoc] at h
      obtain ⟨rfl, hx⟩ := List.append_inj' h rfl
      obtain rfl := List.singleton_inj.1 hx
      obtain ⟨source', f, rfl, hs⟩ := hf a (by simp)
      exact ⟨source', rfl,
        .inr ⟨⟨f, hs⟩, before, source, after, rfl, hd, fun x hx => hf x (by simp [hx])⟩⟩
  · intro h
    obtain ⟨source, rfl, hd | ⟨⟨f, hf⟩, before, source', after, rfl, hd, hafter⟩⟩ := h
    · exact ⟨actions, source, [], rfl, hd, List.forall_mem_nil _⟩
    · refine ⟨before, source', after ++ [.fill source], by simp, hd, fun a ha => ?_⟩
      obtain ha | ha := List.mem_append.1 ha
      · exact hafter a ha
      · exact ⟨source, f, List.mem_singleton.1 ha, hf⟩

end LastStored

/-- The buffer holds what its history says. -/
structure Holds (t : Category) (actions : List Action) (b : Buffer) : Prop where
  category : b.category = t
  content : ∀ d, b.content = some d ↔ LastStored t actions d

namespace Holds

variable {actions : List Action}

theorem empty (t : Category) : Holds t [] (empty t) where
  category := rfl
  content _ := iff_of_false nofun LastStored.nil

theorem perform (h : Holds t actions b) (a : Action) :
    Holds t (actions ++ [a]) (b.perform a).2 := by
  obtain ⟨rfl, hd⟩ := h
  cases a with
  | fill source =>
    rw [Buffer.perform]
    obtain ⟨d, b', hs, hr, hc, hb⟩ | ⟨f, hs, hr⟩ := b.putFrom_cases source
    · rw [hr]
      refine ⟨hc, fun d' => ?_⟩
      rw [LastStored.concat_iff]
      simp [hb, hs]
    · rw [hr]
      refine ⟨rfl, fun d => ?_⟩
      rw [LastStored.concat_iff]
      simp [hd, hs]
  | reset =>
    refine ⟨rfl, fun d => ?_⟩
    rw [LastStored.concat_iff]
    simp [Buffer.perform, Buffer.reset]
  | take =>
    rw [Buffer.perform, Buffer.take]
    cases hc : b.content with
    | some c =>
      refine ⟨rfl, fun d => ?_⟩
      rw [LastStored.concat_iff]
      simp [Buffer.reset]
    | none =>
      refine ⟨rfl, fun d => ?_⟩
      rw [LastStored.concat_iff]
      simp [hc]

theorem run (h : Holds t actions b) (later : List Action) :
    Holds t (actions ++ later) (b.run later) := by
  induction later generalizing b actions with
  | nil =>
    rw [List.append_nil]
    exact h
  | cons a later ih =>
    rw [← List.singleton_append, ← List.append_assoc]
    exact ih (h.perform a)

theorem accepts (h : Holds t actions b) (hd : b.content = some d) : t.accepts d.type :=
  ((h.content d).1 hd).accepts

end Holds

/-! ### Views -/

/-- What a buffer answers to who asks for the slots of a category: there are slots exactly if the
buffer is of that category and filled, as many as it holds, and otherwise there is an error. -/
structure IsView (b : Buffer) (expected : Category) (slots : Except Failure (List (Option α))) :
    Prop where
  ok_iff : (∃ xs, slots = .ok xs) ↔ b.category = expected ∧ b.content.isSome
  size : ∀ xs, slots = .ok xs → xs.length = b.size
  failure : ∀ f, slots = .error f → f = .error
    (if b.category = expected then notFilled else .typeMismatch expected.name b.category.name)

/-- Slots that all columns of a category have are a view of the buffers of columns of their
category. -/
theorem isView_of_column {view : Column → Except Failure (List (Option α))}
    (hb : ∀ d, b.content = some d → b.category.accepts d.type)
    (hv : ∀ d, t.accepts d.type → ∃ xs, view d = .ok xs ∧ xs.length = d.size) :
    b.IsView t ((b.contentAs t).mapError .error >>= view) := by
  by_cases hc : b.category = t
  case neg =>
    have hr : (b.contentAs t).mapError Failure.error >>= view =
        .error (.error (.typeMismatch t.name b.category.name)) := by
      rw [contentAs, if_pos hc]
      rfl
    rw [hr]
    exact ⟨iff_of_false nofun fun h => hc h.1, nofun, fun f hf => by rw [if_neg hc]; cases hf; rfl⟩
  case pos =>
    have hr : (b.contentAs t).mapError Failure.error >>= view =
        b.content.elim (.error (.error notFilled)) view := by
      rw [contentAs, if_neg (not_not.2 hc)]
      cases b.content <;> rfl
    rw [hr]
    cases hd : b.content with
    | none => exact ⟨by simp [hd], nofun, fun f hf => by rw [if_pos hc]; cases hf; rfl⟩
    | some d =>
      obtain ⟨xs, hx, hl⟩ := hv d (hc ▸ hb d hd)
      have hsize : b.size = d.size := by rw [size, hd]; rfl
      show b.IsView t (view d)
      rw [hx]
      exact ⟨by simp [hc, hd], fun ys hy => by cases hy; exact hl.trans hsize.symm,
        fun f hf => nomatch hf⟩

section Views

variable (hb : ∀ d, b.content = some d → b.category.accepts d.type)

include hb

theorem int64s_isView : b.IsView .int b.int64s := by
  apply isView_of_column hb
  intro d ha
  obtain ⟨type, xs⟩ := d
  cases type with
  | int64 => exact ⟨xs, rfl, rfl⟩
  | uint64 => exact ⟨_, rfl, List.length_map _⟩
  | _ => cases ha

theorem float64s_isView : b.IsView .real b.float64s := by
  apply isView_of_column hb
  intro d ha
  obtain ⟨type, xs⟩ := d
  cases type with
  | float64 => exact ⟨xs, rfl, rfl⟩
  | _ => cases ha

theorem strings_isView : b.IsView .text b.strings := by
  apply isView_of_column hb
  intro d ha
  obtain ⟨type, xs⟩ := d
  cases type with
  | utf8 => exact ⟨xs, rfl, rfl⟩
  | _ => cases ha

theorem decimals_isView : b.IsView .decimal b.decimals := by
  apply isView_of_column hb
  intro d ha
  obtain ⟨type, xs⟩ := d
  cases type with
  | decimal => exact ⟨xs, rfl, rfl⟩
  | _ => cases ha

end Views

/-! ### What a history leaves -/

theorem perform_fill_error (h : b.fillFrom source = .error f) :
    b.perform (.fill source) = (.error f, b) := by
  obtain ⟨d, b', -, hr, -, -⟩ | ⟨f', -, hr⟩ := b.putFrom_cases source
  · rw [fillFrom, hr] at h
    cases h
  · rw [fillFrom, hr] at h
    cases h
    rw [perform, hr]

theorem Holds.take_iff {actions : List Action} (h : Holds t actions b) :
    (b.perform .take).1 = .ok (some d) ↔ LastStored t actions d := by
  rw [← h.content, Buffer.perform, Buffer.take]
  cases b.content <;> simp

theorem Holds.take_error {actions : List Action} (h : Holds t actions b)
    (hn : ∀ d, ¬LastStored t actions d) : b.perform .take = (.error (.error notFilled), b) := by
  rw [Buffer.perform, Buffer.take]
  cases hc : b.content with
  | none => rfl
  | some d => exact (hn d ((h.content d).1 hc)).elim

/-- After any history a buffer holds a column of its category or none, so that each view gives slots
exactly where it is to. A fill keeps the number of slots or changes nothing, and what is taken out
was put in last. -/
theorem holds_of_run (t : Category) (actions : List Action) :
    let b := (empty t).run actions
    (b.category = t ∧ ∀ d, b.content = some d → t.accepts d.type) ∧
    (b.IsView .int b.int64s ∧ b.IsView .real b.float64s ∧ b.IsView .text b.strings ∧
      b.IsView .decimal b.decimals) ∧
    (∀ source, (∀ b', b.fillFrom source = .ok b' → b'.size = source.size) ∧
      ∀ f, b.fillFrom source = .error f → b.perform (.fill source) = (.error f, b)) ∧
    (∀ d, (b.perform .take).1 = .ok (some d) ↔ LastStored t actions d) ∧
    ((∀ d, ¬LastStored t actions d) → b.perform .take = (.error (.error notFilled), b)) := by
  intro b
  have h : Holds t actions b := (Holds.empty t).run actions
  have hb : ∀ d, b.content = some d → b.category.accepts d.type := by
    rw [h.category]
    exact fun d => h.accepts
  refine ⟨⟨h.category, fun d => h.accepts⟩, ?_,
    fun source => ⟨fun b' => fillFrom_size, fun f => perform_fill_error⟩,
    fun d => h.take_iff, h.take_error⟩
  exact ⟨int64s_isView hb, float64s_isView hb, strings_isView hb, decimals_isView hb⟩

/-- Numbers of 32 bits with a dictionary are stored as integers, and are still there after a column
of bytes was refused. -/
theorem holds_of_run_refused :
    let numbers : ForeignArray := .dictionary ⟨.int32, [some 7, some (-1)]⟩ [some 1, none, some 0]
    let bytes : Source := .column ⟨.binary, [some [7]]⟩
    let actions : List Action := [.fill (.foreign numbers), .fill bytes]
    let b := (empty .int).run actions
    b.content = some ⟨.int64, [some (-1), none, some 7]⟩ ∧
      b.int64s = .ok [some (-1), none, some 7] ∧
      (∃ f, b.fillFrom bytes = .error f ∧ b.perform (.fill bytes) = (.error f, b)) ∧
      LastStored .int actions ⟨.int64, [some (-1), none, some 7]⟩ := by
  intro numbers bytes actions b
  obtain ⟨-, -, hfill, htake, -⟩ := holds_of_run .int actions
  have hf : b.fillFrom bytes = .error _ := rfl
  exact ⟨rfl, rfl, ⟨_, hf, (hfill bytes).2 _ hf⟩, (htake _).1 rfl⟩

end Buffer

end ScalarExpr
