import ScalarExpr.Proofs.Column.Slots
import ScalarExpr.Proofs.Evaluation.Deterministic
/-!
Evaluation of calls for chunks. A call whose arguments are evaluated to columns runs its operation
on each row of them.
-/
namespace ScalarExpr

set_option autoImplicit true

theorem Eval.standalone_lift_bind (r : Except Failure α) (k : α → Eval β) :
    Expr.standalone (lift r >>= k) = r >>= fun a => Expr.standalone (k a) := by
  cases r <;> rfl

theorem Eval.mapM_lift (f : α → Except Failure β) (xs : List α) :
    xs.mapM (fun x => lift (f x)) = lift (xs.mapM f) := by
  induction xs with
  | nil => rfl
  | cons x xs ih =>
    rw [List.mapM_cons, List.mapM_cons, ih]
    cases f x with
    | error e => rfl
    | ok y => cases xs.mapM f <;> rfl

namespace Meaning

/-- The results for a chunk, by the evaluator for columns of their category. -/
def slots (m : Meaning) (k : Kind) (input : Chunk) : Except Failure (List (Option k.Item)) := do
  let c ← Expr.standalone (m.column k.category input)
  c.slots k

/-- There is a result for each row of the chunk. -/
def IsAligned (m : Meaning) (input : Chunk) : Prop :=
  ∀ k xs, m.slots k input = .ok xs → xs.length = input.rowCount

/-- Evaluation into a buffer fails as the slots do, or the buffer holds the slots. -/
theorem IsSteady.buffer_cases {m : Meaning} (hm : m.IsSteady) (k : Kind) (input : Chunk) :
    (∃ f, m.buffer k.category input = Eval.lift (.error f) ∧ m.slots k input = .error f) ∨
      ∃ b xs, m.buffer k.category input = pure b ∧ b.slots k = .ok xs ∧
        m.slots k input = .ok xs := by
  obtain ⟨r, hr⟩ := hm.column k.category input
  rw [Meaning.buffer, Meaning.slots, hr, Eval.standalone_lift]
  cases r with
  | error f => exact .inl ⟨f, rfl, rfl⟩
  | ok c =>
    show (∃ f, Eval.lift ((Buffer.empty k.category).fill c) = _ ∧ c.slots k = _) ∨
      ∃ b xs, Eval.lift ((Buffer.empty k.category).fill c) = _ ∧ _ ∧ c.slots k = _
    rw [Column.slots]
    cases hb : (Buffer.empty k.category).fill c with
    | error f => exact .inl ⟨f, rfl, rfl⟩
    | ok b =>
      obtain ⟨xs, hx⟩ := Column.exists_slots hb
      exact .inr ⟨b, xs, rfl, hx, hx⟩

theorem IsSteady.buffer_bind {m : Meaning} (hm : m.IsSteady) (k : Kind) (input : Chunk)
    (f : List (Option k.Item) → Eval β) :
    (do let b ← m.buffer k.category input
        let xs ← Eval.lift (b.slots k)
        f xs) = Eval.lift (m.slots k input) >>= f := by
  obtain ⟨e, hb, hx⟩ | ⟨b, xs, hb, hs, hx⟩ := hm.buffer_cases k input
  · rw [hb, hx]
    rfl
  · rw [hb, hx, pure_bind, hs]

theorem IsSteady.buffers₂_bind {x y : Meaning} (hx : x.IsSteady) (hy : y.IsSteady) (k : Kind)
    (input : Chunk) (f : List (Option k.Item) → List (Option k.Item) → Eval β) :
    (do let (a, b) ← x.buffers₂ y k.category input
        let as ← Eval.lift (a.slots k)
        let bs ← Eval.lift (b.slots k)
        f as bs) =
      (do let as ← Eval.lift (x.slots k input)
          let bs ← Eval.lift (y.slots k input)
          f as bs) := by
  unfold Meaning.buffers₂
  obtain ⟨e, ha, hxs⟩ | ⟨a, as, ha, has, hxs⟩ := hx.buffer_cases k input
  · rw [ha, hxs]
    rfl
  · obtain ⟨e, hb, hys⟩ | ⟨b, bs, hb, hbs, hys⟩ := hy.buffer_cases k input
    · rw [ha, hb, hxs, hys]
      rfl
    · rw [ha, hb, hxs, hys]
      show (do let as ← Eval.lift (a.slots k); let bs ← Eval.lift (b.slots k); f as bs) = _
      rw [has, hbs]

theorem buffers_bind {ms : List Meaning} (hs : ∀ m ∈ ms, m.IsSteady) (k : Kind) (input : Chunk)
    (f : List (List (Option k.Item)) → Eval β) :
    (do let bs ← Meaning.buffers ms k.category input
        let xss ← Eval.lift (bs.mapM (·.slots k))
        f xss) = Eval.lift (ms.mapM (·.slots k input)) >>= f := by
  unfold Meaning.buffers
  induction ms generalizing f with
  | nil => rfl
  | cons m ms ih =>
    rw [List.mapM_cons, List.mapM_cons]
    have ih := fun g => ih (fun m hm => hs m (by simp [hm])) g
    obtain ⟨e, hb, hx⟩ | ⟨b, xs, hb, hbs, hx⟩ := (hs m (by simp)).buffer_cases k input
    · rw [hb, hx]
      rfl
    · have ih := ih fun xss => f (xs :: xss)
      rw [hb, hx, pure_bind, bind_assoc]
      simp only [pure_bind, List.mapM_cons, hbs]
      refine Eq.trans ?_ (ih.trans ?_)
      · apply bind_congr
        intro bs
        cases bs.mapM (·.slots k) <;> rfl
      · cases ms.mapM (·.slots k input) <;> rfl

end Meaning

/-- What a buffer holds before it is filled does not matter. -/
theorem Expr.fillBuffer_eq {b : Buffer} (hb : b.category = c) (e : Expr) (env : Env)
    (input : Chunk) : e.fillBuffer env input b = (e.meaning env).buffer c input := by
  have hfill (d : Column) : b.fill d = (Buffer.empty c).fill d := by
    cases hb
    rw [Buffer.fill_eq, Buffer.fill_eq]
    rfl
  rw [fillBuffer, fillBy, Meaning.buffer, hb]
  simp only [hfill]

/-- The slots of columns row by row. -/
def slotRows (n : Nat) (xss : List (List (Option α))) : List (List (Option α)) :=
  (List.range n).map fun i => xss.map (·.getD i none)

theorem slotRows_single {as : List (Option α)} (h : as.length = n) :
    slotRows n [as] = as.map fun a => [a] := by
  subst h
  apply List.ext_getElem (by simp [slotRows])
  intro i hi hi'
  rw [List.length_map] at hi'
  simp [slotRows, hi']

theorem slotRows_pair {as bs : List (Option α)} (ha : as.length = n) (hb : bs.length = n) :
    slotRows n [as, bs] = List.zipWith (fun a b => [a, b]) as bs := by
  subst ha
  apply List.ext_getElem (by simp [slotRows, hb])
  intro i hi hi'
  have hi : i < as.length := by simpa [slotRows] using hi
  simp [slotRows, hi, hb]

namespace Operation

theorem operands_ok (stopsAtNull : Bool) (row : List (Option α)) :
    operands stopsAtNull (row.map .ok) = .ok (row.mapM id) := by
  induction row with
  | nil => rfl
  | cons a row ih =>
    rw [List.map_cons, List.mapM_cons]
    cases a with
    | none =>
      rw [operands, ih]
      cases stopsAtNull <;> rfl
    | some a =>
      rw [operands, ih]
      cases row.mapM id <;> rfl

/-- The operation on every row of results. -/
def runRows (o : Operation) (ms : List Meaning) (rows : List (List (Option o.operand.Item))) :
    Except Failure (List (Option o.result.Item)) :=
  rows.mapM fun row => o.run ms (row.map .ok)

theorem run_ok (o : Operation) (ms : List Meaning) (row : List (Option o.operand.Item)) :
    o.run ms (row.map .ok) = ((row.mapM id).elim (.ok none) (o.apply ms)) := by
  rw [run, operands_ok]
  cases row.mapM id <;> rfl

theorem runRows_total (f : List k.Item → Option k'.Item) (ms : List Meaning)
    (rows : List (List (Option k.Item))) :
    (total k k' stops f).runRows ms rows = .ok (rows.map fun row => (row.mapM id).bind f) := by
  induction rows with
  | nil => rfl
  | cons row rows ih =>
    rw [runRows] at ih ⊢
    rw [List.mapM_cons, ih, run_ok, List.map_cons]
    cases row.mapM id <;> rfl

end Operation

/-- An operation on two slots, neither of them NULL. -/
def onSlots {α β γ ε : Type} (f : α → β → Except ε (Option γ)) :
    Option α × Option β → Except ε (Option γ)
  | (some a, some b) => f a b
  | _ => .ok none

theorem zipSlots_eq_mapM (f : α → β → Except ε (Option γ)) (as : List (Option α))
    (bs : List (Option β)) : zipSlots f as bs = (as.zip bs).mapM (onSlots f) := by
  induction as generalizing bs with
  | nil => rfl
  | cons a as ih =>
    cases bs with
    | nil => cases a <;> rfl
    | cons b bs =>
      rw [List.zip_cons_cons, List.mapM_cons]
      cases a with
      | none =>
        rw [zipSlots, ih bs]
        · rfl
        · intro _ _ h _
          cases h
      | some a =>
        cases b with
        | none =>
          rw [zipSlots, ih bs]
          · rfl
          · intro _ _ _ h
            cases h
        | some b =>
          rw [zipSlots, ih bs]
          rfl

/-- The comparison of a chunk goes row by row: one side is unsigned. -/
def Builtin.comparesByRow : Builtin → Bool
  | compare _ (.int u v) => u || v
  | _ => false

namespace Evaluation

open Operation

variable {k : Kind} {f : Meaning → Meaning → k.Item → k.Item → Except Failure (Option k.Item)}
  (relabel : ∀ x y x' y' a b, (f x y a b).toOption = (f x' y' a b).toOption)
  (error : ∀ x y a b e, f x y a b = .error e → FailsAtLabels [x, y] e)

include relabel error in
theorem zipSlots_eq (as bs : List (Option k.Item)) :
    zipSlots (f x y) as bs =
      (checked k f relabel error).runRows [x, y] (List.zipWith (fun a b => [a, b]) as bs) := by
  rw [zipSlots_eq_mapM, runRows, ← List.map_uncurry_zip_eq_zipWith, List.mapM_map]
  apply congrFun (congrArg List.mapM (funext fun p => ?_))
  obtain ⟨a, b⟩ := p
  cases a <;> cases b <;> rfl

theorem binarySlots_eq {o : Operation} {column : Eval Column}
    {pack : List (Option o.operand.Item) → List (Option o.operand.Item) → Eval Column}
    (hx : x.IsSteady) (hy : y.IsSteady) (hxa : x.IsAligned input) (hya : y.IsAligned input)
    (hc : column = do
      let (a, b) ← x.buffers₂ y o.operand.category input
      let as ← Eval.lift (a.slots o.operand)
      let bs ← Eval.lift (b.slots o.operand)
      pack as bs)
    (hp : ∀ as bs, Expr.standalone (pack as bs) >>= (·.slots o.result) =
      o.runRows [x, y] (List.zipWith (fun a b => [a, b]) as bs)) :
    Expr.standalone column >>= (·.slots o.result) =
      [x, y].mapM (·.slots o.operand input) >>= fun xss =>
        o.runRows [x, y] (slotRows input.rowCount xss) := by
  rw [hc, hx.buffers₂_bind hy, Eval.standalone_lift_bind, List.mapM_cons, List.mapM_cons]
  cases ha : x.slots o.operand input with
  | error f => rfl
  | ok as =>
    cases hb : y.slots o.operand input with
    | error f => rfl
    | ok bs =>
      show _ = o.runRows [x, y] (slotRows input.rowCount [as, bs])
      rw [slotRows_pair (hxa _ _ ha) (hya _ _ hb)]
      exact hp as bs

theorem unarySlots_eq {o : Operation} {column : Eval Column}
    {pack : List (Option o.operand.Item) → Eval Column}
    (hx : x.IsSteady) (hxa : x.IsAligned input)
    (hc : column = do
      let a ← x.buffer o.operand.category input
      let as ← Eval.lift (a.slots o.operand)
      pack as)
    (hp : ∀ as, Expr.standalone (pack as) >>= (·.slots o.result) =
      o.runRows [x] (as.map fun a => [a])) :
    Expr.standalone column >>= (·.slots o.result) =
      [x].mapM (·.slots o.operand input) >>= fun xss =>
        o.runRows [x] (slotRows input.rowCount xss) := by
  rw [hc, hx.buffer_bind, Eval.standalone_lift_bind, List.mapM_cons]
  cases ha : x.slots o.operand input with
  | error f => rfl
  | ok as =>
    show _ = o.runRows [x] (slotRows input.rowCount [as])
    rw [slotRows_single (hxa _ _ ha)]
    exact hp as

theorem checkedSlots_eq {column : Eval Column} {pack : List (Option k.Item) → Column}
    (hx : x.IsSteady) (hy : y.IsSteady) (hxa : x.IsAligned input) (hya : y.IsAligned input)
    (hp : ∀ zs, (pack zs).slots k = .ok zs)
    (hc : column = do
      let (a, b) ← x.buffers₂ y k.category input
      let as ← Eval.lift (a.slots k)
      let bs ← Eval.lift (b.slots k)
      let zs ← Eval.lift (zipSlots (f x y) as bs)
      return pack zs) :
    Expr.standalone column >>= (·.slots k) =
      [x, y].mapM (·.slots k input) >>= fun xss =>
        (checked k f relabel error).runRows [x, y] (slotRows input.rowCount xss) := by
  apply binarySlots_eq (o := checked k f relabel error) hx hy hxa hya hc
  intro as bs
  rw [Eval.standalone_lift_bind, zipSlots_eq relabel error]
  cases (checked k f relabel error).runRows [x, y] (List.zipWith (fun a b => [a, b]) as bs) with
  | error e => rfl
  | ok zs => exact hp zs

theorem mappedSlots_eq {k k' : Kind} {column : Eval Column} {pack : List (Option k.Item) → Column}
    {f : k.Item → k'.Item} (hx : x.IsSteady) (hxa : x.IsAligned input)
    (hp : ∀ as, (pack as).slots k' = .ok (as.map (·.map f)))
    (hc : column = do
      let a ← x.buffer k.category input
      let as ← Eval.lift (a.slots k)
      return pack as) :
    Expr.standalone column >>= (·.slots k') =
      [x].mapM (·.slots k input) >>= fun xss =>
        (total k k' true fun as => as.head?.map f).runRows [x] (slotRows input.rowCount xss) := by
  apply unarySlots_eq (o := total k k' true fun as => as.head?.map f) hx hxa hc
  intro as
  rw [runRows_total, List.map_map]
  apply (hp as).trans
  apply congrArg Except.ok
  apply List.map_congr_left
  intro a _
  cases a <;> rfl

theorem comparedColumn_slots {s : CompareSignature} (as bs : List (Option s.kind.Item)) :
    (comparedColumn op s.order as bs).slots .int =
      (comparison op s).runRows [x, y] (List.zipWith (fun a b => [a, b]) as bs) := by
  rw [runRows_total, List.map_zipWith, comparedColumn]
  show Except.ok (Column.mapSlots _ _) = _
  rw [Column.mapSlots, List.map_zipWith]
  congr 2
  funext a b
  cases a <;> cases b <;> rfl

theorem int32_toInt64 {n : Nat} (h : n < ColumnType.textCapacity) :
    (Int32.ofNat n).toInt64 = Int64.ofNat n := by
  rw [ColumnType.textCapacity, Nat.pow_eq] at h
  exact Int32.toInt64_ofNat' (by rw [Int32.toInt_maxValue]; omega)

theorem lengths_slots (as : List (Option String)) :
    (let lengths := as.map (·.map String.utf8ByteSize)
     if lengths.all (·.all (· < ColumnType.textCapacity)) then
       (⟨.int32, lengths.map (·.map Int32.ofNat)⟩ : Column)
     else ⟨.int64, lengths.map (·.map Int64.ofNat)⟩).slots .int =
      .ok (as.map (·.map fun s => Int64.ofNat s.utf8ByteSize)) := by
  dsimp only
  split
  case isTrue h =>
    show Except.ok (Column.mapSlots _ _) = _
    rw [Column.mapSlots, List.map_map, List.map_map]
    apply congrArg Except.ok
    apply List.map_congr_left
    intro a ha
    cases a with
    | none => rfl
    | some s =>
      have hs := List.all_eq_true.1 h _ (List.mem_map_of_mem ha)
      exact congrArg some (int32_toInt64 (of_decide_eq_true hs))
  case isFalse =>
    show Except.ok _ = _
    rw [List.map_map]
    exact congrArg _ (List.map_congr_left fun a _ => Option.map_map _ _ a)

/-- Reading the slots of all columns at each place gives the rows. -/
theorem mapM_slots_eq {xss : List (List (Option α))}
    {get : Nat → List (Option α) → Except ε (Option α)}
    (hg : ∀ i xs a, xs[i]? = some a → get i xs = .ok a) (h : ∀ xs ∈ xss, xs.length = n) :
    (List.range n).mapM (fun i => xss.mapM (get i)) = .ok (slotRows n xss) := by
  refine mapM_range_ok_iff.2 ⟨by simp [slotRows], fun i hi => ?_⟩
  refine ⟨xss.map (·.getD i none), by simp [slotRows, hi], ?_⟩
  rw [mapM_ok_iff, List.forall₂_map_right_iff, List.forall₂_same]
  intro xs hx
  have hi : i < xs.length := h xs hx ▸ hi
  exact hg i xs _ (by simp [hi])

theorem concatColumn_eq (hs : ∀ m ∈ ms, m.IsSteady) (ha : ∀ m ∈ ms, m.IsAligned input) :
    concatColumn ms input = Eval.lift
      ((fun xss => ⟨.utf8, (slotRows input.rowCount xss).map joinSlots⟩) <$>
        ms.mapM (·.slots .text input)) := by
  have hc : concatColumn ms input = _ := Meaning.buffers_bind hs .text input _
  rw [hc]
  cases hx : ms.mapM (·.slots .text input) with
  | error f => rfl
  | ok xss =>
    have hl : ∀ xs ∈ xss, xs.length = input.rowCount := by
      intro xs hxs
      obtain ⟨m, hm, h⟩ := exists_of_mapM_ok hx hxs
      exact ha m hm _ _ h
    show (pure xss >>= _) = _
    rw [pure_bind, mapM_slots_eq (fun i xs a h => by rw [h]) hl]
    rfl

theorem concatSlots_eq (hs : ∀ m ∈ ms, m.IsSteady) (ha : ∀ m ∈ ms, m.IsAligned input) :
    Expr.standalone (concatColumn ms input) >>= (·.slots .text) =
      ms.mapM (·.slots .text input) >>= fun xss =>
        (total .text .text true fun as => some (String.join as)).runRows ms
          (slotRows input.rowCount xss) := by
  rw [concatColumn_eq hs ha, Eval.standalone_lift]
  cases ms.mapM (·.slots .text input) with
  | error f => rfl
  | ok xss =>
    show _ = (total .text .text true fun as => some (String.join as)).runRows ms _
    rw [runRows_total]
    apply congrArg Except.ok
    apply List.map_congr_left
    intro row _
    rw [joinSlots]
    cases row.mapM id <;> rfl

/-- The results of a call for a chunk are those of its operation on the rows of its arguments. -/
theorem callSlots_eq {head : CallHead} {args : List Meaning} {o : Operation}
    (ho : head.builtin.operation? head.settings = some o)
    (hn : head.builtin.functionClass.arity.allows args.length)
    (hb : head.builtin.comparesByRow = false)
    (hs : ∀ m ∈ args, m.IsSteady ∧ m.IsAligned input) (env : Env)
    (label : Unit → Except Fault String) :
    (call env label head args).slots o.result input =
      args.mapM (·.slots o.operand input) >>= fun xss =>
        o.runRows args (slotRows input.rowCount xss) := by
  obtain ⟨name, type, builtin, settings⟩ := head
  cases builtin with
  | arithmetic op signature =>
    obtain ⟨x, y, rfl, ⟨hx, hxa⟩, hy, hya⟩ := Arity.exists_pair hn hs
    cases signature with
    | int u =>
      cases ho
      exact checkedSlots_eq _ _ hx hy hxa hya (fun _ => rfl) rfl
    | real =>
      cases ho
      exact checkedSlots_eq _ _ hx hy hxa hya (fun _ => rfl) rfl
  | divide =>
    obtain ⟨x, y, rfl, ⟨hx, hxa⟩, hy, hya⟩ := Arity.exists_pair hn hs
    cases ho
    exact checkedSlots_eq _ _ hx hy hxa hya (fun _ => rfl) rfl
  | compare op signature =>
    obtain ⟨x, y, rfl, ⟨hx, hxa⟩, hy, hya⟩ := Arity.exists_pair hn hs
    cases signature with
    | int u v =>
      cases u
      · cases v
        · cases ho
          exact binarySlots_eq hx hy hxa hya rfl
            fun as bs => comparedColumn_slots (s := .int false false) as bs
        · cases hb
      · cases hb
    | text =>
      cases ho
      exact binarySlots_eq hx hy hxa hya rfl
        fun as bs => comparedColumn_slots (s := .text) as bs
    | real =>
      cases ho
      exact binarySlots_eq hx hy hxa hya rfl
        fun as bs => comparedColumn_slots (s := .real) as bs
  | bitNeg =>
    obtain ⟨x, rfl, hx, hxa⟩ := Arity.exists_single hn hs
    cases ho
    exact mappedSlots_eq (k := .int) hx hxa (fun _ => rfl) rfl
  | concat =>
    cases ho
    exact concatSlots_eq (fun m hm => (hs m hm).1) fun m hm => (hs m hm).2
  | lower =>
    obtain ⟨x, rfl, hx, hxa⟩ := Arity.exists_single hn hs
    cases ho
    exact mappedSlots_eq (k := .text) hx hxa (fun _ => rfl) rfl
  | upper =>
    obtain ⟨x, rfl, hx, hxa⟩ := Arity.exists_single hn hs
    cases ho
    exact mappedSlots_eq (k := .text) hx hxa (fun _ => rfl) rfl
  | length =>
    obtain ⟨x, rfl, hx, hxa⟩ := Arity.exists_single hn hs
    cases ho
    exact mappedSlots_eq (k := .text) hx hxa lengths_slots rfl
  | rand | now | unixTimestamp | secToTime | fixed => cases ho

theorem comparisonByRow_slots (op : CompareOp) (s : CompareSignature) (hx : x.IsSteady)
    (hy : y.IsSteady) (rows : List Row) :
    Expr.standalone (do
        let orders ← rows.mapM (compareRow s x y)
        return (⟨.boolean, orders.map (·.map op.holds)⟩ : Column)) >>= (·.slots .int) =
      rows.mapM fun r => (comparison op s).run [x, y] [x.result r s.kind, y.result r s.kind] := by
  obtain ⟨order, hc⟩ : ∃ order : Row → Except Failure (Option Ordering),
      ∀ r, compareRow s x y r = Eval.lift (order r) :=
    ⟨_, fun r => (compareRow_isSteady hx hy s r).eq_lift.symm⟩
  have hr (r : Row) : (comparison op s).run [x, y] [x.result r s.kind, y.result r s.kind] =
      Option.map (truth ∘ op.holds) <$> order r := by
    rw [← Eval.lift_inj, ← comparisonRow_eq hx hy s, comparisonRow, hc]
    cases order r <;> rfl
  simp only [hr, mapM_map_result]
  rw [funext hc, Eval.mapM_lift, Eval.standalone_lift_bind]
  cases rows.mapM order with
  | error f => rfl
  | ok orders =>
    show Except.ok (Column.mapSlots _ _) = Except.ok _
    rw [Column.mapSlots, List.map_map]
    apply congrArg Except.ok
    apply List.map_congr_left
    intro o _
    cases o <;> rfl

theorem callSlots_byRow {head : CallHead} {args : List Meaning} {o : Operation}
    (ho : head.builtin.operation? head.settings = some o)
    (hn : head.builtin.functionClass.arity.allows args.length)
    (hb : head.builtin.comparesByRow) (hs : ∀ m ∈ args, m.IsSteady) (env : Env)
    (label : Unit → Except Fault String) (input : Chunk) :
    (call env label head args).slots o.result input =
      input.rows.mapM fun r => o.run args (args.map (·.result r o.operand)) := by
  obtain ⟨name, type, builtin, settings⟩ := head
  cases builtin with
  | compare op signature =>
    obtain ⟨x, y, rfl, hx, hy⟩ := Arity.exists_pair hn hs
    cases ho
    have hc := comparisonByRow_slots op signature hx hy input.rows
    cases signature with
    | int u v =>
      refine Eq.trans ?_ hc
      cases u
      · cases v
        · cases hb
        · rfl
      · rfl
    | text | real => cases hb
  | _ => cases hb

/-- A call refuses all categories of columns but its own. -/
theorem callColumn_refused {head : CallHead} (hc : head.builtin.columnCategory? ≠ some c)
    (env : Env) (args : List Meaning) (input : Chunk) :
    callColumn env head args c input =
      Eval.lift (.error (.error (.noEvaluator head.builtin.name (Builtin.columnEvaluator c)))) := by
  have h : callColumn env head args c input =
      Eval.lift (.error (head.builtin.columnRefusal c)) := by
    unfold callColumn
    split
    case h_14 => rfl
    all_goals
      rename_i h
      rw [h] at hc
      exact (hc rfl).elim
  rw [h, Builtin.columnRefusal, if_neg hc]

end Evaluation

end ScalarExpr
