import ScalarExpr.Proofs.Expr.Leaves
import ScalarExpr.Proofs.Value.Encoding
/-!
Keys and time zones. A datetime is local to the offset of its statement, and its key is that of the
instant: the same instants at another offset have the same key, and other instants have another.
-/
namespace ScalarExpr

set_option autoImplicit true

/-- What a clock at offset `o'` is ahead of one at offset `o`, in microseconds modulo `2 ^ 64`. -/
def microsBetween (o o' : Int32) : Int64 := Int64.ofInt ((o'.toInt - o.toInt) * 1000000)

theorem microsBetween_eq (o o' : Int32) :
    microsBetween o o' = o'.toInt64 * 1000000 - o.toInt64 * 1000000 := by
  have hsplit : (o'.toInt - o.toInt) * 1000000 =
      o'.toInt64.toInt * 1000000 - o.toInt64.toInt * 1000000 := by
    rw [Int32.toInt_toInt64, Int32.toInt_toInt64, Int.sub_mul]
  rw [microsBetween, hsplit, Int64.ofInt_sub, Int64.ofInt_mul, Int64.ofInt_mul, Int64.ofInt_toInt,
    Int64.ofInt_toInt]
  rfl

/-! ### Values -/

namespace Value

/-- The value with the microseconds added, modulo `2 ^ 64`, if it is a datetime. -/
def delay (micros : Int64) : Value → Value
  | datetime n => datetime (n + micros)
  | v => v

theorem toUtc_add_eq_iff : toUtc (n + micros) o' = toUtc n o ↔ micros = microsBetween o o' := by
  rw [microsBetween_eq, toUtc, toUtc]
  constructor
  · intro h
    grind
  · rintro rfl
    grind

theorem encode_delay (v : Value) (o o' : Int32) :
    (v.delay (microsBetween o o')).encode o' = v.encode o := by
  cases v with
  | datetime n => rw [delay, encode, encode, toUtc_add_eq_iff.2 rfl]
  | _ => rfl

theorem length_encode_delay (v : Value) (micros : Int64) (o o' : Int32) :
    ((v.delay micros).encode o').length = (v.encode o).length := by
  cases v with
  | datetime n =>
    rw [delay, encode, encode, List.length_cons, List.length_cons, Bytes.bigEndian_length,
      Bytes.bigEndian_length]
  | _ => rfl

end Value

/-! ### Trees -/

namespace Expr

mutual

/-- The tree with the microseconds added to every datetime among its literals. -/
def delay (micros : Int64) : Expr → Expr
  | column c => column c
  | outer c slot memo => outer c slot memo
  | literal v t memo => literal (v.delay micros) t memo
  | call head args memo => call head (delayAll micros args) memo

def delayAll (micros : Int64) : List Expr → List Expr
  | [] => []
  | e :: es => e.delay micros :: delayAll micros es

end

def HasDatetime (e : Expr) : Prop := ∃ n t memo, literal (.datetime n) t memo ∈ e.leaves

variable {e : Expr} {head : CallHead} {args : List Expr} {memo : Memo} {micros : Int64}
  {o o' : Int32}

theorem delayAll_eq_map (micros : Int64) (es : List Expr) :
    delayAll micros es = es.map (delay micros) := by
  induction es with
  | nil => rfl
  | cons e es ih => rw [delayAll, ih, List.map_cons]

theorem delay_call : (call head args memo).delay micros =
    call head (args.map (delay micros)) memo := by
  rw [delay, delayAll_eq_map]

theorem key_delay_call : ((call head args memo).delay micros).key o' =
    head.key (args.flatMap fun e => (e.delay micros).key o') := by
  rw [delay_call, key_call, List.flatMap_map]

theorem IsFresh.delay (h : e.IsFresh) (micros : Int64) : (e.delay micros).IsFresh := by
  induction e with
  | column | outer | literal => exact h
  | call head args memo ih =>
    obtain ⟨hm, ha⟩ := all_call.1 h
    rw [delay_call]
    refine all_call.2 ⟨hm, ?_⟩
    intro x hx
    obtain ⟨e, he, rfl⟩ := List.mem_map.1 hx
    exact ih e he (ha e he)

theorem key_delay (e : Expr) (o o' : Int32) : (e.delay (microsBetween o o')).key o' = e.key o := by
  induction e with
  | column | outer => rfl
  | literal v t memo => exact congrArg (0 :: ·) (v.encode_delay o o')
  | call head args memo ih =>
    rw [key_delay_call, key_call, List.flatMap_congr ih]

theorem length_key_delay (e : Expr) (micros : Int64) (o o' : Int32) :
    ((e.delay micros).key o').length = (e.key o).length := by
  induction e with
  | column | outer => rfl
  | literal v t memo => exact congrArg (· + 1) (v.length_encode_delay micros o o')
  | call head args memo ih =>
    rw [key_delay_call, key_call, CallHead.key, CallHead.key, List.length_append,
      List.length_append, List.length_flatMap, List.length_flatMap, List.map_congr_left ih]

/-- Keys of equal length that are equal when joined are equal one by one. -/
theorem eq_of_flatMap_eq {es : List Expr} {f g : Expr → Bytes}
    (hlen : ∀ e ∈ es, (f e).length = (g e).length) (h : es.flatMap f = es.flatMap g) :
    ∀ e ∈ es, f e = g e := by
  induction es with
  | nil => exact List.forall_mem_nil _
  | cons e es ih =>
    obtain ⟨he, hes⟩ := List.append_inj h (hlen e List.mem_cons_self)
    refine List.forall_mem_cons.2 ⟨he, ih ?_ hes⟩
    intro x hx
    exact hlen x (List.mem_cons_of_mem e hx)

theorem eq_microsBetween_of_key (hd : e.HasDatetime) (h : (e.delay micros).key o' = e.key o) :
    micros = microsBetween o o' := by
  obtain ⟨n, t, memo, hmem⟩ := hd
  induction e with
  | column | outer =>
    cases List.mem_singleton.1 hmem
  | literal v t memo =>
    cases List.mem_singleton.1 hmem
    have hbits := Bytes.bigEndian_toNat_inj (List.cons.inj (List.cons.inj h).2).2
    exact Value.toUtc_add_eq_iff.1 (Int64.toBitVec_inj.1 hbits)
  | call head args memo ih =>
    rw [leaves_call, List.mem_flatMap] at hmem
    obtain ⟨e, he, hmem⟩ := hmem
    rw [key_delay_call, key_call] at h
    have hargs := List.append_cancel_left h
    exact ih e he (eq_of_flatMap_eq (fun e _ => length_key_delay e micros o o') hargs e he) hmem

/-- The key of a tree is kept when the statement moves to another offset and the datetimes in the
tree move with it. A tree with a datetime in it has another key if they move by anything else. -/
theorem IsFresh.hashCode_delay (h : e.IsFresh) (o o' : Int32) :
    ((e.delay (microsBetween o o')).hashCode o').1 = (e.hashCode o).1 ∧
      ∀ micros, ((e.delay micros).hashCode o').1 = (e.hashCode o).1 → e.HasDatetime →
        micros = microsBetween o o' := by
  rw [h.hashCode_eq, (h.delay _).hashCode_eq]
  refine ⟨key_delay e o o', fun micros hk hd => ?_⟩
  rw [(h.delay micros).hashCode_eq] at hk
  exact eq_microsBetween_of_key hd hk

/-- From one end of the offsets to the other, with a datetime that wraps and one inside a call. -/
theorem IsFresh.hashCode_delay_wraps :
    let joined (args : List Expr) := call ⟨⟨"CONCAT", "concat"⟩, .varchar, .concat, {}⟩ args none
    let times m n := joined [literal (.datetime m) .datetime none,
      joined [literal (.datetime n) .datetime none, literal (.text "t") .varchar none]]
    let late := (times 9223372036854775807 0).hashCode (-2147483648)
    ((times (-9219077069559775809) 4294967295000000).hashCode 2147483647).1 = late.1 ∧
      ((times 9223372036854775807 0).hashCode 2147483647).1 ≠ late.1 := by
  intro joined times late
  have hfresh : (times 9223372036854775807 0).IsFresh := by
    simp [IsFresh, All, AllIn, times, joined]
  have hd : (times 9223372036854775807 0).HasDatetime :=
    ⟨9223372036854775807, .datetime, none, List.mem_cons_self⟩
  have hm : microsBetween (-2147483648) 2147483647 = 4294967295000000 := by decide
  obtain ⟨hsame, hother⟩ := IsFresh.hashCode_delay hfresh (-2147483648) 2147483647
  rw [hm] at hsame hother
  refine ⟨hsame, fun h => ?_⟩
  have hzero : (0 : Int64) = 4294967295000000 := hother 0 h hd
  exact absurd hzero (by decide)

end Expr

end ScalarExpr
