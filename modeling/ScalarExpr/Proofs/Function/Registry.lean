import ScalarExpr.Function.Registry
import ScalarExpr.Proofs.Text.Lowercase
/-!
A registry as a map. Its classes stand under lowercase names, each under its own, in the order of
the names, so after any registrations a name in any case stands for the class that was registered
last under it.
-/
namespace ScalarExpr.FunctionRegistry

set_option autoImplicit true

variable {r : FunctionRegistry} {entries : List (String × FunctionClass)}

/-! ### Putting a class in its place -/

theorem mem_insert_names :
    n ∈ (insert k c entries).map (·.1) ↔ n = k ∨ n ∈ entries.map (·.1) := by
  fun_induction insert k c entries with
  | case1 => simp
  | case2 => simp
  | case3 => simp
  | case4 m d rest hlt hne ih =>
    rw [List.map_cons, List.mem_cons, ih, List.map_cons, List.mem_cons, or_left_comm]

theorem sorted_insert (h : (entries.map (·.1)).Pairwise (· < ·)) :
    ((insert k c entries).map (·.1)).Pairwise (· < ·) := by
  fun_induction insert k c entries with
  | case1 => exact List.pairwise_singleton _ _
  | case2 m d rest hlt =>
    refine List.pairwise_cons.2 ⟨fun n hn => ?_, h⟩
    obtain rfl | hn := List.mem_cons.1 hn
    · exact hlt
    · exact String.lt_trans hlt ((List.pairwise_cons.1 h).1 n hn)
  | case3 d rest hlt => exact h
  | case4 m d rest hlt hne ih =>
    obtain ⟨hm, hrest⟩ := List.pairwise_cons.1 h
    refine List.pairwise_cons.2 ⟨fun n hn => ?_, ih hrest⟩
    obtain rfl | hn := mem_insert_names.1 hn
    · exact Std.lt_of_le_of_ne (String.not_lt.1 hlt) (Ne.symm hne)
    · exact hm n hn

theorem find?_cons :
    find? ⟨(m, d) :: entries⟩ n = if m = n then some d else find? ⟨entries⟩ n := by
  by_cases h : m = n <;> simp [find?, h]

theorem mem_names_of_find? (h : r.find? n = some c) : n ∈ r.names := by
  obtain ⟨⟨m, d⟩, hm, -⟩ := Option.map_eq_some_iff.1 h
  have hn := List.find?_some hm
  rw [decide_eq_true_eq] at hn
  exact List.mem_map.2 ⟨(m, d), List.mem_of_find?_eq_some hm, hn⟩

theorem find?_insert :
    find? ⟨insert k c entries⟩ n = if k = n then some c else find? ⟨entries⟩ n := by
  fun_induction insert k c entries with
  | case1 => rw [find?_cons]
  | case2 m d rest hlt => rw [find?_cons]
  | case3 d rest hlt =>
    rw [find?_cons, find?_cons]
    split
    · rfl
    · rfl
  | case4 m d rest hlt hne ih =>
    rw [find?_cons, find?_cons, ih]
    by_cases hm : m = n
    · rw [if_pos hm, if_neg (fun h => hne (h.trans hm.symm)), if_pos hm]
    · rw [if_neg hm, if_neg hm]

/-! ### Registering classes -/

/-- The registry holds of `cs`, registered in this order, the last of each name. -/
structure Holds (r : FunctionRegistry) (cs : List FunctionClass) : Prop where
  find?_eq (n : String) : r.find? n = cs.reverse.find? (Text.lower ·.name = n)
  mem_names (n : String) : n ∈ r.names ↔ ∃ c ∈ cs, Text.lower c.name = n
  sorted : r.names.Pairwise (· < ·)

theorem holds_empty : empty.Holds [] where
  find?_eq _ := rfl
  mem_names _ := by simp [empty, names]
  sorted := List.Pairwise.nil

theorem Holds.register (h : r.Holds cs) (c : FunctionClass) :
    (r.register c).Holds (cs ++ [c]) where
  find?_eq n := by
    have hc : (r.register c).find? n = if Text.lower c.name = n then some c else r.find? n :=
      find?_insert
    rw [hc, h.find?_eq, List.reverse_append, List.reverse_singleton, List.singleton_append,
      List.find?_cons]
    by_cases hn : Text.lower c.name = n <;> simp [hn]
  mem_names n := by
    have hc : n ∈ (r.register c).names ↔ n = Text.lower c.name ∨ n ∈ r.names := mem_insert_names
    rw [hc, h.mem_names]
    simp [or_and_right, exists_or, or_comm, eq_comm]
  sorted := sorted_insert h.sorted

theorem Holds.registerAll (h : r.Holds cs) (ds : List FunctionClass) :
    (r.registerAll ds).Holds (cs ++ ds) := by
  induction ds generalizing r cs with
  | nil => rwa [List.append_nil]
  | cons d ds ih =>
    have hd := ih (h.register d)
    rwa [List.append_assoc] at hd

/-- A name that is there as it is stands for the same class in lowercase: it is lowercase. -/
theorem Holds.lookup_eq (h : r.Holds cs) (name : String) :
    r.lookup name = r.find? (Text.lower name) := by
  unfold lookup
  cases hf : r.find? name with
  | none => rw [Option.none_or]
  | some c =>
    obtain ⟨d, -, hd⟩ := (h.mem_names name).1 (mem_names_of_find? hf)
    rw [← hd, Text.lower_lower, hd, hf, Option.some_or]

theorem Holds.contains_iff (h : r.Holds cs) (name : String) :
    r.contains name ↔ ∃ c ∈ cs, Text.lower c.name = Text.lower name := by
  simp [contains, h.lookup_eq, h.find?_eq]

/-- After any registrations a name in any case stands for the last class of that name, and the names
are those of the classes in lowercase, each once and in order. -/
theorem lookup_registerAll (cs : List FunctionClass) :
    let r := empty.registerAll cs
    (∀ name, r.lookup name = cs.reverse.find? (Text.lower ·.name = Text.lower name)) ∧
    (∀ name c, r.find? name = some c → r.find? (Text.lower name) = some c) ∧
    (∀ name, r.contains name = (r.lookup name).isSome ∧
      (r.contains name ↔ ∃ c ∈ cs, Text.lower c.name = Text.lower name)) ∧
    r.names.Pairwise (· < ·) ∧ r.names.length = r.size ∧
    ∀ n, n ∈ r.names ↔ ∃ c ∈ cs, Text.lower c.name = n := by
  intro r
  have h : r.Holds cs := holds_empty.registerAll cs
  refine ⟨fun name => ?_, fun name c hc => ?_, fun name => ⟨rfl, h.contains_iff name⟩, h.sorted,
    List.length_map _, h.mem_names⟩
  · rw [h.lookup_eq, h.find?_eq]
  · rw [← h.lookup_eq, lookup, hc, Option.some_or]

end ScalarExpr.FunctionRegistry
