import ScalarExpr.Planning.Event
import ScalarExpr.Proofs.Traversal
/-!
Steps of planning: those whose result does not depend on what is in the log, and those that have a
result whether or not the log is kept.
-/
namespace ScalarExpr

set_option autoImplicit true

/-- A line can be written for the event. -/
def Event.HasLine (e : Event) : Prop := ∃ s, e.line = .ok s

theorem Event.lines_of_hasLine {log : List Event} (h : ∀ e ∈ log, e.HasLine) :
    (lines log).2 = none := by
  induction log with
  | nil => rfl
  | cons e log ih =>
    obtain ⟨s, hs⟩ := h e (by simp)
    rw [lines, hs]
    exact ih fun e he => h e (by simp [he])

namespace Traced

/-- The result is the same whatever is in the log. -/
def IsBlind (m : Traced α) : Prop := ∀ log, (m.run.run log).1 = m.result

namespace IsBlind

theorem pure (a : α) : IsBlind (Pure.pure a) := fun _ => rfl

theorem record (e : Event) : IsBlind (record e) := fun _ => rfl

theorem lift (r : Except Fault α) : IsBlind (Traced.lift r) := fun _ => rfl

end IsBlind

theorem run_bind {m : Traced α} {k : α → Traced β} (hm : m.IsBlind) (hk : ∀ a, (k a).IsBlind)
    (log : List Event) : ((m >>= k).run.run log).1 = m.result >>= fun a => (k a).result := by
  rw [ExceptT.run_bind, StateT.run_bind]
  have h := hm log
  generalize m.run.run log = s at h
  obtain ⟨r, log'⟩ := s
  rw [← h]
  cases r with
  | error f => rfl
  | ok a => exact hk a log'

theorem result_bind {m : Traced α} {k : α → Traced β} (hm : m.IsBlind) (hk : ∀ a, (k a).IsBlind) :
    (m >>= k).result = m.result >>= fun a => (k a).result :=
  run_bind hm hk []

theorem IsBlind.bind {m : Traced α} {k : α → Traced β} (hm : m.IsBlind) (hk : ∀ a, (k a).IsBlind) :
    (m >>= k).IsBlind := fun log =>
  (run_bind hm hk log).trans (result_bind hm hk).symm

theorem IsBlind.mapM {k : α → Traced β} {xs : List α} (hk : ∀ x ∈ xs, (k x).IsBlind) :
    (xs.mapM k).IsBlind := by
  induction xs with
  | nil => exact .pure []
  | cons x xs ih =>
    rw [List.mapM_cons]
    apply IsBlind.bind (hk x (by simp))
    intro y
    apply IsBlind.bind (ih fun z hz => hk z (by simp [hz]))
    intro ys
    exact .pure (y :: ys)

theorem result_mapM {k : α → Traced β} {xs : List α} (hk : ∀ x ∈ xs, (k x).IsBlind) :
    (xs.mapM k).result = xs.mapM fun x => (k x).result := by
  induction xs with
  | nil => rfl
  | cons x xs ih =>
    have hxs : ∀ y ∈ xs, (k y).IsBlind := fun y hy => hk y (by simp [hy])
    have hp (y : β) : (do let ys ← xs.mapM k; Pure.pure (y :: ys) : Traced (List β)).result =
        (xs.mapM k).result >>= fun ys => Pure.pure (y :: ys) :=
      result_bind (.mapM hxs) fun ys => .pure (y :: ys)
    rw [List.mapM_cons, List.mapM_cons, result_bind (hk x (by simp)), ← ih hxs]
    · simp only [hp]
    · exact fun y => .bind (.mapM hxs) fun ys => .pure (y :: ys)

/-- The step has a result, and the property is kept for all events of the log. -/
def Yields (p : α → Prop) (q : Event → Prop) (m : Traced α) : Prop :=
  ∀ log, (∀ e ∈ log, q e) → ∃ a log', m.run.run log = (.ok a, log') ∧ p a ∧ ∀ e ∈ log', q e

namespace Yields

variable {p : α → Prop} {q : Event → Prop}

theorem pure (h : p a) : Yields p q (Pure.pure a) := fun log hq => ⟨a, log, rfl, h, hq⟩

theorem record (h : q e) : Yields (fun _ => True) q (record e) := by
  intro log hq
  refine ⟨(), log ++ [e], rfl, trivial, ?_⟩
  intro e' he'
  obtain he' | he' := List.mem_append.1 he'
  · exact hq e' he'
  · obtain rfl := List.mem_singleton.1 he'
    exact h

theorem bind {p' : β → Prop} {m : Traced α} {k : α → Traced β} (hm : m.Yields p q)
    (hk : ∀ a, p a → (k a).Yields p' q) : (m >>= k).Yields p' q := by
  intro log hq
  obtain ⟨a, log', hr, hp, hq'⟩ := hm log hq
  rw [ExceptT.run_bind, StateT.run_bind, hr]
  exact hk a hp log' hq'

theorem imp {p' : α → Prop} {m : Traced α} (h : m.Yields p q) (hp : ∀ a, p a → p' a) :
    m.Yields p' q := by
  intro log hq
  obtain ⟨a, log', hr, ha, hq'⟩ := h log hq
  exact ⟨a, log', hr, hp a ha, hq'⟩

theorem mapM {R : α → β → Prop} {k : α → Traced β} {xs : List α}
    (hk : ∀ x ∈ xs, (k x).Yields (R x) q) : (xs.mapM k).Yields (List.Forall₂ R xs) q := by
  induction xs with
  | nil => exact .pure .nil
  | cons x xs ih =>
    rw [List.mapM_cons]
    apply Yields.bind (hk x (by simp))
    intro y hy
    apply Yields.bind (ih fun z hz => hk z (by simp [hz]))
    intro ys hys
    exact .pure (.cons hy hys)

end Yields

/-- A step all of whose events have a line has its result whether or not a log is kept. -/
theorem Yields.exists_result {p : α → Prop} {m : Traced α} (h : m.Yields p Event.HasLine) :
    ∃ a, m.result = .ok a ∧ m.logged.1 = .ok a ∧ p a := by
  obtain ⟨a, log, hr, hp, hl⟩ := h [] (List.forall_mem_nil _)
  have ho : m.outcome = (.ok a, log) := hr
  have hlines := Event.lines_of_hasLine hl
  refine ⟨a, congrArg Prod.fst ho, ?_, hp⟩
  rw [logged, ho]
  generalize Event.lines log = ls at hlines
  obtain ⟨texts, fault⟩ := ls
  cases hlines
  exact congrArg Prod.fst ho

/-- What a step yields is its result, if the result is the same for all logs. -/
theorem Yields.and_result {p : α → Prop} {q : Event → Prop} {m : Traced α} (h : m.Yields p q)
    (hm : m.IsBlind) : m.Yields (fun a => m.result = .ok a ∧ p a) q := by
  intro log hq
  obtain ⟨a, log', hr, hp, hq'⟩ := h log hq
  exact ⟨a, log', hr, ⟨(hm log).symm.trans (congrArg Prod.fst hr), hp⟩, hq'⟩

/-- The step has the result whether or not a log is kept. -/
def Gives (m : Traced α) (a : α) : Prop := m.result = .ok a ∧ m.logged.1 = .ok a

theorem Yields.gives {p : α → Prop} {m : Traced α} (h : m.Yields p Event.HasLine)
    (ha : ∀ b, p b → b = a) : m.Gives a := by
  obtain ⟨b, hr, hl, hb⟩ := h.exists_result
  obtain rfl := ha b hb
  exact ⟨hr, hl⟩

end Traced

end ScalarExpr
