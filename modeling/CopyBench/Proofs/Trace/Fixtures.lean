import CopyBench.Bootstrap.Platform
import Mathlib.Data.List.Count
import Mathlib.Data.List.Nodup
/-!
# What is raised and razed

Bringing a context up raises an instance, its debug messenger, a logical device and a pool, and taking it
down razes them again. The events of a trace that do so are balanced when everything that was raised was
razed once, in the reverse of the order in which it was raised.
-/

namespace CopyBench

/-- What a context stands on. -/
inductive Fixture where
  | apiInstance
  | messenger (handle : Handle)
  | device
  | pool (handle : Handle)
deriving DecidableEq, Repr

/-- A fixture that was made, or one that was destroyed. -/
inductive Alteration where
  | raised (fixture : Fixture)
  | razed (fixture : Fixture)
deriving DecidableEq, Repr

/-- What an event does to the fixtures. A call that failed does nothing. -/
def Event.alteration? : Event → Option Alteration
  | ⟨.createInstance _, .done⟩ => some (.raised .apiInstance)
  | ⟨.createMessenger _, .done⟩ => some (.raised (.messenger Platform.messenger))
  | ⟨.createDevice _ _, .done⟩ => some (.raised .device)
  | ⟨.createCommandPool _, .handle made⟩ => some (.raised (.pool made))
  | ⟨.destroyCommandPool pool _, .done⟩ => some (.razed (.pool pool))
  | ⟨.destroyDevice, .done⟩ => some (.razed .device)
  | ⟨.destroyMessenger messenger, .done⟩ => some (.razed (.messenger messenger))
  | ⟨.destroyInstance, .done⟩ => some (.razed .apiInstance)
  | _ => none

@[simp] theorem alteration?_failed (call : Call) (code : ResultCode) :
    Event.alteration? ⟨call, .failed code⟩ = none := by
  cases call <;> rfl

/-- What events do to the fixtures, in order. -/
def alterations (events : List Event) : List Alteration := events.filterMap Event.alteration?

theorem alterations_append (events more : List Event) :
    alterations (events ++ more) = alterations events ++ alterations more :=
  List.filterMap_append

/-! ## Raising and razing in order -/

namespace Fixture

/-- All fixtures, in the order in which they are raised. -/
def inOrder (pool : Handle) : List Fixture :=
  [.apiInstance, .messenger Platform.messenger, .device, .pool pool]

/-- The fixtures are raised in order. -/
def raising (fixtures : List Fixture) : List Alteration := fixtures.map .raised

/-- The fixtures are razed in the reverse order. -/
def razing (fixtures : List Fixture) : List Alteration := (fixtures.map .razed).reverse

/-- The fixtures are raised, and razed again. -/
def cycle (fixtures : List Fixture) : List Alteration := raising fixtures ++ razing fixtures

theorem raising_append (outer inner : List Fixture) : raising (outer ++ inner) = raising outer ++ raising inner :=
  List.map_append

/-- What was raised last is razed first. -/
theorem razing_append (outer inner : List Fixture) : razing (outer ++ inner) = razing inner ++ razing outer := by
  simp only [razing, List.map_append, List.reverse_append]

/-- What is raised and razed while something else stands. -/
theorem cycle_append (outer inner : List Fixture) :
    cycle (outer ++ inner) = raising outer ++ cycle inner ++ razing outer := by
  simp only [cycle, raising_append, razing_append, List.append_assoc]

end Fixture

open Fixture (inOrder raising razing cycle)

/-- Of instance, messenger, device and pool, the events raise some in this order, and raze the same ones in
the reverse order. -/
def Balanced (events : List Event) : Prop :=
  ∃ pool, ∃ fixtures, fixtures.Sublist (inOrder pool) ∧ alterations events = cycle fixtures

theorem balanced_nil : Balanced [] := ⟨0, [], List.nil_sublist _, rfl⟩

theorem Fixture.nodup_inOrder (pool : Handle) : (inOrder pool).Nodup := by
  simp [inOrder]

/-- Where events are balanced, every fixture that was raised was raised once and razed once, and no other
was razed. -/
theorem Balanced.count_razed {events : List Event} (h : Balanced events) (fixture : Fixture) :
    (alterations events).count (.razed fixture) = (alterations events).count (.raised fixture) ∧
      (alterations events).count (.raised fixture) ≤ 1 := by
  obtain ⟨pool, fixtures, hsub, heq⟩ := h
  have hnodup : fixtures.Nodup := (Fixture.nodup_inOrder pool).sublist hsub
  have raisedOnce : (cycle fixtures).count (.raised fixture) = fixtures.count fixture := by
    have mapped := List.count_map_of_injective fixtures Alteration.raised (fun _ _ => Alteration.raised.inj) fixture
    simpa [cycle, raising, razing, mapped] using List.count_eq_zero_of_not_mem (by simp)
  have razedOnce : (cycle fixtures).count (.razed fixture) = fixtures.count fixture := by
    have mapped := List.count_map_of_injective fixtures Alteration.razed (fun _ _ => Alteration.razed.inj) fixture
    simpa [cycle, raising, razing, mapped] using List.count_eq_zero_of_not_mem (by simp)
  rw [heq, raisedOnce, razedOnce]
  exact ⟨rfl, List.nodup_iff_count_le_one.1 hnodup fixture⟩

end CopyBench
