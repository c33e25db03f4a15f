import Mathlib.Data.List.Induction
import Mathlib.Order.Lattice

/-!
# Roll-over in a sequence of updates

A sequence of updates is divided by a stamp: consecutive updates with one stamp
belong together, and an update with another stamp starts something new.  The last
update before the latest change of stamp is the final one of its kind.
-/

namespace BinanceApi.Rollover

variable {α : Type*} {β : Type*}

/-- Every update with its immediate successor. -/
def successions (updates : List α) : List (α × α) :=
  updates.zip updates.tail

theorem successions_concat (front : List α) (last next : α) :
    successions (front ++ [last, next]) =
      successions (front ++ [last]) ++ [(last, next)] := by
  induction front with
  | nil => rfl
  | cons head rest ih =>
      cases rest with
      | nil => rfl
      | cons second rest =>
          simp only [successions, List.cons_append, List.tail_cons, List.zip_cons_cons]
            at ih ⊢
          rw [ih]

section Replaced

variable [DecidableEq β] (stamp : α → β)

/-- The last update whose immediate successor has a different stamp. -/
def lastReplaced (updates : List α) : Option α :=
  ((successions updates).filter fun succession =>
    stamp succession.1 ≠ stamp succession.2).getLast?.map Prod.fst

@[simp] theorem lastReplaced_nil : lastReplaced stamp [] = none := rfl

theorem mem_of_lastReplaced {updates : List α} {replaced : α}
    (found : lastReplaced stamp updates = some replaced) : replaced ∈ updates := by
  rcases Option.map_eq_some_iff.mp found with ⟨succession, last, rfl⟩
  have membership := (List.mem_filter.mp (List.mem_of_getLast? last)).1
  exact (List.of_mem_zip membership).1

/-- An update replaces its predecessor if their stamps differ. -/
theorem lastReplaced_concat (front : List α) (last next : α) :
    lastReplaced stamp (front ++ [last, next]) =
      if stamp last = stamp next then lastReplaced stamp (front ++ [last])
      else some last := by
  rw [lastReplaced, successions_concat, List.filter_append]
  by_cases same : stamp last = stamp next
  · simp [lastReplaced, same]
  · simp [same]

theorem lastReplaced_append_singleton (updates : List α) (next : α) :
    lastReplaced stamp (updates ++ [next]) =
      match updates.getLast? with
      | some last =>
          if stamp last = stamp next then lastReplaced stamp updates else some last
      | none => none := by
  cases updates using List.reverseRecOn with
  | nil => rfl
  | append_singleton front last =>
      rw [List.append_assoc, List.singleton_append, lastReplaced_concat]
      simp

end Replaced

section Ordered

variable [LinearOrder β] {stamp : α → β} {updates : List α} {current previous : α}

/-- When stamps never decrease, the update replaced last is the last one with a
smaller stamp than the current one. -/
theorem lastReplaced_eq_getLast_lt
    (ordered : updates.Pairwise fun earlier later => stamp earlier ≤ stamp later)
    (last : updates.getLast? = some current) :
    lastReplaced stamp updates =
      (updates.filter fun update => stamp update < stamp current).getLast? := by
  induction updates using List.reverseRecOn generalizing current with
  | nil => cases last
  | append_singleton front newest ih =>
      rw [List.getLast?_concat, Option.some.injEq] at last
      subst last
      rcases List.pairwise_append.mp ordered with ⟨frontOrdered, _, below⟩
      rw [lastReplaced_append_singleton]
      cases frontLast : front.getLast? with
      | none => simp [List.getLast?_eq_none_iff.mp frontLast]
      | some before =>
          have beforeLe : stamp before ≤ stamp newest :=
            below before (List.mem_of_getLast? frontLast) newest (by simp)
          by_cases same : stamp before = stamp newest
          · simp [same, ih frontOrdered frontLast]
          · have earlier : stamp before < stamp newest := lt_of_le_of_ne beforeLe same
            rcases List.getLast?_eq_some_iff.mp frontLast with ⟨rest, rfl⟩
            simp [same, earlier]

/-- The last update with a smaller stamp is the final update of the greatest
smaller stamp. -/
theorem final_of_getLast_lt
    (ordered : updates.Pairwise fun earlier later => stamp earlier ≤ stamp later)
    (last : (updates.filter fun update => stamp update < stamp current).getLast? =
      some previous) :
    stamp previous < stamp current ∧
      (∀ update ∈ updates, stamp update < stamp current →
        stamp update ≤ stamp previous) ∧
      (updates.filter fun update => stamp update = stamp previous).getLast? =
        some previous := by
  rcases List.getLast?_eq_some_iff.mp last with ⟨rest, earlierEq⟩
  have earlierOrdered := ordered.sublist
    (List.filter_sublist (p := fun update => stamp update < stamp current))
  rw [earlierEq] at earlierOrdered
  have below := (List.pairwise_append.mp earlierOrdered).2.2
  have previousEarlier : stamp previous < stamp current := by
    have membership : previous ∈
        updates.filter fun update => stamp update < stamp current := by
      simp [earlierEq]
    simpa using (List.mem_filter.mp membership).2
  refine ⟨previousEarlier, ?_, ?_⟩
  · intro update membership smaller
    have earlier : update ∈ rest ++ [previous] := by
      rw [← earlierEq]
      exact List.mem_filter.mpr ⟨membership, by simpa using smaller⟩
    rcases List.mem_append.mp earlier with inRest | isPrevious
    · exact below update inRest previous (by simp)
    · rw [List.mem_singleton.mp isPrevious]
  · have narrowed : (updates.filter fun update => stamp update = stamp previous) =
        (updates.filter fun update => stamp update < stamp current).filter
          fun update => stamp update = stamp previous := by
      rw [List.filter_filter]
      apply List.filter_congr
      intro update _
      grind
    simp [narrowed, earlierEq]

end Ordered

end BinanceApi.Rollover
