import Mathlib.Data.List.Forall2
import Mathlib.Tactic.Common

/-!
# Registries of entries that die on their own

A registry lists entries under keys.  An entry dies without telling the registry,
as a weak reference does, and is dropped when somebody next looks.  Entries are
added under keys that no live entry has.
-/

namespace BinanceApi.Registry

variable {ε κ : Type*} {key : ε → κ} {alive : ε → Bool}

/-- No two live entries have the same key. -/
def Distinct (key : ε → κ) (alive : ε → Bool) (entries : List ε) : Prop :=
  entries.Pairwise fun left right =>
    alive left = true → alive right = true → key left ≠ key right

/-- No live entry has the key. -/
def Free (key : ε → κ) (alive : ε → Bool) (name : κ) (entries : List ε) : Prop :=
  ∀ entry ∈ entries, alive entry = true → key entry ≠ name

/-- The same entries under the same keys, of which some may have died. -/
def Fades (key : ε → κ) (alive : ε → Bool) (before after : List ε) : Prop :=
  List.Forall₂ (fun old new => key new = key old ∧ (alive new = true → alive old = true))
    before after

theorem Fades.refl (entries : List ε) : Fades key alive entries entries := by
  induction entries with
  | nil => exact .nil
  | cons entry entries ih => exact .cons ⟨rfl, id⟩ ih

theorem fades_set {entries : List ε} {index : Nat} {old new : ε}
    (found : entries[index]? = some old) (sameKey : key new = key old)
    (dies : alive new = true → alive old = true) :
    Fades key alive entries (entries.set index new) := by
  induction entries generalizing index with
  | nil => cases found
  | cons entry entries ih =>
      cases index with
      | zero =>
          cases found
          exact .cons ⟨sameKey, dies⟩ (Fades.refl entries)
      | succ index => exact .cons ⟨rfl, id⟩ (ih found)

theorem Fades.keys {before after : List ε} (fades : Fades key alive before after) :
    after.map key = before.map key := by
  induction fades with
  | nil => rfl
  | cons head _ ih => rw [List.map_cons, List.map_cons, head.1, ih]

/-- What is alive at a place was alive there. -/
theorem Fades.alive_before {before after : List ε} (fades : Fades key alive before after)
    {index : Nat} {new : ε} (found : after[index]? = some new) (live : alive new = true) :
    ∃ old, before[index]? = some old ∧ alive old = true := by
  induction fades generalizing index with
  | nil => cases found
  | @cons old _ _ _ head _ ih =>
      cases index with
      | zero =>
          cases found
          exact ⟨old, rfl, head.2 live⟩
      | succ index => exact ih found

theorem Fades.free {before after : List ε} {name : κ}
    (fades : Fades key alive before after) (free : Free key alive name before) :
    Free key alive name after := by
  induction fades with
  | nil => exact free
  | cons head _ ih =>
      rcases List.forall_mem_cons.mp free with ⟨first, rest⟩
      intro entry member live
      rcases List.mem_cons.mp member with rfl | member
      · rw [head.1]
        exact first (head.2 live)
      · exact ih rest entry member live

theorem Fades.distinct {before after : List ε} (fades : Fades key alive before after)
    (distinct : Distinct key alive before) : Distinct key alive after := by
  induction fades with
  | nil => exact distinct
  | cons head tail ih =>
      rcases List.pairwise_cons.mp distinct with ⟨first, rest⟩
      apply List.pairwise_cons.mpr
      constructor
      · intro entry member liveHead liveEntry
        rw [head.1]
        -- the head's key is free among the others
        have free : Free key alive (key _) _ := fun other found live same =>
          first other found (head.2 liveHead) live same.symm
        exact (Fades.free tail free entry member liveEntry).symm
      · exact ih rest

/-- Dropping the dead entries. -/
theorem Distinct.prune {entries : List ε} (distinct : Distinct key alive entries) :
    Distinct key alive (entries.filter alive) :=
  List.Pairwise.filter alive distinct

theorem Free.prune {entries : List ε} {name : κ} (free : Free key alive name entries) :
    Free key alive name (entries.filter alive) := by
  intro entry member
  exact free entry (List.mem_filter.mp member).1

/-- What is noted beside the entries, place by place, for those that are alive. -/
def survivors {ν : Type*} (alive : ε → Bool) (entries : List ε) (notes : List ν) :
    List ν :=
  ((entries.zip notes).filter fun both => alive both.1).map Prod.snd

theorem mem_survivors {ν : Type*} {entries : List ε} {notes : List ν} {note : ν}
    (member : note ∈ survivors alive entries notes) : note ∈ notes := by
  rcases List.mem_map.mp member with ⟨both, kept, rfl⟩
  exact (List.of_mem_zip (List.mem_filter.mp kept).1).2

/-- Notes that agree with the entries on the keys still do after the pruning. -/
theorem prune_keys {ν : Type*} {noteKey : ν → κ} {entries : List ε} {notes : List ν}
    (agree : entries.map key = notes.map noteKey) :
    (entries.filter alive).map key =
      (survivors alive entries notes).map noteKey := by
  induction entries generalizing notes with
  | nil => rfl
  | cons entry entries ih =>
      cases notes with
      | nil => cases agree
      | cons note notes =>
          rcases List.cons.inj agree with ⟨sameKey, rest⟩
          have tail := ih rest
          simp only [survivors, List.zip_cons_cons, List.filter_cons] at tail ⊢
          split
          · rw [List.map_cons, List.map_cons, List.map_cons, sameKey, tail]
          · exact tail

/-- Adding an entry under a free key. -/
theorem Distinct.concat {entries : List ε} {new : ε}
    (distinct : Distinct key alive entries) (free : Free key alive (key new) entries) :
    Distinct key alive (entries ++ [new]) := by
  apply List.pairwise_append.mpr
  refine ⟨distinct, List.pairwise_singleton _ _, ?_⟩
  intro entry member other found liveEntry _
  rw [List.mem_singleton.mp found]
  exact free entry member liveEntry

/-- Two live entries of one key stand in the same place. -/
theorem Distinct.unique {entries : List ε} {first second : Nat} {left right : ε}
    (distinct : Distinct key alive entries) (atFirst : entries[first]? = some left)
    (atSecond : entries[second]? = some right) (liveLeft : alive left = true)
    (liveRight : alive right = true) (sameKey : key left = key right) :
    first = second := by
  rcases List.getElem?_eq_some_iff.mp atFirst with ⟨firstIn, rfl⟩
  rcases List.getElem?_eq_some_iff.mp atSecond with ⟨secondIn, rfl⟩
  have apart := List.pairwise_iff_getElem.mp distinct
  rcases Nat.lt_trichotomy first second with before | same | after
  · exact absurd sameKey (apart first second firstIn secondIn before liveLeft liveRight)
  · exact same
  · exact absurd sameKey.symm
      (apart second first secondIn firstIn after liveRight liveLeft)

/-- Where the entry that stands at a place after the pruning stood before. -/
def place (alive : ε → Bool) : List ε → Nat → Nat
  | [], index => index
  | entry :: entries, index =>
      if alive entry then
        match index with
        | 0 => 0
        | index + 1 => place alive entries index + 1
      else place alive entries index + 1

/-- Pruning moves an entry and its note together. -/
theorem getElem?_survivors {ν : Type*} {entries : List ε} {notes : List ν}
    (paired : notes.length = entries.length) (index : Nat) :
    (survivors alive entries notes)[index]? = notes[place alive entries index]? := by
  induction entries generalizing notes index with
  | nil =>
      rw [List.eq_nil_of_length_eq_zero paired]
      rfl
  | cons entry entries ih =>
      cases notes with
      | nil => cases paired
      | cons note notes =>
          have tail := ih (Nat.succ.inj paired)
          simp only [survivors, List.zip_cons_cons, List.filter_cons, place] at tail ⊢
          split
          · cases index with
            | zero => rfl
            | succ index => simpa using tail index
          · simpa using tail index

theorem length_survivors {ν : Type*} {entries : List ε} {notes : List ν}
    (paired : notes.length = entries.length) :
    (survivors alive entries notes).length = (entries.filter alive).length := by
  induction entries generalizing notes with
  | nil => simp [survivors]
  | cons entry entries ih =>
      cases notes with
      | nil => cases paired
      | cons note notes =>
          have tail := ih (Nat.succ.inj paired)
          simp only [survivors, List.length_map, List.zip_cons_cons,
            List.filter_cons] at tail ⊢
          split
          · simpa using tail
          · exact tail

/-- The entries that are alive are the notes that every entry keeps of itself. -/
theorem survivors_self (entries : List ε) :
    survivors alive entries entries = entries.filter alive := by
  induction entries with
  | nil => rfl
  | cons entry entries ih =>
      simp only [survivors, List.zip_cons_cons, List.filter_cons] at ih ⊢
      split
      · rw [List.map_cons, ih]
      · exact ih

theorem getElem?_filter (entries : List ε) (index : Nat) :
    (entries.filter alive)[index]? = entries[place alive entries index]? := by
  rw [← survivors_self, getElem?_survivors rfl]

end BinanceApi.Registry
