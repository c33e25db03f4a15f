import Mathlib.Data.List.Dedup
import Mathlib.Data.List.DropRight
import Mathlib.Data.List.Intervals
import Mathlib.Order.Lattice

/-!
# Reading an ordered list page by page

A list of records is ordered by a key, or by intervals that follow one another
without overlap.  A reader that fetches a page and continues at a bound taken
from that page sees again a part of the list that depends only on the bound;
these lemmas say which part.
-/

namespace BinanceApi.Paging

variable {α : Type*} {β : Type*} [LinearOrder β]

/-- Records that occupy consecutive intervals: each starts after the one before
has stopped. -/
def Consecutive (start stop : α → β) (records : List α) : Prop :=
  (∀ record ∈ records, start record < stop record) ∧
    records.Pairwise fun earlier later => stop earlier < start later

/-- Records with strictly increasing keys. -/
def Increasing (key : α → β) (records : List α) : Prop :=
  records.Pairwise fun earlier later => key earlier < key later

theorem Increasing.sublist {key : α → β} {records part : List α}
    (increasing : Increasing key records) (sublist : part.Sublist records) :
    Increasing key part :=
  List.Pairwise.sublist sublist increasing

theorem Consecutive.sublist {start stop : α → β} {records part : List α}
    (consecutive : Consecutive start stop records)
    (sublist : part.Sublist records) : Consecutive start stop part :=
  ⟨fun record membership => consecutive.1 record (sublist.subset membership),
    List.Pairwise.sublist sublist consecutive.2⟩

/-- Continuing where the last interval of a page stopped leaves exactly what the
page did not contain. -/
theorem Consecutive.filter_stop_le {start stop : α → β} {front back : List α}
    {last : α} (consecutive : Consecutive start stop (front ++ [last] ++ back)) :
    (front ++ [last] ++ back).filter (fun record => stop last ≤ start record) =
      back := by
  rcases consecutive with ⟨positive, ordered⟩
  rcases List.pairwise_append.mp ordered with ⟨pageOrdered, _, apart⟩
  rcases List.pairwise_append.mp pageOrdered with ⟨_, _, beforeLast⟩
  have lastPositive : start last < stop last := positive last (by simp)
  have frontEmpty :
      front.filter (fun record => stop last ≤ start record) = [] := by
    apply List.filter_eq_nil_iff.mpr
    intro record membership
    have recordPositive : start record < stop record :=
      positive record (by simp [membership])
    have stopped : stop record < start last :=
      beforeLast record membership last (by simp)
    simpa using (recordPositive.trans stopped).trans lastPositive
  have backAll :
      back.filter (fun record => stop last ≤ start record) = back := by
    apply List.filter_eq_self.mpr
    intro record membership
    simpa using (apart last (by simp) record membership).le
  simp [List.filter_append, frontEmpty, backAll, lastPositive]

/-- Continuing at the key of the last record of a page reads that record
again. -/
theorem Increasing.filter_key_le {key : α → β} {front back : List α} {last : α}
    (increasing : Increasing key (front ++ [last] ++ back)) :
    (front ++ [last] ++ back).filter (fun record => key last ≤ key record) =
      last :: back := by
  rcases List.pairwise_append.mp increasing with ⟨pageOrdered, _, apart⟩
  rcases List.pairwise_append.mp pageOrdered with ⟨_, _, beforeLast⟩
  have frontEmpty : front.filter (fun record => key last ≤ key record) = [] := by
    apply List.filter_eq_nil_iff.mpr
    intro record membership
    simpa using beforeLast record membership last (by simp)
  have backAll : back.filter (fun record => key last ≤ key record) = back := by
    apply List.filter_eq_self.mpr
    intro record membership
    simpa using (apart last (by simp) record membership).le
  simp [List.filter_append, frontEmpty, backAll]

/-- Stopping before the key of the first record of a page leaves exactly what
comes before the page. -/
theorem Increasing.filter_key_lt {key : α → β} {front back : List α} {first : α}
    (increasing : Increasing key (front ++ first :: back)) :
    (front ++ first :: back).filter (fun record => key record < key first) =
      front := by
  rcases List.pairwise_append.mp increasing with ⟨_, pageOrdered, apart⟩
  rcases List.pairwise_cons.mp pageOrdered with ⟨afterFirst, _⟩
  have frontAll : front.filter (fun record => key record < key first) = front := by
    apply List.filter_eq_self.mpr
    intro record membership
    simpa using apart record membership first (by simp)
  have backEmpty : back.filter (fun record => key record < key first) = [] := by
    apply List.filter_eq_nil_iff.mpr
    intro record membership
    simpa using (afterFirst record membership).le
  simp [List.filter_append, frontAll, backEmpty]

/-- Records whose keys do not decrease. -/
def Ordered (key : α → β) (records : List α) : Prop :=
  records.Pairwise fun earlier later => key earlier ≤ key later

theorem Increasing.ordered {key : α → β} {records : List α}
    (increasing : Increasing key records) : Ordered key records :=
  List.Pairwise.imp le_of_lt increasing

theorem Ordered.sublist {key : α → β} {records part : List α}
    (ordered : Ordered key records) (sublist : part.Sublist records) :
    Ordered key part :=
  List.Pairwise.sublist sublist ordered

/-- The records up to a key and those after it make up the list. -/
theorem Ordered.filter_le_append {key : α → β} {records : List α}
    (ordered : Ordered key records) (bound : β) :
    records.filter (fun record => key record ≤ bound) ++
      records.filter (fun record => bound < key record) = records := by
  induction records with
  | nil => rfl
  | cons first rest ih =>
      rcases List.pairwise_cons.mp ordered with ⟨after, restOrdered⟩
      have split := ih restOrdered
      rcases le_or_gt (key first) bound with inside | outside
      · simp [inside, inside.not_gt, split]
      · have none : rest.filter (fun record => key record ≤ bound) = [] := by
          apply List.filter_eq_nil_iff.mpr
          intro record membership
          simpa using outside.trans_le (after record membership)
        rw [none, List.nil_append] at split
        simp [outside, outside.not_ge, none, split]

/-- The records of a closed range of times are those up to a time and those after
it. -/
theorem Ordered.filter_between_append {key : α → Int} {records : List α}
    (ordered : Ordered key records) {start middle stop : Int}
    (first : start ≤ middle + 1) (last : middle ≤ stop) :
    records.filter (fun record => start ≤ key record ∧ key record ≤ middle) ++
        records.filter (fun record => middle + 1 ≤ key record ∧ key record ≤ stop) =
      records.filter fun record => start ≤ key record ∧ key record ≤ stop := by
  have split := (ordered.sublist (List.filter_sublist (l := records)
    (p := fun record => start ≤ key record ∧ key record ≤ stop))).filter_le_append middle
  rw [← split, List.filter_filter, List.filter_filter]
  congr 1
  · apply List.filter_congr
    intro record _
    grind
  · apply List.filter_congr
    intro record _
    grind

/-- A range that ends later begins with the same records. -/
theorem Ordered.filter_between_initial {key : α → β} {records : List α}
    (ordered : Ordered key records) (start : β) {middle stop : β} (later : middle ≤ stop) :
    records.filter (fun record => start ≤ key record ∧ key record ≤ middle) <+:
      records.filter fun record => start ≤ key record ∧ key record ≤ stop := by
  have split := (ordered.sublist (List.filter_sublist (l := records)
    (p := fun record => start ≤ key record ∧ key record ≤ stop))).filter_le_append middle
  rw [List.filter_filter] at split
  rw [← split]
  have narrowed : records.filter (fun record => start ≤ key record ∧ key record ≤ middle) =
      records.filter fun record =>
        decide (key record ≤ middle) && decide (start ≤ key record ∧ key record ≤ stop) := by
    apply List.filter_congr
    intro record _
    grind
  rw [narrowed]
  exact List.prefix_append _ _

/-- Records seen a second time, when the last one may have changed under its key and more
may have followed: a longer range begins with what the first range has before its last
record, and goes on. -/
theorem Increasing.filter_between_seen_again {key : α → β} {front more : List α}
    {last changed : α} (increasing : Increasing key (front ++ [last]))
    (sameKey : key changed = key last) {start middle stop : β} (later : middle ≤ stop)
    (some : (front ++ [last]).filter
      (fun record => start ≤ key record ∧ key record ≤ middle) ≠ []) :
    ∃ rest, rest ≠ [] ∧
      (front ++ [changed] ++ more).filter
          (fun record => start ≤ key record ∧ key record ≤ stop) =
        ((front ++ [last]).filter
          (fun record => start ≤ key record ∧ key record ≤ middle)).dropLast ++ rest := by
  rcases List.pairwise_append.mp increasing with ⟨frontIncreasing, -, beforeLast⟩
  by_cases inside : start ≤ key last ∧ key last ≤ middle
  · have same : front.filter (fun record => start ≤ key record ∧ key record ≤ middle) =
        front.filter fun record => start ≤ key record ∧ key record ≤ stop := by
      apply List.filter_congr
      intro record membership
      have earlier := beforeLast record membership last (by simp)
      grind
    have changedInside : start ≤ key changed ∧ key changed ≤ stop := by
      rw [sameKey]
      exact ⟨inside.1, inside.2.trans later⟩
    have kept : (front ++ [last]).filter
          (fun record => start ≤ key record ∧ key record ≤ middle) =
        front.filter (fun record => start ≤ key record ∧ key record ≤ middle) ++ [last] := by
      rw [List.filter_append, List.filter_cons_of_pos (by simpa using inside),
        List.filter_nil]
    refine ⟨changed :: more.filter
      (fun record => start ≤ key record ∧ key record ≤ stop), by simp, ?_⟩
    rw [kept, List.dropLast_concat, same, List.append_assoc, List.filter_append,
      List.singleton_append, List.filter_cons_of_pos (by simpa using changedInside)]
  · have dropped : (front ++ [last]).filter
          (fun record => start ≤ key record ∧ key record ≤ middle) =
        front.filter fun record => start ≤ key record ∧ key record ≤ middle := by
      rw [List.filter_append, List.filter_cons_of_neg (by simpa using inside),
        List.filter_nil, List.append_nil]
    rw [dropped] at some ⊢
    rcases (Increasing.ordered frontIncreasing).filter_between_initial start later with
      ⟨extra, split⟩
    rcases List.eq_nil_or_concat' (front.filter
      fun record => start ≤ key record ∧ key record ≤ middle) with none | ⟨kept, final, ends⟩
    · exact absurd none some
    · refine ⟨final :: (extra ++ ([changed] ++ more).filter
        fun record => start ≤ key record ∧ key record ≤ stop), by simp, ?_⟩
      rw [List.append_assoc, List.filter_append, ← split, ends, List.dropLast_concat]
      simp

/-! ## All but the last record -/

/-- If what holds of a record holds of all before it, the records of which it holds
are all but the last exactly when one record is left over. -/
theorem dropLast_eq_filter_iff {p : α → Bool} {records : List α}
    (closed : records.Pairwise fun earlier later => p later = true → p earlier = true) :
    records.dropLast = records.filter p ↔
      records = [] ∨ (records.filter fun record => !p record).length = 1 := by
  have lengths := List.length_eq_length_filter_add (l := records) p
  constructor
  · intro equal
    cases records with
    | nil => exact .inl rfl
    | cons first rest =>
        have dropped := congrArg List.length equal
        simp only [List.length_dropLast, List.length_cons] at dropped lengths
        exact .inr (by omega)
  · intro either
    rcases List.eq_nil_or_concat' records with rfl | ⟨front, last, rfl⟩
    · rfl
    · have single := either.resolve_left (by simp)
      rcases List.pairwise_append.mp closed with ⟨-, -, down⟩
      rw [List.filter_append, List.length_append] at single
      cases lastHolds : p last with
      | true =>
          -- then all the records before it are in as well
          have none : front.filter (fun record => !p record) = [] := by
            apply List.filter_eq_nil_iff.mpr
            intro record membership
            simp [down record membership last (by simp) lastHolds]
          simp [none, lastHolds] at single
      | false =>
          have none : front.filter (fun record => !p record) = [] := by
            simpa [lastHolds] using single
          have all : front.filter p = front := by
            apply List.filter_eq_self.mpr
            intro record membership
            simpa using List.filter_eq_nil_iff.mp none record membership
          simp [List.filter_append, lastHolds, all]

/-- Two lists that each lose their last element lose one too many, unless one of them
has none to lose. -/
theorem dropLast_append_dropLast_iff {front back : List α} :
    front.dropLast ++ back.dropLast = (front ++ back).dropLast ↔
      front = [] ∨ back = [] := by
  rcases List.eq_nil_or_concat' front with rfl | ⟨front, last, rfl⟩
  · simp
  · rcases List.eq_nil_or_concat' back with rfl | ⟨back, final, rfl⟩
    · simp
    · simp [← List.append_assoc]

/-! ## Pages from the end -/

/-- What remains of a list after its last `count` pages. -/
def older (records : List α) (size count : Nat) : List α :=
  records.rdrop (count * size)

/-- The last `count` pages of a list. -/
def newest (records : List α) (size count : Nat) : List α :=
  records.rtake (count * size)

/-- The page before the last `count` pages. -/
def pageBefore (records : List α) (size count : Nat) : List α :=
  (older records size count).rtake size

theorem rdrop_append_rtake (records : List α) (count : Nat) :
    records.rdrop count ++ records.rtake count = records :=
  List.take_append_drop _ _

@[simp] theorem older_zero (records : List α) (size : Nat) :
    older records size 0 = records := by
  simp [older]

@[simp] theorem newest_zero (records : List α) (size : Nat) :
    newest records size 0 = [] := by
  simp [newest]

theorem older_append_newest (records : List α) (size count : Nat) :
    older records size count ++ newest records size count = records :=
  rdrop_append_rtake records _

theorem older_succ (records : List α) (size count : Nat) :
    older records size (count + 1) = (older records size count).rdrop size := by
  simp only [older, List.rdrop, List.take_take, List.length_take]
  congr 1
  rw [Nat.succ_mul]
  omega

theorem older_succ_append_pageBefore (records : List α) (size count : Nat) :
    older records size (count + 1) ++ pageBefore records size count =
      older records size count := by
  rw [older_succ]
  exact rdrop_append_rtake _ size

theorem newest_succ (records : List α) (size count : Nat) :
    newest records size (count + 1) =
      pageBefore records size count ++ newest records size count := by
  rw [← List.append_right_inj (older records size (count + 1))]
  rw [older_append_newest, ← List.append_assoc, older_succ_append_pageBefore,
    older_append_newest]

theorem older_subset (records : List α) (size count : Nat) :
    older records size count ⊆ records :=
  List.take_subset _ _

theorem pageBefore_subset (records : List α) (size count : Nat) :
    pageBefore records size count ⊆ records := by
  intro record membership
  exact older_subset records size count (List.drop_subset _ _ membership)

/-- A page of positive size is empty only when nothing remains. -/
theorem older_eq_nil_of_pageBefore {records : List α} {size count : Nat}
    (positive : 1 ≤ size) (empty : pageBefore records size count = []) :
    older records size count = [] := by
  have short := List.drop_eq_nil_iff.mp empty
  apply List.eq_nil_of_length_eq_zero
  omega

theorem older_eq_nil_of_le {records : List α} {size count later : Nat}
    (le : count ≤ later) (empty : older records size count = []) :
    older records size later = [] := by
  induction le with
  | refl => exact empty
  | step _ ih => rw [older_succ, ih, List.rdrop_nil]

/-! ## Numbers of pages -/

/-- How many pages of a size a number of records fills, the last one perhaps in part. -/
def pageCount (size count : Nat) : Nat :=
  (count + size - 1) / size

theorem pageCount_zero {size : Nat} (positive : 1 ≤ size) : pageCount size 0 = 0 := by
  rw [pageCount, Nat.div_eq_zero_iff]
  omega

/-- One page, and as many as the rest fills. -/
theorem pageCount_of_pos {size count : Nat} (positive : 1 ≤ size) (some : 1 ≤ count) :
    pageCount size count = pageCount size (count - size) + 1 := by
  rcases Nat.le_total count size with short | long
  · have rest : count - size = 0 := by omega
    rw [rest, pageCount_zero positive, pageCount]
    have split : count + size - 1 = (count - 1) + size := by omega
    rw [split, Nat.add_div_right _ positive, Nat.div_eq_of_lt (by omega)]
  · have split : count + size - 1 = (count - size + size - 1) + size := by omega
    rw [pageCount, pageCount, split, Nat.add_div_right _ positive]

/-! ## Overlapping pages -/

/-- The records in order, those at the given places twice in a row; the first one stands
at `place`. -/
def repeating (twice : Nat → Prop) [DecidablePred twice] : Nat → List α → List α
  | _, [] => []
  | place, record :: rest =>
      (if twice place then [record, record] else [record]) ++
        repeating twice (place + 1) rest

/-- The places at which one page ends and the next begins, if every page goes `stride`
records further than the one before and the last record begins no page. -/
def Seam (stride count place : Nat) : Prop :=
  0 < place ∧ place + 1 < count ∧ stride ∣ place

instance (stride count : Nat) : DecidablePred (Seam stride count) :=
  fun place => inferInstanceAs (Decidable (0 < place ∧ place + 1 < count ∧ stride ∣ place))

/-- What overlapping pages of `stride + 1` records amount to: all records in order, those
at the seams twice. -/
def seamed (stride : Nat) (records : List α) : List α :=
  repeating (Seam stride records.length) 0 records

section Repeating

variable {twice : Nat → Prop} [DecidablePred twice]

theorem repeating_append (place : Nat) (front back : List α) :
    repeating twice place (front ++ back) =
      repeating twice place front ++ repeating twice (place + front.length) back := by
  induction front generalizing place with
  | nil => rfl
  | cons record rest ih =>
      have shifted : place + (record :: rest).length = place + 1 + rest.length := by
        simp only [List.length_cons]
        omega
      rw [shifted, List.cons_append, repeating, ih, repeating, List.append_assoc]

/-- Only the places of the records count. -/
theorem repeating_congr {other : Nat → Prop} [DecidablePred other] {place start : Nat}
    {records : List α}
    (same : ∀ offset < records.length, twice (place + offset) ↔ other (start + offset)) :
    repeating twice place records = repeating other start records := by
  induction records generalizing place start with
  | nil => rfl
  | cons record rest ih =>
      have rests : repeating twice (place + 1) rest = repeating other (start + 1) rest := by
        apply ih
        intro offset inside
        have further := same (offset + 1) (by simpa using inside)
        rwa [Nat.add_right_comm place, Nat.add_right_comm start]
      have heads : twice place ↔ other start := same 0 (by simp)
      simp only [repeating, heads, rests]

theorem repeating_of_none {place : Nat} {records : List α}
    (none : ∀ offset < records.length, ¬twice (place + offset)) :
    repeating twice place records = records := by
  induction records generalizing place with
  | nil => rfl
  | cons record rest ih =>
      have rests : repeating twice (place + 1) rest = rest := by
        apply ih
        intro offset inside
        rw [Nat.add_right_comm]
        exact none (offset + 1) (by simpa using inside)
      have head : ¬twice place := none 0 (by simp)
      rw [repeating, if_neg head, rests, List.singleton_append]

theorem mem_repeating_iff {place : Nat} {records : List α} {record : α} :
    record ∈ repeating twice place records ↔ record ∈ records := by
  induction records generalizing place with
  | nil => rfl
  | cons first rest ih =>
      by_cases again : twice place <;> simp [repeating, again, ih]

/-- Without the repetitions the records are left. -/
theorem dedup_repeating [DecidableEq α] {place : Nat} {records : List α}
    (nodup : records.Nodup) : (repeating twice place records).dedup = records := by
  induction records generalizing place with
  | nil => rfl
  | cons record rest ih =>
      rcases List.nodup_cons.mp nodup with ⟨fresh, restNodup⟩
      have unseen : record ∉ repeating twice (place + 1) rest := by
        rwa [mem_repeating_iff]
      by_cases again : twice place
      · rw [repeating, if_pos again, List.cons_append, List.singleton_append,
          List.dedup_cons_of_mem List.mem_cons_self, List.dedup_cons_of_notMem unseen,
          ih restNodup]
      · rw [repeating, if_neg again, List.singleton_append,
          List.dedup_cons_of_notMem unseen, ih restNodup]

end Repeating

variable {stride : Nat} {records : List α}

/-- One page has no seam. -/
theorem seamed_of_le (short : records.length ≤ stride + 1) :
    seamed stride records = records := by
  apply repeating_of_none
  rintro offset inside ⟨positive, before, divides⟩
  have reached := Nat.le_of_dvd positive divides
  omega

/-- The first page, and what the pages from its last record on amount to. -/
theorem seamed_of_lt (positive : 1 ≤ stride) (long : stride + 1 < records.length) :
    seamed stride records =
      records.take (stride + 1) ++ seamed stride (records.drop stride) := by
  obtain ⟨front, middle, back, frontLength, rfl⟩ : ∃ front middle back,
      front.length = stride ∧ records = front ++ middle :: back := by
    refine ⟨records.take stride, records[stride], records.drop (stride + 1), ?_, ?_⟩
    · rw [List.length_take]
      omega
    · rw [← List.drop_eq_getElem_cons, List.take_append_drop]
  simp only [List.length_append, List.length_cons] at long
  have frontOnce : repeating (Seam stride (front ++ middle :: back).length) 0 front =
      front := by
    apply repeating_of_none
    rintro offset inside ⟨notFirst, -, divides⟩
    have reached := Nat.le_of_dvd notFirst divides
    omega
  have middleTwice : Seam stride (front ++ middle :: back).length (0 + front.length) := by
    rw [frontLength, Nat.zero_add, List.length_append, List.length_cons]
    exact ⟨positive, by omega, Nat.dvd_refl stride⟩
  have middleFirst : ¬Seam stride (middle :: back).length 0 := fun seam => seam.1.false
  have backSame :
      repeating (Seam stride (front ++ middle :: back).length) (0 + front.length + 1) back =
        repeating (Seam stride (middle :: back).length) (0 + 1) back := by
    apply repeating_congr
    intro offset inside
    have divides : stride ∣ 0 + front.length + 1 + offset ↔ stride ∣ 0 + 1 + offset := by
      rw [frontLength, Nat.zero_add, Nat.zero_add, Nat.add_assoc,
        Nat.dvd_add_right (Nat.dvd_refl stride)]
    simp only [Seam, List.length_append, List.length_cons, divides]
    omega
  have firstPage : (front ++ middle :: back).take (stride + 1) = front ++ [middle] := by
    rw [← frontLength, List.take_length_add_append]
    rfl
  have others : (front ++ middle :: back).drop stride = middle :: back := by
    rw [← frontLength, List.drop_left]
  rw [firstPage, others, seamed, repeating_append, frontOnce, repeating,
    if_pos middleTwice, backSame, seamed, repeating, if_neg middleFirst]
  simp

theorem length_seamed (positive : 1 ≤ stride) (records : List α) :
    (seamed stride records).length = records.length + (records.length - 2) / stride := by
  induction len : records.length using Nat.strong_induction_on generalizing records with
  | _ count ih =>
      subst len
      rcases Nat.lt_or_ge (stride + 1) records.length with long | short
      · have rest := ih (records.drop stride).length
          (by rw [List.length_drop]; omega) (records.drop stride) rfl
        rw [List.length_drop] at rest
        have quotient : (records.length - 2) / stride =
            (records.length - stride - 2) / stride + 1 := by
          rw [← Nat.add_div_right _ positive]
          congr 1
          omega
        rw [seamed_of_lt positive long, List.length_append, rest, List.length_take,
          quotient]
        omega
      · rw [seamed_of_le short, Nat.div_eq_of_lt (by omega), Nat.add_zero]

/-! ## Stretches of places -/

/-- The places between two bounds are consecutive. -/
theorem filter_range_between (count low high : Nat) :
    (List.range count).filter (fun place => low ≤ place ∧ place < high) =
      List.Ico low (min count high) := by
  have below := List.Ico.filter_lt 0 count high
  have above := List.Ico.filter_le 0 (min count high) low
  rw [Nat.max_eq_right (Nat.zero_le low), ← below, List.filter_filter,
    List.Ico.zero_bot] at above
  rw [← above]
  apply List.filter_congr
  intro place _
  exact Bool.decide_and _ _

theorem dropLast_Ico (low high : Nat) :
    (List.Ico low high).dropLast = List.Ico low (high - 1) := by
  rcases Nat.lt_or_ge low high with some | none
  · obtain ⟨last, rfl⟩ := Nat.exists_eq_add_one_of_ne_zero (Nat.ne_zero_of_lt some)
    rw [List.Ico.succ_top (Nat.le_of_lt_succ some), List.dropLast_concat,
      Nat.add_sub_cancel]
  · rw [List.Ico.eq_nil_of_le none, List.Ico.eq_nil_of_le (by omega), List.dropLast_nil]

end BinanceApi.Paging
