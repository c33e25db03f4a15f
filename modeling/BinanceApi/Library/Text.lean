import Mathlib.Data.List.Basic
import Mathlib.Tactic.Common

/-!
# Splitting texts

A text is a list of characters.  It is split around the first or the last occurrence
of a separator, or into pairs as the query of a request is: pieces between separators,
each a name and a value, of which empty pieces are ignored.
-/

namespace BinanceApi.Text

variable {α : Type*} [DecidableEq α]

/-- What stands before and after the first separator. -/
def splitFirst (sep : α) : List α → Option (List α × List α)
  | [] => none
  | char :: rest =>
      if char = sep then some ([], rest)
      else (splitFirst sep rest).map fun parts => (char :: parts.1, parts.2)

theorem splitFirst_append {sep : α} {front : List α} (back : List α)
    (absent : sep ∉ front) :
    splitFirst sep (front ++ sep :: back) = some (front, back) := by
  induction front with
  | nil => simp [splitFirst]
  | cons char front ih =>
      simp only [List.mem_cons, not_or] at absent
      simp [splitFirst, Ne.symm absent.1, ih absent.2]

/-- What stands before and after the last occurrence of a nonempty separator. -/
def splitLast (sep : List α) : List α → Option (List α × List α)
  | [] => none
  | char :: rest =>
      match splitLast sep rest with
      | some (front, back) => some (char :: front, back)
      | none =>
          if sep.isPrefixOf (char :: rest) then
            some ([], (char :: rest).drop sep.length)
          else none

theorem splitLast_eq_none {head : α} {tail text : List α} (absent : head ∉ text) :
    splitLast (head :: tail) text = none := by
  induction text with
  | nil => rfl
  | cons char text ih =>
      simp only [List.mem_cons, not_or] at absent
      simp [splitLast, ih absent.2, absent.1]

/-- A separator after whose first character that character does not occur any more is
the last one. -/
theorem splitLast_append {head : α} {tail : List α} (front : List α) {back : List α}
    (tailFree : head ∉ tail) (backFree : head ∉ back) :
    splitLast (head :: tail) (front ++ (head :: tail ++ back)) = some (front, back) := by
  induction front with
  | nil =>
      have none : splitLast (head :: tail) (tail ++ back) = none := by
        apply splitLast_eq_none
        simp [tailFree, backFree]
      simp [splitLast, none]
  | cons char front ih => rw [List.cons_append, splitLast, ih]

/-! ## Pairs -/

/-- A name and its value. -/
def printPair (assign : α) (pair : List α × List α) : List α :=
  pair.1 ++ assign :: pair.2

/-- The name before the first assignment sign, and the value after it. -/
def parsePair (assign : α) (piece : List α) : List α × List α :=
  (splitFirst assign piece).getD (piece, [])

/-- The pairs of the pieces between separators, without empty pieces. -/
def parsePairs (sep assign : α) (text : List α) : List (List α × List α) :=
  ((text.splitOn sep).filter fun piece => piece ≠ []).map (parsePair assign)

theorem parsePair_printPair {assign : α} {pair : List α × List α}
    (absent : assign ∉ pair.1) : parsePair assign (printPair assign pair) = pair := by
  simp [parsePair, printPair, splitFirst_append pair.2 absent]

/-- Printed pairs, with or without an empty piece in front, are parsed back if no name
has a separator or an assignment sign and no value a separator. -/
theorem parsePairs_printed {sep assign : α} {pairs : List (List α × List α)}
    (apart : sep ≠ assign) (names : ∀ pair ∈ pairs, sep ∉ pair.1 ∧ assign ∉ pair.1)
    (values : ∀ pair ∈ pairs, sep ∉ pair.2) {front : List (List α)}
    (empty : ∀ piece ∈ front, piece = []) :
    parsePairs sep assign
        ([sep].intercalate (front ++ pairs.map (printPair assign))) = pairs := by
  by_cases nothing : front ++ pairs.map (printPair assign) = []
  · rcases List.append_eq_nil_iff.mp nothing with ⟨rfl, noPairs⟩
    rw [List.map_eq_nil_iff.mp noPairs]
    simp [parsePairs, List.intercalate]
  · have pieces : ∀ piece ∈ front ++ pairs.map (printPair assign), sep ∉ piece := by
      intro piece member
      rcases List.mem_append.mp member with blank | printed
      · simp [empty piece blank]
      · rcases List.mem_map.mp printed with ⟨pair, listed, rfl⟩
        simp [printPair, names pair listed, values pair listed, apart]
    have kept : (front ++ pairs.map (printPair assign)).filter (fun piece => piece ≠ []) =
        pairs.map (printPair assign) := by
      have dropped : front.filter (fun piece => piece ≠ []) = [] := by
        apply List.filter_eq_nil_iff.mpr
        simpa using empty
      have full : (pairs.map (printPair assign)).filter (fun piece => piece ≠ []) =
          pairs.map (printPair assign) := by
        apply List.filter_eq_self.mpr
        intro piece member
        rcases List.mem_map.mp member with ⟨pair, -, rfl⟩
        simp [printPair]
      rw [List.filter_append, dropped, full, List.nil_append]
    have back : (pairs.map (printPair assign)).map (parsePair assign) = pairs := by
      have each : ∀ pair ∈ pairs, (parsePair assign ∘ printPair assign) pair = id pair :=
        fun pair listed => parsePair_printPair (names pair listed).2
      rw [List.map_map, List.map_congr_left each, List.map_id]
    rw [parsePairs, List.splitOn_intercalate sep pieces nothing, kept, back]

section Intercalate

omit [DecidableEq α]

/-- Every piece but the first has a separator in front. -/
theorem intercalate_cons (sep : α) (piece : List α) (pieces : List (List α)) :
    [sep].intercalate (piece :: pieces) = piece ++ pieces.flatMap (sep :: ·) := by
  induction pieces generalizing piece with
  | nil => simp
  | cons next pieces ih =>
      rw [List.intercalate_cons_cons, ih, List.flatMap_cons]
      simp

/-- Further pieces are appended with a separator before each. -/
theorem intercalate_append (sep : α) {front : List (List α)} (back : List (List α))
    (nonempty : front ≠ []) :
    [sep].intercalate (front ++ back) =
      [sep].intercalate front ++ back.flatMap (sep :: ·) := by
  cases front with
  | nil => exact absurd rfl nonempty
  | cons piece front =>
      rw [List.cons_append, intercalate_cons, intercalate_cons, List.flatMap_append,
        List.append_assoc]

end Intercalate

/-! ## Optional pairs -/

variable {Name Value : Type*}

/-- The pairs of a table whose value is given. -/
def present (table : List (Name × Option Value)) : List (Name × Value) :=
  table.filterMap fun entry => entry.2.map (Prod.mk entry.1)

@[simp] theorem present_nil : present ([] : List (Name × Option Value)) = [] := rfl

@[simp] theorem present_cons (name : Name) (value : Option Value)
    (table : List (Name × Option Value)) :
    present ((name, value) :: table) =
      (value.map (Prod.mk name)).toList ++ present table := by
  cases value <;> rfl

theorem mem_present {table : List (Name × Option Value)} {name : Name} {value : Value} :
    (name, value) ∈ present table ↔ (name, some value) ∈ table := by
  simp only [present, List.mem_filterMap, Option.map_eq_some_iff, Prod.mk.injEq]
  constructor
  · rintro ⟨⟨found, entry⟩, member, value, rfl, rfl, rfl⟩
    exact member
  · intro member
    exact ⟨(name, some value), member, value, rfl, rfl, rfl⟩

/-- Tables of the same distinct names that give the same pairs are equal. -/
theorem table_eq_of_present {left right : List (Name × Option Value)}
    (names : left.map Prod.fst = right.map Prod.fst)
    (distinct : (left.map Prod.fst).Nodup)
    (same : ∀ name value, (name, some value) ∈ left ↔ (name, some value) ∈ right) :
    left = right := by
  induction left generalizing right with
  | nil => exact (List.map_eq_nil_iff.mp names.symm).symm
  | cons first left ih =>
      rcases first with ⟨name, value⟩
      cases right with
      | nil => cases names
      | cons second right =>
          rcases second with ⟨name', value'⟩
          simp only [List.map_cons, List.cons.injEq] at names distinct
          rcases names with ⟨rfl, names⟩
          rw [List.nodup_cons] at distinct
          have absent : ∀ content, (name, content) ∉ left := by
            intro content member
            exact distinct.1 (List.mem_map_of_mem (f := Prod.fst) member)
          have absent' : ∀ content, (name, content) ∉ right := by
            intro content member
            exact distinct.1 (names ▸ List.mem_map_of_mem (f := Prod.fst) member)
          have value_eq : value = value' := by
            apply Option.ext
            intro content
            have iff := same name content
            simp only [List.mem_cons, Prod.mk.injEq, true_and, absent, absent',
              or_false] at iff
            constructor
            · intro given
              exact (iff.mp given.symm).symm
            · intro given
              exact (iff.mpr given.symm).symm
          have rest : ∀ other content,
              (other, some content) ∈ left ↔ (other, some content) ∈ right := by
            intro other content
            by_cases here : other = name
            · subst here
              simp [absent, absent']
            · simpa [here] using same other content
          rw [value_eq, ih names distinct.2 rest]

end BinanceApi.Text
