import Mathlib.Data.List.Induction
import Mathlib.Data.String.Basic
import BinanceApi.Cpp

/-!
# JSON values

The part of the JSON library's value type that the client uses: lookup, checked
and unchecked indexing, iteration, conversion, and assignment of object members.
Objects keep their members sorted by key, each key once, as the ordered map
behind them does.
-/

namespace BinanceApi

/-- A parsed JSON document. -/
inductive Json where
  | null
  | boolean (value : Bool)
  | integer (value : Int)
  | number (value : Double)
  | string (value : String)
  | array (elements : List Json)
  | object (members : List (String × Json))
  deriving Repr

namespace Json

/-- Members of an object under construction. -/
abbrev Members := List (String × Json)

/-- `json[key] = value` on an object. -/
def Members.assign (members : Members) (key : String) (value : Json) : Members :=
  match members with
  | [] => [(key, value)]
  | (head, old) :: rest =>
      if key = head then (key, value) :: rest
      else if key < head then (key, value) :: (head, old) :: rest
      else (head, old) :: Members.assign rest key value

/-- The keys of an object are strictly increasing. -/
def Members.Sorted (members : Members) : Prop :=
  members.Pairwise fun left right => left.1 < right.1

theorem Members.mem_of_mem_assign {members : Members} {key : String} {value : Json}
    {member : String × Json} (membership : member ∈ members.assign key value) :
    member = (key, value) ∨ member ∈ members := by
  induction members with
  | nil =>
      simp only [Members.assign, List.mem_singleton] at membership
      exact .inl membership
  | cons entry rest ih =>
      rcases entry with ⟨head, old⟩
      simp only [Members.assign] at membership
      split at membership
      · rcases List.mem_cons.mp membership with equal | tail
        · exact .inl equal
        · exact .inr (List.mem_cons_of_mem _ tail)
      · split at membership
        · exact List.mem_cons.mp membership
        · rcases List.mem_cons.mp membership with equal | tail
          · exact .inr (equal ▸ List.mem_cons_self)
          · exact (ih tail).imp_right (List.mem_cons_of_mem _)

/-- Assignment keeps the keys strictly increasing. -/
theorem Members.Sorted.assign {members : Members} (sorted : members.Sorted)
    (key : String) (value : Json) : (members.assign key value).Sorted := by
  induction members with
  | nil => simp [Members.assign, Members.Sorted]
  | cons entry rest ih =>
      rcases entry with ⟨head, old⟩
      rcases List.pairwise_cons.mp sorted with ⟨headLeast, restSorted⟩
      simp only [Members.assign]
      split
      next equal =>
        subst equal
        exact List.pairwise_cons.mpr ⟨headLeast, restSorted⟩
      next notHead =>
        split
        next before =>
          refine List.pairwise_cons.mpr ⟨?_, sorted⟩
          intro member membership
          rcases List.mem_cons.mp membership with rfl | tail
          · exact before
          · exact lt_trans before (headLeast member tail)
        next notBefore =>
          refine List.pairwise_cons.mpr ⟨?_, ih restSorted⟩
          intro member membership
          rcases mem_of_mem_assign membership with rfl | tail
          · exact lt_of_le_of_ne (not_lt.mp notBefore) (Ne.symm notHead)
          · exact headLeast member tail

/-- The members after an assignment: the new one, and the old ones of the other
keys. -/
theorem Members.mem_assign_iff {members : Members} (sorted : members.Sorted)
    {key : String} {value : Json} {member : String × Json} :
    member ∈ members.assign key value ↔
      member = (key, value) ∨ member.1 ≠ key ∧ member ∈ members := by
  induction members with
  | nil => simp [Members.assign]
  | cons entry rest ih =>
      rcases entry with ⟨head, old⟩
      rcases List.pairwise_cons.mp sorted with ⟨headLeast, restSorted⟩
      have restKeys : member ∈ rest → head < member.1 := headLeast member
      simp only [Members.assign]
      split
      next equal =>
        subst equal
        simp only [List.mem_cons]
        grind
      next notHead =>
        split
        next before =>
          have tailKeys : member ∈ rest → member.1 ≠ key := by
            intro tail equal
            exact lt_asymm before (equal ▸ restKeys tail)
          simp only [List.mem_cons]
          grind
        next notBefore =>
          simp only [List.mem_cons, ih restSorted]
          grind

/-- The object that a sequence of `json[key] = value` assignments builds. -/
def Members.ofAssignments (assignments : List (String × Json)) : Members :=
  assignments.foldl (fun members entry => members.assign entry.1 entry.2) []

theorem Members.ofAssignments_concat (assignments : List (String × Json))
    (last : String × Json) :
    ofAssignments (assignments ++ [last]) =
      (ofAssignments assignments).assign last.1 last.2 := by
  simp [ofAssignments]

theorem Members.sorted_ofAssignments (assignments : List (String × Json)) :
    (ofAssignments assignments).Sorted := by
  induction assignments using List.reverseRecOn with
  | nil => exact List.Pairwise.nil
  | append_singleton front last ih =>
      rw [ofAssignments_concat]
      exact ih.assign last.1 last.2

/-- Assignments to distinct keys all survive, and nothing else is a member. -/
theorem Members.mem_ofAssignments_iff {assignments : List (String × Json)}
    (distinct : (assignments.map Prod.fst).Nodup) {member : String × Json} :
    member ∈ ofAssignments assignments ↔ member ∈ assignments := by
  induction assignments using List.reverseRecOn with
  | nil => rfl
  | append_singleton front last ih =>
      rw [List.map_append, List.nodup_append] at distinct
      rcases distinct with ⟨frontDistinct, _, apart⟩
      rw [ofAssignments_concat, mem_assign_iff (sorted_ofAssignments front),
        ih frontDistinct, List.mem_append, List.mem_singleton]
      constructor
      · intro membership
        rcases membership with equal | old
        · exact .inr equal
        · exact .inl old.2
      · intro membership
        rcases membership with old | equal
        · exact .inr ⟨apart member.1 (List.mem_map_of_mem old) last.1 (by simp), old⟩
        · exact .inl equal

/-- `json.find(key)`: only objects have members. -/
def find? : Json → String → Option Json
  | .object members, key => members.lookup key
  | _, _ => none

/-- A member of an object with distinct keys is what a lookup finds. -/
theorem Members.Sorted.lookup_eq_some {members : Members} (sorted : members.Sorted)
    {key : String} {value : Json} (member : (key, value) ∈ members) :
    members.lookup key = some value := by
  induction members with
  | nil => cases member
  | cons entry rest ih =>
      rcases entry with ⟨head, old⟩
      rcases List.pairwise_cons.mp sorted with ⟨headLeast, restSorted⟩
      rcases List.mem_cons.mp member with equal | tail
      · cases equal
        exact List.lookup_cons_self
      · have different : (key == head) = false := by
          simpa using (headLeast (key, value) tail).ne'
        rw [List.lookup_cons, different]
        exact ih restSorted tail

/-- What was assigned to a key is found under it. -/
theorem find?_ofAssignments {assignments : List (String × Json)}
    (distinct : (assignments.map Prod.fst).Nodup) {key : String} {value : Json}
    (assigned : (key, value) ∈ assignments) :
    (Json.object (Members.ofAssignments assignments)).find? key = some value :=
  (Members.sorted_ofAssignments assignments).lookup_eq_some
    ((Members.mem_ofAssignments_iff distinct).mpr assigned)

/-- The last assignment to a key is what is found under it. -/
theorem find?_ofAssignments_last {front back : List (String × Json)} {key : String}
    {value : Json} (unassigned : key ∉ back.map Prod.fst) :
    (Json.object (Members.ofAssignments (front ++ (key, value) :: back))).find? key =
      some value := by
  apply (Members.sorted_ofAssignments _).lookup_eq_some
  induction back using List.reverseRecOn with
  | nil =>
      rw [Members.ofAssignments_concat, Members.mem_assign_iff
        (Members.sorted_ofAssignments front)]
      exact .inl rfl
  | append_singleton back last ih =>
      rw [List.map_append, List.mem_append, not_or] at unassigned
      rw [← List.cons_append, ← List.append_assoc, Members.ofAssignments_concat,
        Members.mem_assign_iff (Members.sorted_ofAssignments _)]
      exact .inr ⟨by simpa using unassigned.2, ih unassigned.1⟩

/-- Nothing is found under a key that was not assigned to. -/
theorem find?_ofAssignments_none {assignments : List (String × Json)} {key : String}
    (unassigned : key ∉ assignments.map Prod.fst) :
    (Json.object (Members.ofAssignments assignments)).find? key = none := by
  refine List.lookup_eq_none_iff.mpr ?_
  induction assignments using List.reverseRecOn with
  | nil => simp [Members.ofAssignments]
  | append_singleton front last ih =>
      rw [List.map_append, List.mem_append, not_or] at unassigned
      intro member membership
      rw [Members.ofAssignments_concat] at membership
      rcases Members.mem_of_mem_assign membership with rfl | old
      · simpa using unassigned.2
      · exact ih unassigned.1 member old

/-- `json.contains(key)`. -/
def contains (json : Json) (key : String) : Bool :=
  (json.find? key).isSome

def isObject : Json → Bool
  | .object _ => true
  | _ => false

/-- The values a range-for loop visits: the elements of an array, the values of
an object, nothing for `null`, and any other value itself once. -/
def values : Json → List Json
  | .null => []
  | .array elements => elements
  | .object members => members.map Prod.snd
  | scalar => [scalar]

/-- `operator[]` with a key on a constant value.  A missing key is undefined
behaviour; on anything but an object the library throws. -/
def member : Json → String → Evaluates Json
  | .object members, key =>
      match members.lookup key with
      | some value => .ok value
      | none => .error (.undefined key)
  | _, _ => .error (.raised (.json "type_error.305"))

/-- A key that is there can be indexed. -/
theorem member_eq_ok_iff {json value : Json} {key : String} :
    json.member key = .ok value ↔ json.find? key = some value := by
  cases json with
  | object members =>
      simp only [member, find?]
      cases members.lookup key <;> simp
  | _ => simp [member, find?]

/-- `operator[]` with an index on a constant value.  An index out of range is
undefined behaviour; on anything but an array the library throws. -/
def element : Json → Nat → Evaluates Json
  | .array elements, index =>
      match elements[index]? with
      | some value => .ok value
      | none => .error (.undefined (Nat.repr index))
  | _, _ => .error (.raised (.json "type_error.305"))

/-- Conversion to `std::int64_t`; a floating-point number is truncated. -/
def getInt : Json → Throws Int
  | .integer value => .ok value
  | .number value => .ok (if value < 0 then value.ceil else value.floor)
  | _ => .error (.json "type_error.302")

/-- Conversion to `std::string`. -/
def getString : Json → Throws String
  | .string value => .ok value
  | _ => .error (.json "type_error.302")

end Json

end BinanceApi
