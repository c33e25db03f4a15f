import Mathlib.Data.List.Nodup
import BinanceApi.Json

/-!
# Interface of the common library

The common library's sources are not part of this repository.  Its JSON readers
and its number formatter are therefore parameters of every definition that calls
them, and a result that depends on what a reader does names that behaviour as a
hypothesis.  `magic_enum` is used only through enumerator names and the
case-insensitive cast, which its documentation fixes.
-/

namespace BinanceApi

/-- An enumeration with its enumerators in declaration order, whose names are
distinct. -/
class MagicEnum (α : Type) where
  enumerators : List α
  enumName : α → String
  mem_enumerators : ∀ value, value ∈ enumerators
  names_nodup : (enumerators.map enumName).Nodup

namespace MagicEnum

theorem enumName_injective {α : Type} [MagicEnum α] :
    Function.Injective (enumName : α → String) := by
  intro left right equal
  exact List.inj_on_of_nodup_map names_nodup (mem_enumerators left)
    (mem_enumerators right) equal

/-- Looking an enumerator's name up finds the enumerator. -/
theorem find?_enumName {α : Type} [MagicEnum α] (value : α) :
    (enumerators (α := α)).find? (fun other => enumName other = enumName value) =
      some value := by
  cases found : (enumerators (α := α)).find?
      (fun other => enumName other = enumName value) with
  | none =>
      have missing := List.find?_eq_none.mp found value (mem_enumerators value)
      simp at missing
  | some other =>
      have named : enumName other = enumName value := by simpa using List.find?_some found
      rw [enumName_injective named]

/-- Place of an enumerator in the declaration, which orders the keys of a map. -/
def position {α : Type} [MagicEnum α] [DecidableEq α] (value : α) : Nat :=
  (enumerators (α := α)).idxOf value

theorem position_injective {α : Type} [MagicEnum α] [DecidableEq α] :
    Function.Injective (position : α → Nat) := by
  intro left right equal
  exact (List.idxOf_inj (mem_enumerators left)).mp equal

/-- ASCII case folding. -/
def lower (name : String) : String :=
  String.ofList (name.toList.map Char.toLower)

theorem toList_lower (name : String) :
    (lower name).toList = name.toList.map Char.toLower := by
  simp [lower]

theorem lower_append (left right : String) :
    lower (left ++ right) = lower left ++ lower right := by
  simp [lower, String.toList_append]

theorem lower_eq_empty {name : String} : lower name = "" ↔ name = "" := by
  rw [← String.toList_inj, toList_lower, ← String.toList_inj]
  exact List.map_eq_nil_iff

/-- Case folding leaves '@' alone, and yields it from nothing else. -/
theorem toLower_eq_at {char : Char} : char.toLower = '@' ↔ char = '@' := by
  constructor
  · intro folded
    by_cases upper : char.val ≥ 'A'.val ∧ char.val ≤ 'Z'.val
    · have shifted : char.toLower.val = char.val + ('a'.val - 'A'.val) :=
        congrArg Char.val (dif_pos upper)
      have value := congrArg UInt32.toNat (shifted.symm.trans (congrArg Char.val folded))
      have least : 65 ≤ char.val.toNat := UInt32.le_iff_toNat_le.mp upper.1
      have greatest : char.val.toNat ≤ 90 := UInt32.le_iff_toNat_le.mp upper.2
      rw [UInt32.toNat_add] at value
      change (char.val.toNat + 32) % 4294967296 = 64 at value
      omega
    · exact (dif_neg upper).symm.trans folded
  · rintro rfl
    decide

theorem at_mem_lower {name : String} :
    '@' ∈ (lower name).toList ↔ '@' ∈ name.toList := by
  simp [toList_lower, toLower_eq_at]

/-- `magic_enum::enum_cast<α>(name, magic_enum::case_insensitive)`: the first
enumerator, in declaration order, whose name matches up to case. -/
def enumCast (α : Type) [MagicEnum α] (name : String) : Option α :=
  (enumerators (α := α)).find? fun value => lower (enumName value) = lower name

end MagicEnum

/-- The external functions the client calls.  `readInt`, `readString` and
`readBool` are the instances of `readValue<T>(json, key, out)`: they take the
previous content of `out` and give its new content.  `readInt` stands for the
integers of every width.  `dump` is the JSON library's serialiser. -/
structure Externals where
  readInt : Json → String → Int → Throws Int
  readString : Json → String → String → Throws String
  readBool : Json → String → Bool → Throws Bool
  readMagicEnum : {α : Type} → [MagicEnum α] → Json → String → α → Throws α
  readStringAsDouble : Json → String → Throws Double
  formatDouble : Int → Double → String
  dump : Json → String

namespace Externals

/-- Decimal text with exactly `precision` digits after the point. -/
def formatFixed (precision : Nat) (value : Double) : String :=
  let scaled := roundHalfEven (|value| * 10 ^ precision)
  let fraction := Nat.repr (scaled % 10 ^ precision)
  let sign := if value < 0 then "-" else ""
  if precision = 0 then sign ++ Nat.repr scaled
  else sign ++ Nat.repr (scaled / 10 ^ precision) ++ "." ++
    String.ofList (List.replicate (precision - fraction.length) '0') ++ fraction

/-- A member read by `convert`, or `previous` when it is absent. -/
def readMember {α : Type} (convert : Json → Throws α) (json : Json) (key : String)
    (previous : α) : Throws α :=
  match json.find? key with
  | some value => convert value
  | none => .ok previous

/-- The text of an array of flat objects whose members are strings free of
characters that need an escape. -/
def dumpFlat (json : Json) : String :=
  let quote := fun text : String => "\"" ++ text ++ "\""
  let member := fun (entry : String × Json) =>
    quote entry.1 ++ ":" ++
      match entry.2 with
      | .string value => quote value
      | _ => "null"
  let element := fun
    | Json.object members => "\x7b" ++ ",".intercalate (members.map member) ++ "\x7d"
    | _ => "null"
  "[" ++ ",".intercalate (json.values.map element) ++ "]"

/-- The number in a text. -/
def readNumber (value : Json) : Throws Double := do
  match ← stod (← value.getString) with
  | .number value _ => return value
  | .infinity _ | .nan _ => throw (.standard "stod")

/-- Readers that convert a present member, throw when it has the wrong type, and
leave the output alone when it is absent.  They serve as the concrete external
functions on closed inputs, on which no text names an infinity or a NaN. -/
def plain : Externals where
  readInt := readMember Json.getInt
  readString := readMember Json.getString
  readBool := readMember fun
    | .boolean value => .ok value
    | _ => .error (.json "type_error.302")
  readMagicEnum := fun {α} _ => readMember fun
    | .string name =>
        match (MagicEnum.enumerators (α := α)).find?
            fun value => MagicEnum.enumName value = name with
        | some value => .ok value
        | none => .error (.standard name)
    | _ => .error (.json "type_error.302")
  readStringAsDouble := fun json key =>
    readMember readNumber json key 0
  formatDouble := fun precision value => formatFixed precision.toNat value
  dump := dumpFlat

end Externals

/-- `readValue<std::string>` converts a member that is present and a string. -/
def Externals.ReadsStrings (externals : Externals) : Prop :=
  ∀ json key value previous, json.find? key = some (Json.string value) →
    externals.readString json key previous = .ok value

/-- `readMagicEnum` converts a member that names an enumerator, and turns no other name
into one. -/
structure Externals.ReadsEnum (externals : Externals) (α : Type) [MagicEnum α] :
    Prop where
  named : ∀ json key (value previous : α),
    json.find? key = some (.string (MagicEnum.enumName value)) →
    externals.readMagicEnum json key previous = .ok value
  unnamed : ∀ json key name (previous result : α),
    json.find? key = some (.string name) →
    (∀ value : α, MagicEnum.enumName value ≠ name) →
    externals.readMagicEnum json key previous = .ok result → result = previous

theorem Externals.plain_readsStrings : plain.ReadsStrings := by
  intro json key value previous found
  simp [plain, readMember, found, Json.getString]

theorem Externals.plain_readsEnum (α : Type) [MagicEnum α] : plain.ReadsEnum α := by
  constructor
  · intro json key value previous found
    simp [plain, readMember, found, MagicEnum.find?_enumName]
  · intro json key name previous result found unnamed read
    have none : (MagicEnum.enumerators (α := α)).find?
        (fun other => MagicEnum.enumName other = name) = none := by
      simp [unnamed]
    simp [plain, readMember, found, none] at read

end BinanceApi
