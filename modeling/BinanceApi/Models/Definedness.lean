import BinanceApi.Library.Outcomes
import BinanceApi.Models.Event
import BinanceApi.Models.Exchange
import BinanceApi.Models.Market

/-!
# Which documents are decoded safely

Members and elements are indexed without a check in five decoders.  For each of them, the
documents on which it returns or throws are described by what they contain: everything
that is indexed is there, unless an earlier read throws.
-/

namespace BinanceApi

open Outcomes (avoids_bind_iff forall_ok_iff isOk_bind_iff isOk_iff)

def Fault.IsUndefined : Fault → Prop
  | .undefined _ => True
  | .raised _ => False

/-- The evaluation returns or throws. -/
def Defined {α : Type} (result : Evaluates α) : Prop :=
  Outcomes.Avoids Fault.IsUndefined result

section Evaluations

variable {α β : Type}

theorem defined_pure (value : α) : Defined (pure value) :=
  Outcomes.avoids_ok value

theorem defined_lift (computation : Throws α) : Defined computation.lift := by
  cases computation with
  | ok value => exact Outcomes.avoids_ok value
  | error exception => exact Outcomes.avoids_error_iff.mpr id

theorem isOk_lift (computation : Throws α) : computation.lift.isOk = computation.isOk := by
  cases computation <;> rfl

theorem defined_bind_iff {result : Evaluates α} {next : α → Evaluates β} :
    Defined (result >>= next) ↔
      Defined result ∧ ∀ value, result = .ok value → Defined (next value) :=
  avoids_bind_iff

/-- A throwing computation matters only in that nothing follows it if it throws. -/
theorem defined_lift_bind_iff {computation : Throws α} {next : α → Evaluates β} {p : Prop}
    (same : ∀ value, Defined (next value) ↔ p) :
    Defined (computation.lift >>= next) ↔ (computation.isOk = true → p) := by
  simp only [defined_bind_iff, defined_lift, true_and, same, forall_ok_iff, isOk_lift]

end Evaluations

/-! ## Unchecked indexing -/

namespace Json

theorem defined_member_iff {json : Json} {key : String} :
    Defined (json.member key) ↔ (json.isObject = true → json.contains key = true) := by
  cases json with
  | object members =>
      simp only [member, isObject, contains, find?, true_imp_iff]
      cases members.lookup key with
      | none => simp [Defined, Outcomes.avoids_error_iff, Fault.IsUndefined]
      | some value => simp [Defined, Outcomes.avoids_ok]
  | _ => simp [member, isObject, Defined, Outcomes.avoids_error_iff, Fault.IsUndefined]

theorem defined_element_iff {json : Json} {index : Nat} :
    Defined (json.element index) ↔
      ∀ elements, json = .array elements → index < elements.length := by
  cases json with
  | array elements =>
      simp only [element, Json.array.injEq, forall_eq']
      cases found : elements[index]? with
      | none =>
          have outside := List.getElem?_eq_none_iff.mp found
          simp [Defined, Outcomes.avoids_error_iff, Fault.IsUndefined, outside]
      | some value =>
          have inside := (List.getElem?_eq_some_iff.mp found).1
          simp [Defined, Outcomes.avoids_ok, inside]
  | _ => simp [element, Defined, Outcomes.avoids_error_iff, Fault.IsUndefined]

/-- There is a list under the key, and each of its elements decodes. -/
def ListDecodes {ε α : Type} (json : Json) (key : String) (decode : Json → Except ε α) :
    Prop :=
  ∃ list, json.find? key = some list ∧ ∀ element ∈ list.values, (decode element).isOk = true

end Json

section Lists

variable {α β : Type} {json : Json} {key : String} {p : Prop}

/-- The loop over a list that is indexed without a check. -/
theorem defined_list_iff {decode : Json → Evaluates α} {next : List α → Evaluates β}
    (same : ∀ values, Defined (next values) ↔ p) :
    Defined (json.member key >>= fun list => list.values.mapM decode >>= next) ↔
      (json.isObject = true → json.contains key = true) ∧
        (∀ list, json.find? key = some list →
          ∀ front element back, list.values = front ++ element :: back →
            (∀ earlier ∈ front, (decode earlier).isOk = true) → Defined (decode element)) ∧
        (json.ListDecodes key decode → p) := by
  simp only [defined_bind_iff, Json.defined_member_iff, Json.member_eq_ok_iff, same,
    forall_ok_iff, Outcomes.isOk_mapM_iff, forall_and, Json.ListDecodes, exists_imp, and_imp]
  refine and_congr_right' (and_congr_left' ?_)
  exact forall_congr' fun list => imp_congr_right fun _ => Outcomes.avoids_mapM_iff _ _

/-- The same where the elements are decoded without unchecked indexing. -/
theorem defined_lifted_list_iff {decode : Json → Throws α} {next : List α → Evaluates β}
    (same : ∀ values, Defined (next values) ↔ p) :
    Defined (json.member key >>= fun list =>
        (list.values.mapM fun element => (decode element).lift) >>= next) ↔
      (json.isObject = true → json.contains key = true) ∧
        (json.ListDecodes key decode → p) := by
  rw [defined_list_iff same]
  simp only [Json.ListDecodes, isOk_lift, defined_lift, implies_true, true_and]

end Lists

/-! ## Candles -/

namespace Candle

/-- An element that the decoder can convert: times and counts are numbers, the last
position is text, and the rest is text that `stod` reads. -/
def isReadable (index : Nat) (element : Json) : Bool :=
  match index with
  | 0 | 6 | 8 => element.getInt.isOk
  | 11 => element.getString.isOk
  | _ => (element.getString >>= stod).isOk

def ReadsPosition (json : Json) (index : Nat) : Prop :=
  ∃ element, json.element index = .ok element ∧ isReadable index element = true

section Positions

variable (json : Json) (index : Nat)

theorem defined_readInt_iff : Defined (readInt json index) ↔ Defined (json.element index) := by
  simp only [readInt, defined_bind_iff, defined_lift, implies_true, and_true]

theorem defined_readString_iff :
    Defined (readString json index) ↔ Defined (json.element index) := by
  simp only [readString, defined_bind_iff, defined_lift, implies_true, and_true]

theorem defined_readDouble_iff :
    Defined (readDouble json index) ↔ Defined (json.element index) := by
  simp only [readDouble, defined_bind_iff, defined_readString_iff, defined_lift,
    implies_true, and_true]

theorem isOk_readInt_iff :
    (readInt json index).isOk = true ↔
      ∃ element, json.element index = .ok element ∧ element.getInt.isOk = true := by
  simp only [readInt, isOk_bind_iff, isOk_lift]

theorem isOk_readDouble_iff :
    (readDouble json index).isOk = true ↔
      ∃ element, json.element index = .ok element ∧
        (element.getString >>= stod).isOk = true := by
  simp only [readDouble, readString, bind_assoc, isOk_bind_iff, isOk_lift,
    Throws.lift_eq_ok_iff]

end Positions

/-- The twelve positions are read in order. -/
theorem defined_fromJson_iff_inOrder (json : Json) :
    Defined (fromJson json) ↔
      Outcomes.InOrder (fun index => Defined (json.element index)) (ReadsPosition json) 0
        12 := by
  simp only [fromJson, defined_bind_iff, forall_ok_iff, defined_readInt_iff,
    defined_readString_iff, defined_readDouble_iff, isOk_readInt_iff, isOk_readDouble_iff,
    defined_pure, implies_true, and_true, Outcomes.InOrder, ReadsPosition, isReadable]

/-- The rows that are decoded safely: no arrays, complete ones, and shorter ones with an
element on which the decoder gives up. -/
def RowSafe (json : Json) : Prop :=
  ∀ elements, json = .array elements →
    12 ≤ elements.length ∨
      ∃ index element, elements[index]? = some element ∧ isReadable index element = false

theorem defined_fromJson_iff (json : Json) : Defined (fromJson json) ↔ RowSafe json := by
  rw [defined_fromJson_iff_inOrder, Outcomes.inOrder_iff]
  simp only [Json.defined_element_iff, Nat.zero_le, true_imp_iff, Nat.zero_add, RowSafe]
  constructor
  · intro every elements array
    by_contra short
    simp only [not_or, not_exists, not_and, not_le, Bool.not_eq_false] at short
    rcases short with ⟨few, readable⟩
    -- the first position behind the row is indexed, as all elements are readable
    have inside := every elements.length few (fun earlier before =>
      ⟨elements[earlier], by simp [array, Json.element, before],
        readable earlier _ (List.getElem?_eq_getElem before)⟩) elements array
    exact absurd inside (lt_irrefl _)
  · intro safe index small before elements array
    rcases safe elements array with complete | ⟨failing, element, found, unreadable⟩
    · exact lt_of_lt_of_le small complete
    · by_contra outside
      have inside := (List.getElem?_eq_some_iff.mp found).1
      rcases before failing (by omega) with ⟨same, read, readable⟩
      simp only [array, Json.element, found, Except.ok.injEq] at read
      rw [← read, unreadable] at readable
      cases readable

end Candle

/-! ## Objects -/

theorem Json.ListDecodes.isObject {ε α : Type} {json : Json} {key : String}
    {decode : Json → Except ε α} (decodes : json.ListDecodes key decode) :
    json.isObject = true := by
  rcases decodes with ⟨list, found, -⟩
  cases json with
  | object members => rfl
  | _ => cases found

namespace Spot

/-- The second list is indexed only where the first one decodes. -/
def Exchange.ListsPresent (externals : Externals) (json : Json) : Prop :=
  json.isObject = true →
    json.contains "rateLimits" = true ∧
      (json.ListDecodes "rateLimits" (RateLimit.fromJson externals) →
        json.contains "symbols" = true)

theorem Exchange.defined_fromJson_iff (externals : Externals) (json : Json) :
    Defined (Exchange.fromJson externals json) ↔
      Exchange.ListsPresent externals json := by
  refine (defined_lifted_list_iff fun _ => defined_lifted_list_iff fun _ =>
    iff_true_intro (defined_pure _)).trans ?_
  simp only [implies_true, and_true, Exchange.ListsPresent]
  tauto

end Spot

namespace Futures

/-- What a symbol's decoder reads before its lists. -/
def Symbol.membersRead (externals : Externals) (json : Json) : Bool :=
  (externals.readString json "symbol" "").isOk &&
  (externals.readString json "pair" "").isOk &&
  (externals.readString json "contractType" "").isOk &&
  (externals.readInt json "deliveryDate" 0).isOk &&
  (externals.readInt json "onboardDate" 0).isOk &&
  (externals.readMagicEnum json "status" ContractStatus.TRADING).isOk &&
  (externals.readStringAsDouble json "maintMarginPercent").isOk &&
  (externals.readStringAsDouble json "requiredMarginPercent").isOk &&
  (externals.readString json "baseAsset" "").isOk &&
  (externals.readString json "quoteAsset" "").isOk &&
  (externals.readString json "marginAsset" "").isOk &&
  (externals.readInt json "pricePrecision" 0).isOk &&
  (externals.readInt json "quantityPrecision" 0).isOk &&
  (externals.readInt json "baseAssetPrecision" 0).isOk &&
  (externals.readInt json "quotePrecision" 0).isOk &&
  (externals.readString json "underlyingType" "").isOk

/-- A symbol that is an object, and whose members are read, has both lists; the second
one is needed only where the first one decodes. -/
def Symbol.ListsPresent (externals : Externals) (json : Json) : Prop :=
  Symbol.membersRead externals json = true → json.isObject = true →
    json.contains "underlyingSubType" = true ∧
      (json.ListDecodes "underlyingSubType" Json.getString →
        json.contains "filters" = true)

theorem Symbol.defined_fromJson_iff (externals : Externals) (json : Json) :
    Defined (Symbol.fromJson externals json) ↔ Symbol.ListsPresent externals json := by
  simp only [Symbol.fromJson, Symbol.ListsPresent, Symbol.membersRead, Bool.and_eq_true,
    and_imp]
  iterate 16 refine defined_lift_bind_iff fun _ => ?_
  refine (defined_lifted_list_iff fun _ => defined_lifted_list_iff fun _ =>
    defined_lift_bind_iff fun _ => defined_lift_bind_iff fun _ =>
    iff_true_intro (defined_pure _)).trans ?_
  simp only [implies_true, and_true]
  tauto

/-- The lists of an answer are there, each where those before it decode, and so are the
lists of every symbol that is reached. -/
def Exchange.ListsPresent (externals : Externals) (json : Json) : Prop :=
  json.isObject = true →
    json.contains "rateLimits" = true ∧
      (json.ListDecodes "rateLimits" (RateLimit.fromJson externals) →
        json.contains "assets" = true ∧
          (json.ListDecodes "assets" (Asset.fromJson externals) →
            json.contains "symbols" = true ∧
              ∀ list, json.find? "symbols" = some list →
                ∀ front symbol back, list.values = front ++ symbol :: back →
                  (∀ earlier ∈ front, (Symbol.fromJson externals earlier).isOk = true) →
                  Symbol.ListsPresent externals symbol))

theorem Exchange.defined_fromJson_iff (externals : Externals) (json : Json) :
    Defined (Exchange.fromJson externals json) ↔
      Exchange.ListsPresent externals json := by
  refine (defined_lifted_list_iff fun _ => defined_lifted_list_iff fun _ =>
    defined_list_iff fun _ => defined_lift_bind_iff fun _ => defined_lift_bind_iff fun _ =>
    iff_true_intro (defined_pure _)).trans ?_
  simp only [implies_true, and_true, Symbol.defined_fromJson_iff, Exchange.ListsPresent]
  have object := fun decodes : json.ListDecodes "rateLimits" (RateLimit.fromJson externals) =>
    decodes.isObject
  tauto

/-- What an account's decoder reads before its list. -/
def Account.membersRead (externals : Externals) (json : Json) : Bool :=
  (externals.readInt json "feeTier" 0).isOk &&
  (externals.readBool json "canTrade" false).isOk &&
  (externals.readBool json "canDeposit" false).isOk &&
  (externals.readBool json "canWithdraw" false).isOk &&
  (externals.readInt json "updateTime" 0).isOk &&
  (externals.readStringAsDouble json "totalInitialMargin").isOk &&
  (externals.readStringAsDouble json "totalMaintMargin").isOk &&
  (externals.readStringAsDouble json "totalWalletBalance").isOk &&
  (externals.readStringAsDouble json "totalUnrealizedProfit").isOk &&
  (externals.readStringAsDouble json "totalMarginBalance").isOk &&
  (externals.readStringAsDouble json "totalPositionInitialMargin").isOk &&
  (externals.readStringAsDouble json "totalOpenOrderInitialMargin").isOk &&
  (externals.readStringAsDouble json "totalCrossWalletBalance").isOk &&
  (externals.readStringAsDouble json "totalCrossUnPnl").isOk &&
  (externals.readStringAsDouble json "availableBalance").isOk &&
  (externals.readStringAsDouble json "maxWithdrawAmount").isOk &&
  (externals.readInt json "tradeGroupId" (-1)).isOk

/-- An account that is an object, and whose members are read, has its list. -/
def Account.ListPresent (externals : Externals) (json : Json) : Prop :=
  Account.membersRead externals json = true → json.isObject = true →
    json.contains "assets" = true

theorem Account.defined_fromJson_iff (externals : Externals) (json : Json) :
    Defined (Account.fromJson externals json) ↔ Account.ListPresent externals json := by
  simp only [Account.fromJson, Account.ListPresent, Account.membersRead, Bool.and_eq_true,
    and_imp]
  iterate 17 refine defined_lift_bind_iff fun _ => ?_
  refine (defined_lifted_list_iff fun _ => iff_true_intro (defined_pure _)).trans ?_
  simp only [implies_true, and_true]

/-- A message whose symbol is read, and which is an object, has a candle. -/
def EventCandlestick.CandlePresent (externals : Externals) (json : Json) : Prop :=
  (externals.readString json "s" "").isOk = true → json.isObject = true →
    json.contains "k" = true

theorem EventCandlestick.defined_fromJson_iff (externals : Externals) (json : Json) :
    Defined (EventCandlestick.fromJson externals json) ↔
      EventCandlestick.CandlePresent externals json := by
  refine defined_lift_bind_iff fun _ => ?_
  simp only [defined_bind_iff, Json.defined_member_iff, defined_lift, defined_pure,
    implies_true, and_true]

end Futures

end BinanceApi
