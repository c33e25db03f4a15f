import BinanceApi.Models.Event

/-!
# Encoders of events

Each event has an encoder and a decoder with their own lists of members.  The encoders
assign enumerators and some amounts as numbers, while the readers of the decoders take
strings.
-/

namespace BinanceApi

open MagicEnum (position)

/-- `json[key] = value` for an enumerator, which is written as its integer value. -/
def Json.enumerator {α : Type} [MagicEnum α] [DecidableEq α] (value : α) : Json :=
  .integer (position value)

/-- `json[key] = std::to_string(value)`. -/
def Json.amount (value : Double) : Json :=
  .string value.toString

/-- `readMagicEnum` and `readStringAsDouble` convert strings, and throw for a member of
another type. -/
structure Externals.TakesStrings (externals : Externals) : Prop where
  enumerator : ∀ {α : Type} [MagicEnum α] (json : Json) (key : String) (value : Json)
    (previous : α), json.find? key = some value → (∀ text, value ≠ .string text) →
    ∃ exception, externals.readMagicEnum json key previous = .error exception
  double : ∀ (json : Json) (key : String) (value : Json), json.find? key = some value →
    (∀ text, value ≠ .string text) →
    ∃ exception, externals.readStringAsDouble json key = .error exception

theorem Externals.plain_takesStrings : plain.TakesStrings where
  enumerator := by
    intro α _ json key value previous found notString
    simp only [plain, readMember, found]
    cases value with
    | string text => exact absurd rfl (notString text)
    | null | boolean | integer | number | array | object => exact ⟨_, rfl⟩
  double := by
    intro json key value found notString
    simp only [plain, readMember, found]
    cases value with
    | string text => exact absurd rfl (notString text)
    | null | boolean | integer | number | array | object => exact ⟨_, rfl⟩

namespace Futures

/-- The members that `Event::toJson` assigns. -/
def Event.members (event : Event) : List (String × Json) :=
  [("e", .enumerator event.e), ("E", .integer event.E)]

def EventTickPrice.members (event : EventTickPrice) : List (String × Json) :=
  event.toEvent.members ++
  [("u", .integer event.u), ("s", .string event.s), ("b", .amount event.b),
    ("B", .amount event.B), ("a", .amount event.a), ("A", .amount event.A)]

def EventTickPrice.toJson (event : EventTickPrice) : Json :=
  .object (Json.Members.ofAssignments event.members)

/-- An update of an order. -/
structure EventOrderUpdate extends Event where
  /-- Symbol, and client order id. -/
  s : String := ""
  c : String := ""
  S : Side := .BUY
  o : OrderType := .LIMIT
  f : TimeInForce := .GTC
  /-- Original quantity and price. -/
  q : Double := 0
  p : Double := 0
  /-- Average price and stop price. -/
  ap : Double := 0
  sp : Double := 0
  x : ExecutionType := .NEW
  X : OrderStatus := .NEW
  /-- Order id. -/
  i : Int := 0
  /-- Last filled and accumulated quantity, and last filled price. -/
  l : Double := 0
  z : Double := 0
  L : Double := 0
  /-- Trade time and trade id. -/
  T : Int := 0
  t : Int := 0
  /-- Bids and asks notional. -/
  b : Double := 0
  a : Double := 0
  /-- Whether the trade is the maker side, and whether it is reduce only. -/
  m : Bool := false
  R : Bool := false
  wt : WorkingType := .CONTRACT_PRICE
  ot : OrderType := .LIMIT
  ps : PositionSide := .LONG
  /-- Whether the order closes all. -/
  cp : Bool := false
  /-- Activation price and callback rate of a trailing stop. -/
  AP : Double := 0
  cr : Double := 0
  /-- Realized profit of the trade. -/
  rp : Double := 0
  deriving DecidableEq, Repr

namespace EventOrderUpdate

def members (event : EventOrderUpdate) : List (String × Json) :=
  event.toEvent.members ++
  [("s", .string event.s), ("c", .string event.c), ("S", .enumerator event.S),
    ("o", .enumerator event.o), ("f", .enumerator event.f), ("q", .amount event.q),
    ("p", .amount event.p), ("ap", .amount event.ap), ("sp", .amount event.sp),
    ("x", .enumerator event.x), ("X", .enumerator event.X), ("i", .integer event.i),
    ("l", .amount event.l), ("z", .amount event.z), ("L", .amount event.L),
    ("T", .integer event.T), ("t", .integer event.t), ("b", .amount event.b),
    ("a", .amount event.a), ("m", .boolean event.m), ("R", .boolean event.R),
    ("wt", .enumerator event.wt), ("ot", .enumerator event.ot),
    ("ps", .enumerator event.ps), ("cp", .boolean event.cp), ("AP", .amount event.AP),
    ("cr", .amount event.cr), ("rp", .amount event.rp)]

def toJson (event : EventOrderUpdate) : Json :=
  .object (Json.Members.ofAssignments event.members)

/-- Decode an update into a fresh value. -/
def fromJson (externals : Externals) (json : Json) : Throws EventOrderUpdate := do
  let event ← Event.fromJson externals json {}
  let s ← externals.readString json "s" ""
  let c ← externals.readString json "c" ""
  let S ← externals.readMagicEnum json "S" Side.BUY
  let o ← externals.readMagicEnum json "o" OrderType.LIMIT
  let f ← externals.readMagicEnum json "f" TimeInForce.GTC
  let q ← externals.readStringAsDouble json "q"
  let p ← externals.readStringAsDouble json "p"
  let ap ← externals.readStringAsDouble json "ap"
  let sp ← externals.readStringAsDouble json "sp"
  let x ← externals.readMagicEnum json "x" ExecutionType.NEW
  let X ← externals.readMagicEnum json "X" OrderStatus.NEW
  let i ← externals.readInt json "i" 0
  let l ← externals.readStringAsDouble json "l"
  let z ← externals.readStringAsDouble json "z"
  let L ← externals.readStringAsDouble json "L"
  let T ← externals.readInt json "T" 0
  let t ← externals.readInt json "t" 0
  let b ← externals.readStringAsDouble json "b"
  let a ← externals.readStringAsDouble json "a"
  let m ← externals.readBool json "m" false
  let R ← externals.readBool json "R" false
  let wt ← externals.readMagicEnum json "wt" WorkingType.CONTRACT_PRICE
  let ot ← externals.readMagicEnum json "ot" OrderType.LIMIT
  let ps ← externals.readMagicEnum json "ps" PositionSide.LONG
  let cp ← externals.readBool json "cp" false
  let AP ← externals.readStringAsDouble json "AP"
  let cr ← externals.readStringAsDouble json "cr"
  let rp ← externals.readStringAsDouble json "rp"
  return { event with s, c, S, o, f, q, p, ap, sp, x, X, i, l, z, L, T, t, b, a, m, R, wt,
                      ot, ps, cp, AP, cr, rp }

end EventOrderUpdate

def Candlestick.members (candlestick : Candlestick) : List (String × Json) :=
  [("t", .integer candlestick.t), ("T", .integer candlestick.T),
    ("s", .string candlestick.s), ("f", .integer candlestick.f),
    ("L", .integer candlestick.L), ("i", .string candlestick.i.wireName),
    ("o", .amount candlestick.o), ("h", .amount candlestick.h),
    ("l", .amount candlestick.l), ("c", .amount candlestick.c),
    ("v", .amount candlestick.v), ("n", .integer candlestick.n),
    ("x", .boolean candlestick.x), ("q", .number candlestick.q),
    ("V", .number candlestick.V), ("Q", .number candlestick.Q)]

def Candlestick.toJson (candlestick : Candlestick) : Json :=
  .object (Json.Members.ofAssignments candlestick.members)

/-- The event type and time are not written. -/
def EventCandlestick.members (event : EventCandlestick) : List (String × Json) :=
  [("s", .string event.s), ("k", event.k.toJson)]

def EventCandlestick.toJson (event : EventCandlestick) : Json :=
  .object (Json.Members.ofAssignments event.members)

/-! ## What the decoders make of it -/

theorem EventTickPrice.members_nodup (event : EventTickPrice) :
    (event.members.map Prod.fst).Nodup := by
  simp [members, Event.members]

theorem EventOrderUpdate.members_nodup (event : EventOrderUpdate) :
    (event.members.map Prod.fst).Nodup := by
  simp [members, Event.members]

theorem Candlestick.members_nodup (candlestick : Candlestick) :
    (candlestick.members.map Prod.fst).Nodup := by
  simp [members]

variable {externals : Externals}

/-- An event whose type was written as a number is not decoded. -/
theorem Event.fromJson_enumerator (takes : externals.TakesStrings) {json : Json}
    {written : EventType} (found : json.find? "e" = some (.enumerator written))
    (previous : Event) :
    ∃ exception, Event.fromJson externals json previous = .error exception := by
  rcases takes.enumerator json "e" _ previous.e found (by simp [Json.enumerator]) with
    ⟨exception, thrown⟩
  exact ⟨exception, by rw [Event.fromJson, thrown]; rfl⟩

theorem EventTickPrice.fromJson_toJson (takes : externals.TakesStrings)
    (event : EventTickPrice) :
    ∃ exception, fromJson externals event.toJson = .error exception := by
  have found : event.toJson.find? "e" = some (.enumerator event.e) :=
    Json.find?_ofAssignments event.members_nodup (by simp [members, Event.members])
  rcases Event.fromJson_enumerator takes found { e := .bookTicker } with
    ⟨exception, thrown⟩
  exact ⟨exception, by rw [fromJson, thrown]; rfl⟩

theorem EventOrderUpdate.fromJson_toJson (takes : externals.TakesStrings)
    (event : EventOrderUpdate) :
    ∃ exception, fromJson externals event.toJson = .error exception := by
  have found : event.toJson.find? "e" = some (.enumerator event.e) :=
    Json.find?_ofAssignments event.members_nodup (by simp [members, Event.members])
  rcases Event.fromJson_enumerator takes found {} with ⟨exception, thrown⟩
  exact ⟨exception, by rw [fromJson, thrown]; rfl⟩

/-- A decoded candle had its quote volume as text. -/
theorem Candlestick.reads_q {json : Json} {candlestick : Candlestick}
    (decoded : fromJson externals json = .ok candlestick) :
    externals.readStringAsDouble json "q" = .ok candlestick.q := by
  rcases exists_of_bind_ok decoded with ⟨t, -, decoded⟩
  rcases exists_of_bind_ok decoded with ⟨T, -, decoded⟩
  rcases exists_of_bind_ok decoded with ⟨s, -, decoded⟩
  rcases exists_of_bind_ok decoded with ⟨f, -, decoded⟩
  rcases exists_of_bind_ok decoded with ⟨L, -, decoded⟩
  rcases exists_of_bind_ok decoded with ⟨interval, -, decoded⟩
  rcases exists_of_bind_ok decoded with ⟨o, -, decoded⟩
  rcases exists_of_bind_ok decoded with ⟨h, -, decoded⟩
  rcases exists_of_bind_ok decoded with ⟨l, -, decoded⟩
  rcases exists_of_bind_ok decoded with ⟨c, -, decoded⟩
  rcases exists_of_bind_ok decoded with ⟨v, -, decoded⟩
  rcases exists_of_bind_ok decoded with ⟨n, -, decoded⟩
  rcases exists_of_bind_ok decoded with ⟨x, -, decoded⟩
  rcases exists_of_bind_ok decoded with ⟨q, read, decoded⟩
  rcases exists_of_bind_ok decoded with ⟨V, -, decoded⟩
  rcases exists_of_bind_ok decoded with ⟨Q, -, decoded⟩
  cases decoded
  exact read

theorem Candlestick.fromJson_toJson (takes : externals.TakesStrings)
    (candlestick decoded : Candlestick) :
    fromJson externals candlestick.toJson ≠ .ok decoded := by
  intro returns
  have found : candlestick.toJson.find? "q" = some (.number candlestick.q) :=
    Json.find?_ofAssignments candlestick.members_nodup (by simp [members])
  rcases takes.double _ "q" _ found (by simp) with ⟨exception, thrown⟩
  rw [reads_q returns] at thrown
  cases thrown

theorem EventCandlestick.fromJson_toJson (takes : externals.TakesStrings)
    (event decoded : EventCandlestick) :
    fromJson externals event.toJson ≠ .ok decoded := by
  intro returns
  have found : event.toJson.find? "k" = some event.k.toJson :=
    Json.find?_ofAssignments (by simp [members]) (by simp [members])
  have member : event.toJson.member "k" = .ok event.k.toJson := by
    simp only [Json.find?, toJson] at found
    simp only [Json.member, toJson, found]
  rcases exists_of_bind_ok returns with ⟨s, -, rest⟩
  rcases exists_of_bind_ok rest with ⟨json, memberEq, rest⟩
  rcases exists_of_bind_ok rest with ⟨k, decodedCandle, -⟩
  rw [member] at memberEq
  cases memberEq
  exact event.k.fromJson_toJson takes k (Throws.lift_eq_ok_iff.mp decodedCandle)

/-- Whatever its fields, no event of the three types is decoded from what its own
encoder writes. -/
theorem events_never_round_trip (externals : Externals)
    (takes : externals.TakesStrings) :
    (∀ event decoded : EventTickPrice,
      EventTickPrice.fromJson externals event.toJson ≠ .ok decoded) ∧
    (∀ event decoded : EventOrderUpdate,
      EventOrderUpdate.fromJson externals event.toJson ≠ .ok decoded) ∧
    ∀ event decoded : EventCandlestick,
      EventCandlestick.fromJson externals event.toJson ≠ .ok decoded := by
  refine ⟨?_, ?_, ?_⟩
  · intro event decoded returns
    rcases event.fromJson_toJson takes with ⟨exception, thrown⟩
    rw [thrown] at returns
    cases returns
  · intro event decoded returns
    rcases event.fromJson_toJson takes with ⟨exception, thrown⟩
    rw [thrown] at returns
    cases returns
  · exact EventCandlestick.fromJson_toJson takes

/-- A bid of two coins and an offer of three. -/
def sampleTick : EventTickPrice where
  e := .bookTicker
  E := 1700000000000
  u := 1
  s := "BTCUSDT"
  b := 61000
  B := 2
  a := 61001
  A := 3
  T := 1700000000000

def sampleUpdate : EventOrderUpdate where
  e := .ORDER_TRADE_UPDATE
  E := 1700000000000
  s := "BTCUSDT"
  q := 1 / 8

def sampleCandleUpdate : EventCandlestick where
  e := .kline
  E := 1700000000000
  s := "BTCUSDT"
  k := { t := 0, T := 59999, s := "BTCUSDT", i := ._1m, f := 1, L := 4, o := 1, h := 3 / 2,
         l := 1, c := 5 / 4, v := 10, n := 4, x := true, q := 12, V := 6, Q := 7 }

theorem events_never_round_trip_sample :
    EventTickPrice.fromJson .plain sampleTick.toJson ≠ .ok sampleTick ∧
      EventOrderUpdate.fromJson .plain sampleUpdate.toJson ≠ .ok sampleUpdate ∧
      EventCandlestick.fromJson .plain sampleCandleUpdate.toJson ≠
        .ok sampleCandleUpdate :=
  have never := events_never_round_trip .plain Externals.plain_takesStrings
  ⟨never.1 _ _, never.2.1 _ _, never.2.2 _ _⟩

/-- The readers of strings meet the event type as the number of its enumerator, and the
quote volume as a number. -/
theorem events_rejected_sample :
    EventTickPrice.fromJson .plain sampleTick.toJson =
        .error (.json "type_error.302") ∧
      EventOrderUpdate.fromJson .plain sampleUpdate.toJson =
        .error (.json "type_error.302") ∧
      EventCandlestick.fromJson .plain sampleCandleUpdate.toJson =
        .error (.raised (.json "type_error.302")) := by
  decide +kernel

/-- What is not written cannot be read: no decoder at all recovers the transaction time
of a tick, nor the event time of a candle update. -/
theorem encoders_forget :
    (∀ decode : Json → Throws EventTickPrice,
      ¬∀ event : EventTickPrice, decode event.toJson = .ok event) ∧
    ∀ decode : Json → Evaluates EventCandlestick,
      ¬∀ event : EventCandlestick, decode event.toJson = .ok event := by
  constructor
  · intro decode recovers
    have first := recovers sampleTick
    have second := recovers { sampleTick with T := 0 }
    have same : sampleTick.toJson = { sampleTick with T := 0 }.toJson := rfl
    rw [same, second] at first
    exact absurd (congrArg EventTickPrice.T (Except.ok.inj first)) (by decide)
  · intro decode recovers
    have first := recovers sampleCandleUpdate
    have second := recovers { sampleCandleUpdate with E := 0 }
    have same : sampleCandleUpdate.toJson = { sampleCandleUpdate with E := 0 }.toJson := rfl
    rw [same, second] at first
    exact absurd (congrArg (fun event => event.E) (Except.ok.inj first)) (by decide)

end Futures

end BinanceApi
