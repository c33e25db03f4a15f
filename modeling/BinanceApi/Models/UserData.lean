import BinanceApi.Models.EventCodecs

/-!
# User-data events

A message of the user-data stream is decoded into an object that may hold an earlier
event.  The envelope carries the event type and time; the payload is decoded from a
member of the message, in which its decoder looks for type and time again.
-/

namespace BinanceApi

/-- The readers of the common members: a member is converted, and a missing one leaves
the output alone. -/
structure Externals.ReadsEvents (externals : Externals) : Prop where
  names : externals.ReadsEnum Futures.EventType
  strings : ∀ (json : Json) (key : String) (value : Json) (previous : Futures.EventType),
    json.find? key = some value → (∀ text, value ≠ .string text) →
    ∃ exception, externals.readMagicEnum json key previous = .error exception
  absent : ∀ (json : Json) (key : String) (previous : Futures.EventType),
    json.find? key = none → externals.readMagicEnum json key previous = .ok previous
  integers : ∀ json key previous,
    externals.readInt json key previous =
      Externals.readMember Json.getInt json key previous

theorem Externals.plain_readsEvents : plain.ReadsEvents where
  names := plain_readsEnum Futures.EventType
  strings := fun json key value previous =>
    plain_takesStrings.enumerator json key value previous
  absent := by
    intro json key previous absent
    simp only [plain, Externals.readMember, absent]
  integers := fun _ _ _ => rfl

variable {externals : Externals}

/-- A time is read where it is, and is 0 where it is not. -/
theorem Externals.ReadsEvents.readInt_eq_ok_iff (reads : externals.ReadsEvents)
    {json : Json} {key : String} {time : Int} :
    externals.readInt json key 0 = .ok time ↔
      json.find? key = none ∧ time = 0 ∨
        ∃ value, json.find? key = some value ∧ value.getInt = .ok time := by
  rw [reads.integers, readMember]
  cases json.find? key with
  | none => simp [eq_comm]
  | some value => simp

/-- A type other than the default one is read only where its name is. -/
theorem Externals.ReadsEvents.readMagicEnum_eq_ok_iff (reads : externals.ReadsEvents)
    {json : Json} {key : String} {previous type : Futures.EventType}
    (known : type ≠ previous) :
    externals.readMagicEnum json key previous = .ok type ↔
      json.find? key = some (.string (MagicEnum.enumName type)) := by
  constructor
  · intro read
    cases found : json.find? key with
    | none =>
        rw [reads.absent json key previous found] at read
        cases read
        exact absurd rfl known
    | some value =>
        by_cases text : ∃ name, value = .string name
        · rcases text with ⟨name, rfl⟩
          by_cases named : ∃ other : Futures.EventType, MagicEnum.enumName other = name
          · rcases named with ⟨other, rfl⟩
            rw [reads.names.named json key other previous found] at read
            cases read
            rfl
          · have kept := reads.names.unnamed json key name previous type found
              (not_exists.mp named) read
            exact absurd kept known
        · rcases reads.strings json key value previous found (not_exists.mp text) with
            ⟨exception, thrown⟩
          rw [thrown] at read
          cases read
  · exact reads.names.named json key type previous

namespace Futures

/-- An update of the account, of which only the common members are read. -/
structure EventAccountUpdate extends Event where
  deriving DecidableEq, Repr

/-- An update of the account's configuration, likewise. -/
structure EventBalanceUpdate extends Event where
  deriving DecidableEq, Repr

def EventAccountUpdate.fromJson (externals : Externals) (json : Json) :
    Throws EventAccountUpdate := do
  let event ← Event.fromJson externals json {}
  return { event with }

def EventBalanceUpdate.fromJson (externals : Externals) (json : Json) :
    Throws EventBalanceUpdate := do
  let event ← Event.fromJson externals json {}
  return { event with }

/-- The alternatives of the variant. -/
inductive EventData where
  | accountUpdate (event : EventAccountUpdate)
  | balanceUpdate (event : EventBalanceUpdate)
  | orderUpdate (event : EventOrderUpdate)
  | event (event : Event)
  deriving DecidableEq, Repr

structure EventUserData where
  eventData : EventData := .accountUpdate {}
  deriving DecidableEq, Repr

/-- Decode a message into an object with previous content.  A payload that is missing
leaves the content alone. -/
def EventUserData.fromJson (externals : Externals) (json : Json)
    (previous : EventUserData) : Throws EventUserData := do
  let ev ← Event.fromJson externals json {}
  match ev.e with
  | .ORDER_TRADE_UPDATE =>
      match json.find? "o" with
      | some payload =>
          return { eventData := .orderUpdate (← EventOrderUpdate.fromJson externals payload) }
      | none => return previous
  | .ACCOUNT_CONFIG_UPDATE =>
      match json.find? "a" with
      | some payload =>
          return {
            eventData := .balanceUpdate (← EventBalanceUpdate.fromJson externals payload) }
      | none => return previous
  | .ACCOUNT_UPDATE =>
      match json.find? "ac" with
      | some payload =>
          return {
            eventData := .accountUpdate (← EventAccountUpdate.fromJson externals payload) }
      | none => return previous
  | .listenKeyExpired => return { eventData := .event ev }
  | _ => return { eventData := .event {} }

/-! ## What a decoded event should be -/

/-- The common members of the event that is held. -/
def EventData.toEvent : EventData → Event
  | .accountUpdate update => update.toEvent
  | .balanceUpdate update => update.toEvent
  | .orderUpdate update => update.toEvent
  | .event plainEvent => plainEvent

/-- Whether the alternative is the one for an event type. -/
def EventData.IsFor : EventData → EventType → Prop
  | .orderUpdate _, type => type = .ORDER_TRADE_UPDATE
  | .balanceUpdate _, type => type = .ACCOUNT_CONFIG_UPDATE
  | .accountUpdate _, type => type = .ACCOUNT_UPDATE
  | .event _, type =>
      type ≠ .ORDER_TRADE_UPDATE ∧ type ≠ .ACCOUNT_CONFIG_UPDATE ∧ type ≠ .ACCOUNT_UPDATE

/-- A message is decoded as the event it was sent as, whatever the object held. -/
def EventUserData.DecodesAsSent (externals : Externals) (json : Json) (type : EventType)
    (time : Int) : Prop :=
  ∃ result : EventUserData,
    (∀ previous, EventUserData.fromJson externals json previous = .ok result) ∧
    result.eventData.IsFor type ∧ result.eventData.toEvent = { e := type, E := time }

/-- The payload has the type and the time of the message again.  A payload without a time
stands for the time 0. -/
def Carries (payload : Json) (type : EventType) (time : Int) : Prop :=
  payload.find? "e" = some (.string (MagicEnum.enumName type)) ∧
  (payload.find? "E" = none ∧ time = 0 ∨
    ∃ value, payload.find? "E" = some value ∧ value.getInt = .ok time)

/-- When a message of a type is decoded as it was sent. -/
def Labelled (externals : Externals) (json : Json) : EventType → Int → Prop
  | .ORDER_TRADE_UPDATE, time =>
      ∃ payload, json.find? "o" = some payload ∧
        Carries payload .ORDER_TRADE_UPDATE time ∧
        ∃ update, EventOrderUpdate.fromJson externals payload = .ok update
  | .ACCOUNT_CONFIG_UPDATE, time =>
      ∃ payload, json.find? "a" = some payload ∧
        Carries payload .ACCOUNT_CONFIG_UPDATE time
  | .ACCOUNT_UPDATE, time =>
      ∃ payload, json.find? "ac" = some payload ∧ Carries payload .ACCOUNT_UPDATE time
  | .listenKeyExpired, _ => True
  | type, time => type = .UNDEFINED ∧ time = 0

/-- The decoder of the common members finds a type other than the default one, with a
time, only where the message carries them. -/
theorem Event.fromJson_eq_iff_carries (reads : externals.ReadsEvents) {payload : Json}
    {type : EventType} (known : type ≠ .UNDEFINED) (time : Int) :
    Event.fromJson externals payload {} = .ok { e := type, E := time } ↔
      Carries payload type time := by
  rw [Carries, ← reads.readMagicEnum_eq_ok_iff known, ← reads.readInt_eq_ok_iff]
  constructor
  · intro decoded
    rcases exists_of_bind_ok decoded with ⟨e, readE, rest⟩
    rcases exists_of_bind_ok rest with ⟨E, readsE, rest⟩
    cases rest
    exact ⟨readE, readsE⟩
  · intro read
    simp only [fromJson, read.1, read.2]
    rfl

/-- A decoded order update has the common members of its payload. -/
theorem EventOrderUpdate.fromJson_toEvent {payload : Json} {update : EventOrderUpdate}
    (decoded : fromJson externals payload = .ok update) :
    Event.fromJson externals payload {} = .ok update.toEvent := by
  rcases exists_of_bind_ok decoded with ⟨event, decodedEvent, rest⟩
  -- each of the other members is read after the event, and none of them changes it
  iterate 28 rcases exists_of_bind_ok rest with ⟨_, -, rest⟩
  cases rest
  exact decodedEvent

theorem EventBalanceUpdate.exists_fromJson_iff {payload : Json} {event : Event} :
    (∃ update, fromJson externals payload = .ok update ∧
      (EventData.balanceUpdate update).toEvent = event) ↔
    Event.fromJson externals payload {} = .ok event := by
  constructor
  · rintro ⟨update, decoded, rfl⟩
    rcases exists_of_bind_ok decoded with ⟨event, decodedEvent, returned⟩
    cases returned
    exact decodedEvent
  · intro decoded
    refine ⟨{ event with }, ?_, rfl⟩
    rw [fromJson, decoded]
    rfl

theorem EventAccountUpdate.exists_fromJson_iff {payload : Json} {event : Event} :
    (∃ update, fromJson externals payload = .ok update ∧
      (EventData.accountUpdate update).toEvent = event) ↔
    Event.fromJson externals payload {} = .ok event := by
  constructor
  · rintro ⟨update, decoded, rfl⟩
    rcases exists_of_bind_ok decoded with ⟨event, decodedEvent, returned⟩
    cases returned
    exact decodedEvent
  · intro decoded
    refine ⟨{ event with }, ?_, rfl⟩
    rw [fromJson, decoded]
    rfl

/-- A branch that decodes the member at a key and otherwise keeps the content decodes as
sent only if the member is there and is decoded to the type and the time. -/
theorem EventUserData.decodesAsSent_iff_of_payload {α : Type} {json : Json}
    {type : EventType} {time : Int} (key : String) (decode : Json → Throws α)
    (wrap : α → EventData)
    (branch : ∀ previous, fromJson externals json previous =
      match json.find? key with
      | some payload => do
          let update ← decode payload
          return { eventData := wrap update }
      | none => return previous)
    (isFor : ∀ update, (wrap update).IsFor type) :
    DecodesAsSent externals json type time ↔
      ∃ payload, json.find? key = some payload ∧
        ∃ update, decode payload = .ok update ∧
          (wrap update).toEvent = { e := type, E := time } := by
  simp only [DecodesAsSent, branch]
  cases json.find? key with
  | none =>
      constructor
      · rintro ⟨result, decodes, -⟩
        -- Two objects that differ before the call still differ after it.
        have first := decodes { eventData := .event {} }
        have second := decodes { eventData := .accountUpdate {} }
        cases first
        cases second
      · rintro ⟨payload, found, -⟩
        cases found
  | some payload =>
      constructor
      · rintro ⟨result, decodes, -, labelled⟩
        rcases exists_of_bind_ok (decodes {}) with ⟨update, decoded, returned⟩
        cases returned
        exact ⟨payload, rfl, update, decoded, labelled⟩
      · rintro ⟨found, same, update, decoded, labelled⟩
        cases same
        refine ⟨{ eventData := wrap update }, ?_, isFor update, labelled⟩
        intro previous
        simp only [decoded]
        rfl

/-- A type without a branch of its own is decoded as an event that has no type and no
time. -/
theorem EventUserData.decodesAsSent_iff_of_default {json : Json} {type : EventType}
    {time : Int}
    (decodes : ∀ previous, fromJson externals json previous =
      .ok { eventData := .event {} })
    (isFor : (EventData.event {}).IsFor type) :
    DecodesAsSent externals json type time ↔ type = .UNDEFINED ∧ time = 0 := by
  constructor
  · rintro ⟨result, returned, -, labelled⟩
    cases (decodes {}).symm.trans (returned {})
    have fields := Event.mk.inj labelled
    exact ⟨fields.1.symm, fields.2.symm⟩
  · rintro ⟨rfl, rfl⟩
    exact ⟨{ eventData := .event {} }, decodes, isFor, rfl⟩

/-- A message is decoded as it was sent exactly when its payload is there and repeats
the type and the time, or when it is the notice of an expired listen key. -/
theorem userData_decodes_iff (externals : Externals) (reads : externals.ReadsEvents)
    (json : Json) (type : EventType) (time : Int)
    (typed : json.find? "e" = some (.string (MagicEnum.enumName type)))
    (timed : json.find? "E" = some (.integer time)) :
    EventUserData.DecodesAsSent externals json type time ↔
      Labelled externals json type time := by
  have envelope : Event.fromJson externals json {} = .ok { e := type, E := time } := by
    simp only [Event.fromJson, reads.names.named json "e" type _ typed, reads.integers,
      Externals.readMember, timed]
    rfl
  cases type with
  | ORDER_TRADE_UPDATE =>
      refine (EventUserData.decodesAsSent_iff_of_payload "o"
        (EventOrderUpdate.fromJson externals) .orderUpdate ?_ fun _ => rfl).trans ?_
      · intro previous
        simp only [EventUserData.fromJson, envelope]
        rfl
      · refine exists_congr fun payload => and_congr_right fun _ => ?_
        rw [← Event.fromJson_eq_iff_carries reads (by decide) time]
        constructor
        · rintro ⟨update, decoded, labelled⟩
          have read := EventOrderUpdate.fromJson_toEvent decoded
          exact ⟨read.trans (congrArg _ labelled), update, decoded⟩
        · rintro ⟨carried, update, decoded⟩
          have read := EventOrderUpdate.fromJson_toEvent decoded
          exact ⟨update, decoded, Except.ok.inj (read.symm.trans carried)⟩
  | ACCOUNT_CONFIG_UPDATE =>
      refine (EventUserData.decodesAsSent_iff_of_payload "a"
        (EventBalanceUpdate.fromJson externals) .balanceUpdate ?_ fun _ => rfl).trans ?_
      · intro previous
        simp only [EventUserData.fromJson, envelope]
        rfl
      · refine exists_congr fun payload => and_congr_right fun _ => ?_
        rw [← Event.fromJson_eq_iff_carries reads (by decide) time]
        exact EventBalanceUpdate.exists_fromJson_iff
  | ACCOUNT_UPDATE =>
      refine (EventUserData.decodesAsSent_iff_of_payload "ac"
        (EventAccountUpdate.fromJson externals) .accountUpdate ?_ fun _ => rfl).trans ?_
      · intro previous
        simp only [EventUserData.fromJson, envelope]
        rfl
      · refine exists_congr fun payload => and_congr_right fun _ => ?_
        rw [← Event.fromJson_eq_iff_carries reads (by decide) time]
        exact EventAccountUpdate.exists_fromJson_iff
  | listenKeyExpired =>
      refine iff_of_true ⟨{ eventData := .event { e := .listenKeyExpired, E := time } },
        ?_, by simp [EventData.IsFor], rfl⟩ trivial
      intro previous
      simp only [EventUserData.fromJson, envelope]
      rfl
  | UNDEFINED | MARGIN_CALL | bookTicker | aggTrade | kline =>
      apply EventUserData.decodesAsSent_iff_of_default
      · intro previous
        simp only [EventUserData.fromJson, envelope]
        rfl
      · simp [EventData.IsFor]

/-- An account update whose payload repeats the type and the time. -/
def sampleRepeated : Json :=
  .object [("E", .integer 1700000000000),
    ("ac", .object [("E", .integer 1700000000000), ("e", .string "ACCOUNT_UPDATE")]),
    ("e", .string "ACCOUNT_UPDATE")]

/-- An order update: the payload has the fields of the order only. -/
def sampleOrderMessage : Json :=
  .object [("E", .integer 1700000000000), ("e", .string "ORDER_TRADE_UPDATE"),
    ("o", .object [("S", .string "SELL"), ("q", .string "0.5"), ("s", .string "BTCUSDT")])]

/-- An account update with its payload at another key. -/
def sampleAccountMessage : Json :=
  .object [("E", .integer 1700000000000), ("a", .object [("m", .string "ORDER")]),
    ("e", .string "ACCOUNT_UPDATE")]

def sampleMarginCall : Json :=
  .object [("E", .integer 1700000000000), ("e", .string "MARGIN_CALL")]

theorem userData_decodes_sample :
    EventUserData.DecodesAsSent .plain sampleRepeated .ACCOUNT_UPDATE 1700000000000 ∧
      ¬EventUserData.DecodesAsSent .plain sampleMarginCall .MARGIN_CALL
        1700000000000 := by
  have reads := Externals.plain_readsEvents
  constructor
  · rw [userData_decodes_iff .plain reads _ _ _ rfl rfl]
    exact ⟨_, rfl, rfl, .inr ⟨_, rfl, rfl⟩⟩
  · rw [userData_decodes_iff .plain reads _ _ _ rfl rfl]
    rintro ⟨undefined, -⟩
    cases undefined

/-- An order update loses its type and time, an account update leaves in place whatever
was decoded before, and a margin call becomes an event without a type. -/
theorem userData_mislabelled_sample :
    (∃ update : EventOrderUpdate,
      EventUserData.fromJson .plain sampleOrderMessage {} =
        .ok { eventData := .orderUpdate update } ∧
      update.s = "BTCUSDT" ∧ update.e = .UNDEFINED ∧ update.E = 0) ∧
    (∀ previous,
      EventUserData.fromJson .plain sampleAccountMessage previous = .ok previous) ∧
    EventUserData.fromJson .plain sampleMarginCall {} = .ok { eventData := .event {} } ∧
    ¬EventUserData.DecodesAsSent .plain sampleOrderMessage .ORDER_TRADE_UPDATE
      1700000000000 := by
  have order : EventUserData.fromJson .plain sampleOrderMessage {} =
      .ok { eventData := .orderUpdate { s := "BTCUSDT", S := .SELL, q := 1 / 2 } } := by
    decide +kernel
  refine ⟨⟨_, order, rfl, rfl, rfl⟩, fun previous => ?_, by decide +kernel, ?_⟩
  · rfl
  · rintro ⟨result, decodes, -, labelled⟩
    cases order.symm.trans (decodes {})
    cases labelled

end Futures

end BinanceApi
