import BinanceApi.Models.Enums

/-!
# Stream events

The events of the market-data streams.  Field names are the exchange's one-letter
keys.  The decoders start from a freshly constructed event.
-/

namespace BinanceApi.Futures

/-- The event type and the event time. -/
structure Event where
  e : EventType := .UNDEFINED
  E : Int := 0
  deriving DecidableEq, Repr

/-- Decode the common members over the previous content of an event. -/
def Event.fromJson (externals : Externals) (json : Json) (previous : Event) :
    Throws Event := do
  let e ← externals.readMagicEnum json "e" previous.e
  let E ← externals.readInt json "E" previous.E
  return { e, E }

/-- Best prices and quantities of a symbol. -/
structure EventTickPrice extends Event where
  /-- Order book update id. -/
  u : Int
  /-- Symbol. -/
  s : String
  /-- Best bid price and quantity. -/
  b : Double
  B : Double
  /-- Best ask price and quantity. -/
  a : Double
  A : Double
  /-- Transaction time. -/
  T : Int
  deriving DecidableEq, Repr

def EventTickPrice.fromJson (externals : Externals) (json : Json) :
    Throws EventTickPrice := do
  let event ← Event.fromJson externals json { e := .bookTicker }
  let u ← externals.readInt json "u" 0
  let T ← externals.readInt json "T" 0
  let s ← externals.readString json "s" ""
  let b ← externals.readStringAsDouble json "b"
  let B ← externals.readStringAsDouble json "B"
  let a ← externals.readStringAsDouble json "a"
  let A ← externals.readStringAsDouble json "A"
  return { event with u, s, b, B, a, A, T }

/-- The candle inside a candlestick event. -/
structure Candlestick where
  /-- Start time and close time. -/
  t : Int
  T : Int
  s : String
  i : CandleInterval
  /-- First and last trade id. -/
  f : Int
  L : Int
  o : Double
  h : Double
  l : Double
  c : Double
  v : Double
  n : Int
  /-- Whether the candle is closed. -/
  x : Bool
  q : Double
  V : Double
  Q : Double
  deriving DecidableEq, Repr

namespace Candlestick

/-- The interval that a decoder takes from the text of a message.  Text that names
no interval leaves the default. -/
def decodeInterval (interval : String) : CandleInterval :=
  (MagicEnum.enumCast CandleInterval ("_" ++ interval)).getD ._1m

def fromJson (externals : Externals) (json : Json) : Throws Candlestick := do
  let t ← externals.readInt json "t" 0
  let T ← externals.readInt json "T" 0
  let s ← externals.readString json "s" ""
  let f ← externals.readInt json "f" 0
  let L ← externals.readInt json "L" 0
  let interval ← externals.readString json "i" ""
  let o ← externals.readStringAsDouble json "o"
  let h ← externals.readStringAsDouble json "h"
  let l ← externals.readStringAsDouble json "l"
  let c ← externals.readStringAsDouble json "c"
  let v ← externals.readStringAsDouble json "v"
  let n ← externals.readInt json "n" 0
  let x ← externals.readBool json "x" false
  let q ← externals.readStringAsDouble json "q"
  let V ← externals.readStringAsDouble json "V"
  let Q ← externals.readStringAsDouble json "Q"
  return { t, T, s, i := decodeInterval interval, f, L, o, h, l, c, v, n, x, q, V, Q }

end Candlestick

/-- An update of a candle.  Its decoder never reads the event type and time. -/
structure EventCandlestick extends Event where
  s : String
  k : Candlestick
  deriving DecidableEq, Repr

/-- A message without a candle is undefined behaviour. -/
def EventCandlestick.fromJson (externals : Externals) (json : Json) :
    Evaluates EventCandlestick := do
  let s ← (externals.readString json "s" "").lift
  let k ← (Candlestick.fromJson externals (← json.member "k")).lift
  return { s, k }

end BinanceApi.Futures
