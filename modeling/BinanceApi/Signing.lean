import BinanceApi.Http
import BinanceApi.Library.Text

/-!
# Signed requests

The text of a request.  A private request is signed on the way out: its target is cut
at its question mark, what follows is extended by the receive window and the time and
signed, and the parts are glued together behind the API prefix.  The exchange verifies
the signature of what it finds between the question mark and the signature.
-/

namespace BinanceApi

/-- What a session signs with: the secret, HMAC-SHA256 of a key and a text, and the
common library's hexadecimal form of a digest. -/
structure Signer where
  apiSecret : String
  hmac : String → String → List UInt8
  stringToHex : List UInt8 → String

/-- Two digits for each byte. -/
def lowerHex (digest : List UInt8) : String :=
  String.ofList (digest.flatMap fun byte =>
    [Nat.digitChar (byte.toNat / 16), Nat.digitChar (byte.toNat % 16)])

/-- A signer for one request: the digest is that of the key `secret` and the text
`symbol=BTCUSDT&recvWindow=60000&timestamp=1700000000000`. -/
def Signer.sample : Signer where
  apiSecret := "secret"
  hmac := fun _ _ => [
    0x1f, 0xc8, 0x75, 0x99, 0x9d, 0x61, 0x0a, 0x7c,
    0xa3, 0xed, 0x34, 0x55, 0x3b, 0xd7, 0x8f, 0xf1,
    0xd4, 0x48, 0x9b, 0x01, 0x9a, 0xc4, 0xec, 0x64,
    0xd7, 0x72, 0xd0, 0x4c, 0x1a, 0x33, 0x5a, 0x3d]
  stringToHex := lowerHex

/-- `addTimestampToTargetPath` at the time `timestamp`.  Without a question mark the
whole target is taken for parameters. -/
def Signer.addTimestampToTargetPath (signer : Signer) (timestamp : Int)
    (target : String) : String :=
  let cut := if '?' ∈ target.toList then target.toList.idxOf '?' + 1 else 0
  let parameters := String.ofList (target.toList.drop cut)
  let path := String.ofList (target.toList.take cut)
  let parameters := parameters ++ "&recvWindow=" ++ Nat.repr 60000
  let parameters := parameters ++ "&timestamp=" ++ timestamp.repr
  let signature := signer.stringToHex (signer.hmac signer.apiSecret parameters)
  path ++ (parameters ++ "&signature=" ++ signature)

/-- A request as it is written. -/
structure RequestLine where
  verb : Verb
  endpoint : String
  body : String
  deriving DecidableEq, Repr

/-- The API prefixes of a session, and what it signs with. -/
structure SigningSession where
  signer : Signer
  publicApi : String
  privateApi : String
  publicApiV2 : String
  privateApiV2 : String

namespace SigningSession

/-- `HTTPSession(apiKey, apiSecret, futures)`. -/
def construct (signer : Signer) (futures : Bool) : SigningSession where
  signer := signer
  publicApi := if futures then "/fapi/v1/" else "/api/v3/"
  privateApi := if futures then "/fapi/v1/" else "/api/v3/"
  publicApiV2 := if futures then "/fapi/v2/" else "/api/v3/"
  privateApiV2 := if futures then "/fapi/v2/" else "/api/v3/"

/-- What the request functions share: only private targets are signed. -/
def endpoint (session : SigningSession) (publicApi privateApi : String)
    (timestamp : Int) (target : String) (isPublic : Bool) : String :=
  let finalTarget :=
    if isPublic then target
    else session.signer.addTimestampToTargetPath timestamp target
  if isPublic then publicApi ++ finalTarget else privateApi ++ finalTarget

def get (session : SigningSession) (timestamp : Int) (target : String)
    (isPublic : Bool) : RequestLine where
  verb := .get
  endpoint :=
    session.endpoint session.publicApi session.privateApi timestamp target isPublic
  body := ""

def getV2 (session : SigningSession) (timestamp : Int) (target : String)
    (isPublic : Bool) : RequestLine where
  verb := .get
  endpoint :=
    session.endpoint session.publicApiV2 session.privateApiV2 timestamp target isPublic
  body := ""

/-- A public request whose target already carries its full path. -/
def getFutures (target : String) : RequestLine where
  verb := .get
  endpoint := target
  body := ""

def post (session : SigningSession) (timestamp : Int) (target payload : String)
    (isPublic : Bool) : RequestLine where
  verb := .post
  endpoint :=
    session.endpoint session.publicApi session.privateApi timestamp target isPublic
  body := payload

def put (session : SigningSession) (timestamp : Int) (target payload : String)
    (isPublic : Bool) : RequestLine where
  verb := .put
  endpoint :=
    session.endpoint session.publicApi session.privateApi timestamp target isPublic
  body := payload

def del (session : SigningSession) (timestamp : Int) (target : String)
    (isPublic : Bool) : RequestLine where
  verb := .delete
  endpoint :=
    session.endpoint session.publicApi session.privateApi timestamp target isPublic
  body := ""

end SigningSession

/-- How a request of the client is written: behind its API prefix the text of its
target, signed when it is private. -/
def Request.line (signer : Signer) (timestamp : Int) (body : String)
    (request : Request) : RequestLine where
  verb := request.verb
  endpoint := request.api ++
    if request.isPublic then request.target.text
    else signer.addTimestampToTargetPath timestamp request.target.text
  body := body

/-- The requests of a session are written as its request functions write them. -/
theorem line_request (signer : Signer) (wire : Wire) (timestamp : Int) (body : String)
    (target : Target) (isPublic : Bool) :
    let futures := SigningSession.construct signer true
    let spot := SigningSession.construct signer false
    ((HTTPSession.futures wire).request .get target isPublic).line signer timestamp "" =
        futures.get timestamp target.text isPublic ∧
      ((HTTPSession.futures wire).request .post target isPublic).line signer timestamp
          body = futures.post timestamp target.text body isPublic ∧
      ((HTTPSession.spot wire).request .get target isPublic).line signer timestamp "" =
        spot.get timestamp target.text isPublic ∧
      ((HTTPSession.spot wire).request .post target isPublic).line signer timestamp
          body = spot.post timestamp target.text body isPublic := by
  cases isPublic <;> exact ⟨rfl, rfl, rfl, rfl⟩

/-! ## What the exchange verifies -/

/-- A digit of a hexadecimal form. -/
def IsHexDigit (char : Char) : Prop :=
  char ∈ "0123456789abcdefABCDEF".toList

theorem not_isHexDigit_ampersand : ¬IsHexDigit '&' := by
  unfold IsHexDigit
  decide

/-- Split at its first question mark and then at its last signature, the endpoint has
the prefix and the path in front, and a payload of the parameters, the receive window
and the time that the signature is valid for. -/
def Verifies (signer : Signer) (api path parameters : String) (timestamp : Int)
    (endpoint : String) : Prop :=
  ∃ query payload,
    Text.splitFirst '?' endpoint.toList = some ((api ++ path).toList, query) ∧
    Text.splitLast "&signature=".toList query =
      some (payload.toList, (signer.stringToHex
        (signer.hmac signer.apiSecret payload)).toList) ∧
    payload = parameters ++ "&recvWindow=60000&timestamp=" ++ timestamp.repr

theorem lowerHex_isHexDigit (digest : List UInt8) :
    ∀ char ∈ (lowerHex digest).toList, IsHexDigit char := by
  have digit : ∀ n < 16, IsHexDigit (Nat.digitChar n) := by
    unfold IsHexDigit
    decide
  intro char member
  simp only [lowerHex, String.toList_ofList, List.mem_flatMap, List.mem_cons,
    List.not_mem_nil, or_false] at member
  rcases member with ⟨byte, -, rfl | rfl⟩
  · exact digit _ (by have := byte.toNat_lt; omega)
  · exact digit _ (Nat.mod_lt _ (by decide))

namespace Signer

/-- What a target becomes, written out. -/
theorem addTimestampToTargetPath_eq (signer : Signer) (timestamp : Int)
    {path parameters : String} (plain : '?' ∉ path.toList) :
    let payload := parameters ++ "&recvWindow=60000&timestamp=" ++ timestamp.repr
    signer.addTimestampToTargetPath timestamp (path ++ "?" ++ parameters) =
      path ++ "?" ++ (payload ++ "&signature=" ++
        signer.stringToHex (signer.hmac signer.apiSecret payload)) := by
  intro payload
  have chars : (path ++ "?" ++ parameters).toList =
      (path.toList ++ ['?']) ++ parameters.toList := by
    simp [String.toList_append]
  have cut : (path ++ "?" ++ parameters).toList.idxOf '?' + 1 =
      (path.toList ++ ['?']).length := by
    rw [chars, List.append_assoc, List.idxOf_append_of_notMem plain]
    simp
  have marked : '?' ∈ (path ++ "?" ++ parameters).toList := by
    simp [chars]
  have front : String.ofList (path.toList ++ ['?']) = path ++ "?" := by
    rw [String.ofList_append, String.ofList_toList]
  have window : parameters ++ "&recvWindow=" ++ Nat.repr 60000 ++ "&timestamp=" ++
      timestamp.repr = payload := by
    have literal : "&recvWindow=" ++ (Nat.repr 60000 ++ "&timestamp=") =
        "&recvWindow=60000&timestamp=" := by decide
    simp only [payload, ← literal, String.append_assoc]
  simp only [addTimestampToTargetPath, if_pos marked, cut]
  rw [chars, List.drop_left, List.take_left, String.ofList_toList, front, window]

end Signer

/-- A signature behind a text splits off again, whatever the text. -/
theorem splitLast_signature (payload : String) {signature : String}
    (hex : ∀ char ∈ signature.toList, IsHexDigit char) :
    Text.splitLast "&signature=".toList (payload ++ "&signature=" ++ signature).toList =
      some (payload.toList, signature.toList) := by
  have separator : "&signature=".toList = '&' :: "signature=".toList := by decide
  have tailFree : '&' ∉ "signature=".toList := by decide
  have backFree : '&' ∉ signature.toList :=
    fun member => not_isHexDigit_ampersand (hex '&' member)
  rw [String.toList_append, String.toList_append, List.append_assoc, separator]
  exact Text.splitLast_append payload.toList tailFree backFree

namespace SigningSession

/-- What each of the request functions does with a private target. -/
theorem verifies_endpoint (session : SigningSession) (publicApi : String)
    {privateApi : String} (timestamp : Int) {path : String} (parameters : String)
    (apiPlain : '?' ∉ privateApi.toList) (plain : '?' ∉ path.toList)
    (hex : ∀ digest, ∀ char ∈ (session.signer.stringToHex digest).toList,
      IsHexDigit char) :
    Verifies session.signer privateApi path parameters timestamp
      (session.endpoint publicApi privateApi timestamp (path ++ "?" ++ parameters)
        false) := by
  let payload := parameters ++ "&recvWindow=60000&timestamp=" ++ timestamp.repr
  let signature := session.signer.stringToHex
    (session.signer.hmac session.signer.apiSecret payload)
  have written : (session.endpoint publicApi privateApi timestamp
      (path ++ "?" ++ parameters) false).toList =
      (privateApi ++ path).toList ++
        '?' :: (payload ++ "&signature=" ++ signature).toList := by
    simp only [endpoint, Bool.false_eq_true, if_false,
      session.signer.addTimestampToTargetPath_eq timestamp plain]
    simp [String.toList_append, payload, signature]
  have unmarked : '?' ∉ (privateApi ++ path).toList := by
    simp [String.toList_append, apiPlain, plain]
  refine ⟨(payload ++ "&signature=" ++ signature).toList, payload, ?_, ?_, rfl⟩
  · rw [written]
    exact Text.splitFirst_append _ unmarked
  · exact splitLast_signature payload (hex _)

/-- No API prefix has a question mark. -/
theorem construct_plain (signer : Signer) (futures : Bool) :
    '?' ∉ (construct signer futures).privateApi.toList ∧
      '?' ∉ (construct signer futures).privateApiV2.toList := by
  cases futures <;> simp [construct]

end SigningSession

/-- A text with a question mark, cut at the first one. -/
theorem exists_path_parameters {target : String} (query : '?' ∈ target.toList) :
    ∃ path parameters : String,
      target = path ++ "?" ++ parameters ∧ '?' ∉ path.toList := by
  rcases List.eq_append_cons_of_mem query with ⟨front, back, cut, plain⟩
  refine ⟨String.ofList front, String.ofList back, ?_, by simpa using plain⟩
  rw [← String.toList_inj]
  simp [String.toList_append, cut]

/-- Every private call is signed so that the exchange finds what was signed: behind
the API prefix and the caller's path come the caller's parameters, the receive window
and the time, and the signature of exactly these. -/
theorem signed_requests_verify (signer : Signer) (futures : Bool) (timestamp : Int)
    (target payload : String) (query : '?' ∈ target.toList)
    (hex : ∀ digest, ∀ char ∈ (signer.stringToHex digest).toList, IsHexDigit char) :
    let session := SigningSession.construct signer futures
    ∃ path parameters,
      target = path ++ "?" ++ parameters ∧ '?' ∉ path.toList ∧
      Verifies signer session.privateApi path parameters timestamp
        (session.get timestamp target false).endpoint ∧
      Verifies signer session.privateApiV2 path parameters timestamp
        (session.getV2 timestamp target false).endpoint ∧
      Verifies signer session.privateApi path parameters timestamp
        (session.post timestamp target payload false).endpoint ∧
      Verifies signer session.privateApi path parameters timestamp
        (session.put timestamp target payload false).endpoint ∧
      Verifies signer session.privateApi path parameters timestamp
        (session.del timestamp target false).endpoint := by
  intro session
  rcases exists_path_parameters query with ⟨path, parameters, rfl, plain⟩
  have prefixes := SigningSession.construct_plain signer futures
  have verifies := session.verifies_endpoint session.publicApi timestamp parameters
    prefixes.1 plain hex
  have verifiesV2 := session.verifies_endpoint session.publicApiV2 timestamp parameters
    prefixes.2 plain hex
  exact ⟨path, parameters, rfl, plain, verifies, verifiesV2, verifies, verifies, verifies⟩

theorem signed_requests_verify_sample :
    let session := SigningSession.construct Signer.sample true
    ∃ path parameters,
      "order?symbol=BTCUSDT" = path ++ "?" ++ parameters ∧ '?' ∉ path.toList ∧
      Verifies Signer.sample session.privateApi path parameters 1700000000000
        (session.get 1700000000000 "order?symbol=BTCUSDT" false).endpoint ∧
      Verifies Signer.sample session.privateApiV2 path parameters 1700000000000
        (session.getV2 1700000000000 "order?symbol=BTCUSDT" false).endpoint ∧
      Verifies Signer.sample session.privateApi path parameters 1700000000000
        (session.post 1700000000000 "order?symbol=BTCUSDT" "" false).endpoint ∧
      Verifies Signer.sample session.privateApi path parameters 1700000000000
        (session.put 1700000000000 "order?symbol=BTCUSDT" "" false).endpoint ∧
      Verifies Signer.sample session.privateApi path parameters 1700000000000
        (session.del 1700000000000 "order?symbol=BTCUSDT" false).endpoint :=
  signed_requests_verify Signer.sample true 1700000000000 "order?symbol=BTCUSDT" ""
    (by decide) (lowerHex_isHexDigit ·)

example : ((SigningSession.construct Signer.sample true).getV2 1700000000000
      "order?symbol=BTCUSDT" false).endpoint =
    "/fapi/v2/order?symbol=BTCUSDT&recvWindow=60000&timestamp=1700000000000&signature=" ++
      "1fc875999d610a7ca3ed34553bd78ff1d4489b019ac4ec64d772d04c1a335a3d" := by
  decide +kernel

end BinanceApi
