import BinanceApi.Models.Market

/-!
# HTTP session

A session turns a target into a request of the exchange's API and hands it to
the wire.  The wire is the exchange at the other end, as one client sees it: an
answer, or a transport failure, for its `n`-th request.  Answers may depend on
`n`, so nothing is assumed about a server that changes its mind.
-/

namespace BinanceApi

inductive Verb where
  | get | post | put | delete
  deriving DecidableEq, Repr

/-- The part of a request line behind the API prefix: a path up to and
including its question mark, and the parameters in the order they were
appended. -/
structure Target where
  path : String
  params : List (String × String)
  deriving DecidableEq, Repr

namespace Target

/-- Append `&name=value`. -/
def append (target : Target) (name value : String) : Target :=
  { target with params := target.params ++ [(name, value)] }

/-- Append a parameter under a condition on its argument. -/
def appendIf (target : Target) (condition : Bool) (name value : String) : Target :=
  if condition then target.append name value else target

@[simp] theorem append_params (target : Target) (name value : String) :
    (target.append name value).params = target.params ++ [(name, value)] := rfl

@[simp] theorem appendIf_path (target : Target) (condition : Bool)
    (name value : String) :
    (target.appendIf condition name value).path = target.path := by
  cases condition <;> rfl

@[simp] theorem appendIf_params (target : Target) (condition : Bool)
    (name value : String) :
    (target.appendIf condition name value).params =
      target.params ++ if condition then [(name, value)] else [] := by
  cases condition <;> simp [appendIf]

/-- The text of a target. -/
def text (target : Target) : String :=
  target.path ++
    String.intercalate "&" (target.params.map fun param => param.1 ++ "=" ++ param.2)

end Target

/-- A request as the client sends it.  The session signs the target of a private
request on the way out. -/
structure Request where
  verb : Verb
  api : String
  target : Target
  isPublic : Bool
  deriving DecidableEq, Repr

/-- The value a request gives to a parameter. -/
def Request.param? (request : Request) (name : String) : Option String :=
  request.target.params.lookup name

/-- An answer: its status, and its body as the JSON parser takes it. -/
structure Response where
  status : Nat
  json : Throws Json

/-- The exchange behind one session. -/
abbrev Wire := Nat → Request → Throws Response

/-- The API prefixes of a session, and the exchange behind it. -/
structure HTTPSession where
  publicApi : String
  privateApi : String
  wire : Wire

namespace HTTPSession

/-- `HTTPSession(apiKey, apiSecret, true)`. -/
def futures (wire : Wire) : HTTPSession where
  publicApi := "/fapi/v1/"
  privateApi := "/fapi/v1/"
  wire := wire

/-- `HTTPSession(apiKey, apiSecret, false)`. -/
def spot (wire : Wire) : HTTPSession where
  publicApi := "/api/v3/"
  privateApi := "/api/v3/"
  wire := wire

/-- A request of the session's API. -/
def request (session : HTTPSession) (verb : Verb) (target : Target) (isPublic : Bool) :
    Request where
  verb := verb
  api := if isPublic then session.publicApi else session.privateApi
  target := target
  isPublic := isPublic

def get (session : HTTPSession) (n : Nat) (target : Target) (isPublic : Bool) :
    Throws Response :=
  session.wire n (session.request .get target isPublic)

/-- A public request whose target already carries its full path. -/
def getFutures (session : HTTPSession) (n : Nat) (target : Target) :
    Throws Response :=
  session.wire n { verb := .get, api := "", target, isPublic := true }

def post (session : HTTPSession) (n : Nat) (target : Target) (isPublic : Bool) :
    Throws Response :=
  session.wire n (session.request .post target isPublic)

end HTTPSession

/-- Status of a successful answer. -/
def httpOk : Nat := 200

/-- Let a successful answer through; turn any other into an exception that
carries the exchange's error. -/
def checkResponse (externals : Externals) (response : Response) :
    Throws Response := do
  if response.status ≠ httpOk then
    let error ← ErrorResponse.fromJson externals (← response.json)
    throw (.standard ("Bad HTTP response: " ++ Nat.repr response.status ++
      ", API Code: " ++ Int.repr error.code ++ ", message: " ++ error.msg))
  else
    return response

@[simp] theorem checkResponse_ok (externals : Externals) (json : Throws Json) :
    checkResponse externals ⟨httpOk, json⟩ = .ok ⟨httpOk, json⟩ := by
  simp [checkResponse, pure, Except.pure]

/-- An answer that passes the check is a successful one, unchanged. -/
theorem checkResponse_eq_ok {externals : Externals} {response checked : Response}
    (passed : checkResponse externals response = .ok checked) :
    checked = response ∧ response.status = httpOk := by
  simp only [checkResponse] at passed
  split at passed
  · rcases exists_of_bind_ok passed with ⟨json, -, rest⟩
    rcases exists_of_bind_ok rest with ⟨error, -, thrown⟩
    cases thrown
  next good =>
    cases passed
    exact ⟨rfl, not_not.mp good⟩

/-! ## Page requests -/

namespace RESTClient

/-- What is sent of a time or a limit: nothing if it is unset. -/
def sent (value : Int) : Option Int :=
  if value = -1 then none else some value

theorem sent_of_ne {value : Int} (isSet : value ≠ -1) : sent value = some value :=
  if_neg isSet

/-- Ask for the page from `fromTime` on, unless the range is exhausted.  The
count of requests grows with every page asked for. -/
def fetch {ε α : Type} (page : Nat → Int → Except ε (List α)) (requests : Nat)
    (fromTime endTime : Int) : Except ε (List α × Nat) :=
  if fromTime < endTime then do
    return (← page requests fromTime, requests + 1)
  else
    return ([], requests)

theorem fetch_of_lt {ε α : Type} {page : Nat → Int → Except ε (List α)}
    {requests : Nat} {fromTime endTime : Int} {records : List α}
    (before : fromTime < endTime) (answer : page requests fromTime = .ok records) :
    fetch page requests fromTime endTime = .ok (records, requests + 1) := by
  simp [fetch, before, answer, bind, Except.bind, pure, Except.pure]

theorem fetch_of_ge {ε α : Type} {page : Nat → Int → Except ε (List α)}
    {requests : Nat} {fromTime endTime : Int} (after : endTime ≤ fromTime) :
    fetch page requests fromTime endTime = .ok ([], requests) := by
  simp [fetch, not_lt.mpr after, pure, Except.pure]

end RESTClient

end BinanceApi
