import BinanceApi.Rest.CallRuns

/-!
# Variables without a value

Three calls declare a variable, let a reader fill it and return it.  The reader fills it
only if the answer has the member, so what the caller gets may be what the memory held.
-/

namespace BinanceApi.Futures

open BinanceApi.Futures.RESTClient (decoded)

/-- A reader that leaves its output alone if there is no such member, and otherwise does
not look at it. -/
structure FillsMembers {β : Type} (read : Json → String → β → Throws β) : Prop where
  absent : ∀ json key previous, json.find? key = none → read json key previous = .ok previous
  present : ∀ json key first second, json.find? key ≠ none →
    read json key first = read json key second

theorem fillsMembers_readMember {β : Type} (convert : Json → Throws β) :
    FillsMembers (Externals.readMember convert) where
  absent := by
    intro json key previous absent
    simp [Externals.readMember, absent]
  present := by
    intro json key first second present
    rcases Option.ne_none_iff_exists'.mp present with ⟨value, found⟩
    simp [Externals.readMember, found]

/-! ## One answer -/

/-- Two calls in one place, with other contents of their variables, end alike. -/
def Alike {α β : Type} (outcome : α → β) : Prop :=
  ∀ first second, outcome first = outcome second

theorem alike_const {α β : Type} (value : β) : Alike fun _ : α => value := by
  intro first second
  rfl

section Decoding

variable {α : Type} {externals : Externals}

theorem checkResponse_of_ok {response : Response} (good : response.status = httpOk) :
    checkResponse externals response = .ok response := by
  cases response with
  | mk status json =>
      cases good
      exact checkResponse_ok externals json

/-- Only a good answer is looked into. -/
theorem alike_decoded_iff {decode : Uninitialised → Json → Evaluates α}
    {answer : Throws Response} :
    Alike (fun uninitialised => answer.lift >>= decoded externals (decode uninitialised)) ↔
      ∀ response json, answer = .ok response → response.status = httpOk →
        response.json = .ok json → Alike fun uninitialised => decode uninitialised json := by
  constructor
  · intro alike response json answered good parsed first second
    have same := alike first second
    simp only [answered, Throws.lift_ok, ok_bind, decoded, checkResponse_of_ok good,
      parsed] at same
    exact same
  · intro alike first second
    cases answer with
    | error exception => rfl
    | ok response =>
        simp only [Throws.lift_ok, ok_bind, decoded]
        cases checked : checkResponse externals response with
        | error exception => rfl
        | ok passed =>
            rcases checkResponse_eq_ok checked with ⟨rfl, good⟩
            simp only [Throws.lift_ok, ok_bind]
            cases parsed : passed.json with
            | error exception => rfl
            | ok json => exact alike passed json rfl good parsed first second

end Decoding

section Members

variable {externals : Externals} {json : Json}

theorem alike_read_iff {β : Type} {read : Json → String → β → Throws β}
    (fills : FillsMembers read) {key : String} {field : Uninitialised → β}
    (varies : ¬Alike field) :
    Alike (fun uninitialised => read json key (field uninitialised)) ↔
      json.find? key ≠ none := by
  constructor
  · intro alike absent
    apply varies
    intro first second
    simpa only [fills.absent json key _ absent, Except.ok.injEq] using alike first second
  · intro present first second
    exact fills.present json key _ _ present

theorem lift_injective {β : Type} : Function.Injective (@Throws.lift β) := by
  intro first second same
  cases first <;> cases second <;> simp_all

theorem alike_lift_iff {α β : Type} {result : α → Throws β} :
    Alike (fun value => (result value).lift) ↔ Alike result := by
  constructor
  · intro alike first second
    exact lift_injective (alike first second)
  · intro alike first second
    exact congrArg Throws.lift (alike first second)

theorem alike_map_iff {α β γ : Type} {result : α → Throws β} {convert : β → γ}
    (injective : Function.Injective convert) :
    Alike (fun value => (result value).lift >>= fun read =>
        (pure (convert read) : Evaluates γ)) ↔
      Alike result := by
  have same : ∀ first second : Throws β,
      (first.lift >>= fun read => (pure (convert read) : Evaluates γ)) =
          (second.lift >>= fun read => pure (convert read)) ↔ first = second := by
    intro first second
    cases first <;> cases second <;>
      simp [bind, Except.bind, pure, Except.pure, injective.eq_iff]
  exact forall₂_congr fun first second => same _ _

theorem lift_bind {α β : Type} (computation : Throws α) (next : α → Throws β) :
    (computation >>= next).lift = computation.lift >>= fun value => (next value).lift := by
  cases computation <;> rfl

/-- A member that is returned together with what is read after it: if that throws, the
variable does not matter. -/
theorem alike_read_pair_iff {β γ : Type} {read : Json → String → β → Throws β}
    (fills : FillsMembers read) (json : Json) (key : String) {field : Uninitialised → β}
    (varies : ¬Alike field) (rest : Throws γ) :
    Alike (fun uninitialised => (read json key (field uninitialised)).lift >>= fun value =>
        rest.lift >>= fun other => (pure (value, other) : Evaluates (β × γ))) ↔
      ¬(json.find? key = none ∧ rest.isOk = true) := by
  by_cases absent : json.find? key = none
  · simp only [fills.absent json key _ absent, Throws.lift_ok, ok_bind, absent, true_and]
    cases rest with
    | error exception => exact iff_of_true (alike_const _) (by simp [Except.isOk, Except.toBool])
    | ok other =>
        refine iff_of_false ?_ (by simp [Except.isOk, Except.toBool])
        intro alike
        apply varies
        intro first second
        have same := alike first second
        simp only [Throws.lift_ok, ok_bind, pure, Except.pure, Except.ok.injEq,
          Prod.mk.injEq, and_true] at same
        exact same
  · refine iff_of_true ?_ fun both => absent both.1
    intro first second
    simp only [fills.present json key _ (field second) absent]

end Members

/-! ## One call -/

namespace ApiCall

/-- The calls that return such a variable: what they ask for, and the answers that leave
the variable as it was. -/
def unset? (environment : Environment) : ApiCall → Option (Request × (Json → Prop))
  | getServerTime => some
      (environment.session.request .get ⟨"time?", []⟩ true,
        fun json => json.find? "serverTime" = none)
  | getPositionMode => some
      (environment.session.request .get ⟨"positionSide/dual?", []⟩ false,
        fun json => json.find? "dualSidePosition" = none)
  | changeInitialLeverage symbol leverage => some
      (environment.session.request .post
        ⟨"leverage?", [("symbol", symbol), ("leverage", leverage.repr)]⟩ false,
        fun json => json.find? "leverage" = none ∧
          (environment.externals.readString json "maxNotionalValue" "" >>= stod).isOk = true)
  | _ => none

/-- From this client the call returns a variable that nothing was written to. -/
def ReadsUnset (environment : Environment) (call : ApiCall) (client : ClientState) : Prop :=
  ∃ request unset response json, call.unset? environment = some (request, unset) ∧
    environment.session.wire client.sent.length request = .ok response ∧
    response.status = httpOk ∧ response.json = .ok json ∧ unset json

/-- What the three calls have in common: where the variable matters to the decoder of the
answer, it is not written to. -/
theorem alike_record_of_ask {environment : Environment} {readers : PositionReaders}
    {call : ApiCall} {client : ClientState} {request : Request} {unset : Json → Prop}
    {decode : Uninitialised → Json → Evaluates call.Result}
    (asks : ∀ uninitialised, call.perform environment readers uninitialised =
      RESTClient.ask environment request (decoded environment.externals (decode uninitialised)))
    (described : call.unset? environment = some (request, unset))
    (matters : ∀ json, Alike (fun uninitialised => decode uninitialised json) ↔ ¬unset json) :
    Alike (fun uninitialised => call.record environment readers uninitialised client) ↔
      ¬call.ReadsUnset environment client := by
  have outcomes :
      Alike (fun uninitialised => call.record environment readers uninitialised client) ↔
        Alike fun uninitialised =>
          (environment.session.wire client.sent.length request).lift >>=
            decoded environment.externals (decode uninitialised) := by
    simp only [Alike, record, asks, RESTClient.ask_runFrom, Prod.mk.injEq, CallRecord.mk.injEq,
      heq_eq_eq, true_and, and_true]
  rw [outcomes, alike_decoded_iff]
  constructor
  · intro alike readsUnset
    rcases readsUnset with ⟨_, _, response, json, same, answered, good, parsed, left⟩
    rw [described] at same
    cases same
    exact (matters json).mp (alike response json answered good parsed) left
  · intro written response json answered good parsed
    apply (matters json).mpr
    intro left
    exact written ⟨request, unset, response, json, described, answered, good, parsed, left⟩

/-- A call ends alike whatever its variables held, unless it returns one that nothing was
written to. -/
theorem alike_record_iff {environment : Environment} (readers : PositionReaders)
    (fillsInt : FillsMembers environment.externals.readInt)
    (fillsBool : FillsMembers environment.externals.readBool) (call : ApiCall)
    (client : ClientState) :
    Alike (fun uninitialised => call.record environment readers uninitialised client) ↔
      ¬call.ReadsUnset environment client := by
  cases call with
  | getServerTime =>
      apply alike_record_of_ask (fun _ => rfl) rfl
      intro json
      refine alike_lift_iff.trans (alike_read_iff fillsInt ?_)
      intro alike
      exact absurd (alike ⟨0, false, 0⟩ ⟨1, false, 0⟩) (by decide)
  | getPositionMode =>
      apply alike_record_of_ask (fun _ => rfl) rfl
      intro json
      have injective : Function.Injective fun isDualMode : Bool =>
          if isDualMode then PositionMode.Hedge else PositionMode.OneWay := by
        decide
      refine (alike_map_iff injective).trans (alike_read_iff fillsBool ?_)
      intro alike
      exact absurd (alike ⟨0, false, 0⟩ ⟨0, true, 0⟩) (by decide)
  | changeInitialLeverage symbol leverage =>
      apply alike_record_of_ask (fun _ => rfl) rfl
      intro json
      have varies : ¬Alike Uninitialised.targetLeverage := by
        intro alike
        exact absurd (alike ⟨0, false, 0⟩ ⟨0, false, 1⟩) (by decide)
      have pair := alike_read_pair_iff fillsInt json "leverage" varies
        (environment.externals.readString json "maxNotionalValue" "" >>= stod)
      simp only [lift_bind, bind_assoc] at pair
      exact pair
  | _ =>
      refine iff_of_true (alike_const _) ?_
      rintro ⟨request, unset, response, json, described, -⟩
      cases described

theorem record_state_of_ask {environment : Environment} {readers : PositionReaders}
    {call : ApiCall} {uninitialised : Uninitialised} {client : ClientState}
    {request : Request} {read : Response → Evaluates call.Result}
    (asks : call.perform environment readers uninitialised =
      RESTClient.ask environment request read) :
    (call.record environment readers uninitialised client).2 =
      { client with sent := client.sent ++ [request] } := by
  simp only [record, asks, RESTClient.ask_runFrom]

/-- What the client is left with never depends on such a variable. -/
theorem alike_record_state {environment : Environment} {readers : PositionReaders}
    (call : ApiCall) (client : ClientState) :
    Alike fun uninitialised =>
      (call.record environment readers uninitialised client).2 := by
  cases call with
  | getServerTime | getPositionMode | changeInitialLeverage =>
      intro first second
      exact (record_state_of_ask rfl).trans (record_state_of_ask rfl).symm
  | _ => exact alike_const _

end ApiCall

/-! ## Runs -/

/-- A run of calls goes the same way and every call ends the same way, whatever the
uninitialised variables hold, exactly if no call returns one that the answer to it left as
it was. -/
theorem uninitialised_reads_iff (environment : Environment) (readers : PositionReaders)
    (fillsInt : FillsMembers environment.externals.readInt)
    (fillsBool : FillsMembers environment.externals.readBool)
    (calls : List (ApiCall × Uninitialised)) (before : ClientState) :
    (∀ others, others.map Prod.fst = calls.map Prod.fst →
        ApiCall.run environment readers others before =
          ApiCall.run environment readers calls before) ↔
      ∀ front call back, calls = front ++ call :: back →
        ¬call.1.ReadsUnset environment
          (ApiCall.run environment readers front before).2 := by
  induction calls generalizing before with
  | nil =>
      refine iff_of_true ?_ (by simp)
      intro others same
      rw [List.map_eq_nil_iff.mp same]
  | cons first calls ih =>
      rcases first with ⟨call, uninitialised⟩
      have alikeIff := ApiCall.alike_record_iff readers fillsInt fillsBool call before
      constructor
      · intro alike front other back split
        cases front with
        | nil =>
            rcases List.cons.inj split with ⟨rfl, -⟩
            apply alikeIff.mp
            intro firstly secondly
            have same := (alike ((call, firstly) :: calls) rfl).trans
              (alike ((call, secondly) :: calls) rfl).symm
            simp only [ApiCall.run_cons, Prod.mk.injEq, List.cons.injEq] at same
            exact Prod.ext same.1.1
              (ApiCall.alike_record_state call before firstly secondly)
        | cons same front =>
            rcases List.cons.inj split with ⟨rfl, rest⟩
            apply (ih _).mp _ front other back rest
            intro others same
            have ends := alike ((call, uninitialised) :: others)
              (congrArg (List.cons call) same)
            simp only [ApiCall.run_cons, Prod.mk.injEq, List.cons.injEq, true_and] at ends
            exact Prod.ext ends.1 ends.2
      · intro written others same
        cases others with
        | nil => cases same
        | cons other others =>
            rcases other with ⟨otherCall, otherwise⟩
            rcases List.cons.inj same with ⟨sameCall, sameRest⟩
            change otherCall = call at sameCall
            subst sameCall
            have head := alikeIff.mpr (written [] _ calls rfl) otherwise uninitialised
            have tail := (ih (otherCall.record environment readers uninitialised before).2).mpr
              (fun front other back split => written (_ :: front) other back
                (congrArg (List.cons _) split)) others sameRest
            simp only at head
            rw [ApiCall.run_cons, ApiCall.run_cons, head, tail]

/-- An exchange that answers every request with its time. -/
def timeEnvironment : Environment where
  externals := .plain
  session := .futures fun _ _ => .ok ⟨httpOk, .ok (.object [("serverTime", .integer 1)])⟩
  clock := fun _ => 0

/-- The time is read, but the mode of the positions is whatever the memory held. -/
theorem uninitialised_reads_sample :
    ¬∀ others, others.map Prod.fst = [.getServerTime, .getPositionMode] →
      ApiCall.run timeEnvironment .plain others RESTClient.constructed =
        ApiCall.run timeEnvironment .plain
          [(.getServerTime, ⟨0, false, 0⟩), (.getPositionMode, ⟨0, false, 0⟩)]
          RESTClient.constructed := by
  intro alike
  refine (uninitialised_reads_iff timeEnvironment .plain (fillsMembers_readMember _)
    (fillsMembers_readMember _)
    [(.getServerTime, ⟨0, false, 0⟩), (.getPositionMode, ⟨0, false, 0⟩)]
    RESTClient.constructed).mp alike [(.getServerTime, ⟨0, false, 0⟩)]
    (.getPositionMode, ⟨0, false, 0⟩) [] rfl ?_
  exact ⟨_, _, _, _, rfl, rfl, rfl, rfl, rfl⟩

end BinanceApi.Futures
