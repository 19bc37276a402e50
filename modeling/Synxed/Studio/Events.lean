import Synxed.Lib.Json
import Synxed.Sdk.Reconcile

/-!
A studio's billable events as settlement requests (`events.ts`).

`prepareEvent_ok`: what a prepared event is known to be.
-/

namespace Synxed.Studio

open Synxed.Lib Synxed.Program Synxed.Sdk

structure PreparedEvent where
  request : SettlementRequestN
  beneficiaryIds : List (JsString × JsString)

/-- `object[name] = value` on a plain object of strings. Storing a string under
`__proto__` does nothing.

The names stand in the order in which they were added. JavaScript lists those that
look like integers first, in ascending order; no result depends on that order: a
beneficiary is looked up by its label, and when an event is enqueued again its ids are
compared only where the shares are the same, in the same order. -/
def assign (object : List (JsString × JsString)) (name value : JsString) :
    List (JsString × JsString) :=
  if name = js "__proto__" then object
  else if object.any fun own => own.1 = name then
    object.map fun own => if own.1 = name then (name, value) else own
  else object ++ [(name, value)]

/-- `/^[1-9]\d*$/`. -/
def isDecimal (text : JsString) : Bool :=
  match text with
  | [] => false
  | first :: rest => isDigit first && first ≠ 48 && rest.all isDigit

def eventError {α : Type} (eventId : JsString) (message : JsString) : Except Thrown α :=
  .error (.other (js "Error: " ++ eventId ++ js ": " ++ message))

/-- One share of the input, and its stable ledger identity if it has one. -/
def prepareShare (eventId : JsString) (index : Nat) (share : Json) :
    Except Thrown (ShareInput × Option JsString) := do
  ensure share.isRecord
    (.other (js "Error: " ++ eventId ++ js ": share " ++ decimalText index ++
      js " must be an object"))
  match share.get (js "label"), share.get (js "recipient"), share.get (js "bps") with
  | some (.string label), some (.string recipient), some (.number bps) => do
      ensure (publicKey recipient ≠ none)
        (.other (js "Error: " ++ eventId ++ js ": share \"" ++ label ++
          js "\" has an invalid recipient"))
      match share.get (js "beneficiaryId") with
      | none => .ok (⟨label, recipient, bps⟩, none)
      | some (.string beneficiaryId) => do
          ensure (trim beneficiaryId ≠ [])
            (.other (js "Error: " ++ eventId ++ js ": share \"" ++ label ++
              js "\" has an empty beneficiaryId"))
          .ok (⟨label, recipient, bps⟩, some beneficiaryId)
      | some _ => eventError eventId (js "share \"" ++ label ++
          js "\" has an empty beneficiaryId")
  | _, _, _ => eventError eventId (js "share " ++ decimalText index ++
      js " needs a label, a recipient and bps")

/-- The shares in order, and the beneficiaries by label. -/
def prepareShares (eventId : JsString) : Nat → List Json → List (JsString × JsString) →
    Except Thrown (List ShareInput × List (JsString × JsString))
  | _, [], beneficiaryIds => .ok ([], beneficiaryIds)
  | index, share :: rest, beneficiaryIds => do
      let (prepared, beneficiaryId) ← prepareShare eventId index share
      let beneficiaryIds := match beneficiaryId with
        | none => beneficiaryIds
        | some id => assign beneficiaryIds prepared.label id
      let (shares, beneficiaryIds) ← prepareShares eventId (index + 1) rest beneficiaryIds
      .ok (prepared :: shares, beneficiaryIds)

/-- Validate one event and build its request. `isDate` tells the texts that
`Date.parse` reads. -/
def prepareEvent (isDate : JsString → Bool) (event : Json) : Except Thrown PreparedEvent := do
  ensure event.isRecord (.other (js "Error: an event must be an object"))
  match event.get (js "eventId") with
  | some (.string eventId) => do
      ensure (trim eventId = eventId ∧ eventId ≠ [])
        (.other (js "Error: eventId must be a non-empty string without surrounding spaces"))
      match event.get (js "occurredAt") with
      | some (.string occurredAt) => do
          ensure (isDate occurredAt)
            (.other (js "Error: " ++ eventId ++ js ": occurredAt must be an RFC 3339 timestamp"))
          match event.get (js "amountAtomic") with
          | some (.string amountAtomic) => do
              ensure (isDecimal amountAtomic)
                (.other (js "Error: " ++ eventId ++
                  js ": amountAtomic must be a positive decimal string"))
              match event.get (js "memo"), event.get (js "shares") with
              | some (.string memo), some (.array shares) => do
                  let (requestShares, beneficiaryIds) ← prepareShares eventId 0 shares []
                  let request : SettlementRequestN :=
                    { eventId := eventId, occurredAt := occurredAt, kind := .audioAdImpression
                      amountAtomic := digitsValue amountAtomic, asset := .solLamportsStandin
                      shares := requestShares, memo := memo }
                  -- refuses bps that do not sum to 10000, duplicate labels, too many shares
                  let _ ← protocolCall (computeSettlementN request)
                  .ok ⟨request, beneficiaryIds⟩
              | some (.string _), _ => eventError eventId (js "shares must be an array")
              | _, _ => eventError eventId (js "memo must be a string")
          | _ => eventError eventId (js "amountAtomic must be a positive decimal string")
      | _ => eventError eventId (js "occurredAt must be an RFC 3339 timestamp")
  | _ => .error (.other (js "Error: eventId must be a non-empty string without surrounding spaces"))

/-! ### What a prepared event is -/

/-- What `prepareEvent` promises of a request. -/
structure Prepared (request : SettlementRequestN) : Prop where
  named : request.eventId ≠ []
  trimmed : trim request.eventId = request.eventId
  asset : request.asset = .solLamportsStandin
  computed : ∃ result, computeSettlementN request = .ok result

theorem prepareEvent_ok {isDate : JsString → Bool} {event : Json} {prepared : PreparedEvent}
    (h : prepareEvent isDate event = .ok prepared) : Prepared prepared.request := by
  unfold prepareEvent at h
  obtain ⟨_, h⟩ := ensure_bind_eq_ok.mp h
  split at h
  · next eventId _ =>
      obtain ⟨⟨trimmed, named⟩, h⟩ := ensure_bind_eq_ok.mp h
      split at h
      · obtain ⟨_, h⟩ := ensure_bind_eq_ok.mp h
        split at h
        · obtain ⟨_, h⟩ := ensure_bind_eq_ok.mp h
          split at h
          · obtain ⟨⟨shares, beneficiaryIds⟩, _, h⟩ := bind_eq_ok.mp h
            obtain ⟨result, computed, h⟩ := bind_eq_ok.mp h
            cases h
            exact ⟨named, trimmed, rfl, result, protocolCall_eq_ok.mp computed⟩
          · cases h
          · cases h
        · cases h
      · cases h
  · cases h

end Synxed.Studio
