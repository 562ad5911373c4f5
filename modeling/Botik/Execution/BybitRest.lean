import Botik.Execution.Executor
import Botik.Library.Decimal
import Botik.Library.Program

/-!
# Requests to the exchange

`BybitRestClient._request`: send a request, and send it again after a transport error of a `GET` or,
once the clock is synchronized, after an answer that complains about the time. The second sending
goes through the same function with its flags lowered, but the one after a synchronization raises
the transport flag again.

`_normalize_order_qty` fits a quantity to the lot filters of a symbol: at least the minimum
quantity, a multiple of the step, and worth the minimum amount. Quantities are texts, and the answer
is a text again.

## Main definitions

* `Outcomes` — what the network does to the sendings and synchronizations of a call
* `RequestEvent` — what a call did
* `request` — `_request`
* `LotFilters`, `LotFilters.ofFields` — the filters of a symbol, as the exchange answers them
* `fmtDecimal` — `_fmt_decimal`
* `normalizeOrderQty` — `_normalize_order_qty`
* `sendOrder` — `place_order`
-/

namespace Botik

/-! ### Requests -/

/-- What the network does to a call, by the number of the sending or synchronization: an answer, or
the class of the exception. -/
structure Outcomes where
  send : ℕ → Except String ApiReply
  sync : ℕ → Except String Unit

/-- What a call did. -/
inductive RequestEvent
  | sent (method : String) (outcome : Except String ApiReply)
  | synced (outcome : Except String Unit)

namespace RequestEvent

/-- The outcome of a sending. -/
def sending? : RequestEvent → Option (Except String ApiReply)
  | .sent _ outcome => some outcome
  | .synced _ => none

/-- The outcome of a synchronization. -/
def sync? : RequestEvent → Option (Except String Unit)
  | .sent _ _ => none
  | .synced outcome => some outcome

end RequestEvent

/-- Code that talks to the exchange: it may raise, and what it did stays done. -/
abbrev RequestM := EStateM String (List RequestEvent)

/-- The outcomes of the sendings among some events. -/
def sendings (events : List RequestEvent) : List (Except String ApiReply) :=
  events.filterMap RequestEvent.sending?

variable (o : Outcomes)

/-- `_send`. -/
def send (method : String) : RequestM ApiReply := fun events =>
  let outcome := o.send (sendings events).length
  match outcome with
  | .ok out => .ok out (events ++ [.sent method outcome])
  | .error exc => .error exc (events ++ [.sent method outcome])

/-- `sync_server_time`. -/
def syncServerTime : RequestM Unit := fun events =>
  let outcome := o.sync (events.filterMap RequestEvent.sync?).length
  match outcome with
  | .ok () => .ok () (events ++ [.synced outcome])
  | .error exc => .error exc (events ++ [.synced outcome])

/-- The answer that stands for a transport error. -/
def transportError (exc : String) : ApiReply := ⟨some (-1), some ("transport_error:" ++ exc)⟩

/-- `_request`. -/
def request (method : String) (retryOnTimeSkew retryOnTransport : Bool) : RequestM ApiReply :=
  fun events =>
    match send o method events with
    | .error exc events =>
      if Text.upper method = "GET" ∧ retryOnTransport then
        request method retryOnTimeSkew false events
      else .ok (transportError exc) events
    | .ok out events =>
      if out.retCode = some 0 then .ok out events
      else if out.retCode = some 10002 ∧ retryOnTimeSkew then
        match syncServerTime o events with
        | .error _ events => .ok out events
        | .ok () events => request method false true events
      else .ok out events
termination_by (retryOnTimeSkew.toNat, retryOnTransport.toNat)
decreasing_by
  all_goals simp_all [Prod.lex_def]

/-! ### Filters -/

/-- The fields of `lotSizeFilter`; one that is missing or null is `none`. -/
structure LotFields where
  qtyStep : Option String
  basePrecision : Option String
  minOrderQty : Option String
  minOrderAmt : Option String
  minNotionalValue : Option String

/-- The filters of a symbol. -/
structure LotFilters where
  qtyStep : Decimal
  minQty : Decimal
  minAmt : Decimal
  step_pos : 0 < qtyStep.value
  min_pos : 0 < minQty.value
  amt_nonneg : 0 ≤ minAmt.value

/-- A positive number, or else this one. -/
def positiveOr (d fallback : Decimal) : Decimal := if d.value ≤ 0 then fallback else d

/-- `0.000001`. -/
def defaultStep : Decimal := ⟨1, -6⟩

theorem defaultStep_pos : 0 < defaultStep.value := Decimal.value_pos_iff.mpr Int.one_pos

theorem positiveOr_pos {d fallback : Decimal} (h : 0 < fallback.value) :
    0 < (positiveOr d fallback).value := by
  unfold positiveOr
  split_ifs with hd
  · exact h
  · exact not_le.mp hd

/-- An amount that is not negative. -/
def nonnegAmount (d : Decimal) : Decimal := if d.value < 0 then ⟨0, 0⟩ else d

theorem nonnegAmount_nonneg (d : Decimal) : 0 ≤ (nonnegAmount d).value := by
  unfold nonnegAmount
  split_ifs with hd
  · simp [Decimal.value]
  · exact not_lt.mp hd

/-- `_get_lot_filters`, from the fields of an answer. -/
def LotFilters.ofFields (lot : LotFields) : Option LotFilters := do
  let qtyStep ← Decimal.ofText?
    ((Text.firstTruthy lot.qtyStep lot.basePrecision).getD "0.000001")
  let minQty ← ((Text.truthy lot.minOrderQty).map Decimal.ofText?).getD (some qtyStep)
  let minAmt ← Decimal.ofText? ((Text.firstTruthy lot.minOrderAmt lot.minNotionalValue).getD "0")
  return {
    qtyStep := positiveOr qtyStep defaultStep
    minQty := positiveOr minQty (positiveOr qtyStep defaultStep)
    minAmt := nonnegAmount minAmt
    step_pos := positiveOr_pos defaultStep_pos
    min_pos := positiveOr_pos (positiveOr_pos defaultStep_pos)
    amt_nonneg := nonnegAmount_nonneg minAmt }

/-! ### Texts -/

/-- `_fmt_decimal`: the zeros at the end are stripped, then the point. -/
def fmtDecimal (value : Decimal) : String :=
  let s := (value.formatF.rdropWhile (· = '0')).rdropWhile (· = '.')
  if s = [] then "0" else String.ofList s

/-! ### Quantities -/

variable (strict : Bool) (f : LotFilters)

/-- `_quantize_down`, for the steps of filters. -/
def quantizeDown (value : ℚ) (exponent : ℤ) : Decimal :=
  Decimal.quantize Decimal.roundDown value exponent f.qtyStep

/-- `_quantize_up`, likewise. -/
def quantizeUp (value : ℚ) (exponent : ℤ) : Decimal :=
  Decimal.quantize Decimal.roundUp value exponent f.qtyStep

/-- At least the minimum quantity; a strict quantity is not raised. -/
def raiseToMin (qty : Decimal) : Option Decimal :=
  if qty.value < f.minQty.value then (if strict then none else some f.minQty) else some qty

/-- A multiple of the step that is at least the minimum quantity. -/
def fitStep (qty : Decimal) : Option Decimal :=
  let down := quantizeDown f qty.value qty.exponent
  if down.value < f.minQty.value then
    if strict then none else some (quantizeUp f f.minQty.value f.minQty.exponent)
  else some down

/-- A quantity worth the minimum amount. -/
def fitAmount (price qty : Decimal) : Option Decimal :=
  if 0 < f.minAmt.value ∧ 0 < price.value ∧ qty.value * price.value < f.minAmt.value then
    if strict then none
    else some (quantizeUp f (f.minAmt.value / price.value)
      (Decimal.quotientExponent (f.minAmt.value / price.value)
        (f.minAmt.exponent - price.exponent)))
  else some qty

/-- The quantity that fits the filters. -/
def fitLot (price qty : Decimal) : Option Decimal := do
  let qty ← raiseToMin strict f qty
  let qty ← fitStep strict f qty
  fitAmount strict f price qty

/-- A sale on the spot market is never raised above what is asked for. -/
def spotSellFloorStrict (category : MarketCategory) (side : String) : Bool :=
  category = .spot ∧ Text.strip (Text.upper side) = "SELL"

/-- The notional grew more than threefold. -/
def IsInflated (price requested fitted : Decimal) : Prop :=
  0 < price.value ∧ 0 < requested.value * price.value ∧
    3 < fitted.value * price.value / (requested.value * price.value)

instance (price requested fitted : Decimal) : Decidable (IsInflated price requested fitted) :=
  inferInstanceAs (Decidable (_ ∧ _))

/-- `_normalize_order_qty`, with the filters of the symbol. -/
def normalizeOrderQty (category : MarketCategory) (filters : Option LotFilters)
    (side qty price : String) : Option String := do
  let qtyDec ← Decimal.ofText? qty
  let priceDec ← Decimal.ofText? price
  if qtyDec.value ≤ 0 then none
  else
    match filters with
    | none => some (fmtDecimal qtyDec)
    | some f => do
      let fitted ← fitLot (spotSellFloorStrict category side) f priceDec qtyDec
      if fitted.value ≤ 0 then none
      else if IsInflated priceDec qtyDec fitted then none
      else some (fmtDecimal fitted)

/-- `place_order`, with the filters of the symbol: an order without a quantity is not sent. -/
def sendOrder (o : Outcomes) (category : MarketCategory) (filters : Option LotFilters)
    (side qty price : String) : RequestM ApiReply :=
  match normalizeOrderQty category filters side qty price with
  | none => pure ⟨some (-2), some "invalid_qty_after_normalization"⟩
  | some _ => request o "POST" true true

end Botik
