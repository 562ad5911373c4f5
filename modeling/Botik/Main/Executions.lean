import Botik.Main.World

/-!
# Reading an execution item

How `refresh_positions_from_executions` and `recover_positions_on_startup` read
one item of the execution list: its id, side, quantity and price, the fee, and
the quantity by which it moves the position. Its texts are ASCII, and none of its
numbers is written `inf` or `nan`.

## Main definitions

* `splitSymbolBaseQuote`, `feeToQuote`
* `ExecutionItem.executionId`
* `effectiveQty` — the quantity net of a fee taken in the base asset
* `readHead`, `readFill` — the two halves of the reading, around the first
  database access; `none` is an item that is skipped
-/

namespace Botik

/-- `_KNOWN_QUOTE_SUFFIXES`. -/
def knownQuoteSuffixes : List String :=
  ["USDT", "USDC", "BTC", "ETH", "EUR", "TRY", "BRL", "RUB"]

/-- `_split_symbol_base_quote`: the first known quote suffix that leaves a
base. -/
def splitSymbolBaseQuote (symbol : String) : String × String :=
  let s := (Text.strip (Text.upper symbol)).toList
  match knownQuoteSuffixes.find? fun quote =>
      quote.toList.isSuffixOf s && quote.length < s.length with
  | some quote => (String.ofList (s.take (s.length - quote.length)), quote)
  | none => (String.ofList s, "")

/-- `_fee_to_quote`. -/
def feeToQuote (symbol : String) (fee : ℚ) (feeCurrency : String) (execPrice : ℚ) : ℚ :=
  let feeAbs := max fee 0
  let feeCcy := Text.strip (Text.upper feeCurrency)
  let (baseCcy, quoteCcy) := splitSymbolBaseQuote symbol
  if feeAbs ≤ 0 then 0
  else if feeCcy = "" then feeAbs
  else if quoteCcy ≠ "" ∧ feeCcy = quoteCcy then feeAbs
  else if baseCcy ≠ "" ∧ feeCcy = baseCcy ∧ 0 < execPrice then feeAbs * execPrice
  else feeAbs

/-- A missing value as an f-string prints it. -/
def pyText (field : Option String) : String := field.getD "None"

/-- The id of an execution: the exchange's, or one made of four other fields. -/
def ExecutionItem.executionId (item : ExecutionItem) : String :=
  (Text.truthy item.execId).getD
    (pyText item.orderId ++ ":" ++ pyText item.execTime ++ ":" ++ pyText item.execQty ++ ":" ++
      pyText item.symbol)

/-- `float(field or 0.0)`. -/
def floatField (name : String) (field : Option String) : Except Exn ℚ :=
  match Text.truthy field with
  | none => .ok 0
  | some text =>
    match Text.float? text with
    | some q => .ok q
    | none => .error (.value name)

/-- `int(field or 0)`. -/
def intField (name : String) (field : Option String) : Except Exn ℤ :=
  match Text.truthy field with
  | none => .ok 0
  | some text =>
    match Text.int? text with
    | some n => .ok n
    | none => .error (.value name)

/-- `float(field) if field else None`. -/
def optionalFloatField (name : String) (field : Option String) : Except Exn (Option ℚ) :=
  match Text.truthy field with
  | none => .ok none
  | some text =>
    match Text.float? text with
    | some q => .ok (some q)
    | none => .error (.value name)

/-- A fee in the base asset comes off what a buy brings in and on top of what a
sell takes out. -/
def effectiveQty (symbol : String) (side : Side) (qty fee : ℚ) (feeCurrency : String) : ℚ :=
  let baseCcy := (splitSymbolBaseQuote (Text.upper symbol)).1
  if baseCcy ≠ "" ∧ feeCurrency = baseCcy then
    match side with
    | .buy => max (qty - fee) 0
    | .sell => qty + max fee 0
  else qty

/-- What the first check lets through. -/
structure ExecutionHead where
  side : Side
  qty : ℚ
  price : ℚ
  qty_pos : 0 < qty
  deriving DecidableEq

/-- Side, quantity and price of an item; items without a quantity or a known side
are skipped. -/
def readHead (item : ExecutionItem) : Except Exn (Option ExecutionHead) := do
  let qty ← floatField "execQty" (Text.firstTruthy item.execQty item.qty)
  let price ← floatField "execPrice" (Text.firstTruthy item.execPrice item.price)
  if h : 0 < qty then
    return (Side.ofText? (Text.orEmpty item.side)).map fun side => ⟨side, qty, price, h⟩
  else return none

/-- One fill, as it is applied and recorded. -/
structure Fill extends ExecutionHead where
  execFee : ℚ
  feeCurrency : String
  execTimeMs : ℤ
  effectiveQty : ℚ
  effectiveQty_pos : 0 < effectiveQty
  deriving DecidableEq

/-- The change of the position by a fill. -/
def Fill.signedQty (fill : Fill) : ℚ := fill.side.signed fill.effectiveQty

/-- Fee and time of an item, the time taken from the clock where it is missing;
items whose effective quantity is not positive are skipped. -/
def readFill (symbol : String) (wallMs : ℤ) (item : ExecutionItem) (head : ExecutionHead) :
    Except Exn (Option Fill) := do
  let execFee ← floatField "execFee" item.execFee
  let feeCurrency := Text.upper (Text.orEmpty item.feeCurrency)
  let execTime ← intField "execTime" item.execTime
  let qty := effectiveQty symbol head.side head.qty execFee feeCurrency
  if h : 0 < qty then
    return some
      { head with
        execFee := execFee
        feeCurrency := feeCurrency
        execTimeMs := if execTime = 0 then wallMs else execTime
        effectiveQty := qty
        effectiveQty_pos := h }
  else return none

/-- An execution always has an id. -/
theorem ExecutionItem.executionId_ne_empty (item : ExecutionItem) : item.executionId ≠ "" := by
  unfold executionId
  cases h : Text.truthy item.execId with
  | none =>
    rw [Option.getD_none]
    intro hempty
    have hlength := congrArg String.length hempty
    simp only [String.length_append] at hlength
    have hcolon : ":".length = 1 := rfl
    have hzero : "".length = 0 := rfl
    omega
  | some execId =>
    rw [Option.getD_some]
    exact of_decide_eq_true (Option.mem_filter_iff.mp h).2

/-- A successful sequence of readings succeeded in both parts. -/
theorem ok_of_bind_ok {α β : Type} {r : Except Exn α} {g : α → Except Exn β} {b : β}
    (h : (r >>= g) = .ok b) : ∃ a, r = .ok a ∧ g a = .ok b := by
  cases r with
  | ok a => exact ⟨a, rfl, h⟩
  | error e => cases h

/-- The side of a head is the side the item names. -/
theorem ofText?_of_readHead {item : ExecutionItem} {head : ExecutionHead}
    (h : readHead item = .ok (some head)) :
    Side.ofText? (Text.orEmpty item.side) = some head.side := by
  obtain ⟨qty, -, h⟩ := ok_of_bind_ok h
  obtain ⟨price, -, h⟩ := ok_of_bind_ok h
  split at h
  · obtain ⟨side, hside, hhead⟩ := Option.map_eq_some_iff.mp (Except.ok.inj h)
    rw [hside, ← hhead]
  · cases h

/-- A fill keeps the head it was read from, and its quantity is net of the fee. -/
theorem fill_of_readFill {symbol : String} {wallMs : ℤ} {item : ExecutionItem}
    {head : ExecutionHead} {fill : Fill} (h : readFill symbol wallMs item head = .ok (some fill)) :
    fill.toExecutionHead = head ∧ fill.effectiveQty = effectiveQty symbol fill.side fill.qty
      fill.execFee (Text.upper (Text.orEmpty item.feeCurrency)) := by
  obtain ⟨execFee, -, h⟩ := ok_of_bind_ok h
  obtain ⟨execTime, -, h⟩ := ok_of_bind_ok h
  dsimp only at h
  split at h
  · have hfill := Option.some.inj (Except.ok.inj h)
    have hfee : fill.execFee = execFee := by rw [← hfill]
    have hhead : fill.toExecutionHead = head := by rw [← hfill]
    have hqty : fill.effectiveQty = effectiveQty symbol head.side head.qty execFee
        (Text.upper (Text.orEmpty item.feeCurrency)) := by rw [← hfill]
    exact ⟨hhead, by rw [hqty, hfee, hhead]⟩
  · cases h

example : splitSymbolBaseQuote "ethbtc" = ("ETH", "BTC") := by decide +kernel

end Botik
