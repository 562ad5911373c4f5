import Botik.Execution.ReconciliationRuns
import Botik.Main.Intents
import Botik.Main.Refresh

/-!
# The trading loop

One iteration of `trading_loop`: the scheduled reconciliation, the open orders, the executions and
the wallet, then cancellations, forced exits, exit quotes and the intents of the strategy. An
exception ends the iteration and is logged; an invalid signature ends the loop.

## Main definitions

* `LoopEnv` — what the outside answers during one iteration
* `LoopM` — programs on the state and the local variables of an iteration
* `readOpenOrders`, `forceExits`, `placeExitQuotes`, `processIntent` — the stages
* `iteration`, `runLoop`
-/

namespace Botik

open Program Runs

/-- The answer of `get_open_orders`: its code and its list. -/
structure OpenOrdersReply where
  retCode : Option ℤ
  list : List OpenOrder

/-- An intent with what the outside does around it. -/
structure IntentInput where
  intent : OrderIntent
  env : IntentEnv

/-- What one iteration sees of the outside. -/
structure LoopEnv where
  /-- The scheduled reconciliation, if it is due. -/
  reconciliation : Option ReconRun
  /-- The answer to `cancel_all_orders`, if a panic was requested. -/
  panic : Option Attempt
  paused : Bool
  openOrders : Except String OpenOrdersReply
  fetches : List Fetch
  /-- The answer of `get_wallet_balance`, if it is asked for. -/
  wallet : Option (Except String WalletReply)
  /-- The answers to the cancellations of entry quotes, by link. -/
  cancelAnswer : String → Attempt
  /-- The order in which a set of symbols is iterated. -/
  arrange : List String → List String
  arrange_perm : ∀ symbols, (arrange symbols).Perm symbols
  exits : String → ExitEnv
  quotes : String → QuoteEnv
  /-- What the strategy wants to send; an exception by its text. -/
  intents : Except String (List IntentInput)

/-- The state and the local variables of an iteration. -/
structure LoopState where
  world : World
  vars : LoopVars

/-- The code of an iteration. -/
abbrev LoopM := EStateM Exn LoopState

/-- Runtime code in an iteration. -/
def onWorld {α : Type} (m : RunM α) : LoopM α :=
  zoom LoopState.world (fun w s => { s with world := w }) m

/-- Change the local variables. -/
def modifyVars (f : LoopVars → LoopVars) : LoopM Unit :=
  modify fun s => { s with vars := f s.vars }

/-- Leave the trading loop. -/
def stopLoop (w : World) : World := { w with rt := { w.rt with stopped := true } }

/-! ### The open orders -/

/-- The upper-case symbols of the open orders. -/
def openOrderSymbols (orders : List OpenOrder) : List String :=
  ((orders.map fun order => Text.orEmpty order.symbol).filter (Text.strip · ≠ "")).map Text.upper

namespace LoopVars

/-- Sort an open order by its link: entry quotes are cancelled, exit quotes are kept. -/
def sortOrder (vars : LoopVars) (symbol link : String) (order : OpenOrder) : LoopVars :=
  if Text.startsWith "mm-" link || Text.startsWith "spk-" link then
    { vars with ourOrderLinks := vars.ourOrderLinks ++ [(symbol, link)] }
  else if Text.startsWith "px-" link then
    { vars with openPositionOrders := vars.openPositionOrders ++ [order] }
  else vars

/-- Count one open order; its leverage is left out. -/
def addOpenOrder (vars : LoopVars) (order : OpenOrder) : Except Exn LoopVars := do
  let price ← floatField "price" order.price
  let qty ← floatField "qty" order.qty
  let symbol := Text.orEmpty order.symbol
  return (vars.addExposure symbol (price * qty)).sortOrder symbol (Text.orEmpty order.orderLinkId)
    order

/-- `open_position_orders.get(symbol, [])`. -/
def quotesOf (vars : LoopVars) (symbol : String) : List OpenOrder :=
  vars.openPositionOrders.filter fun order => Text.orEmpty order.symbol = symbol

end LoopVars

/-- One open order. -/
def countOpenOrder (order : OpenOrder) : LoopM Unit := do
  let s ← get
  let vars ← fromExcept (s.vars.addOpenOrder order)
  modifyVars fun _ => vars

/-- Count all open orders. -/
def readOpenOrders (orders : List OpenOrder) : LoopM Unit := each countOpenOrder orders

/-- Cancel the entry quotes of the bot; the tables are left alone. -/
def cancelOurOrders (env : LoopEnv) : LoopM Unit := do
  let s ← get
  onWorld (each (fun link => cancelOrder link.1 link.2 (env.cancelAnswer link.2))
    s.vars.ourOrderLinks)

/-! ### The wallet -/

/-- The coin of a balance, if it is held and no quote coin. -/
def heldCoin? (balance : CoinBalance) : Except Exn (Option String) :=
  let coin := Text.strip (Text.upper (Text.orEmpty balance.coin))
  if coin ∈ ["", "USDT", "USDC", "BUSD"] then .ok none
  else do
    let qty ← floatField "walletBalance" balance.walletBalance
    return if 0 < qty then some coin else none

/-- The coins that are held. -/
def heldCoins : List CoinBalance → Except Exn (List String)
  | [] => .ok []
  | balance :: balances => do
    let coin ← heldCoin? balance
    let coins ← heldCoins balances
    return coin.toList ++ coins

/-- `refresh_wallet_balance`, whose exceptions are only logged. -/
def refreshWalletBalance (env : LoopEnv) (w : World) : World :=
  match env.wallet with
  | some (.ok answer) =>
    if answer.reply.retCode = some 0 then
      match heldCoins answer.coins with
      | .ok coins => { w with rt := { w.rt with walletHeldBaseSymbols := coins.dedup } }
      | .error _ => w
    else w
  | _ => w

/-! ### Exits -/

/-- `managed_symbols`: the configured ones and those with a position. -/
def managedSymbols (c : Config) (rt : Runtime) : List String :=
  (c.symbols ++ rt.tracked.filter fun s => positionFloor c rt s ≤ |(rt.position s).qty|).dedup

/-- The forced exit of one symbol. -/
def exitSymbol (x : Context) (env : LoopEnv) (symbol : String) : LoopM Unit := do
  let blocked ← onWorld (maybeForceExit x (env.exits symbol) symbol)
  if blocked then
    modifyVars fun vars => { vars with blockedSymbols := vars.blockedSymbols ++ [symbol] }
  else pure ()

/-- The forced exits. -/
def forceExits (x : Context) (env : LoopEnv) (managed : List String) : LoopM Unit :=
  each (exitSymbol x env) managed

/-- The exit quote of one symbol. -/
def quoteSymbol (x : Context) (env : LoopEnv) (symbol : String) : LoopM Unit := do
  let s ← get
  onWorld (maybePlacePositionExitQuote x (env.quotes symbol) symbol (s.vars.quotesOf symbol))

/-- The exit quotes. -/
def placeExitQuotes (x : Context) (env : LoopEnv) (managed : List String) : LoopM Unit :=
  each (quoteSymbol x env) managed

/-! ### Entries -/

/-- Count an accepted entry. -/
def countAccepted (env : IntentEnv) (intent : OrderIntent) (s : LoopState) : LoopState where
  world := adoptActions intent (registerOrderPlaced env.sentClock s.world)
  vars := s.vars.addAccepted intent

/-- One intent; none is looked at once the loop is left. -/
def processIntent (x : Context) (i : IntentInput) : LoopM Unit := do
  let s ← get
  if s.world.rt.stopped then pure ()
  else if i.intent.symbol ∈ s.vars.blockedSymbols then pure ()
  else do
    let submission ← onWorld (submitIntent x i.env s.vars i.intent)
    match submission with
    | .skipped => pure ()
    | .stopped => onWorld (modify stopLoop)
    | .accepted intent reply => do
      modify (countAccepted i.env intent)
      onWorld (recordEntry x i.env intent reply)

/-- The intents of the strategy. -/
def processIntents (x : Context) (env : LoopEnv) : LoopM Unit := do
  let intents ← fromExcept (env.intents.mapError Exn.api)
  each (processIntent x) intents

/-! ### An iteration -/

/-- The stages that bring the state up to date. -/
def takeStock (x : Context) (env : LoopEnv) (orders : List OpenOrder) : LoopM Unit := do
  modifyVars fun vars => { vars with openOrderSymbols := openOrderSymbols orders }
  onWorld (refreshPositionsFromExecutions x env.fetches)
  onWorld (modify (refreshWalletBalance env))
  readOpenOrders orders

/-- The stages that send orders. -/
def sendOrders (x : Context) (env : LoopEnv) : LoopM Unit := do
  cancelOurOrders env
  let s ← get
  let managed := env.arrange (managedSymbols x.config s.world.rt)
  forceExits x env managed
  placeExitQuotes x env managed
  processIntents x env

/-- The part of an iteration whose exceptions are caught. -/
def loopBody (x : Context) (env : LoopEnv) : LoopM Unit := do
  let reply ← fromExcept (env.openOrders.mapError fun _ => Exn.api "get_open_orders")
  if reply.retCode = some 10004 then onWorld (modify stopLoop)
  else if reply.retCode = some 0 then do
    takeStock x env reply.list
    sendOrders x env
  else pure ()

/-- The reconciliation before an iteration. -/
def reconcileIfDue (env : LoopEnv) (w : World) : World :=
  match env.reconciliation with
  | some r => reconStep r w
  | none => w

/-- What an iteration does unless it is paused. -/
def iterate (x : Context) (env : LoopEnv) (w : World) : World :=
  match env.panic with
  | some answer => note (.cancelAllOrders answer.accepted) w
  | none =>
    if env.paused then w
    else (after (loopBody x env) ⟨w, .initial⟩).world

/-- One iteration of the trading loop. -/
def iteration (x : Context) (env : LoopEnv) (w : World) : World :=
  if x.executor.isNone ∨ w.rt.stopped = true then w
  else iterate x env (reconcileIfDue env w)

/-- The trading loop. -/
def runLoop (x : Context) (envs : List LoopEnv) (w : World) : World := run (iteration x) envs w

end Botik
