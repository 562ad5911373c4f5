import Botik.Main.TradingLoopFacts

/-!
# The turns of the trading loop

An iteration is one loop over its stages, each a call of one routine: the units of work of the
executions, the open orders, the entry quotes to cancel, the forced exits, the exit quotes and the
intents. An exception ends it. A run of the trading loop is then a run over the turns it takes, and
between two turns, as within them, the exchange goes on.

## Main definitions

* `Stage`, `stage` — a stage of an iteration
* `bodyStages` — the stages of an iteration, from the state it begins in
* `Turn`, `turn`, `loopTurns` — the turns a run takes

## Main results

* `run_loopTurns` — the trading loop is the run over its turns
-/

namespace Botik

open Program Runs

/-! ### Stages -/

/-- A stage of an iteration. -/
inductive Stage
  | symbols (orders : List OpenOrder)
  | work (u : Work)
  | wallet
  | count (order : OpenOrder)
  | cancelEntry (link : String × String)
  | exit (symbol : String)
  | quote (symbol : String)
  | intent (i : IntentInput)

/-- The program of a stage. -/
def stage (x : Context) (env : LoopEnv) : Stage → LoopM Unit
  | .symbols orders =>
    modifyVars fun vars => { vars with openOrderSymbols := openOrderSymbols orders }
  | .work u => onWorld (work x u)
  | .wallet => onWorld (modify (refreshWalletBalance env))
  | .count order => countOpenOrder order
  | .cancelEntry link => onWorld (cancelOrder link.1 link.2 (env.cancelAnswer link.2))
  | .exit symbol => exitSymbol x env symbol
  | .quote symbol => quoteSymbol x env symbol
  | .intent i => processIntent x i

/-- The stages that bring the state up to date. -/
def stockStages (x : Context) (env : LoopEnv) (orders : List OpenOrder) : List Stage :=
  .symbols orders :: ((works x env.fetches).map .work ++ .wallet :: orders.map .count)

/-- The stages that manage the orders and the positions, from the state before them. -/
def manageStages (x : Context) (env : LoopEnv) (s : LoopState) : List Stage :=
  let managed := env.arrange (managedSymbols x.config s.world.rt)
  s.vars.ourOrderLinks.map .cancelEntry ++ (managed.map .exit ++ managed.map .quote)

/-- The stages of the intents. -/
def intentStages (env : LoopEnv) : List Stage :=
  match env.intents with
  | .ok intents => intents.map .intent
  | .error _ => []

/-- The stages of an iteration that read these open orders. -/
def bodyStages (x : Context) (env : LoopEnv) (orders : List OpenOrder) (s : LoopState) :
    List Stage :=
  match takeStock x env orders s with
  | .ok _ s' => stockStages x env orders ++ (manageStages x env s' ++ intentStages env)
  | .error _ _ => stockStages x env orders

section Stages

variable {x : Context} {env : LoopEnv} {orders : List OpenOrder} {s : LoopState}

/-- Runtime code in a loop is a loop of runtime code. -/
theorem onWorld_each {ι : Type*} (m : ι → RunM Unit) (is : List ι) :
    onWorld (each m is) = each (fun i => onWorld (m i)) is := by
  funext s
  induction is generalizing s with
  | nil => rfl
  | cons i is ih =>
    rw [each_cons, each_cons]
    cases hfirst : m i s.world with
    | ok u w =>
      rw [bind_of_ok (onWorld_of_ok hfirst), ← ih]
      unfold onWorld zoom
      dsimp only
      rw [bind_of_ok hfirst]
    | error e w =>
      rw [bind_of_error (onWorld_of_error hfirst)]
      exact onWorld_of_error (bind_of_error hfirst)

/-- The stages that bring the state up to date are one loop. -/
theorem takeStock_eq_each (x : Context) (env : LoopEnv) (orders : List OpenOrder) :
    takeStock x env orders = each (stage x env) (stockStages x env orders) := by
  unfold takeStock stockStages readOpenOrders
  rw [each_cons, each_append, each_cons, each_map, each_map, refresh_eq_each_work, onWorld_each]
  rfl

/-- Cancelling entry quotes leaves the runtime variables and the local ones alone. -/
theorem keeps_rt_cancelEntries (links : List (String × String)) :
    Keeps (fun s : LoopState => (s.world.rt, s.vars))
      (each (stage x env) (links.map .cancelEntry)) := by
  rw [each_map]
  refine moves_each (fun link => moves_zoom fun s => ?_) links
  have hrt : Keeps World.rt (cancelOrder link.1 link.2 (env.cancelAnswer link.2)) :=
    moves_cancelOrder fun _ => rfl
  exact congrArg (·, s.vars) (hrt s.world)

/-- The stages that send orders are one loop, over what the state before them says. -/
theorem after_sendOrders (s : LoopState) : after (sendOrders x env) s =
    after (each (stage x env) (manageStages x env s ++ intentStages env)) s := by
  let links := s.vars.ourOrderLinks.map Stage.cancelEntry
  have hcancel : cancelOurOrders env s = each (stage x env) links s := by
    unfold cancelOurOrders
    rw [bind_of_ok (get_run s), onWorld_each, each_map]
    rfl
  have hintents : ∀ s, after (processIntents x env) s =
      after (each (stage x env) (intentStages env)) s := by
    intro s
    unfold processIntents intentStages
    cases env.intents with
    | ok intents =>
      rw [each_map]
      rfl
    | error text => rfl
  unfold sendOrders manageStages
  dsimp only
  rw [List.append_assoc, each_append]
  cases hlinks : each (stage x env) links s with
  | error e s₁ => rw [after_bind_of_error (hcancel.trans hlinks), after_bind_of_error hlinks]
  | ok u s₁ =>
    rw [after_bind_of_ok (hcancel.trans hlinks), after_bind_of_ok hlinks, after_get_bind]
    -- the managed symbols are read after the cancellations, which leave them as they were
    have hrt : s₁.world.rt = s.world.rt :=
      congrArg Prod.fst ((keeps_rt_cancelEntries s.vars.ourOrderLinks).of_ok hlinks)
    rw [hrt, List.append_assoc, each_append, each_map]
    refine after_bind_congr fun _ s₂ => ?_
    rw [each_append, each_map]
    exact after_bind_congr fun _ s₃ => hintents s₃

/-- An iteration that reads its open orders is one loop over its stages. -/
theorem after_body (s : LoopState) :
    after (takeStock x env orders >>= fun _ => sendOrders x env) s =
      after (each (stage x env) (bodyStages x env orders s)) s := by
  unfold bodyStages
  cases hstock : takeStock x env orders s with
  | error e s' =>
    rw [after_bind_of_error hstock]
    rw [takeStock_eq_each] at hstock
    exact (after_of_error hstock).symm
  | ok u s' =>
    rw [after_bind_of_ok hstock, after_sendOrders]
    dsimp only
    rw [takeStock_eq_each] at hstock
    have hsplit : each (stage x env) (stockStages x env orders ++
        (manageStages x env s' ++ intentStages env)) =
          (each (stage x env) (stockStages x env orders) >>= fun _ =>
            each (stage x env) (manageStages x env s' ++ intentStages env)) := each_append
    rw [hsplit, after_bind_of_ok hstock]

end Stages

/-! ### Turns -/

/-- A turn of the trading loop: the beginning of an iteration, or one of its stages. -/
inductive Turn
  | start (env : LoopEnv)
  | stage (env : LoopEnv) (stage : Stage)

/-- The open orders of an iteration that gets to its stages. -/
def ordersAtStart (env : LoopEnv) : Option (List OpenOrder) :=
  if env.panic.isSome ∨ env.paused = true then none
  else
    match env.openOrders with
    | .error _ => none
    | .ok reply => if reply.retCode = some 0 then some reply.list else none

/-- The beginning of an iteration, up to the answer of `get_open_orders`. -/
def startIteration (env : LoopEnv) (w : World) : World :=
  let w := reconcileIfDue env w
  match env.panic with
  | some answer => note (.cancelAllOrders answer.accepted) w
  | none =>
    if env.paused then w
    else
      match env.openOrders with
      | .error _ => w
      | .ok reply => if reply.retCode = some 10004 then stopLoop w else w

/-- The effect of a turn, exceptions caught. -/
def turn (x : Context) : Turn → LoopState → LoopState
  | .start env, s => ⟨startIteration env s.world, .initial⟩
  | .stage env st, s => after (stage x env st) s

/-- The turns of an iteration: its stages up to the first exception. -/
def iterationTurns (x : Context) (env : LoopEnv) (w : World) : List Turn :=
  if x.executor.isNone ∨ w.rt.stopped = true then []
  else
    match ordersAtStart env with
    | none => [.start env]
    | some orders =>
      let s : LoopState := ⟨startIteration env w, .initial⟩
      .start env :: (taken (stage x env) (bodyStages x env orders s) s).map (.stage env)

/-- The turns of a run of the trading loop. -/
def loopTurns (x : Context) : List LoopEnv → World → List Turn
  | [], _ => []
  | env :: envs, w => iterationTurns x env w ++ loopTurns x envs (iteration x env w)

section Turns

variable {x : Context} {env : LoopEnv} {w : World}

/-- A run over stages of one iteration. -/
theorem run_map_stage (stages : List Stage) (s : LoopState) :
    run (turn x) (stages.map (.stage env)) s = run (fun st => after (stage x env st)) stages s := by
  induction stages generalizing s with
  | nil => rfl
  | cons st stages ih => exact ih _

/-- An iteration is its beginning, and the body where it gets to it. -/
theorem iteration_of_active (h : ¬ (x.executor.isNone ∨ w.rt.stopped = true)) :
    iteration x env w =
      match ordersAtStart env with
      | none => startIteration env w
      | some orders => (after (takeStock x env orders >>= fun _ => sendOrders x env)
          ⟨startIteration env w, .initial⟩).world := by
  unfold iteration iterate ordersAtStart startIteration
  rw [if_neg h]
  cases hpanic : env.panic with
  | some answer => simp
  | none =>
    cases hpaused : env.paused with
    | true => simp
    | false =>
      unfold loopBody
      cases horders : env.openOrders with
      | error text => simp [Except.mapError]
      | ok reply =>
        by_cases hstop : reply.retCode = some 10004
        · simp only [hstop, Except.mapError, fromExcept_ok, pure_bind, if_true]
          rfl
        · by_cases hok : reply.retCode = some 0
          · simp [Except.mapError, hok]
          · simp [Except.mapError, hstop, hok]

/-- An iteration is the run over its turns. -/
theorem run_iterationTurns (x : Context) (env : LoopEnv) (s : LoopState) :
    (run (turn x) (iterationTurns x env s.world) s).world = iteration x env s.world := by
  by_cases hactive : x.executor.isNone ∨ s.world.rt.stopped = true
  · unfold iterationTurns iteration
    rw [if_pos hactive, if_pos hactive]
    rfl
  · rw [iteration_of_active hactive]
    unfold iterationTurns
    rw [if_neg hactive]
    cases ordersAtStart env with
    | none => rfl
    | some orders =>
      dsimp only
      rw [run_cons, run_map_stage, after_body, after_each_eq_run]
      rfl

/-- The trading loop is the run over its turns. -/
theorem run_loopTurns (x : Context) (envs : List LoopEnv) (s : LoopState) :
    (run (turn x) (loopTurns x envs s.world) s).world = runLoop x envs s.world := by
  induction envs generalizing s with
  | nil => rfl
  | cons env envs ih =>
    have hfirst := run_iterationTurns x env s
    rw [loopTurns, run_append, ← hfirst, ih, hfirst]
    rfl

end Turns

end Botik
