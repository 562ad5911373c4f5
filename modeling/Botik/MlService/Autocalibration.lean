import Botik.Library.Json
import Botik.Library.Listing
import Botik.Storage.LifecycleStore
import Botik.Strategy.PairMarket

/-!
# The autocalibration

`run_autocalibration` of `ml_service/run_loop.py` takes the medians of the newest fees and of the
slippages of the newest outcomes, and writes what it recommends to a file. `_load_autocalibration`
of `strategy/pair_admission.py` reads the file in another process, and keeps what it has read for as
long as the file has the same time.

The time of an outcome is given beside its row. What `json` writes of a number it reads again.

## Main definitions

* `CalibrationDb`, `feeRates`, `slippages`
* `Calibration`, `runAutocalibration`
* `CalibrationFile`, `loadAutocalibration`
* `CalibrationEvent`, `CalibrationState.step` — both processes
-/

namespace Botik

/-! ### The samples -/

/-- The tables, with `closed_at_utc` of the outcomes. -/
structure CalibrationDb where
  store : LifecycleStore
  closedAtUtc : String → ℕ

/-- `LIMIT ?`; a negative one is none. -/
def limited {α : Type} (limit : ℤ) (l : List α) : List α :=
  if limit < 0 then l else l.take limit.toNat

/-- `fee_rates`, the newest first. -/
def feeRates (minFills : ℤ) (db : CalibrationDb) : List ℚ :=
  let fills := (db.store.executionsRaw.entries.map Prod.snd).filter fun row =>
    row.feeRate.any (0 < ·)
  (limited (max (minFills * 5) minFills)
    (Newest.sortedBy (fun row => OrderDual.toDual row.execTimeMs) fills)).filterMap
      ExecutionRow.feeRate

/-- The distance of a price from another one, in basis points. -/
def slippageBps (entryPrice entryVwap : ℚ) : ℚ := |(entryVwap - entryPrice) / entryPrice| * 10000

/-- `slippages`, the newest first. -/
def slippages (minFills : ℤ) (db : CalibrationDb) : List ℚ :=
  let rows := db.store.outcomes.entries.filterMap fun e =>
    (db.store.signals.get? e.1).bind fun signal =>
      if 0 < signal.entryPrice ∧ 0 < e.2.entryVwap then
        some (db.closedAtUtc e.1, slippageBps signal.entryPrice e.2.entryVwap)
      else none
  (limited (max (minFills * 3) minFills)
    (Newest.sortedBy (fun row => OrderDual.toDual row.1) rows)).map Prod.snd

/-! ### What is recommended -/

/-- The payload, without its time. -/
structure Calibration where
  sampleFills : ℕ
  sampleSlippage : ℕ
  feeRateMedian : ℚ
  feeBpsMedian : ℚ
  slippageOneSideBpsMedian : ℚ
  slippageTotalBpsMedian : ℚ
  recommendedFeeEntryBps : ℚ
  recommendedFeeExitBps : ℚ
  recommendedTotalSlippageBps : ℚ
  recommendedMinRequiredSpreadBps : ℚ
  deriving DecidableEq, Repr

/-- The samples a median is taken of. -/
def sampled (minFills : ℤ) (samples : List ℚ) : List ℚ := samples.take (max minFills 1).toNat

/-- `statistics.median`, which raises of no samples. -/
def medianOf (samples : List ℚ) : Except PyError ℚ :=
  if samples = [] then .error .valueError else .ok (median samples)

/-- The settings of the service. -/
structure CalibrationSettings where
  minFills : ℤ
  safetyBufferBps : ℚ
  targetEdgeBps : ℚ

/-- The fees of the median. -/
def sampledFees (x : CalibrationSettings) (db : CalibrationDb) : List ℚ :=
  sampled x.minFills (feeRates x.minFills db)

/-- The slippages of the median. -/
def sampledSlippages (x : CalibrationSettings) (db : CalibrationDb) : List ℚ :=
  sampled x.minFills (slippages x.minFills db)

/-- `run_autocalibration`: what is written, if there are enough samples. -/
def runAutocalibration (x : CalibrationSettings) (db : CalibrationDb) :
    Except PyError (Option Calibration) := do
  let fees := feeRates x.minFills db
  if fees.length < x.minFills then return none
  else
    let feeRateMed ← medianOf (sampledFees x db)
    let feeBps := feeRateMed * 10000
    let slips := slippages x.minFills db
    if slips.length < x.minFills then return none
    else
      let slipMed ← medianOf (sampledSlippages x db)
      let totalSlippageBps := slipMed * 2
      return some
        { sampleFills := fees.length
          sampleSlippage := slips.length
          feeRateMedian := feeRateMed
          feeBpsMedian := feeBps
          slippageOneSideBpsMedian := slipMed
          slippageTotalBpsMedian := totalSlippageBps
          recommendedFeeEntryBps := feeBps
          recommendedFeeExitBps := feeBps
          recommendedTotalSlippageBps := totalSlippageBps
          recommendedMinRequiredSpreadBps :=
            feeBps + feeBps + totalSlippageBps + max x.safetyBufferBps 0 + max x.targetEdgeBps 0 }

/-! ### The file -/

/-- The file, its content `none` where it is no object. -/
structure CalibrationFile where
  mtime : ℕ
  content : Option Autocalibration

/-- What the pair filter reads of a payload. -/
def Calibration.stored (p : Calibration) : Autocalibration where
  sampleFills := some p.sampleFills
  recommendedTotalSlippageBps := .number p.recommendedTotalSlippageBps
  recommendedMaxTotalSlippageBps := .missing
  recommendedFeeEntryBps := .number p.recommendedFeeEntryBps
  recommendedFeeExitBps := .number p.recommendedFeeExitBps

/-- `_load_autocalibration`, with the entry of the file in `_AUTOCALIB_CACHE`. -/
def loadAutocalibration (file : Option CalibrationFile) (cache : Option (ℕ × Autocalibration)) :
    Autocalibration × Option (ℕ × Autocalibration) :=
  match file with
  | none => (.empty, cache)
  | some f =>
    match cache.filter fun e => e.1 = f.mtime with
    | some e => (e.2, cache)
    | none =>
      match f.content with
      | none => (.empty, cache)
      | some content => (content, some (f.mtime, content))

/-! ### Both processes -/

structure CalibrationState where
  file : Option CalibrationFile
  cache : Option (ℕ × Autocalibration)

/-- What happens to the file and to what is kept of it. -/
inductive CalibrationEvent
  /-- The service calibrates; the file has this time afterwards. -/
  | calibrate (mtime : ℕ) (db : CalibrationDb)
  /-- The file while it is written. -/
  | halfWritten (mtime : ℕ)
  | removed
  | load
  /-- The modules of the bot are loaded again. -/
  | reload

namespace CalibrationState

def start : CalibrationState := ⟨none, none⟩

/-- One event. -/
def step (x : CalibrationSettings) (event : CalibrationEvent) (s : CalibrationState) :
    CalibrationState :=
  match event with
  | .calibrate mtime db =>
    match runAutocalibration x db with
    | .ok (some p) => { s with file := some ⟨mtime, some p.stored⟩ }
    | _ => s
  | .halfWritten mtime => { s with file := some ⟨mtime, none⟩ }
  | .removed => { s with file := none }
  | .load => { s with cache := (loadAutocalibration s.file s.cache).2 }
  | .reload => { s with cache := none }

/-- What an evaluation of a pair gets. -/
def loaded (s : CalibrationState) : Autocalibration := (loadAutocalibration s.file s.cache).1

end CalibrationState

end Botik
