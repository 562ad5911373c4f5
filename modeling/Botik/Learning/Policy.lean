import Botik.Strategy.TradingView

/-!
# The choice of a profile

`PolicySelector.select` of `learning/policy.py`: a model scores each action profile by a row of
features and the best is taken, or any, once in a while. The prediction of the model, the choice of
the bandit and the random draws are parameters.

## Main definitions

* `stableHashToUnit` — a text as a feature
* `PairSnapshot`, `PolicyProfile`
* `buildFeatureRow` — the features of a profile
* `PolicyMeta`, `select`
-/

namespace Botik

/-! ### Hashes -/

/-- The two running sums of `zlib.adler32`, after one more byte. -/
def adlerStep (sums : ℕ × ℕ) (byte : UInt8) : ℕ × ℕ :=
  let a := (sums.1 + byte.toNat) % 65521
  (a, (sums.2 + a) % 65521)

/-- `zlib.adler32` of the UTF-8 form of a text. -/
def adler32 (text : String) : ℕ :=
  let (a, b) := (text.toList.flatMap String.utf8EncodeChar).foldl adlerStep (1, 0)
  b * 65536 + a

/-- `_stable_hash_to_unit`, of `policy.py` and of `dataset.py`. -/
def stableHashToUnit (text : String) : ℚ := (adler32 text % 100000 : ℕ) / 100000

example : adler32 "Wikipedia" = 300286872 := by decide +kernel

/-! ### Features -/

/-- The snapshot the pair filter keeps of a symbol; a missing entry is `none`. -/
structure PairSnapshot extends SpikeSnapshot where
  status : Option String
  mid : Option ℚ
  medianSpreadBps : Option ℚ
  depthBidQuote : Option ℚ
  depthAskQuote : Option ℚ
  slippageBuyBps : Option ℚ
  slippageSellBps : Option ℚ
  tradesPerMin : Option ℚ
  p95TradeGapMs : Option ℚ
  vol1sBps : Option ℚ
  minRequiredSpreadBps : Option ℚ
  impulseBps : Option ℚ

/-- `ActionProfileConfig`, with the part only the policy reads. -/
structure PolicyProfile extends ActionProfile where
  makerOnly : Option Bool

/-- `_safe_float` of `policy.py`, `_to_float` of `dataset.py`. -/
def toFloat (value : Option ℚ) : ℚ := value.getD 0

/-- `_build_feature_row`. -/
def buildFeatureRow (symbol : String) (snapshot : Option PairSnapshot) (profile : PolicyProfile)
    (modelVersion : String) : List ℚ :=
  [toFloat (snapshot.bind PairSnapshot.medianSpreadBps),
    toFloat (snapshot.bind PairSnapshot.depthBidQuote),
    toFloat (snapshot.bind PairSnapshot.depthAskQuote),
    toFloat (snapshot.bind PairSnapshot.slippageBuyBps),
    toFloat (snapshot.bind PairSnapshot.slippageSellBps),
    toFloat (snapshot.bind PairSnapshot.tradesPerMin),
    toFloat (snapshot.bind PairSnapshot.p95TradeGapMs),
    toFloat (snapshot.bind PairSnapshot.vol1sBps),
    toFloat (snapshot.bind PairSnapshot.minRequiredSpreadBps),
    -- the notional is estimated by the size of the profile and the middle of the snapshot
    profile.orderQtyBase * toFloat (snapshot.bind PairSnapshot.mid),
    profile.orderQtyBase,
    profile.entryTickOffset,
    profile.orderQtyBase,
    profile.targetProfit,
    profile.safetyBuffer,
    profile.minTopBookQty,
    toFloat profile.stopLossPct,
    toFloat profile.takeProfitPct,
    toFloat (profile.holdTimeoutSec.map Int.cast),
    if profile.makerOnly.getD true then 1 else 0,
    1,
    stableHashToUnit symbol,
    stableHashToUnit profile.profileId,
    stableHashToUnit modelVersion,
    toFloat (snapshot.bind PairSnapshot.impulseBps),
    toFloat ((snapshot.bind fun s => s.spikeDirection).map Int.cast),
    toFloat (snapshot.bind fun s => s.spikeStrengthBps)]

/-! ### Selection -/

/-- `ModelBundle`, with its prediction for a matrix: the probabilities that a trade opens, and the
edges to expect. -/
structure ModelBundle where
  modelId : String
  predictWithDetails : List (List ℚ) → List ℚ × List ℚ

/-- What a selection is based on. -/
structure PolicyMeta where
  policyUsed : String
  profileId : String
  predOpenProb : Option ℚ
  predExpEdgeBps : Option ℚ
  activeModelId : Option String
  reason : String
  deriving DecidableEq, Repr

/-- The random numbers of a symbol: `random.random()`, and the place `random.choice` picks. -/
structure PolicyDraw where
  explore : ℚ
  pick : ℕ

/-- `np.argmax`: the first place of the greatest score. -/
def argmax (score : List ℚ) : ℕ := score.findIdx fun s => score.all (· ≤ s)

/-- The selection for one symbol by a model. -/
def selectProfile (profileList : List PolicyProfile) (ctx : String → Option PairSnapshot)
    (model : ModelBundle) (eps : ℚ) (draw : PolicyDraw) (symbol : String) : Option PolicyMeta :=
  if draw.explore < eps then
    profileList[draw.pick]?.map fun picked =>
      { policyUsed := "ML"
        profileId := picked.profileId
        predOpenProb := none
        predExpEdgeBps := none
        activeModelId := some model.modelId
        reason := "epsilon_explore" }
  else
    let rows := profileList.map fun p => buildFeatureRow symbol (ctx symbol) p model.modelId
    let (openProb, expEdge) := model.predictWithDetails rows
    let idx := argmax (List.zipWith (fun edge prob => edge + prob * (1 / 100)) expEdge openProb)
    profileList[idx]?.map fun chosen =>
      { policyUsed := "ML"
        profileId := chosen.profileId
        predOpenProb := openProb[idx]?
        predExpEdgeBps := expEdge[idx]?
        activeModelId := some model.modelId
        reason := "model_argmax" }

/-- The selection of the bandit. -/
def banditMeta (reason profileId : String) : PolicyMeta where
  policyUsed := "Bandit"
  profileId := profileId
  predOpenProb := none
  predExpEdgeBps := none
  activeModelId := none
  reason := reason

/-- The profiles that have an id. -/
def namedProfiles (profiles : List PolicyProfile) : List PolicyProfile :=
  profiles.filter fun p => Text.strip p.profileId ≠ ""

/-- `select`; the draws are numbered by the symbols. -/
def select (bandit : List String → List (String × String)) (passSymbols : List String)
    (profiles : List PolicyProfile) (ctx : String → Option PairSnapshot)
    (model : Option ModelBundle) (eps : ℚ) (draws : ℕ → PolicyDraw) : Dict String PolicyMeta :=
  let byBandit (reason : String) : Dict String PolicyMeta :=
    (bandit passSymbols).foldl (fun d e => d.set e.1 (banditMeta reason e.2)) .empty
  if passSymbols = [] then .empty
  else if namedProfiles profiles = [] then byBandit "no_profiles"
  else
    match model with
    | none => byBandit "model_unavailable"
    | some model =>
      passSymbols.zipIdx.foldl (fun d e =>
        match selectProfile (namedProfiles profiles) ctx model (min (max eps 0) 1) (draws e.2)
          e.1 with
        | none => d
        | some choice => d.set e.1 choice) .empty

/-- The profile is the one a model selects for a symbol. -/
def IsSelected (bandit : List String → List (String × String)) (passSymbols : List String)
    (profiles : List PolicyProfile) (ctx : String → Option PairSnapshot) (model : ModelBundle)
    (eps : ℚ) (draws : ℕ → PolicyDraw) (symbol : String) (profile : PolicyProfile) : Prop :=
  profile ∈ profiles ∧ ((select bandit passSymbols profiles ctx (some model) eps draws).get?
    symbol).map PolicyMeta.profileId = some profile.profileId

end Botik
