import Usdd.LiquityBase

/-!
# PriceFeed

The price of a collateral comes from Chainlink, or from Tellor when Chainlink fails. The responses of
both oracles are inputs: a call to an oracle reverts or returns a tuple. Values of the oracles are
unbounded here, so multiplication checks for the overflow of 256 bits.
-/

open Transaction

namespace Usdd.PriceFeed

inductive Status
  | chainlinkWorking
  | usingTellorChainlinkUntrusted
  | bothOraclesUntrusted
  | usingTellorChainlinkFrozen
  | usingChainlinkTellorUntrusted
  deriving DecidableEq

structure PriceFeeds where
  priceAggregator : Address
  tellorCaller : Address
  lastGoodPrice : ℕ
  status : Status
  deriving DecidableEq

def targetDigits : ℕ := 18

def tellorDigits : ℕ := 6

def timeout : ℕ := 14400

def maxPriceDeviationFromPreviousRound : ℕ := 5 * 10 ^ 17

def maxPriceDifferenceBetweenOracles : ℕ := 5 * 10 ^ 16

section Oracles

structure RoundData where
  roundId : Fin (2 ^ 80)
  answer : ℤ
  timestamp : ℕ

/-- What the calls to a Chainlink aggregator return, or `none` where they revert. -/
structure Aggregator where
  decimals : Option (Fin 256)
  latestRoundData : Option RoundData
  getRoundData : Fin (2 ^ 80) → Option RoundData

structure TellorValue where
  ifRetrieve : Bool
  value : ℕ
  timestampRetrieved : ℕ

structure Oracles where
  aggregator : Address → Aggregator
  tellorCaller : Address → Option TellorValue

structure ChainlinkResponse where
  roundId : Fin (2 ^ 80)
  answer : ℤ
  timestamp : ℕ
  success : Bool
  decimals : Fin 256

structure TellorResponse where
  ifRetrieve : Bool
  value : ℕ
  timestamp : ℕ
  success : Bool

def getCurrentTellorResponse (tellorCaller : Option TellorValue) : TellorResponse :=
  match tellorCaller with
  | some v => ⟨v.ifRetrieve, v.value, v.timestampRetrieved, true⟩
  | none => ⟨false, 0, 0, false⟩

def getCurrentChainlinkResponse (priceAggregator : Aggregator) : ChainlinkResponse :=
  match priceAggregator.decimals with
  | none => ⟨0, 0, 0, false, 0⟩
  | some decimals =>
      match priceAggregator.latestRoundData with
      | some d => ⟨d.roundId, d.answer, d.timestamp, true, decimals⟩
      | none => ⟨0, 0, 0, false, decimals⟩

/-- The subtraction wraps around for the round 0. -/
def getPrevChainlinkResponse (priceAggregator : Aggregator) (currentRoundId : Fin (2 ^ 80))
    (currentDecimals : Fin 256) : ChainlinkResponse :=
  match priceAggregator.getRoundData (currentRoundId - 1) with
  | some d => ⟨d.roundId, d.answer, d.timestamp, true, currentDecimals⟩
  | none => ⟨0, 0, 0, false, 0⟩

/-- The responses that a call works with, and its block time. -/
structure Responses where
  chainlink : ChainlinkResponse
  prevChainlink : ChainlinkResponse
  tellor : TellorResponse
  timestamp : ℕ

def getResponses (o : Oracles) (priceFeed : PriceFeeds) (timestamp : ℕ) : Responses :=
  let chainlink := getCurrentChainlinkResponse (o.aggregator priceFeed.priceAggregator)
  { chainlink := chainlink
    prevChainlink := getPrevChainlinkResponse (o.aggregator priceFeed.priceAggregator)
      chainlink.roundId chainlink.decimals
    tellor := getCurrentTellorResponse (o.tellorCaller priceFeed.tellorCaller)
    timestamp := timestamp }

end Oracles

section Prices

/-- `SafeMath.mul` on 256 bits. -/
def mul (a b : ℕ) : Tx ℕ :=
  if a * b < 2 ^ 256 then .ok (a * b) else .error (.message "SafeMath: multiplication overflow")

/-- `10 ** n` of 256 bits, which wraps around. -/
def pow10 (n : ℕ) : ℕ := 10 ^ n % 2 ^ 256

def scaleChainlinkPriceByDigits (price answerDigits : ℕ) : Tx ℕ :=
  if answerDigits ≥ targetDigits then SafeMath.div price (pow10 (answerDigits - targetDigits))
  else mul price (pow10 (targetDigits - answerDigits))

def scaleTellorPriceByDigits (price : ℕ) : Tx ℕ := mul price (pow10 (targetDigits - tellorDigits))

def chainlinkPrice (c : ChainlinkResponse) : Tx ℕ :=
  scaleChainlinkPriceByDigits c.answer.toNat c.decimals

def badChainlinkResponse (timestamp : ℕ) (c : ChainlinkResponse) : Bool :=
  !c.success || c.roundId = 0 || (c.timestamp = 0 || c.timestamp > timestamp) || c.answer ≤ 0

def chainlinkIsBroken (r : Responses) : Bool :=
  badChainlinkResponse r.timestamp r.chainlink || badChainlinkResponse r.timestamp r.prevChainlink

def chainlinkIsFrozen (r : Responses) : Tx Bool := do
  let age ← SafeMath.sub r.timestamp r.chainlink.timestamp
  pure (age > timeout)

def chainlinkPriceChangeAboveMax (r : Responses) : Tx Bool := do
  let currentScaledPrice ← chainlinkPrice r.chainlink
  let prevScaledPrice ← chainlinkPrice r.prevChainlink
  let minPrice := min currentScaledPrice prevScaledPrice
  let maxPrice := max currentScaledPrice prevScaledPrice
  let difference ← SafeMath.sub maxPrice minPrice
  let numerator ← mul difference decimalPrecision
  let percentDeviation ← SafeMath.div numerator maxPrice
  pure (percentDeviation > maxPriceDeviationFromPreviousRound)

def tellorIsBroken (r : Responses) : Bool :=
  !r.tellor.success || (r.tellor.timestamp = 0 || r.tellor.timestamp > r.timestamp) ||
    r.tellor.value = 0

def tellorIsFrozen (r : Responses) : Tx Bool := do
  let age ← SafeMath.sub r.timestamp r.tellor.timestamp
  pure (age > timeout)

def bothOraclesSimilarPrice (r : Responses) : Tx Bool := do
  let scaledChainlinkPrice ← chainlinkPrice r.chainlink
  let scaledTellorPrice ← scaleTellorPriceByDigits r.tellor.value
  let minPrice := min scaledTellorPrice scaledChainlinkPrice
  let maxPrice := max scaledTellorPrice scaledChainlinkPrice
  let difference ← SafeMath.sub maxPrice minPrice
  let numerator ← mul difference decimalPrecision
  let percentPriceDifference ← SafeMath.div numerator minPrice
  pure (percentPriceDifference ≤ maxPriceDifferenceBetweenOracles)

def bothOraclesLiveAndUnbrokenAndSimilarPrice (r : Responses) : Tx Bool :=
  if tellorIsBroken r then pure false
  else do
    let tellorFrozen ← tellorIsFrozen r
    if tellorFrozen then pure false
    else if chainlinkIsBroken r then pure false
    else do
      let chainlinkFrozen ← chainlinkIsFrozen r
      if chainlinkFrozen then pure false else bothOraclesSimilarPrice r

end Prices

section Decisions

/-- The price that a branch of `fetchPrice` ends with: the stored one, or that of an oracle, which it
stores. -/
inductive Source
  | lastGoodPrice
  | tellor
  | chainlink
  deriving DecidableEq

/-- The status after a branch of `fetchPrice` and the price it returns. -/
structure Decision where
  status : Status
  source : Source
  deriving DecidableEq

variable (r : Responses)

/-- Case 1: the last price came from Chainlink. -/
def decideChainlinkWorking : Tx Decision :=
  if chainlinkIsBroken r then
    if tellorIsBroken r then pure ⟨.bothOraclesUntrusted, .lastGoodPrice⟩
    else do
      let tellorFrozen ← tellorIsFrozen r
      if tellorFrozen then pure ⟨.usingTellorChainlinkUntrusted, .lastGoodPrice⟩
      else pure ⟨.usingTellorChainlinkUntrusted, .tellor⟩
  else do
    let chainlinkFrozen ← chainlinkIsFrozen r
    if chainlinkFrozen then
      if tellorIsBroken r then pure ⟨.usingChainlinkTellorUntrusted, .lastGoodPrice⟩
      else do
        let tellorFrozen ← tellorIsFrozen r
        if tellorFrozen then pure ⟨.usingTellorChainlinkFrozen, .lastGoodPrice⟩
        else pure ⟨.usingTellorChainlinkFrozen, .tellor⟩
    else do
      let changeAboveMax ← chainlinkPriceChangeAboveMax r
      if changeAboveMax then
        if tellorIsBroken r then pure ⟨.bothOraclesUntrusted, .lastGoodPrice⟩
        else do
          let tellorFrozen ← tellorIsFrozen r
          if tellorFrozen then pure ⟨.usingTellorChainlinkUntrusted, .lastGoodPrice⟩
          else do
            let similar ← bothOraclesSimilarPrice r
            if similar then pure ⟨.chainlinkWorking, .chainlink⟩
            else pure ⟨.usingTellorChainlinkUntrusted, .tellor⟩
      else if tellorIsBroken r then pure ⟨.usingChainlinkTellorUntrusted, .chainlink⟩
      else pure ⟨.chainlinkWorking, .chainlink⟩

/-- Case 2: the last price came from Tellor. -/
def decideChainlinkUntrusted : Tx Decision := do
  let trusted ← bothOraclesLiveAndUnbrokenAndSimilarPrice r
  if trusted then pure ⟨.chainlinkWorking, .chainlink⟩
  else if tellorIsBroken r then pure ⟨.bothOraclesUntrusted, .lastGoodPrice⟩
  else do
    let tellorFrozen ← tellorIsFrozen r
    if tellorFrozen then pure ⟨.usingTellorChainlinkUntrusted, .lastGoodPrice⟩
    else pure ⟨.usingTellorChainlinkUntrusted, .tellor⟩

/-- Case 3: both oracles were untrusted. -/
def decideBothUntrusted : Tx Decision := do
  let trusted ← bothOraclesLiveAndUnbrokenAndSimilarPrice r
  if trusted then pure ⟨.chainlinkWorking, .chainlink⟩
  else pure ⟨.bothOraclesUntrusted, .lastGoodPrice⟩

/-- Case 4: using Tellor, and Chainlink is frozen. -/
def decideChainlinkFrozen : Tx Decision :=
  if chainlinkIsBroken r then
    if tellorIsBroken r then pure ⟨.bothOraclesUntrusted, .lastGoodPrice⟩
    else do
      let tellorFrozen ← tellorIsFrozen r
      if tellorFrozen then pure ⟨.usingTellorChainlinkUntrusted, .lastGoodPrice⟩
      else pure ⟨.usingTellorChainlinkUntrusted, .tellor⟩
  else do
    let chainlinkFrozen ← chainlinkIsFrozen r
    if chainlinkFrozen then
      if tellorIsBroken r then pure ⟨.usingChainlinkTellorUntrusted, .lastGoodPrice⟩
      else do
        let tellorFrozen ← tellorIsFrozen r
        if tellorFrozen then pure ⟨.usingTellorChainlinkFrozen, .lastGoodPrice⟩
        else pure ⟨.usingTellorChainlinkFrozen, .tellor⟩
    else if tellorIsBroken r then pure ⟨.usingChainlinkTellorUntrusted, .chainlink⟩
    else do
      let tellorFrozen ← tellorIsFrozen r
      if tellorFrozen then pure ⟨.usingTellorChainlinkFrozen, .lastGoodPrice⟩
      else do
        let similar ← bothOraclesSimilarPrice r
        if similar then pure ⟨.chainlinkWorking, .chainlink⟩
        else pure ⟨.usingTellorChainlinkUntrusted, .tellor⟩

/-- Case 5: using Chainlink, Tellor is untrusted. -/
def decideTellorUntrusted : Tx Decision :=
  if chainlinkIsBroken r then pure ⟨.bothOraclesUntrusted, .lastGoodPrice⟩
  else do
    let chainlinkFrozen ← chainlinkIsFrozen r
    if chainlinkFrozen then pure ⟨.usingChainlinkTellorUntrusted, .lastGoodPrice⟩
    else do
      let trusted ← bothOraclesLiveAndUnbrokenAndSimilarPrice r
      if trusted then pure ⟨.chainlinkWorking, .chainlink⟩
      else do
        let changeAboveMax ← chainlinkPriceChangeAboveMax r
        if changeAboveMax then pure ⟨.bothOraclesUntrusted, .lastGoodPrice⟩
        else pure ⟨.usingChainlinkTellorUntrusted, .chainlink⟩

def decision : Status → Tx Decision
  | .chainlinkWorking => decideChainlinkWorking r
  | .usingTellorChainlinkUntrusted => decideChainlinkUntrusted r
  | .bothOraclesUntrusted => decideBothUntrusted r
  | .usingTellorChainlinkFrozen => decideChainlinkFrozen r
  | .usingChainlinkTellorUntrusted => decideTellorUntrusted r

end Decisions

section Fetch

def changeStatus (priceFeed : PriceFeeds) (status : Status) : PriceFeeds :=
  { priceFeed with status := status }

def storePrice (priceFeed : PriceFeeds) (currentPrice : ℕ) : PriceFeeds :=
  { priceFeed with lastGoodPrice := currentPrice }

def storeTellorPrice (priceFeed : PriceFeeds) (r : Responses) : Tx (PriceFeeds × ℕ) := do
  let scaledTellorPrice ← scaleTellorPriceByDigits r.tellor.value
  pure (storePrice priceFeed scaledTellorPrice, scaledTellorPrice)

def storeChainlinkPrice (priceFeed : PriceFeeds) (r : Responses) : Tx (PriceFeeds × ℕ) := do
  let scaledChainlinkPrice ← chainlinkPrice r.chainlink
  pure (storePrice priceFeed scaledChainlinkPrice, scaledChainlinkPrice)

/-- The price of a decision. -/
def useSource (priceFeed : PriceFeeds) (r : Responses) : Source → Tx (PriceFeeds × ℕ)
  | .lastGoodPrice => pure (priceFeed, priceFeed.lastGoodPrice)
  | .tellor => storeTellorPrice priceFeed r
  | .chainlink => storeChainlinkPrice priceFeed r

/-- The effect of `fetchPrice` on the entry of the collateral. -/
def fetch (priceFeed : PriceFeeds) (r : Responses) : Tx (PriceFeeds × ℕ) := do
  let d ← decision r priceFeed.status
  useSource (changeStatus priceFeed d.status) r d.source

/-- The check on Chainlink when a feed is set up. -/
def requireChainlinkWorking (r : Responses) : Tx Unit :=
  if chainlinkIsBroken r then .error (.message "PriceFeed: Chainlink must be working and current")
  else do
    let chainlinkFrozen ← chainlinkIsFrozen r
    require (chainlinkFrozen = false) "PriceFeed: Chainlink must be working and current"

def setAddresses (o : Oracles) (timestamp : ℕ) (priceFeeds : Address → PriceFeeds)
    (collToken priceAggregator tellorCaller : Address) : Tx (Address → PriceFeeds) := do
  let priceFeed : PriceFeeds :=
    ⟨priceAggregator, tellorCaller, (priceFeeds collToken).lastGoodPrice, .chainlinkWorking⟩
  let r := getResponses o priceFeed timestamp
  requireChainlinkWorking r
  let stored ← storeChainlinkPrice priceFeed r
  pure (Function.update priceFeeds collToken stored.1)

def requirePriceFeedExist (priceFeed : PriceFeeds) : Tx Unit :=
  require (priceFeed.priceAggregator ≠ 0 ∧ priceFeed.tellorCaller ≠ 0)
    "PriceFeed: Chainlink and Tellor can not be zero address"

def fetchPrice (o : Oracles) (timestamp : ℕ) (priceFeeds : Address → PriceFeeds)
    (collToken : Address) : Tx ((Address → PriceFeeds) × ℕ) := do
  let priceFeed := priceFeeds collToken
  requirePriceFeedExist priceFeed
  let fetched ← fetch priceFeed (getResponses o priceFeed timestamp)
  pure (Function.update priceFeeds collToken fetched.1, fetched.2)

end Fetch

end Usdd.PriceFeed
