import Usdd.PriceFeed

/-!
# Trust in the price

Every branch of `fetchPrice` is a decision on the next status and the price to return. The rules that
all decisions keep are stated once, and each of the five cases is checked against them.
-/

open Transaction

namespace Usdd.PriceFeed

variable {r : Responses} {d : Decision} {status next : Status} {x y z : Tx Decision}

section Live

def ChainlinkLive (r : Responses) : Prop :=
  chainlinkIsBroken r = false ∧ chainlinkIsFrozen r = .ok false

def TellorLive (r : Responses) : Prop := tellorIsBroken r = false ∧ tellorIsFrozen r = .ok false

/-- Both oracles are unbroken, unfrozen and within 5% of each other. -/
structure BothAgree (r : Responses) : Prop where
  chainlink : ChainlinkLive r
  tellor : TellorLive r
  similar : bothOraclesSimilarPrice r = .ok true

/-- An unbroken oracle does not answer from the future, so its age can be computed. -/
theorem chainlink_cases (r : Responses) : chainlinkIsBroken r = true ∨
    (chainlinkIsBroken r = false ∧ chainlinkIsFrozen r = .ok true) ∨ ChainlinkLive r := by
  cases hb : chainlinkIsBroken r with
  | true => exact Or.inl rfl
  | false =>
    have hle : r.chainlink.timestamp ≤ r.timestamp := by
      simp [chainlinkIsBroken, badChainlinkResponse] at hb
      exact hb.1.1.2.2
    have hage : chainlinkIsFrozen r =
        .ok (decide (r.timestamp - r.chainlink.timestamp > timeout)) := by
      unfold chainlinkIsFrozen
      simp only [bind_eq_ok, sub_eq_ok, pure_eq_ok]
      exact ⟨_, ⟨hle, rfl⟩, rfl⟩
    cases hf : decide (r.timestamp - r.chainlink.timestamp > timeout) with
    | true => exact Or.inr (Or.inl ⟨rfl, by rw [hage, hf]⟩)
    | false => exact Or.inr (Or.inr ⟨hb, by rw [hage, hf]⟩)

theorem tellor_cases (r : Responses) : tellorIsBroken r = true ∨
    (tellorIsBroken r = false ∧ tellorIsFrozen r = .ok true) ∨ TellorLive r := by
  cases hb : tellorIsBroken r with
  | true => exact Or.inl rfl
  | false =>
    have hle : r.tellor.timestamp ≤ r.timestamp := by
      simp [tellorIsBroken] at hb
      exact hb.1.2.2
    have hage : tellorIsFrozen r = .ok (decide (r.timestamp - r.tellor.timestamp > timeout)) := by
      unfold tellorIsFrozen
      simp only [bind_eq_ok, sub_eq_ok, pure_eq_ok]
      exact ⟨_, ⟨hle, rfl⟩, rfl⟩
    cases hf : decide (r.timestamp - r.tellor.timestamp > timeout) with
    | true => exact Or.inr (Or.inl ⟨rfl, by rw [hage, hf]⟩)
    | false => exact Or.inr (Or.inr ⟨hb, by rw [hage, hf]⟩)

theorem TellorLive.value_pos (h : TellorLive r) : 0 < r.tellor.value := by
  have hb := h.1
  simp [tellorIsBroken] at hb
  exact Nat.pos_of_ne_zero hb.2

end Live

section Branches

theorem chainlink_branch (h : (if chainlinkIsBroken r then x else do
      let frozen ← chainlinkIsFrozen r
      if frozen then y else z) = .ok d) :
    x = .ok d ∨ y = .ok d ∨ (ChainlinkLive r ∧ z = .ok d) := by
  rcases ite_eq_ok.1 h with ⟨-, h⟩ | ⟨hb, h⟩
  · exact Or.inl h
  · obtain ⟨frozen, hf, h⟩ := bind_eq_ok.1 h
    cases frozen with
    | true => exact Or.inr (Or.inl h)
    | false => exact Or.inr (Or.inr ⟨⟨Bool.eq_false_of_not_eq_true hb, hf⟩, h⟩)

theorem tellor_branch (h : (if tellorIsBroken r then x else do
      let frozen ← tellorIsFrozen r
      if frozen then y else z) = .ok d) :
    (tellorIsBroken r = true ∧ x = .ok d) ∨ y = .ok d ∨ (TellorLive r ∧ z = .ok d) := by
  rcases ite_eq_ok.1 h with ⟨hb, h⟩ | ⟨hb, h⟩
  · exact Or.inl ⟨hb, h⟩
  · obtain ⟨frozen, hf, h⟩ := bind_eq_ok.1 h
    cases frozen with
    | true => exact Or.inr (Or.inl h)
    | false => exact Or.inr (Or.inr ⟨⟨Bool.eq_false_of_not_eq_true hb, hf⟩, h⟩)

theorem bothOraclesLiveAndUnbrokenAndSimilarPrice_eq_true :
    bothOraclesLiveAndUnbrokenAndSimilarPrice r = .ok true ↔ BothAgree r := by
  unfold bothOraclesLiveAndUnbrokenAndSimilarPrice
  constructor
  · intro h
    rcases ite_eq_ok.1 h with ⟨-, h⟩ | ⟨ht, h⟩
    · cases pure_eq_ok.1 h
    · obtain ⟨tellorFrozen, htf, h⟩ := bind_eq_ok.1 h
      rcases ite_eq_ok.1 h with ⟨-, h⟩ | ⟨htf', h⟩
      · cases pure_eq_ok.1 h
      · rcases ite_eq_ok.1 h with ⟨-, h⟩ | ⟨hc, h⟩
        · cases pure_eq_ok.1 h
        · obtain ⟨chainlinkFrozen, hcf, h⟩ := bind_eq_ok.1 h
          rcases ite_eq_ok.1 h with ⟨-, h⟩ | ⟨hcf', h⟩
          · cases pure_eq_ok.1 h
          · rw [Bool.eq_false_of_not_eq_true htf'] at htf
            rw [Bool.eq_false_of_not_eq_true hcf'] at hcf
            exact ⟨⟨Bool.eq_false_of_not_eq_true hc, hcf⟩,
              ⟨Bool.eq_false_of_not_eq_true ht, htf⟩, h⟩
  · rintro ⟨⟨hc, hcf⟩, ⟨ht, htf⟩, hsimilar⟩
    simp only [hc, hcf, ht, htf, ok_bind, Bool.false_eq_true, if_false, hsimilar]

end Branches

/-- What holds of every decision. A Chainlink price above the maximal change is only stored when
Tellor confirms it, or unseen when Tellor is found broken while Chainlink was frozen. -/
structure Justified (r : Responses) (status : Status) (d : Decision) : Prop where
  chainlink : d.source = .chainlink → ChainlinkLive r
  tellor : d.source = .tellor → TellorLive r
  recovered : d.status = .chainlinkWorking → status = .chainlinkWorking ∨ BothAgree r
  change : d.source = .chainlink → chainlinkPriceChangeAboveMax r = .ok true →
    BothAgree r ∨ status = .usingTellorChainlinkFrozen ∧ tellorIsBroken r = true

namespace Justified

theorem ofLastGoodPrice (h : next ≠ .chainlinkWorking) :
    Justified r status ⟨next, .lastGoodPrice⟩ :=
  ⟨nofun, nofun, fun hn => absurd hn h, nofun⟩

theorem ofTellor (h : next ≠ .chainlinkWorking) (ht : TellorLive r) :
    Justified r status ⟨next, .tellor⟩ :=
  ⟨nofun, fun _ => ht, fun hn => absurd hn h, nofun⟩

theorem ofBothAgree (h : BothAgree r) : Justified r status ⟨.chainlinkWorking, .chainlink⟩ :=
  ⟨fun _ => h.chainlink, nofun, fun _ => Or.inr h, fun _ _ => Or.inl h⟩

theorem ofSmallChange (h : ChainlinkLive r) (hchange : chainlinkPriceChangeAboveMax r = .ok false)
    (hn : next = .chainlinkWorking → status = .chainlinkWorking) :
    Justified r status ⟨next, .chainlink⟩ := by
  refine ⟨fun _ => h, nofun, fun hw => Or.inl (hn hw), fun _ habove => ?_⟩
  rw [hchange] at habove
  cases habove

end Justified

section Cases

theorem decideChainlinkWorking_justified (h : decideChainlinkWorking r = .ok d) :
    Justified r .chainlinkWorking d := by
  rcases chainlink_branch h with h | h | ⟨hc, h⟩
  · rcases tellor_branch h with ⟨-, h⟩ | h | ⟨ht, h⟩
    · exact pure_eq_ok.1 h ▸ .ofLastGoodPrice nofun
    · exact pure_eq_ok.1 h ▸ .ofLastGoodPrice nofun
    · exact pure_eq_ok.1 h ▸ .ofTellor nofun ht
  · rcases tellor_branch h with ⟨-, h⟩ | h | ⟨ht, h⟩
    · exact pure_eq_ok.1 h ▸ .ofLastGoodPrice nofun
    · exact pure_eq_ok.1 h ▸ .ofLastGoodPrice nofun
    · exact pure_eq_ok.1 h ▸ .ofTellor nofun ht
  · obtain ⟨changeAboveMax, hchange, h⟩ := bind_eq_ok.1 h
    cases changeAboveMax with
    | true =>
      rw [if_pos rfl] at h
      rcases tellor_branch h with ⟨-, h⟩ | h | ⟨ht, h⟩
      · exact pure_eq_ok.1 h ▸ .ofLastGoodPrice nofun
      · exact pure_eq_ok.1 h ▸ .ofLastGoodPrice nofun
      · obtain ⟨similar, hsimilar, h⟩ := bind_eq_ok.1 h
        cases similar with
        | true => exact pure_eq_ok.1 h ▸ .ofBothAgree ⟨hc, ht, hsimilar⟩
        | false => exact pure_eq_ok.1 h ▸ .ofTellor nofun ht
    | false =>
      rw [if_neg Bool.false_ne_true] at h
      rcases ite_eq_ok.1 h with ⟨-, h⟩ | ⟨-, h⟩
      · exact pure_eq_ok.1 h ▸ .ofSmallChange hc hchange nofun
      · exact pure_eq_ok.1 h ▸ .ofSmallChange hc hchange (fun _ => rfl)

theorem decideChainlinkUntrusted_justified (h : decideChainlinkUntrusted r = .ok d) :
    Justified r status d := by
  obtain ⟨trusted, htrusted, h⟩ := bind_eq_ok.1 h
  cases trusted with
  | true =>
    have hagree := bothOraclesLiveAndUnbrokenAndSimilarPrice_eq_true.1 htrusted
    exact pure_eq_ok.1 h ▸ .ofBothAgree hagree
  | false =>
    rcases tellor_branch h with ⟨-, h⟩ | h | ⟨ht, h⟩
    · exact pure_eq_ok.1 h ▸ .ofLastGoodPrice nofun
    · exact pure_eq_ok.1 h ▸ .ofLastGoodPrice nofun
    · exact pure_eq_ok.1 h ▸ .ofTellor nofun ht

theorem decideBothUntrusted_justified (h : decideBothUntrusted r = .ok d) :
    Justified r status d := by
  obtain ⟨trusted, htrusted, h⟩ := bind_eq_ok.1 h
  cases trusted with
  | true =>
    have hagree := bothOraclesLiveAndUnbrokenAndSimilarPrice_eq_true.1 htrusted
    exact pure_eq_ok.1 h ▸ .ofBothAgree hagree
  | false => exact pure_eq_ok.1 h ▸ .ofLastGoodPrice nofun

theorem decideChainlinkFrozen_justified (h : decideChainlinkFrozen r = .ok d) :
    Justified r .usingTellorChainlinkFrozen d := by
  rcases chainlink_branch h with h | h | ⟨hc, h⟩
  · rcases tellor_branch h with ⟨-, h⟩ | h | ⟨ht, h⟩
    · exact pure_eq_ok.1 h ▸ .ofLastGoodPrice nofun
    · exact pure_eq_ok.1 h ▸ .ofLastGoodPrice nofun
    · exact pure_eq_ok.1 h ▸ .ofTellor nofun ht
  · rcases tellor_branch h with ⟨-, h⟩ | h | ⟨ht, h⟩
    · exact pure_eq_ok.1 h ▸ .ofLastGoodPrice nofun
    · exact pure_eq_ok.1 h ▸ .ofLastGoodPrice nofun
    · exact pure_eq_ok.1 h ▸ .ofTellor nofun ht
  · rcases tellor_branch h with ⟨ht, h⟩ | h | ⟨ht, h⟩
    · refine pure_eq_ok.1 h ▸ ⟨fun _ => hc, nofun, nofun, fun _ _ => Or.inr ⟨rfl, ht⟩⟩
    · exact pure_eq_ok.1 h ▸ .ofLastGoodPrice nofun
    · obtain ⟨similar, hsimilar, h⟩ := bind_eq_ok.1 h
      cases similar with
      | true => exact pure_eq_ok.1 h ▸ .ofBothAgree ⟨hc, ht, hsimilar⟩
      | false => exact pure_eq_ok.1 h ▸ .ofTellor nofun ht

theorem decideTellorUntrusted_justified (h : decideTellorUntrusted r = .ok d) :
    Justified r status d := by
  rcases chainlink_branch h with h | h | ⟨hc, h⟩
  · exact pure_eq_ok.1 h ▸ .ofLastGoodPrice nofun
  · exact pure_eq_ok.1 h ▸ .ofLastGoodPrice nofun
  · obtain ⟨trusted, htrusted, h⟩ := bind_eq_ok.1 h
    cases trusted with
    | true =>
      have hagree := bothOraclesLiveAndUnbrokenAndSimilarPrice_eq_true.1 htrusted
      exact pure_eq_ok.1 h ▸ .ofBothAgree hagree
    | false =>
      obtain ⟨changeAboveMax, hchange, h⟩ := bind_eq_ok.1 h
      cases changeAboveMax with
      | true => exact pure_eq_ok.1 h ▸ .ofLastGoodPrice nofun
      | false => exact pure_eq_ok.1 h ▸ .ofSmallChange hc hchange nofun

theorem decision_justified (h : decision r status = .ok d) : Justified r status d := by
  cases status with
  | chainlinkWorking => exact decideChainlinkWorking_justified h
  | usingTellorChainlinkUntrusted => exact decideChainlinkUntrusted_justified h
  | bothOraclesUntrusted => exact decideBothUntrusted_justified h
  | usingTellorChainlinkFrozen => exact decideChainlinkFrozen_justified h
  | usingChainlinkTellorUntrusted => exact decideTellorUntrusted_justified h

end Cases

section Fetching

variable {priceFeed priceFeed' : PriceFeeds} {price : ℕ}

theorem useSource_eq_ok {source : Source}
    (h : useSource priceFeed r source = .ok (priceFeed', price)) :
    priceFeed' = { priceFeed with lastGoodPrice := price } ∧
      ((source = .lastGoodPrice ∧ price = priceFeed.lastGoodPrice) ∨
        (source = .tellor ∧ scaleTellorPriceByDigits r.tellor.value = .ok price) ∨
        (source = .chainlink ∧ chainlinkPrice r.chainlink = .ok price)) := by
  cases source with
  | lastGoodPrice =>
    cases pure_eq_ok.1 h
    exact ⟨rfl, Or.inl ⟨rfl, rfl⟩⟩
  | tellor =>
    obtain ⟨scaled, hscaled, h⟩ := bind_eq_ok.1 h
    cases pure_eq_ok.1 h
    exact ⟨rfl, Or.inr (Or.inl ⟨rfl, hscaled⟩)⟩
  | chainlink =>
    obtain ⟨scaled, hscaled, h⟩ := bind_eq_ok.1 h
    cases pure_eq_ok.1 h
    exact ⟨rfl, Or.inr (Or.inr ⟨rfl, hscaled⟩)⟩

theorem fetch_eq_ok (h : fetch priceFeed r = .ok (priceFeed', price)) : ∃ d,
    decision r priceFeed.status = .ok d ∧ Justified r priceFeed.status d ∧
      useSource (changeStatus priceFeed d.status) r d.source = .ok (priceFeed', price) ∧
      priceFeed' = { priceFeed with lastGoodPrice := price, status := d.status } := by
  obtain ⟨d, hd, h⟩ := bind_eq_ok.1 h
  exact ⟨d, hd, decision_justified hd, h, (useSource_eq_ok h).1⟩

variable {o : Oracles} {timestamp : ℕ} {priceFeeds priceFeeds' : Address → PriceFeeds}
  {collToken : Address}

theorem fetchPrice_eq_ok
    (h : fetchPrice o timestamp priceFeeds collToken = .ok (priceFeeds', price)) :
    ∃ priceFeed', fetch (priceFeeds collToken)
        (getResponses o (priceFeeds collToken) timestamp) = .ok (priceFeed', price) ∧
      priceFeeds' = Function.update priceFeeds collToken priceFeed' := by
  obtain ⟨_, -, h⟩ := bind_eq_ok.1 h
  obtain ⟨⟨priceFeed', _⟩, hfetch, h⟩ := bind_eq_ok.1 h
  cases pure_eq_ok.1 h
  exact ⟨priceFeed', hfetch, rfl⟩

end Fetching

section Results

/-- The call goes through and stores the price of Chainlink. -/
def StoresChainlink (o : Oracles) (timestamp : ℕ) (priceFeeds : Address → PriceFeeds)
    (collToken : Address) : Prop :=
  ∃ priceFeeds' price d,
    fetchPrice o timestamp priceFeeds collToken = .ok (priceFeeds', price) ∧
      decision (getResponses o (priceFeeds collToken) timestamp) (priceFeeds collToken).status =
        .ok d ∧ d.source = .chainlink

variable {o : Oracles} {timestamp price : ℕ} {priceFeeds priceFeeds' : Address → PriceFeeds}
  {collToken : Address}

theorem fetchPrice_trusted
    (h : fetchPrice o timestamp priceFeeds collToken = .ok (priceFeeds', price))
    (hr : r = getResponses o (priceFeeds collToken) timestamp) :
    (priceFeeds' collToken).lastGoodPrice = price ∧
      (price = (priceFeeds collToken).lastGoodPrice ∨
        (ChainlinkLive r ∧ chainlinkPrice r.chainlink = .ok price) ∨
        (TellorLive r ∧ scaleTellorPriceByDigits r.tellor.value = .ok price)) ∧
      ((priceFeeds' collToken).status = .chainlinkWorking →
        (priceFeeds collToken).status = .chainlinkWorking ∨ BothAgree r) ∧
      ∀ other, other ≠ collToken → priceFeeds' other = priceFeeds other := by
  subst hr
  obtain ⟨priceFeed', hfetch, rfl⟩ := fetchPrice_eq_ok h
  obtain ⟨d, -, hd, huse, rfl⟩ := fetch_eq_ok hfetch
  rw [Function.update_self]
  refine ⟨rfl, ?_, hd.recovered, fun other ho => Function.update_of_ne ho _ _⟩
  obtain ⟨-, ⟨-, hprice⟩ | ⟨hsource, hprice⟩ | ⟨hsource, hprice⟩⟩ := useSource_eq_ok huse
  · exact Or.inl hprice
  · exact Or.inr (Or.inr ⟨hd.tellor hsource, hprice⟩)
  · exact Or.inr (Or.inl ⟨hd.chainlink hsource, hprice⟩)

/-- Chainlink reports 500 after 100, at 8 digits. -/
def sampleAggregator : Aggregator where
  decimals := some ⟨8, by decide⟩
  latestRoundData := some ⟨⟨2, by decide⟩, 500 * 10 ^ 8, 1000⟩
  getRoundData := fun _ => some ⟨⟨1, by decide⟩, 100 * 10 ^ 8, 900⟩

def sampleOracles (tellorCaller : Option TellorValue) : Oracles :=
  ⟨fun _ => sampleAggregator, fun _ => tellorCaller⟩

def sampleFeeds (status : Status) : Address → PriceFeeds :=
  fun _ => ⟨113, 114, 100 * decimalPrecision, status⟩

/-- Tellor confirms the jump of Chainlink. -/
theorem fetchPrice_trusted_of_jump : ∃ priceFeeds' price,
    fetchPrice (sampleOracles (some ⟨true, 500 * 10 ^ 6, 1000⟩)) 1000
      (sampleFeeds .usingTellorChainlinkUntrusted) 112 = .ok (priceFeeds', price) ∧
      (priceFeeds' 112).lastGoodPrice = price := by
  obtain ⟨⟨priceFeeds', price⟩, h, -⟩ : ∃ r,
      fetchPrice (sampleOracles (some ⟨true, 500 * 10 ^ 6, 1000⟩)) 1000
        (sampleFeeds .usingTellorChainlinkUntrusted) 112 = .ok r ∧
      r.2 = 500 * decimalPrecision := by decide +kernel
  exact ⟨priceFeeds', price, h, (fetchPrice_trusted h rfl).1⟩

end Results

end Usdd.PriceFeed
