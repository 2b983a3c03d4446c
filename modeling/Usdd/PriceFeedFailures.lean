import Usdd.PriceFeedTrust

/-!
# When fetching a price fails

The branches of `fetchPrice` scale and compare prices of any size. A call goes through, with a
positive price, exactly when the numbers of its branch fit.
-/

open Transaction

namespace Usdd.PriceFeed

variable {r : Responses} {c : ChainlinkResponse} {priceFeed : PriceFeeds} {price : ℕ}

section Scaling

def scaledChainlink (c : ChainlinkResponse) : ℕ :=
  if (c.decimals : ℕ) ≥ targetDigits then c.answer.toNat / pow10 (c.decimals - targetDigits)
  else c.answer.toNat * 10 ^ (targetDigits - c.decimals)

def ChainlinkScales (c : ChainlinkResponse) : Prop :=
  (c.decimals : ℕ) < targetDigits → c.answer.toNat * 10 ^ (targetDigits - c.decimals) < 2 ^ 256

def scaledTellor (r : Responses) : ℕ := r.tellor.value * 10 ^ 12

def TellorScales (r : Responses) : Prop := scaledTellor r < 2 ^ 256

theorem mul_eq_ok {a b c : ℕ} : mul a b = .ok c ↔ a * b < 2 ^ 256 ∧ a * b = c := by
  unfold mul
  split_ifs with h
  · rw [Except.ok.injEq]
    exact ⟨fun hc => ⟨h, hc⟩, And.right⟩
  · exact ⟨nofun, fun hc => absurd hc.1 h⟩

theorem pow10_of_le {n : ℕ} (h : n ≤ targetDigits) : pow10 n = 10 ^ n := by
  apply Nat.mod_eq_of_lt
  calc
    10 ^ n ≤ 10 ^ targetDigits := Nat.pow_le_pow_right (by decide) h
    _ < 2 ^ 256 := by decide

/-- Wrapped around, the powers up to the largest number of digits are not zero. -/
theorem pow10_ne_zero : ∀ n < 256, pow10 n ≠ 0 := by decide +kernel

theorem chainlinkPrice_eq_ok_iff :
    chainlinkPrice c = .ok price ↔ ChainlinkScales c ∧ scaledChainlink c = price := by
  unfold chainlinkPrice scaleChainlinkPriceByDigits ChainlinkScales scaledChainlink
  by_cases hd : (c.decimals : ℕ) ≥ targetDigits
  · have hne : pow10 (c.decimals - targetDigits) ≠ 0 := by
      apply pow10_ne_zero
      have hlt := c.decimals.isLt
      omega
    rw [if_pos hd, if_pos hd, div_eq_ok]
    exact ⟨fun h => ⟨fun hlt => absurd hd (Nat.not_le.2 hlt), h.2⟩, fun h => ⟨hne, h.2⟩⟩
  · rw [if_neg hd, if_neg hd, mul_eq_ok, pow10_of_le (Nat.sub_le _ _)]
    exact ⟨fun h => ⟨fun _ => h.1, h.2⟩, fun h => ⟨h.1 (Nat.not_le.1 hd), h.2⟩⟩

theorem scaleTellorPriceByDigits_eq_ok_iff :
    scaleTellorPriceByDigits r.tellor.value = .ok price ↔ TellorScales r ∧ scaledTellor r = price :=
  mul_eq_ok

/-- The difference of two prices relative to one of them can be computed. -/
def Comparable (a b reference : ℕ) : Prop :=
  (max a b - min a b) * decimalPrecision < 2 ^ 256 ∧ reference ≠ 0

def ChangeFits (r : Responses) : Prop :=
  ChainlinkScales r.chainlink ∧ ChainlinkScales r.prevChainlink ∧
    Comparable (scaledChainlink r.chainlink) (scaledChainlink r.prevChainlink)
      (max (scaledChainlink r.chainlink) (scaledChainlink r.prevChainlink))

def SimilarFits (r : Responses) : Prop :=
  ChainlinkScales r.chainlink ∧ TellorScales r ∧
    Comparable (scaledTellor r) (scaledChainlink r.chainlink)
      (min (scaledTellor r) (scaledChainlink r.chainlink))

theorem chainlinkPriceChangeAboveMax_eq_ok_iff {above : Bool} :
    chainlinkPriceChangeAboveMax r = .ok above ↔ ChangeFits r ∧
      above = decide ((max (scaledChainlink r.chainlink) (scaledChainlink r.prevChainlink) -
          min (scaledChainlink r.chainlink) (scaledChainlink r.prevChainlink)) * decimalPrecision /
        max (scaledChainlink r.chainlink) (scaledChainlink r.prevChainlink) >
          maxPriceDeviationFromPreviousRound) := by
  unfold chainlinkPriceChangeAboveMax ChangeFits Comparable
  simp only [bind_eq_ok, chainlinkPrice_eq_ok_iff, sub_eq_ok, mul_eq_ok, div_eq_ok, pure_eq_ok]
  constructor
  · rintro ⟨_, ⟨hc, rfl⟩, _, ⟨hp, rfl⟩, _, ⟨-, rfl⟩, _, ⟨hlt, rfl⟩, _, ⟨hne, rfl⟩, rfl⟩
    exact ⟨⟨hc, hp, hlt, hne⟩, rfl⟩
  · rintro ⟨⟨hc, hp, hlt, hne⟩, rfl⟩
    exact ⟨_, ⟨hc, rfl⟩, _, ⟨hp, rfl⟩, _, ⟨min_le_max, rfl⟩, _, ⟨hlt, rfl⟩, _, ⟨hne, rfl⟩, rfl⟩

theorem bothOraclesSimilarPrice_eq_ok_iff {similar : Bool} :
    bothOraclesSimilarPrice r = .ok similar ↔ SimilarFits r ∧
      similar = decide ((max (scaledTellor r) (scaledChainlink r.chainlink) -
          min (scaledTellor r) (scaledChainlink r.chainlink)) * decimalPrecision /
        min (scaledTellor r) (scaledChainlink r.chainlink) ≤ maxPriceDifferenceBetweenOracles) := by
  unfold bothOraclesSimilarPrice SimilarFits Comparable
  simp only [bind_eq_ok, chainlinkPrice_eq_ok_iff, scaleTellorPriceByDigits_eq_ok_iff, sub_eq_ok,
    mul_eq_ok, div_eq_ok, pure_eq_ok]
  constructor
  · rintro ⟨_, ⟨hc, rfl⟩, _, ⟨ht, rfl⟩, _, ⟨-, rfl⟩, _, ⟨hlt, rfl⟩, _, ⟨hne, rfl⟩, rfl⟩
    exact ⟨⟨hc, ht, hlt, hne⟩, rfl⟩
  · rintro ⟨⟨hc, ht, hlt, hne⟩, rfl⟩
    exact ⟨_, ⟨hc, rfl⟩, _, ⟨ht, rfl⟩, _, ⟨min_le_max, rfl⟩, _, ⟨hlt, rfl⟩, _, ⟨hne, rfl⟩, rfl⟩

theorem SimilarFits.pos (h : SimilarFits r) : 0 < scaledChainlink r.chainlink := by
  obtain ⟨-, -, -, hne⟩ := h
  omega

/-- A price that has lost everything has changed by more than the maximum. -/
theorem pos_of_small_change (h : chainlinkPriceChangeAboveMax r = .ok false) :
    0 < scaledChainlink r.chainlink := by
  obtain ⟨⟨-, -, -, hne⟩, habove⟩ := chainlinkPriceChangeAboveMax_eq_ok_iff.1 h
  apply Nat.pos_of_ne_zero
  intro hz
  rw [hz, Nat.zero_max, Nat.zero_min, Nat.sub_zero] at habove
  rw [hz, Nat.zero_max] at hne
  rw [Nat.mul_div_cancel_left _ (Nat.pos_of_ne_zero hne)] at habove
  exact absurd habove (by decide)

end Scaling

section Answers

/-- The price of a decision is there and positive. -/
def Pays (priceFeed : PriceFeeds) (r : Responses) (d : Decision) : Prop :=
  ∃ priceFeed' price, useSource (changeStatus priceFeed d.status) r d.source =
    .ok (priceFeed', price) ∧ 0 < price

/-- A decision is made, and it pays. -/
def Answers (priceFeed : PriceFeeds) (r : Responses) (x : Tx Decision) : Prop :=
  ∃ d, x = .ok d ∧ Pays priceFeed r d

variable {status : Status}

theorem answers_pure {d : Decision} : Answers priceFeed r (pure d) ↔ Pays priceFeed r d := by
  constructor
  · rintro ⟨d', hd, h⟩
    exact pure_eq_ok.1 hd ▸ h
  · exact fun h => ⟨d, rfl, h⟩

theorem answers_bind {x : Tx Bool} {f : Bool → Tx Decision} :
    Answers priceFeed r (x >>= f) ↔ ∃ b, x = .ok b ∧ Answers priceFeed r (f b) := by
  constructor
  · rintro ⟨d, hd, h⟩
    obtain ⟨b, hb, hd⟩ := bind_eq_ok.1 hd
    exact ⟨b, hb, d, hd, h⟩
  · rintro ⟨b, hb, d, hd, h⟩
    exact ⟨d, bind_eq_ok.2 ⟨b, hb, hd⟩, h⟩

theorem pays_lastGoodPrice (h : 0 < priceFeed.lastGoodPrice) :
    Pays priceFeed r ⟨status, .lastGoodPrice⟩ := ⟨_, _, rfl, h⟩

theorem pays_tellor (h : TellorLive r) :
    Pays priceFeed r ⟨status, .tellor⟩ ↔ TellorScales r := by
  constructor
  · rintro ⟨_, _, h, -⟩
    obtain ⟨_, hprice, -⟩ := bind_eq_ok.1 h
    exact (scaleTellorPriceByDigits_eq_ok_iff.1 hprice).1
  · intro hscales
    have hpos : 0 < scaledTellor r := Nat.mul_pos h.value_pos (by decide)
    exact ⟨_, _, bind_eq_ok.2 ⟨_, scaleTellorPriceByDigits_eq_ok_iff.2 ⟨hscales, rfl⟩, rfl⟩, hpos⟩

theorem pays_chainlink : Pays priceFeed r ⟨status, .chainlink⟩ ↔
    ChainlinkScales r.chainlink ∧ 0 < scaledChainlink r.chainlink := by
  constructor
  · rintro ⟨_, price, h, hpos⟩
    obtain ⟨_, hprice, h⟩ := bind_eq_ok.1 h
    cases pure_eq_ok.1 h
    obtain ⟨hscales, rfl⟩ := chainlinkPrice_eq_ok_iff.1 hprice
    exact ⟨hscales, hpos⟩
  · rintro ⟨hscales, hpos⟩
    exact ⟨_, _, bind_eq_ok.2 ⟨_, chainlinkPrice_eq_ok_iff.2 ⟨hscales, rfl⟩, rfl⟩, hpos⟩

theorem fetch_answers : (∃ priceFeed' price, fetch priceFeed r = .ok (priceFeed', price) ∧ 0 < price) ↔
    Answers priceFeed r (decision r priceFeed.status) := by
  constructor
  · rintro ⟨priceFeed', price, h, hpos⟩
    obtain ⟨d, hd, -, huse, -⟩ := fetch_eq_ok h
    exact ⟨d, hd, priceFeed', price, huse, hpos⟩
  · rintro ⟨d, hd, priceFeed', price, huse, hpos⟩
    exact ⟨priceFeed', price, bind_eq_ok.2 ⟨d, hd, huse⟩, hpos⟩

end Answers

section Branches

variable {x y z : Tx Decision} {f : Bool → Tx Decision}

theorem answers_chainlink_branch :
    Answers priceFeed r (if chainlinkIsBroken r then x else do
      let frozen ← chainlinkIsFrozen r
      if frozen then y else z) ↔
    (chainlinkIsBroken r = true → Answers priceFeed r x) ∧
      (chainlinkIsBroken r = false ∧ chainlinkIsFrozen r = .ok true → Answers priceFeed r y) ∧
      (ChainlinkLive r → Answers priceFeed r z) := by
  rcases chainlink_cases r with hb | ⟨hb, hf⟩ | ⟨hb, hf⟩
  · simp [ChainlinkLive, hb]
  · simp [ChainlinkLive, hb, hf, ok_bind]
  · simp [ChainlinkLive, hb, hf, ok_bind]

theorem answers_tellor_branch :
    Answers priceFeed r (if tellorIsBroken r then x else do
      let frozen ← tellorIsFrozen r
      if frozen then y else z) ↔
    (tellorIsBroken r = true → Answers priceFeed r x) ∧
      (tellorIsBroken r = false ∧ tellorIsFrozen r = .ok true → Answers priceFeed r y) ∧
      (TellorLive r → Answers priceFeed r z) := by
  rcases tellor_cases r with hb | ⟨hb, hf⟩ | ⟨hb, hf⟩
  · simp [TellorLive, hb]
  · simp [TellorLive, hb, hf, ok_bind]
  · simp [TellorLive, hb, hf, ok_bind]

/-- The prices are only compared when both oracles are live. -/
theorem bothOraclesLiveAndUnbrokenAndSimilarPrice_eq (r : Responses) :
    (ChainlinkLive r ∧ TellorLive r ∧
        bothOraclesLiveAndUnbrokenAndSimilarPrice r = bothOraclesSimilarPrice r) ∨
      (¬ (ChainlinkLive r ∧ TellorLive r) ∧
        bothOraclesLiveAndUnbrokenAndSimilarPrice r = .ok false) := by
  unfold bothOraclesLiveAndUnbrokenAndSimilarPrice
  rcases tellor_cases r with ht | ⟨ht, htf⟩ | ⟨ht, htf⟩
  · refine Or.inr ⟨fun h => ?_, by simp [ht]⟩
    rw [h.2.1] at ht
    cases ht
  · refine Or.inr ⟨fun h => ?_, by simp [ht, htf, ok_bind]⟩
    rw [h.2.2] at htf
    cases htf
  · rcases chainlink_cases r with hc | ⟨hc, hcf⟩ | ⟨hc, hcf⟩
    · refine Or.inr ⟨fun h => ?_, by simp [ht, htf, hc]⟩
      rw [h.1.1] at hc
      cases hc
    · refine Or.inr ⟨fun h => ?_, by simp [ht, htf, hc, hcf, ok_bind]⟩
      rw [h.1.2] at hcf
      cases hcf
    · exact Or.inl ⟨⟨hc, hcf⟩, ⟨ht, htf⟩, by simp [ht, htf, hc, hcf, ok_bind]⟩

theorem answers_trusted_branch :
    Answers priceFeed r (do
      let trusted ← bothOraclesLiveAndUnbrokenAndSimilarPrice r
      f trusted) ↔
    (ChainlinkLive r → TellorLive r → ∃ similar, bothOraclesSimilarPrice r = .ok similar ∧
        Answers priceFeed r (f similar)) ∧
      (¬ (ChainlinkLive r ∧ TellorLive r) → Answers priceFeed r (f false)) := by
  rw [answers_bind]
  rcases bothOraclesLiveAndUnbrokenAndSimilarPrice_eq r with ⟨hc, ht, heq⟩ | ⟨hnot, heq⟩
  · rw [heq]
    exact ⟨fun h => ⟨fun _ _ => h, fun hn => absurd ⟨hc, ht⟩ hn⟩, fun h => h.1 hc ht⟩
  · rw [heq]
    constructor
    · rintro ⟨b, hb, h⟩
      cases hb
      exact ⟨fun hc ht => absurd ⟨hc, ht⟩ hnot, fun _ => h⟩
    · exact fun h => ⟨false, rfl, h.2 hnot⟩

theorem similar_answers (ht : TellorLive r) {next : Status} :
    (∃ similar, bothOraclesSimilarPrice r = .ok similar ∧
      Answers priceFeed r (if similar then pure ⟨.chainlinkWorking, .chainlink⟩
        else pure ⟨next, .tellor⟩)) ↔ SimilarFits r := by
  constructor
  · rintro ⟨similar, hsimilar, -⟩
    exact (bothOraclesSimilarPrice_eq_ok_iff.1 hsimilar).1
  · intro h
    refine ⟨_, bothOraclesSimilarPrice_eq_ok_iff.2 ⟨h, rfl⟩, ?_⟩
    split_ifs
    · exact answers_pure.2 (pays_chainlink.2 ⟨h.1, h.pos⟩)
    · exact answers_pure.2 ((pays_tellor ht).2 h.2.1)

end Branches

section Cases

/-- The numbers of the branch that the status and the responses lead to fit. -/
def PricesFit (r : Responses) : Status → Prop
  | .chainlinkWorking =>
      (¬ ChainlinkLive r → TellorLive r → TellorScales r) ∧
        (ChainlinkLive r → ChangeFits r ∧
          (chainlinkPriceChangeAboveMax r = .ok true → TellorLive r → SimilarFits r))
  | .usingTellorChainlinkUntrusted =>
      TellorLive r → TellorScales r ∧ (ChainlinkLive r → SimilarFits r)
  | .bothOraclesUntrusted => ChainlinkLive r → TellorLive r → SimilarFits r
  | .usingTellorChainlinkFrozen =>
      (¬ ChainlinkLive r → TellorLive r → TellorScales r) ∧
        (ChainlinkLive r →
          (tellorIsBroken r = true →
            ChainlinkScales r.chainlink ∧ 0 < scaledChainlink r.chainlink) ∧
          (TellorLive r → SimilarFits r))
  | .usingChainlinkTellorUntrusted =>
      ChainlinkLive r → (TellorLive r → SimilarFits r) ∧
        (¬ (TellorLive r ∧ bothOraclesSimilarPrice r = .ok true) → ChangeFits r)

/-- Any status may follow where Tellor is used instead of Chainlink. -/
theorem fallback_answers (hpos : 0 < priceFeed.lastGoodPrice) {s₁ s₂ s₃ : Status} :
    Answers priceFeed r (if tellorIsBroken r then pure ⟨s₁, .lastGoodPrice⟩ else do
      let frozen ← tellorIsFrozen r
      if frozen then pure ⟨s₂, .lastGoodPrice⟩ else pure ⟨s₃, .tellor⟩) ↔
    (TellorLive r → TellorScales r) := by
  rw [answers_tellor_branch, answers_pure, answers_pure, answers_pure]
  constructor
  · exact fun h ht => (pays_tellor ht).1 (h.2.2 ht)
  · exact fun h => ⟨fun _ => pays_lastGoodPrice hpos, fun _ => pays_lastGoodPrice hpos,
      fun ht => (pays_tellor ht).2 (h ht)⟩

theorem not_live_of_broken (h : chainlinkIsBroken r = true) : ¬ ChainlinkLive r := by
  rintro ⟨hb, -⟩
  rw [h] at hb
  cases hb

theorem not_live_of_frozen (h : chainlinkIsFrozen r = .ok true) : ¬ ChainlinkLive r := by
  rintro ⟨-, hf⟩
  rw [h] at hf
  cases hf

theorem broken_or_frozen (h : ¬ ChainlinkLive r) : chainlinkIsBroken r = true ∨
    chainlinkIsBroken r = false ∧ chainlinkIsFrozen r = .ok true := by
  rcases chainlink_cases r with hb | hf | hlive
  · exact Or.inl hb
  · exact Or.inr hf
  · exact absurd hlive h

theorem decideChainlinkWorking_answers (hpos : 0 < priceFeed.lastGoodPrice) :
    Answers priceFeed r (decideChainlinkWorking r) ↔ PricesFit r .chainlinkWorking := by
  unfold decideChainlinkWorking
  rw [answers_chainlink_branch, fallback_answers hpos, fallback_answers hpos, answers_bind]
  constructor
  · rintro ⟨hbroken, hfrozen, hlive⟩
    refine ⟨fun hnot => (broken_or_frozen hnot).elim hbroken hfrozen, fun hc => ?_⟩
    obtain ⟨above, habove, h⟩ := hlive hc
    refine ⟨(chainlinkPriceChangeAboveMax_eq_ok_iff.1 habove).1, fun htrue ht => ?_⟩
    rw [htrue] at habove
    cases habove
    obtain ⟨-, -, h⟩ := answers_tellor_branch.1 h
    exact (similar_answers ht).1 (answers_bind.1 (h ht))
  · rintro ⟨hnot, hlive⟩
    refine ⟨fun hb => hnot (not_live_of_broken hb), fun hf => hnot (not_live_of_frozen hf.2),
      fun hc => ?_⟩
    obtain ⟨hchange, hsimilar⟩ := hlive hc
    obtain ⟨above, habove⟩ : ∃ above, chainlinkPriceChangeAboveMax r = .ok above :=
      ⟨_, chainlinkPriceChangeAboveMax_eq_ok_iff.2 ⟨hchange, rfl⟩⟩
    refine ⟨above, habove, ?_⟩
    cases above with
    | true =>
      exact answers_tellor_branch.2 ⟨fun _ => answers_pure.2 (pays_lastGoodPrice hpos),
        fun _ => answers_pure.2 (pays_lastGoodPrice hpos),
        fun ht => answers_bind.2 ((similar_answers ht).2 (hsimilar habove ht))⟩
    | false =>
      have hpays (s : Status) : Answers priceFeed r (pure ⟨s, .chainlink⟩) :=
        answers_pure.2 (pays_chainlink.2 ⟨hchange.1, pos_of_small_change habove⟩)
      rw [if_neg Bool.false_ne_true]
      split_ifs
      · exact hpays _
      · exact hpays _

theorem decideChainlinkUntrusted_answers (hpos : 0 < priceFeed.lastGoodPrice) :
    Answers priceFeed r (decideChainlinkUntrusted r) ↔
      PricesFit r .usingTellorChainlinkUntrusted := by
  unfold decideChainlinkUntrusted
  rw [answers_trusted_branch]
  constructor
  · rintro ⟨hboth, hnot⟩ ht
    by_cases hc : ChainlinkLive r
    · obtain ⟨similar, hsimilar, -⟩ := hboth hc ht
      have hfits := (bothOraclesSimilarPrice_eq_ok_iff.1 hsimilar).1
      exact ⟨hfits.2.1, fun _ => hfits⟩
    · have h := hnot (fun hct => hc hct.1)
      rw [if_neg Bool.false_ne_true] at h
      exact ⟨(fallback_answers hpos).1 h ht, fun hc' => absurd hc' hc⟩
  · intro h
    refine ⟨fun hc ht => ?_, fun _ => ?_⟩
    · have hfits := (h ht).2 hc
      obtain ⟨similar, hs⟩ : ∃ similar, bothOraclesSimilarPrice r = .ok similar :=
        ⟨_, bothOraclesSimilarPrice_eq_ok_iff.2 ⟨hfits, rfl⟩⟩
      refine ⟨similar, hs, ?_⟩
      cases similar with
      | true => exact answers_pure.2 (pays_chainlink.2 ⟨hfits.1, hfits.pos⟩)
      | false =>
        rw [if_neg Bool.false_ne_true]
        exact (fallback_answers hpos).2 (fun _ => hfits.2.1)
    · rw [if_neg Bool.false_ne_true]
      exact (fallback_answers hpos).2 (fun ht => (h ht).1)

theorem decideBothUntrusted_answers (hpos : 0 < priceFeed.lastGoodPrice) :
    Answers priceFeed r (decideBothUntrusted r) ↔ PricesFit r .bothOraclesUntrusted := by
  unfold decideBothUntrusted
  rw [answers_trusted_branch]
  constructor
  · rintro ⟨hboth, -⟩ hc ht
    obtain ⟨similar, hsimilar, -⟩ := hboth hc ht
    exact (bothOraclesSimilarPrice_eq_ok_iff.1 hsimilar).1
  · intro h
    refine ⟨fun hc ht => ?_, fun _ => answers_pure.2 (pays_lastGoodPrice hpos)⟩
    have hfits := h hc ht
    refine ⟨_, bothOraclesSimilarPrice_eq_ok_iff.2 ⟨hfits, rfl⟩, ?_⟩
    split_ifs
    · exact answers_pure.2 (pays_chainlink.2 ⟨hfits.1, hfits.pos⟩)
    · exact answers_pure.2 (pays_lastGoodPrice hpos)

theorem decideChainlinkFrozen_answers (hpos : 0 < priceFeed.lastGoodPrice) :
    Answers priceFeed r (decideChainlinkFrozen r) ↔ PricesFit r .usingTellorChainlinkFrozen := by
  unfold decideChainlinkFrozen
  rw [answers_chainlink_branch, fallback_answers hpos, fallback_answers hpos,
    answers_tellor_branch, answers_pure, answers_pure, answers_bind, pays_chainlink]
  constructor
  · rintro ⟨hbroken, hfrozen, hlive⟩
    refine ⟨fun hnot => (broken_or_frozen hnot).elim hbroken hfrozen, fun hc => ?_⟩
    obtain ⟨htb, -, ht⟩ := hlive hc
    exact ⟨htb, fun htl => (similar_answers htl).1 (ht htl)⟩
  · rintro ⟨hnot, hlive⟩
    refine ⟨fun hb => hnot (not_live_of_broken hb), fun hf => hnot (not_live_of_frozen hf.2),
      fun hc => ?_⟩
    obtain ⟨htb, ht⟩ := hlive hc
    exact ⟨htb, fun _ => pays_lastGoodPrice hpos, fun htl => (similar_answers htl).2 (ht htl)⟩

theorem decideTellorUntrusted_answers (hpos : 0 < priceFeed.lastGoodPrice) :
    Answers priceFeed r (decideTellorUntrusted r) ↔
      PricesFit r .usingChainlinkTellorUntrusted := by
  have huncorroborated : Answers priceFeed r (do
      let changeAboveMax ← chainlinkPriceChangeAboveMax r
      if changeAboveMax then pure ⟨.bothOraclesUntrusted, .lastGoodPrice⟩
      else pure ⟨.usingChainlinkTellorUntrusted, .chainlink⟩) ↔ ChangeFits r := by
    rw [answers_bind]
    constructor
    · rintro ⟨above, habove, -⟩
      exact (chainlinkPriceChangeAboveMax_eq_ok_iff.1 habove).1
    · intro hchange
      obtain ⟨above, habove⟩ : ∃ above, chainlinkPriceChangeAboveMax r = .ok above :=
        ⟨_, chainlinkPriceChangeAboveMax_eq_ok_iff.2 ⟨hchange, rfl⟩⟩
      refine ⟨above, habove, ?_⟩
      cases above with
      | true => exact answers_pure.2 (pays_lastGoodPrice hpos)
      | false =>
        exact answers_pure.2 (pays_chainlink.2 ⟨hchange.1, pos_of_small_change habove⟩)
  unfold decideTellorUntrusted
  rw [answers_chainlink_branch, answers_pure, answers_pure, answers_trusted_branch]
  constructor
  · rintro ⟨-, -, hlive⟩ hc
    obtain ⟨hboth, hnot⟩ := hlive hc
    refine ⟨fun ht => ?_, fun hsimilar => ?_⟩
    · obtain ⟨similar, hs, -⟩ := hboth hc ht
      exact (bothOraclesSimilarPrice_eq_ok_iff.1 hs).1
    · by_cases ht : TellorLive r
      · obtain ⟨similar, hs, h⟩ := hboth hc ht
        cases similar with
        | true => exact absurd ⟨ht, hs⟩ hsimilar
        | false => exact huncorroborated.1 h
      · exact huncorroborated.1 (hnot (fun hct => ht hct.2))
  · intro h
    refine ⟨fun _ => pays_lastGoodPrice hpos, fun _ => pays_lastGoodPrice hpos, fun hc => ?_⟩
    obtain ⟨hsimilar, hchange⟩ := h hc
    refine ⟨fun _ ht => ?_, fun hnot => ?_⟩
    · have hfits := hsimilar ht
      obtain ⟨similar, hs⟩ : ∃ similar, bothOraclesSimilarPrice r = .ok similar :=
        ⟨_, bothOraclesSimilarPrice_eq_ok_iff.2 ⟨hfits, rfl⟩⟩
      refine ⟨similar, hs, ?_⟩
      cases similar with
      | true => exact answers_pure.2 (pays_chainlink.2 ⟨hfits.1, hfits.pos⟩)
      | false =>
        refine huncorroborated.2 (hchange (fun hagree => ?_))
        rw [hs] at hagree
        cases hagree.2
    · exact huncorroborated.2 (hchange (fun hagree => hnot ⟨hc, hagree.1⟩))

theorem fetch_answers_iff (hpos : 0 < priceFeed.lastGoodPrice) :
    (∃ priceFeed' price, fetch priceFeed r = .ok (priceFeed', price) ∧ 0 < price) ↔
      PricesFit r priceFeed.status := by
  rw [fetch_answers]
  cases priceFeed.status with
  | chainlinkWorking => exact decideChainlinkWorking_answers hpos
  | usingTellorChainlinkUntrusted => exact decideChainlinkUntrusted_answers hpos
  | bothOraclesUntrusted => exact decideBothUntrusted_answers hpos
  | usingTellorChainlinkFrozen => exact decideChainlinkFrozen_answers hpos
  | usingChainlinkTellorUntrusted => exact decideTellorUntrusted_answers hpos

end Cases

section Results

variable {o : Oracles} {timestamp : ℕ} {priceFeeds : Address → PriceFeeds} {collToken : Address}

theorem fetchPrice_total_iff
    (hexists : (priceFeeds collToken).priceAggregator ≠ 0 ∧ (priceFeeds collToken).tellorCaller ≠ 0)
    (hpos : 0 < (priceFeeds collToken).lastGoodPrice) :
    (∃ priceFeeds' price,
        fetchPrice o timestamp priceFeeds collToken = .ok (priceFeeds', price) ∧ 0 < price) ↔
      PricesFit (getResponses o (priceFeeds collToken) timestamp) (priceFeeds collToken).status := by
  rw [← fetch_answers_iff hpos]
  constructor
  · rintro ⟨priceFeeds', price, h, hprice⟩
    obtain ⟨priceFeed', hfetch, -⟩ := fetchPrice_eq_ok h
    exact ⟨priceFeed', price, hfetch, hprice⟩
  · rintro ⟨priceFeed', price, hfetch, hprice⟩
    exact ⟨_, price, bind_eq_ok.2 ⟨(), require_eq_ok.2 hexists,
      bind_eq_ok.2 ⟨_, hfetch, rfl⟩⟩, hprice⟩

theorem fetchPrice_total_of_jump : PricesFit
    (getResponses (sampleOracles (some ⟨true, 500 * 10 ^ 6, 1000⟩))
      (sampleFeeds .chainlinkWorking 112) 1000) .chainlinkWorking := by
  obtain ⟨⟨priceFeeds', price⟩, h, hprice⟩ : ∃ r,
      fetchPrice (sampleOracles (some ⟨true, 500 * 10 ^ 6, 1000⟩)) 1000
        (sampleFeeds .chainlinkWorking) 112 = .ok r ∧ 0 < r.2 := by decide +kernel
  refine (fetchPrice_total_iff ?_ ?_).1 ⟨priceFeeds', price, h, hprice⟩
  · decide
  · decide

/-- Chainlink reverts, and the value of Tellor overflows when it is scaled. -/
theorem fetchPrice_overflows :
    fetchPrice ⟨fun _ => ⟨none, none, fun _ => none⟩, fun _ => some ⟨true, 2 ^ 256 - 1, 1000⟩⟩ 1000
      (sampleFeeds .chainlinkWorking) 112 =
        .error (.message "SafeMath: multiplication overflow") := by decide +kernel

end Results

end Usdd.PriceFeed
