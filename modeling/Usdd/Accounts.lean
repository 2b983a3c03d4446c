import Usdd.Registry
import Usdd.StabilityPoolWrites

/-!
# The accounts of a market

The active pool records exactly the debt and the collateral of the troves, up to what is owed
inside a transaction. The supply is the debt of the two pools, and the gas pool holds the reserve of
every trove. `Custody` says that the Stability Pool holds the deposits that it records and that no
contract has approved a spender.
-/

open Transaction

namespace Usdd

open TroveManager

structure Custody (D : Deployment) (b : Book) : Prop where
  deposits : b.pool.totalUSDDDeposits ≤ b.poolUSDD
  allowances : ∀ owner ∈ D.contracts, ∀ spender, b.allowances owner spender = 0

structure Accounts (b : Book) : Prop where
  debt : (b.activeDebt : ℤ) = (∑ a, (b.troveManager.troves a).debt : ℕ) + b.debtOwed
  coll : (b.activeColl : ℤ) = (∑ a, (b.troveManager.troves a).coll : ℕ) + b.collOwed
  supply : b.supply = b.activeDebt + b.defaultDebt
  gas : (usddGasCompensation : ℤ) * (b.troveManager.troveOwners.length + b.gasOwed) ≤ b.gas

namespace Accounts

variable {D : Deployment} {b b' : Book} {tm tm' : TroveManager} {id : Address}

theorem opens {coll debt stake gas poolUSDD : ℕ} {list : SortedTroves.Data}
    {journal : List JournalEntry} (h : Accounts b)
    (hdebt : (b.troveManager.troves id).debt = 0) (hcoll : (b.troveManager.troves id).coll = 0)
    (hgas : b.gas + usddGasCompensation ≤ gas) :
    Accounts { b with
      troveManager := b.troveManager.entered id coll debt stake
      sortedTroves := list
      activeDebt := b.activeDebt + debt
      activeColl := b.activeColl + coll
      supply := b.supply + debt
      gas := gas
      poolUSDD := poolUSDD
      journal := journal } := by
  have hf : Frame b.troveManager (b.troveManager.entered id coll debt stake) id := entered_frame
  have hself := entered_self b.troveManager id coll debt stake
  have hsd := hf.sum_debt
  have hsc := hf.sum_coll
  rw [hself, hdebt] at hsd
  rw [hself, hcoll] at hsc
  dsimp only at hsd hsc
  have h₁ := h.debt
  have h₂ := h.coll
  have h₃ := h.supply
  have h₄ := h.gas
  refine ⟨?_, ?_, ?_, ?_⟩
  · dsimp only
    omega
  · dsimp only
    omega
  · dsimp only
    omega
  · have hlen : (b.troveManager.entered id coll debt stake).troveOwners.length =
        b.troveManager.troveOwners.length + 1 := by simp [entered]
    show (usddGasCompensation : ℤ) *
      ((b.troveManager.entered id coll debt stake).troveOwners.length + b.gasOwed) ≤ gas
    rw [hlen]
    have hgas' : (b.gas : ℤ) + usddGasCompensation ≤ gas := by exact_mod_cast hgas
    push_cast
    linarith

theorem realises {coll debt : ℕ} (h : Accounts b) (hdebt : debt ≤ b.defaultDebt) :
    Accounts { b with
      troveManager := b.troveManager.realised id coll debt
      activeDebt := b.activeDebt + debt
      activeColl := b.activeColl + coll
      defaultDebt := b.defaultDebt - debt
      defaultColl := b.defaultColl - coll } := by
  have hf : Frame b.troveManager (b.troveManager.realised id coll debt) id := realised_frame
  have hself := realised_self b.troveManager id coll debt
  have hsd := hf.sum_debt
  have hsc := hf.sum_coll
  rw [hself] at hsd hsc
  dsimp only at hsd hsc
  have h₁ := h.debt
  have h₂ := h.coll
  have h₃ := h.supply
  refine ⟨?_, ?_, ?_, h.gas⟩
  · dsimp only
    omega
  · dsimp only
    omega
  · dsimp only
    omega

theorem amends {coll debt stake activeDebt activeColl supply gas poolUSDD : ℕ}
    {debtOwed collOwed : ℤ} {list : SortedTroves.Data} {journal : List JournalEntry}
    (h : Accounts b)
    (hactiveDebt : (activeDebt : ℤ) + (b.troveManager.troves id).debt + b.debtOwed =
      b.activeDebt + debt + debtOwed)
    (hactiveColl : (activeColl : ℤ) + (b.troveManager.troves id).coll + b.collOwed =
      b.activeColl + coll + collOwed)
    (hsupply : supply + b.activeDebt = b.supply + activeDebt)
    (hgas : b.gas ≤ gas) :
    Accounts { b with
      troveManager := b.troveManager.restaked id coll debt stake
      sortedTroves := list
      activeDebt := activeDebt
      activeColl := activeColl
      supply := supply
      gas := gas
      poolUSDD := poolUSDD
      journal := journal
      debtOwed := debtOwed
      collOwed := collOwed } := by
  have hf : Frame b.troveManager (b.troveManager.restaked id coll debt stake) id := restaked_frame
  have hself := restaked_self b.troveManager id coll debt stake
  have hsd := hf.sum_debt
  have hsc := hf.sum_coll
  rw [hself] at hsd hsc
  dsimp only at hsd hsc
  have h₁ := h.debt
  have h₂ := h.coll
  have h₃ := h.supply
  refine ⟨?_, ?_, ?_, ?_⟩
  · dsimp only
    omega
  · dsimp only
    omega
  · dsimp only
    omega
  · have hgas' : (b.gas : ℤ) ≤ gas := by exact_mod_cast hgas
    exact h.gas.trans hgas'

theorem closes {moved : Address} {status : Status} {list : SortedTroves.Data} (h : Accounts b)
    (hpos : 0 < b.troveManager.troveOwners.length) :
    Accounts { b with
      troveManager := b.troveManager.departed id moved status
      sortedTroves := list
      debtOwed := b.debtOwed + (b.troveManager.troves id).debt
      collOwed := b.collOwed + (b.troveManager.troves id).coll
      gasOwed := b.gasOwed + 1 } := by
  have hf : Frame b.troveManager (b.troveManager.departed id moved status) id := departed_frame
  have hself := departed_troves b.troveManager id moved status id
  rw [if_pos rfl] at hself
  have hsd := hf.sum_debt
  have hsc := hf.sum_coll
  rw [hself] at hsd hsc
  dsimp only at hsd hsc
  have h₁ := h.debt
  have h₂ := h.coll
  have h₄ := h.gas
  refine ⟨?_, ?_, h.supply, ?_⟩
  · dsimp only
    omega
  · dsimp only
    omega
  · have hlen : (b.troveManager.departed id moved status).troveOwners.length =
        b.troveManager.troveOwners.length - 1 := IndexedList.swapPop_length _ _ _
    show (usddGasCompensation : ℤ) *
      ((b.troveManager.departed id moved status).troveOwners.length + (b.gasOwed + 1)) ≤ b.gas
    have hn : ((b.troveManager.departed id moved status).troveOwners.length : ℤ) + (b.gasOwed + 1) =
        b.troveManager.troveOwners.length + b.gasOwed := by omega
    rwa [hn]

theorem event (hreg : Registry b.troveManager b.sortedTroves) (h : Accounts b)
    (he : Event D b b') : Accounts b' := by
  have h₁ := h.debt
  have h₂ := h.coll
  have h₃ := h.supply
  have h₄ := h.gas
  cases he with
  | opens hnew hdebt hstake hlist hgas hpool =>
      obtain ⟨hd, hc, hs, -⟩ := hreg.inactive _ hnew
      obtain ⟨stake, -, heq⟩ := opened_eq_ok hd hc hs hstake
      rw [heq]
      exact h.opens hd hc hgas
  | realises hactive hcoll hdebt hdefaultColl hdefaultDebt => exact h.realises hdefaultDebt
  | amends hactive hsnapshot hdebt hstake hview hlist hactiveDebt hactiveColl hsupply hgas hpool =>
      obtain ⟨stake, -, -, rfl⟩ := amended_eq_ok hstake
      exact h.amends hactiveDebt hactiveColl hsupply hgas
  | closes hstatus hmore hstake howner hlist =>
      obtain ⟨-, hpos, rfl⟩ := departed_eq_ok hstake howner
      exact h.closes hpos
  | @burnsDebt debt hdebt hsupply =>
      refine ⟨?_, h₂, ?_, h₄⟩
      · dsimp only
        omega
      · dsimp only
        omega
  | @sendsColl coll hcoll =>
      refine ⟨h₁, ?_, h₃, h₄⟩
      dsimp only
      omega
  | @paysGas troves gas poolUSDD hgas hpool =>
      refine ⟨h₁, h₂, h₃, ?_⟩
      show (usddGasCompensation : ℤ) *
        (b.troveManager.troveOwners.length + (b.gasOwed - troves)) ≤ gas
      have hgas' : (b.gas : ℤ) ≤ gas + troves * usddGasCompensation := by exact_mod_cast hgas
      linarith
  | @redistributes debt coll tm hpos hterms hdebt hcoll =>
      obtain ⟨-, q, r, e, f, -, -, -, -, rfl⟩ := addRewardTerms_eq_ok hterms
      have htroves : (b.troveManager.raised q r e f).troves = b.troveManager.troves := rfl
      refine ⟨?_, ?_, ?_, h₄⟩
      · rw [htroves]
        dsimp only
        omega
      · rw [htroves]
        dsimp only
        omega
      · dsimp only
        omega
  | @offsets debt coll rewards pool hpos hrewards hpool hdebt hcoll hsupply hdeposits husdd =>
      refine ⟨?_, ?_, ?_, h₄⟩
      · dsimp only
        omega
      · dsimp only
        omega
      · dsimp only
        omega
  | snapshots | approves | issues | tags | changesDeposit | registers => exact ⟨h₁, h₂, h₃, h₄⟩

end Accounts

theorem Custody.event {D : Deployment} {b b' : Book} (h : Custody D b) (he : Event D b b') :
    Custody D b' := by
  have h₁ := h.deposits
  have h₂ := h.allowances
  cases he with
  | opens _ _ _ _ _ hpool => exact ⟨h₁.trans hpool, h₂⟩
  | amends _ _ _ _ _ _ _ _ _ _ hpool => exact ⟨h₁.trans hpool, h₂⟩
  | paysGas _ hpool => exact ⟨h₁.trans hpool, h₂⟩
  | @approves owner spender amount howner =>
      refine ⟨h₁, fun o ho sp => ?_⟩
      by_cases hos : o = owner
      · subst hos
        rcases howner with hn | rfl
        · exact absurd ho hn
        · simp only [Function.update_self, Function.update_apply]
          split_ifs
          · rfl
          · exact h₂ o ho sp
      · show Function.update b.allowances owner _ o sp = 0
        rw [Function.update_of_ne hos]
        exact h₂ o ho sp
  | @offsets debt coll rewards pool hpos hrewards hpool hdebt hcoll hsupply hdeposits husdd =>
      exact ⟨Nat.sub_le_sub_right h₁ debt, h₂⟩
  | @issues issuance pool hpool =>
      refine ⟨?_, h₂⟩
      show pool.totalUSDDDeposits ≤ b.poolUSDD
      rwa [StabilityPool.updateG_totalUSDDDeposits hpool]
  | tags =>
      refine ⟨?_, h₂⟩
      show (StabilityPool.setTagOfNewDeposit _ _ _).totalUSDDDeposits ≤ b.poolUSDD
      rwa [StabilityPool.setTagOfNewDeposit_totalUSDDDeposits]
  | @changesDeposit depositor deposit stake gain provided withdrawn _ _ _ _ _ _ hdeposits husdd =>
      refine ⟨?_, h₂⟩
      show b.pool.totalUSDDDeposits + provided - withdrawn ≤ b.poolUSDD + provided - withdrawn
      omega
  | _ => exact ⟨h₁, h₂⟩

end Usdd
