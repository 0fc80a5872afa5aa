import OptionProject.Virtual.PaperAccount

/-!
# Snapshots of the virtual account

A snapshot keeps the balance and the positions. The profits and the margins of the account are
not in it, so they are after a restore what they were before.

## Main results

* `restored_iff` — when a restore brings back the summary of the snapshot.
-/
namespace OptionProject.Virtual
open Library Contracts

namespace VirtualSecuritiesFirmRuntime

/-- The runtime after requests of which any may raise. -/
def performAll (self : VirtualSecuritiesFirmRuntime) (requests : List Request) :
    VirtualSecuritiesFirmRuntime :=
  requests.foldl (fun runtime request => (runtime.perform request).2) self

end VirtualSecuritiesFirmRuntime

namespace StateRecoveryEngine

variable {account later : PaperTradingAccount} {sequenceId : ℤ} {now : String}
  {metrics targetMetrics : Option (Dict String ℤ)}

/-- The account of the snapshot, with the profits, the margins and the ledger of the later one. -/
theorem restore_create :
    (restoreFromSnapshot later (createSnapshot account sequenceId metrics) targetMetrics).1 =
      { later with balance := account.balance, positionMgr := account.positionMgr } := by
  simp [restoreFromSnapshot, createSnapshot, Dict.empty_update]

/-- What a snapshot leaves out of the summary. -/
structure SameMarks (account later : PaperTradingAccount) : Prop where
  realized : later.realizedPnl = account.realizedPnl
  unrealized : later.unrealizedPnl = account.unrealizedPnl
  used : later.usedMargin = account.usedMargin
  free : later.freeMargin = account.freeMargin

theorem summary_restored_iff :
    (restoreFromSnapshot later (createSnapshot account sequenceId metrics)
      targetMetrics).1.getCanonicalSummary now = account.getCanonicalSummary now ↔
      SameMarks account later := by
  rw [restore_create]
  constructor
  · intro same
    exact ⟨congrArg CanonicalAccountSummary.realizedPnl same,
      congrArg CanonicalAccountSummary.unrealizedPnl same,
      congrArg CanonicalAccountSummary.usedMargin same,
      congrArg CanonicalAccountSummary.freeMargin same⟩
  · rintro ⟨realized, unrealized, used, free⟩
    simp only [PaperTradingAccount.getCanonicalSummary, PaperTradingAccount.equity, realized,
      unrealized, used, free]

end StateRecoveryEngine

namespace VirtualSecuritiesFirmRuntime

/-- After any requests, a snapshot, any other requests and a restore, the summary is the one at
the snapshot exactly when the requests in between have left the profits and the margins. -/
theorem restored_iff (initialCapital : ℚ) (before between : List Request) (sequenceId : ℤ)
    (metrics targetMetrics : Option (Dict String ℤ)) (now : String) :
    let taken := ((create initialCapital).performAll before).account
    let later := (((create initialCapital).performAll before).performAll between).account
    let snapshot := StateRecoveryEngine.createSnapshot taken sequenceId metrics
    (StateRecoveryEngine.restoreFromSnapshot later snapshot targetMetrics).1.getCanonicalSummary
        now = taken.getCanonicalSummary now ↔
      StateRecoveryEngine.SameMarks taken later :=
  StateRecoveryEngine.summary_restored_iff

/-- Orders that are refused leave what the snapshot leaves out. -/
theorem sameMarks_refused {self : VirtualSecuritiesFirmRuntime}
    {command : CanonicalOrderCommand ℚ} {now : String}
    (refused : self.account.freeMargin < MarginEngine.calculateOrderMargin command) :
    StateRecoveryEngine.SameMarks self.account
      (self.performAll [.order command now]).account := by
  simp only [performAll, List.foldl_cons, List.foldl_nil, perform, processOrder, refused, if_true]
  exact ⟨rfl, rfl, rfl, rfl⟩

/-- One is bought at 100, the snapshot taken, and the price moves to 101 before the restore. -/
theorem restored_differs :
    let taken := ((create 1000000000).performAll [.marketData ⟨100, 100, 100⟩,
      .order ⟨"O", "T", .futures, .buy, 1, 100, none, 0, "KOSPI200", "", ""⟩ "09:00"])
    let later := taken.performAll [.marketData ⟨101, 101, 101⟩]
    let snapshot := StateRecoveryEngine.createSnapshot taken.account 1 none
    let restored := (StateRecoveryEngine.restoreFromSnapshot later.account snapshot none).1
    (taken.account.getCanonicalSummary "10:00").totalBalance = 1000000000 ∧
      (restored.getCanonicalSummary "10:00").totalBalance = 1000250000 := by
  decide +kernel

end VirtualSecuritiesFirmRuntime
end OptionProject.Virtual
