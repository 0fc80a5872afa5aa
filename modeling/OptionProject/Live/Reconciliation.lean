import Mathlib.Data.List.Sort
import Mathlib.Data.String.Basic
import OptionProject.Library.Dict

/-!
# Reconciliation and recovery

`environments/live/reconciliation.py` and `environments/live/recovery.py`: the broker's positions
are compared with the internal ones, and trading resumes on the verdict.

## Main results

* `agree_iff` — two position maps agree exactly when no instrument is in disagreement.
* `reconciles_iff` — when the verdict says what it should.
-/
namespace OptionProject.Live
open Library

structure ReconciliationResult where
  consistent : Bool
  reasons : List String
  deriving DecidableEq, Repr

structure RecoveryDecision where
  action : String
  reason : String
  deriving DecidableEq, Repr

def LiveRecovery.decide (reconciliationConsistent brokerConnected : Bool) : RecoveryDecision :=
  if !brokerConnected then ⟨"SAFE_STOP", "broker disconnected"⟩
  else if !reconciliationConsistent then ⟨"SAFE_STOP", "broker/internal state mismatch"⟩
  else ⟨"RESUME_ALLOWED", "state reconciled"⟩

namespace LiveReconciler

/-- `sorted(set(broker) | set(internal))`. -/
def instruments (broker internal : Dict String ℤ) : List String :=
  (broker.keys ∪ internal.keys).insertionSort (· ≤ ·)

def comparePositions (broker internal : Dict String ℤ) : ReconciliationResult :=
  let reasons := (instruments broker internal).foldl (fun reasons instrument =>
    if broker.getD instrument 0 ≠ internal.getD instrument 0 then
      -- `reasons.append(f"position mismatch: {instrument}")` is commented out in the source
      reasons
    else reasons) []
  ⟨reasons.isEmpty, reasons⟩

/-! ## Agreement -/

/-- Both maps give every instrument the same quantity. -/
def Agree (broker internal : Dict String ℤ) : Prop :=
  ∀ instrument, broker.getD instrument 0 = internal.getD instrument 0

def disagreements (broker internal : Dict String ℤ) : List String :=
  (instruments broker internal).filter fun instrument =>
    broker.getD instrument 0 ≠ internal.getD instrument 0

variable {broker internal : Dict String ℤ}

theorem mem_instruments {instrument : String} :
    instrument ∈ instruments broker internal ↔
      instrument ∈ broker.keys ∨ instrument ∈ internal.keys := by
  simp [instruments]

/-- An instrument is named exactly when the maps disagree on it. -/
theorem mem_disagreements {instrument : String} :
    instrument ∈ disagreements broker internal ↔
      broker.getD instrument 0 ≠ internal.getD instrument 0 := by
  simp only [disagreements, List.mem_filter, mem_instruments, decide_eq_true_eq,
    and_iff_right_iff_imp]
  intro differ
  by_contra absent
  obtain ⟨absent, absent'⟩ := not_or.mp absent
  rw [Dict.getD_of_not_mem absent, Dict.getD_of_not_mem absent'] at differ
  exact differ rfl

theorem agree_iff : Agree broker internal ↔ disagreements broker internal = [] := by
  simp only [List.eq_nil_iff_forall_not_mem, mem_disagreements, not_not]
  rfl

/-! ## The verdict -/

/-- The verdict is `consistent` on agreement only, with one reason for each instrument in
disagreement, and trading resumes on it only when the broker is connected and the maps agree. -/
structure Reconciles (broker internal : Dict String ℤ) : Prop where
  consistent_iff : (comparePositions broker internal).consistent = true ↔ Agree broker internal
  reasons : (comparePositions broker internal).reasons.length =
    (disagreements broker internal).length
  resumes : ∀ brokerConnected,
    (LiveRecovery.decide (comparePositions broker internal).consistent brokerConnected).action =
      "RESUME_ALLOWED" → brokerConnected = true ∧ Agree broker internal

/-- No comparison finds a reason. -/
theorem comparePositions_eq : comparePositions broker internal = ⟨true, []⟩ := by
  have kept : ∀ instruments : List String, instruments.foldl (fun (reasons : List String)
      instrument => if broker.getD instrument 0 ≠ internal.getD instrument 0 then reasons
        else reasons) [] = [] := by
    intro instruments
    simp only [ite_self]
    exact List.foldl_fixed _
  unfold comparePositions
  rw [kept]
  rfl

theorem decide_eq_resume {consistent brokerConnected : Bool} :
    (LiveRecovery.decide consistent brokerConnected).action = "RESUME_ALLOWED" ↔
      consistent = true ∧ brokerConnected = true := by
  cases consistent <;> cases brokerConnected <;> decide

/-- The verdict is what it should be on exactly the maps that agree. -/
theorem reconciles_iff : Reconciles broker internal ↔ Agree broker internal := by
  constructor
  · intro sound
    exact sound.consistent_iff.mp (by rw [comparePositions_eq])
  · intro agree
    refine ⟨iff_of_true (by rw [comparePositions_eq]) agree, ?_, ?_⟩
    · rw [comparePositions_eq, agree_iff.mp agree]
    · intro brokerConnected resumed
      exact ⟨(decide_eq_resume.mp resumed).2, agree⟩

/-- A position that only the broker knows of: the verdict is `consistent`, without a reason, and
trading resumes. -/
theorem resumes_on_mismatch :
    let broker : Dict String ℤ := .ofList [("101W09", 3)]
    let internal : Dict String ℤ := .empty
    ¬Agree broker internal ∧ comparePositions broker internal = ⟨true, []⟩ ∧
      (LiveRecovery.decide (comparePositions broker internal).consistent true).action =
        "RESUME_ALLOWED" ∧ ¬Reconciles broker internal := by
  have differ : ¬Agree (.ofList [("101W09", 3)]) .empty := by
    intro agree
    exact absurd (agree "101W09") (by decide)
  exact ⟨differ, comparePositions_eq, decide_eq_resume.mpr ⟨rfl, rfl⟩, mt reconciles_iff.mp differ⟩

end LiveReconciler
end OptionProject.Live
