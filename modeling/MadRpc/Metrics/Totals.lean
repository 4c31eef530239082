import Mathlib.Data.List.Induction
import MadRpc.Metrics.Registry

set_option autoImplicit false

namespace MadRpc

namespace MetricsOperation

def isCall : MetricsOperation → Bool
  | recordMethodCall _ _ _ _ _ => true
  | recordNodeRequest _ _ _ => false

def hasOutcome (outcome : Bool) : MetricsOperation → Bool
  | recordMethodCall _ _ success _ _ => success == outcome
  | recordNodeRequest _ _ _ => false

end MetricsOperation

namespace MetricsRegistry

structure SameTotals (before after : MetricsRegistry) : Prop where
  total : after.totalRequests = before.totalRequests
  successful : after.successfulRequests = before.successfulRequests
  failed : after.failedRequests = before.failedRequests

theorem SameTotals.trans {first second third : MetricsRegistry} (before : SameTotals first second)
    (after : SameTotals second third) : SameTotals first third :=
  ⟨after.total.trans before.total, after.successful.trans before.successful,
    after.failed.trans before.failed⟩

theorem maybeCleanup_totals (input : CleanupInput) (registry : MetricsRegistry) :
    SameTotals registry (registry.maybeCleanup input) := by
  unfold maybeCleanup
  split <;> exact ⟨rfl, rfl, rfl⟩

theorem methodEntry_totals (method : String) (time : Option UInt64) (registry : MetricsRegistry) :
    SameTotals registry (registry.methodEntry method time) := by
  unfold methodEntry
  split <;> exact ⟨rfl, rfl, rfl⟩

theorem nodeEntry_totals (nodeAddr : String) (registry : MetricsRegistry) :
    SameTotals registry (registry.nodeEntry nodeAddr) := by
  unfold nodeEntry
  split <;> exact ⟨rfl, rfl, rfl⟩

theorem recording_totals (operation : MetricsOperation) (registry : MetricsRegistry) :
    SameTotals registry (machine.run registry operation.recording) := by
  cases operation with
  | recordMethodCall method latencyUs success cleanup times =>
      exact (methodEntry_totals method times.created registry).trans ⟨rfl, rfl, rfl⟩
  | recordNodeRequest nodeAddr cleanup time =>
      exact (nodeEntry_totals nodeAddr registry).trans ⟨rfl, rfl, rfl⟩

theorem perform_totals (operation : MetricsOperation) (registry : MetricsRegistry) :
    SameTotals (machine.run registry operation.opening) (registry.perform operation) := by
  rw [perform, MetricsOperation.stages, Machine.run_append]
  exact (maybeCleanup_totals operation.cleanup _).trans (recording_totals operation _)

structure Totalled (registry : MetricsRegistry) (operations : List MetricsOperation) : Prop where
  total : registry.totalRequests = UInt64.ofNat (operations.countP MetricsOperation.isCall)
  successful : registry.successfulRequests =
    UInt64.ofNat (operations.countP (MetricsOperation.hasOutcome true))
  failed : registry.failedRequests =
    UInt64.ofNat (operations.countP (MetricsOperation.hasOutcome false))

theorem Totalled.perform {registry : MetricsRegistry} {history : List MetricsOperation}
    (totalled : Totalled registry history) (operation : MetricsOperation) :
    Totalled (registry.perform operation) (history ++ [operation]) := by
  obtain ⟨total, successful, failed⟩ := totalled
  have same := perform_totals operation registry
  cases operation with
  | recordMethodCall method latencyUs success cleanup times =>
      cases success with
      | true =>
          constructor
          · rw [same.total, List.countP_append, UInt64.ofNat_add, ← total]
            rfl
          · rw [same.successful, List.countP_append, UInt64.ofNat_add, ← successful]
            rfl
          · rw [same.failed, List.countP_append]
            exact failed
      | false =>
          constructor
          · rw [same.total, List.countP_append, UInt64.ofNat_add, ← total]
            rfl
          · rw [same.successful, List.countP_append]
            exact successful
          · rw [same.failed, List.countP_append, UInt64.ofNat_add, ← failed]
            rfl
  | recordNodeRequest nodeAddr cleanup time =>
      constructor
      · rw [same.total, List.countP_append]
        exact total
      · rw [same.successful, List.countP_append]
        exact successful
      · rw [same.failed, List.countP_append]
        exact failed

theorem record_totalled (config : MetricsConfig) (clock : TimestampClock)
    (operations : List MetricsOperation) :
    Totalled ((withConfig config clock).record operations) operations := by
  induction operations using List.reverseRecOn with
  | nil => exact ⟨rfl, rfl, rfl⟩
  | append_singleton history operation ih =>
      rw [record_append]
      exact ih.perform operation

end MetricsRegistry

end MadRpc
