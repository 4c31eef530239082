import Mathlib.Data.List.Perm.Basic
import MadRpc.Orchestrator.HealthChecker
import MadRpc.Orchestrator.Membership

set_option autoImplicit false

namespace MadRpc

structure NodeRegistrationResponse where
  registeredUrl : String
  isNewRegistration : Bool
  deriving DecidableEq, Repr

def isHttpUrl (url : String) : Bool :=
  "http://".toList.isPrefixOf url.toList || "https://".toList.isPrefixOf url.toList

def LoadBalancer.nodeCount (lb : LoadBalancer) : Nat := lb.nodes.keys.length

def registerNode (lb : LoadBalancer) (nodeUrl : String) :
    LoadBalancer × Except MadrpcError NodeRegistrationResponse :=
  if !isHttpUrl nodeUrl then
    (lb, .error (.invalidRequest "Invalid node URL: must start with http:// or https://"))
  else
    -- From here on the write lock is held.
    let nodeCountBefore := lb.nodeCount
    let lb := ((lb.addNode nodeUrl).enableNode nodeUrl).1
    (lb, .ok
      { registeredUrl := nodeUrl
        isNewRegistration := decide (nodeCountBefore < lb.nodeCount) })

inductive CheckerPhase where
  | timeoutsChecked
  | processing (pending : List Node)
  | applying (update : HealthCheckUpdate) (pending : List Node)
  deriving DecidableEq

structure Orchestrator where
  loadBalancer : LoadBalancer
  healthConfig : HealthCheckConfig
  checker : CheckerPhase

/-- One acquisition of the lock, by a caller or by the health checker. -/
inductive OrchestratorStep where
  | call (operation : Operation)
  | registerNode (nodeUrl : String)
  | checkTimeouts (now : String → SystemTime)
  | snapshot (order : List String)
  | processResult (result : Except MadrpcError Unit)
  | applyUpdate (checkedAt : Instant) (now : SystemTime)

inductive OrchestratorReply where
  | returned (reply : Reply)
  | registered (response : Except MadrpcError NodeRegistrationResponse)
  | applied (events : List HealthEvent)
  | silent

namespace Orchestrator

def start (loadBalancer : LoadBalancer) (healthConfig : HealthCheckConfig) : Orchestrator where
  loadBalancer := loadBalancer
  healthConfig := healthConfig
  -- Between rounds nothing is pending.
  checker := .processing []

def step (state : Orchestrator) : OrchestratorStep → Orchestrator × OrchestratorReply
  | .call operation =>
      ({ state with loadBalancer := (state.loadBalancer.perform operation).1 },
        .returned (state.loadBalancer.perform operation).2)
  | .registerNode nodeUrl =>
      ({ state with loadBalancer := (MadRpc.registerNode state.loadBalancer nodeUrl).1 },
        .registered (MadRpc.registerNode state.loadBalancer nodeUrl).2)
  -- A step the health checker is not at leaves everything as it is.
  | .checkTimeouts now =>
      match state.checker with
      | .processing [] =>
          ({ state with
              loadBalancer := (state.loadBalancer.checkCircuitTimeouts now).1
              checker := .timeoutsChecked },
            .returned (.flag (state.loadBalancer.checkCircuitTimeouts now).2))
      | _ => (state, .silent)
  | .snapshot order =>
      match state.checker with
      | .timeoutsChecked =>
          -- A snapshot clones every node of the map once.
          if order.Perm state.loadBalancer.nodes.keys then
            ({ state with checker := .processing (state.loadBalancer.allNodes order) }, .silent)
          else (state, .silent)
      | _ => (state, .silent)
  | .processResult result =>
      match state.checker with
      | .processing (node :: pending) =>
          ({ state with
              checker := .applying
                (processHealthResult state.healthConfig state.loadBalancer node result) pending },
            .silent)
      | _ => (state, .silent)
  | .applyUpdate checkedAt now =>
      match state.checker with
      | .applying update pending =>
          ({ state with
              loadBalancer := (applyHealthUpdate state.loadBalancer update checkedAt now).1
              checker := .processing pending },
            .applied (applyHealthUpdate state.loadBalancer update checkedAt now).2)
      | _ => (state, .silent)

def machine : Machine Orchestrator OrchestratorStep OrchestratorReply where
  step := step

@[simp]
theorem machine_step (state : Orchestrator) (input : OrchestratorStep) :
    machine.step state input = state.step input := rfl

def operations (state : Orchestrator) : OrchestratorStep → List Operation
  | .call operation => [operation]
  | .registerNode nodeUrl =>
      if isHttpUrl nodeUrl then [.addNode nodeUrl, .enableNode nodeUrl] else []
  | .checkTimeouts now =>
      match state.checker with
      | .processing [] => [.checkCircuitTimeouts now]
      | _ => []
  | .snapshot _ | .processResult _ => []
  | .applyUpdate checkedAt now =>
      match state.checker with
      | .applying update _ => update.operations checkedAt now
      | _ => []

def trace : Orchestrator → List OrchestratorStep → List Operation
  | _, [] => []
  | state, input :: rest => state.operations input ++ trace (state.step input).1 rest

theorem step_correct (state : Orchestrator) (input : OrchestratorStep) :
    (state.step input).1.loadBalancer =
      LoadBalancer.machine.run state.loadBalancer (state.operations input) := by
  cases input with
  | call operation => rfl
  | registerNode nodeUrl =>
      cases valid : isHttpUrl nodeUrl <;>
        simp [step, operations, registerNode, valid, LoadBalancer.perform]
  | checkTimeouts now =>
      simp only [step, operations]
      split <;> rfl
  | snapshot order =>
      simp only [step, operations]
      split
      · split <;> rfl
      · rfl
  | processResult result =>
      simp only [step, operations]
      split <;> rfl
  | applyUpdate checkedAt now =>
      simp only [step, operations]
      split
      · exact applyHealthUpdate_correct _ _ _ _
      · rfl

theorem run_correct (state : Orchestrator) (steps : List OrchestratorStep) :
    (machine.run state steps).loadBalancer =
      LoadBalancer.machine.run state.loadBalancer (trace state steps) := by
  induction steps generalizing state with
  | nil => rfl
  | cons input rest ih =>
      rw [Machine.run_cons, machine_step, ih, trace, Machine.run_append, step_correct]

theorem run_balancer_consistent (state : Orchestrator) (steps : List OrchestratorStep)
    (consistent : state.loadBalancer.Consistent) :
    (machine.run state steps).loadBalancer.Consistent := by
  rw [run_correct]
  exact LoadBalancer.machine.run_invariant _ LoadBalancer.perform_consistent _ _ consistent

end Orchestrator

end MadRpc
