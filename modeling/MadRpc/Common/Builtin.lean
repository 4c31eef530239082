import Mathlib.Data.List.AList

set_option autoImplicit false

namespace MadRpc

inductive ServerType where
  | node
  | orchestrator
  deriving DecidableEq, Repr

structure HealthResponse where
  status : String
  deriving DecidableEq, Repr

def HealthResponse.healthy : HealthResponse where
  status := "healthy"

structure MethodMetrics where
  callCount : UInt64
  successCount : UInt64
  failureCount : UInt64
  avgLatencyUs : UInt64
  p50LatencyUs : UInt64
  p95LatencyUs : UInt64
  p99LatencyUs : UInt64
  deriving DecidableEq, Repr

def MethodMetrics.new : MethodMetrics where
  callCount := 0
  successCount := 0
  failureCount := 0
  avgLatencyUs := 0
  p50LatencyUs := 0
  p95LatencyUs := 0
  p99LatencyUs := 0

structure NodeMetrics where
  nodeAddr : String
  requestCount : UInt64
  lastRequestMs : UInt64
  deriving DecidableEq, Repr

structure MetricsSnapshot where
  totalRequests : UInt64
  successfulRequests : UInt64
  failedRequests : UInt64
  activeConnections : UInt64
  uptimeMs : UInt64
  methods : AList fun _ : String => MethodMetrics
  nodes : Option (AList fun _ : String => NodeMetrics)

/-- The `CARGO_PKG_VERSION` of `madrpc-common`, and of the workspace. -/
def CARGO_PKG_VERSION : String := "0.1.0"

structure ServerBase where
  serverType : ServerType
  version : String
  uptimeMs : UInt64
  deriving DecidableEq, Repr

def ServerBase.new (serverType : ServerType) (uptimeMs : UInt64) : ServerBase where
  serverType := serverType
  version := CARGO_PKG_VERSION
  uptimeMs := uptimeMs

structure NodeInfo where
  version : String
  uptimeMs : UInt64
  deriving DecidableEq, Repr

def NodeInfo.new (uptimeMs : UInt64) : NodeInfo where
  version := CARGO_PKG_VERSION
  uptimeMs := uptimeMs

structure OrchestratorNodeInfo where
  addr : String
  enabled : Bool
  disableReason : Option String
  circuitState : String
  consecutiveFailures : UInt32
  deriving DecidableEq, Repr

structure OrchestratorInfo where
  version : String
  uptimeMs : UInt64
  totalNodes : Nat
  enabledNodes : Nat
  disabledNodes : Nat
  nodes : List OrchestratorNodeInfo
  deriving DecidableEq, Repr

inductive InfoResponse where
  | node (info : NodeInfo)
  | orchestrator (info : OrchestratorInfo)
  deriving DecidableEq, Repr

end MadRpc
