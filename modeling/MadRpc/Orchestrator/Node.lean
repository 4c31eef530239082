import MadRpc.Common.Cast

set_option autoImplicit false

namespace MadRpc

/-- Nanoseconds. -/
abbrev Duration := Nat

/-- Nanoseconds since the epoch; the wall clock may be set to any time and back. -/
abbrev SystemTime := Int

abbrev Instant := Nat

def Duration.fromMillis (milliseconds : UInt64) : Duration := milliseconds.toNat * 1000000

def SystemTime.elapsed (openedAt now : SystemTime) : Duration :=
  -- The error of a clock that was set back is read as zero.
  (now - openedAt).toNat

inductive DisableReason where
  | manual
  | healthCheck
  deriving DecidableEq, Repr

inductive HealthCheckStatus where
  | healthy
  | unhealthy (message : String)
  deriving DecidableEq, Repr

inductive CircuitBreakerState where
  | closed
  -- The source's `Open`, a reserved word here.
  | opened
  | halfOpen
  deriving DecidableEq, Repr

/-- The factor is a finite float, and the arithmetic on it is exact. -/
structure CircuitBreakerConfig where
  failureThreshold : UInt32
  baseTimeoutSecs : UInt64
  maxTimeoutSecs : UInt64
  backoffMultiplier : Rat
  deriving DecidableEq, Repr

def CircuitBreakerConfig.default : CircuitBreakerConfig where
  failureThreshold := 5
  baseTimeoutSecs := 30
  maxTimeoutSecs := 300
  backoffMultiplier := 2

def CircuitBreakerConfig.calculateTimeout (config : CircuitBreakerConfig)
    (consecutiveFailures : UInt32) : Duration :=
  let baseMs := config.baseTimeoutSecs * 1000
  -- No failures give the exponent -1, and counts from 2 ^ 31 on are negative as `i32`.
  let exponent := (consecutiveFailures.toInt32 - 1).toInt
  let backoffMs :=
    -- A zero factor to a negative power is infinite, and the cast of it saturates.
    if config.backoffMultiplier = 0 ∧ exponent < 0 ∧ baseMs ≠ 0 then UInt64.ofNat (2 ^ 64 - 1)
    else castU64 (baseMs.toNat * config.backoffMultiplier ^ exponent)
  let maxMs := config.maxTimeoutSecs * 1000
  Duration.fromMillis (min backoffMs maxMs)

structure Node where
  addr : String
  enabled : Bool
  disableReason : Option DisableReason
  consecutiveFailures : UInt32
  lastHealthCheck : Option Instant
  lastHealthCheckStatus : Option HealthCheckStatus
  circuitState : CircuitBreakerState
  circuitOpenedAt : Option SystemTime
  requestCount : UInt64
  lastRequestTime : Option SystemTime
  halfOpenAttempted : Bool
  deriving DecidableEq, Repr

namespace Node

def new (addr : String) : Node where
  addr := addr
  enabled := true
  disableReason := none
  consecutiveFailures := 0
  lastHealthCheck := none
  lastHealthCheckStatus := none
  circuitState := .closed
  circuitOpenedAt := none
  requestCount := 0
  lastRequestTime := none
  halfOpenAttempted := false

def shouldAttemptHalfOpen (node : Node) (config : CircuitBreakerConfig) (now : SystemTime) :
    Bool :=
  if node.circuitState ≠ .opened then false
  else
    match node.circuitOpenedAt with
    | some openedAt =>
        decide (config.calculateTimeout node.consecutiveFailures ≤ openedAt.elapsed now)
    | none => false

def transitionCircuitState (node : Node) (newState : CircuitBreakerState) (now : SystemTime) :
    Node :=
  match newState with
  | .opened =>
      { node with circuitState := .opened, circuitOpenedAt := some now, halfOpenAttempted := false }
  | .closed =>
      { node with circuitState := .closed, circuitOpenedAt := none, halfOpenAttempted := false }
  | .halfOpen => { node with circuitState := .halfOpen, circuitOpenedAt := none }

def tryTransitionToHalfOpen (node : Node) : Node × Bool :=
  if node.circuitState ≠ .opened then (node, false)
  -- The compare-and-swap: a flag already set refuses the transition.
  else if node.halfOpenAttempted = false then
    ({ node with circuitState := .halfOpen, circuitOpenedAt := none, halfOpenAttempted := true },
      true)
  else (node, false)

end Node

end MadRpc
