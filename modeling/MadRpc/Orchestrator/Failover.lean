import MadRpc.Orchestrator.Attempts
import MadRpc.Orchestrator.Bypass
import MadRpc.Orchestrator.NextNode

set_option autoImplicit false

namespace MadRpc

namespace LoadBalancer

def afterCalls (lb : LoadBalancer) (clock : Nat → SystemTime) : Nat → LoadBalancer
  | 0 => lb
  | call + 1 => ((lb.afterCalls clock call).nextNode (clock call)).1

/-- The attempts of one forwarding, when nothing else takes the lock in between: the calls
of `next_node` follow each other, and each attempt meets the node it got. -/
def attemptsOn (lb : LoadBalancer) (clock : Nat → SystemTime)
    (exchange : Nat → String → Nat → Exchange) (attempt : Nat) : Orchestrator.Attempt :=
  let returned := ((lb.afterCalls clock attempt).nextNode (clock attempt)).2
  -- Without a node there is no exchange, and none is read.
  ⟨returned, exchange attempt (returned.getD "")⟩

theorem afterCalls_inTurn (lb : LoadBalancer) (clock : Nat → SystemTime) (call : Nat)
    (somebody : lb.inTurn ≠ []) :
    (lb.afterCalls clock call).inTurn = lb.inTurn.rotate call := by
  induction call with
  | zero => simp [afterCalls]
  | succ call ih =>
      cases turn : (lb.afterCalls clock call).inTurn with
      | nil =>
          rw [ih, List.rotate_eq_nil_iff] at turn
          exact absurd turn somebody
      | cons addr rest =>
          rw [afterCalls, nextNode_correct, (selection_some _ (clock call) addr rest turn).2.1,
            ← List.rotate_rotate, ← ih, turn, List.rotate_cons_succ, List.rotate_zero]

theorem attemptsOn_node (lb : LoadBalancer) (clock : Nat → SystemTime)
    (exchange : Nat → String → Nat → Exchange) (attempt : Nat) (somebody : lb.inTurn ≠ []) :
    (lb.attemptsOn clock exchange attempt).node = lb.inTurn[attempt % lb.inTurn.length]? := by
  have within := Nat.mod_lt attempt (List.length_pos_iff.mpr somebody)
  rw [attemptsOn, nextNode_correct, chosen_head, afterCalls_inTurn lb clock attempt somebody,
    ← List.rotate_mod, List.head?_rotate within]

end LoadBalancer

namespace Orchestrator

open LoadBalancer

structure FailsOver (retry : RetryConfig) (ring : List String)
    (outcome : String → Except MadrpcError Value) (forwarded : Forwarded) : Prop where
  cyclic : ∀ attempt < forwarded.tried.length,
    forwarded.tried[attempt]? = ring[attempt % ring.length]?
  fresh : (forwarded.tried.take ring.length).Nodup
  answered : ∀ first addr value, first < min ring.length (retry.maxRetries + 1) →
    ring[first]? = some addr → outcome addr = .ok value →
    (∀ other ∈ ring.take first, ∃ err, outcome other = .error err) →
    forwarded.result = .ok value ∧ forwarded.tried.length = first + 1
  exhausted : (∀ addr ∈ ring.take (min ring.length (retry.maxRetries + 1)),
      ∃ err, outcome addr = .error err) →
    forwarded.tried.length = retry.maxRetries + 1 ∧
      ∃ addr, forwarded.tried.getLast? = some addr ∧ forwarded.result = outcome addr

section Ring

variable (ring : List String)

def ringAt (attempt : Nat) : String := (ring[attempt % ring.length]?).getD ""

variable {ring} (somebody : ring ≠ [])

include somebody

theorem ringAt_spec (attempt : Nat) :
    ring[attempt % ring.length]? = some (ringAt ring attempt) := by
  have within := Nat.mod_lt attempt (List.length_pos_iff.mpr somebody)
  rw [ringAt, List.getElem?_eq_getElem within, Option.getD_some]

theorem ringAt_mem_take (attempt bound : Nat) (within : attempt < bound) :
    ringAt ring attempt ∈ ring.take (min ring.length bound) := by
  have inside := Nat.mod_lt attempt (List.length_pos_iff.mpr somebody)
  have earlier := Nat.mod_le attempt ring.length
  refine @List.mem_of_getElem? _ _ (attempt % ring.length) _ ?_
  rw [List.getElem?_take_of_lt (by omega)]
  exact ringAt_spec somebody attempt

theorem ringAt_nodup (distinct : ring.Nodup) (attempts : Nat) (within : attempts ≤ ring.length) :
    ((List.range attempts).map (ringAt ring)).Nodup := by
  refine List.nodup_range.map_on fun first firstIn second secondIn same => ?_
  rw [List.mem_range] at firstIn secondIn
  have firstAt := ringAt_spec somebody first
  have secondAt := ringAt_spec somebody second
  rw [Nat.mod_eq_of_lt (by omega)] at firstAt secondAt
  rw [same, ← secondAt] at firstAt
  exact (List.getElem?_inj (by omega) distinct).mp firstAt

end Ring

theorem failsOver_of_stops (retry : RetryConfig) (ring : List String)
    (outcome : String → Except MadrpcError Value) (attempts : Nat → Attempt) (last : Nat)
    (forwarded : Forwarded) (somebody : ring ≠ []) (distinct : ring.Nodup)
    (met : ∀ attempt, (sendHttpRequestVia .default (attempts attempt)).result =
      outcome (ringAt ring attempt))
    (again : ∀ attempt, RetriedVia .default (attempts attempt) ↔
      ∃ err, outcome (ringAt ring attempt) = .error err)
    (stops : Retry.Stops (fun attempt => RetriedVia .default (attempts attempt))
      retry.maxRetries last)
    (ends : EndsWith .default attempts (ringAt ring) 0 last forwarded) :
    FailsOver retry ring outcome forwarded := by
  obtain ⟨result, tried, _⟩ := ends
  rw [Nat.zero_add, met] at result
  rw [← List.range_eq_range'] at tried
  have count : forwarded.tried.length = last + 1 := by simp [tried]
  constructor
  · intro attempt made
    rw [tried, List.getElem?_map, List.getElem?_range (count ▸ made)]
    exact (ringAt_spec somebody attempt).symm
  · rw [tried, ← List.map_take, List.take_range]
    exact ringAt_nodup somebody distinct _ (Nat.min_le_left _ _)
  · intro first addr value within here ok before
    have place : ringAt ring first = addr := by
      rw [ringAt, Nat.mod_eq_of_lt (by omega), here, Option.getD_some]
    have stopped : last = first := stops.unique
      { within := by omega
        repeated := fun attempt earlier => (again attempt).mpr <| before _ <| by
          have member := ringAt_mem_take somebody attempt first earlier
          rwa [Nat.min_eq_right (by omega)] at member
        final := .inr fun failed => by
          obtain ⟨err, failed⟩ := (again first).mp failed
          rw [place, ok] at failed
          cases failed }
    rw [result, count, stopped, place, ok]
    exact ⟨rfl, rfl⟩
  · intro failing
    have all := stops.exhausted_iff.mpr fun attempt within =>
      (again attempt).mpr (failing _ (ringAt_mem_take somebody attempt _ (by omega)))
    refine ⟨by rw [count, all], ringAt ring last, ?_, result⟩
    rw [tried, List.range_succ, List.map_append]
    exact List.getLast?_concat

theorem failover (nodeAddrs : List String) (config : CircuitBreakerConfig)
    (distinct : nodeAddrs.Nodup) (operations : List Operation) (retry : RetryConfig)
    (builtin : JsonRpcRequest → Except MadrpcError Value) (req : JsonRpcRequest)
    (forwards : isMetricsRequest req.method = false) (clock : Nat → SystemTime)
    (exchange : Nat → String → Nat → Exchange) (outcome : String → Except MadrpcError Value) :
    let lb := LoadBalancer.machine.run (withConfig nodeAddrs config) operations
    -- The available nodes in cyclic order from the cursor.
    let ring := (lb.enabledNodes.rotate lb.roundRobinIndex).filter lb.unopened
    ring ≠ [] →
    (∀ attempt, ∀ addr ∈ ring,
      (MadrpcClient.call .default (exchange attempt addr)).result = outcome addr) →
    (∀ addr ∈ ring, (∃ value, outcome addr = .ok value) ∨
      ∃ message, outcome addr = .error (.nodeUnavailable message)) →
    (∀ addr, addr ∈ ring ↔ Serving addr lb) ∧ ring.Nodup ∧
      FailsOver retry ring outcome
        (forwardRequestJsonrpc retry builtin (lb.attemptsOn clock exchange) req) := by
  intro lb ring somebody fixed kinds
  have wellformed : lb.Wellformed := run_wellformed nodeAddrs config distinct operations
  have order : lb.inTurn = ring := wellformed.toConsistent.inTurn_eq
  have unique : ring.Nodup := (List.nodup_rotate.mpr wellformed.distinct).filter _
  refine ⟨fun addr => ?_, unique, ?_⟩
  · rw [wellformed.toConsistent.serving_iff, List.mem_filter, List.mem_rotate, unopened,
      decide_eq_true_iff]
  have node (attempt : Nat) :
      (lb.attemptsOn clock exchange attempt).node = some (ringAt ring attempt) := by
    rw [attemptsOn_node lb clock exchange attempt (order ▸ somebody), order]
    exact ringAt_spec somebody attempt
  have member (attempt : Nat) : ringAt ring attempt ∈ ring :=
    List.mem_of_getElem? (ringAt_spec somebody attempt)
  have met (attempt : Nat) :
      (sendHttpRequestVia .default (lb.attemptsOn clock exchange attempt)).result =
        outcome (ringAt ring attempt) := by
    have sent : (lb.attemptsOn clock exchange attempt).exchange =
        exchange attempt ((lb.attemptsOn clock exchange attempt).node.getD "") := rfl
    rw [sendHttpRequestVia, sent, node, Option.getD_some]
    exact fixed attempt _ (member attempt)
  have again (attempt : Nat) :
      RetriedVia .default (lb.attemptsOn clock exchange attempt) ↔
        ∃ err, outcome (ringAt ring attempt) = .error err := by
    constructor
    · rintro ⟨err, failed, _⟩
      exact ⟨err, met attempt ▸ failed⟩
    · rintro ⟨err, failed⟩
      rcases kinds _ (member attempt) with ⟨value, ok⟩ | ⟨message, unavailable⟩
      · rw [ok] at failed
        cases failed
      · exact ⟨_, (met attempt).trans unavailable, rfl⟩
  obtain ⟨last, stops, ends⟩ := @forwardRequestVia_stops .default retry
    (lb.attemptsOn clock exchange) (ringAt ring) builtin req forwards fun attempt _ => node attempt
  rw [forwardRequestVia_default] at ends
  exact failsOver_of_stops retry ring outcome _ last _ somebody unique met again stops ends

theorem failover_witness :
    let unavailable := JsonRpcResponse.errorResponse .null (.internalError "busy")
    let answer := JsonRpcResponse.success .null (.bool true)
    let exchange := fun (_ : Nat) (addr : String) (_ : Nat) =>
      Exchange.responded
        ⟨⟨200, "OK"⟩, .collected (.ok (if addr = "http://b" then answer else unavailable))⟩
    let forwarded := forwardRequestJsonrpc .default (fun _ => .error .allNodesFailed)
      ((LoadBalancer.new ["http://a", "http://b"]).attemptsOn (fun _ => 0) exchange)
      ⟨"2.0", "compute", .null, .null⟩
    forwarded.result = .ok (.bool true) ∧ forwarded.tried.length = 2 := by
  refine (failover ["http://a", "http://b"] .default (by decide) [] .default _ _ (by decide) _ _
    (fun addr => if addr = "http://b" then .ok (.bool true)
      else .error (.nodeUnavailable "Internal error: busy"))
    (by decide) ?_ ?_).2.2.answered 1 "http://b" (.bool true) (by decide) (by decide) rfl ?_
  · intro attempt addr _
    refine MadrpcClient.call_steady .default (by decide) _ _ fun _ => ?_
    by_cases second : addr = "http://b" <;> simp only [second, if_true, if_false] <;> rfl
  · intro addr _
    by_cases second : addr = "http://b" <;> simp [second]
  · intro other member
    have first : other ∈ ["http://a"] := member
    obtain rfl := List.mem_singleton.mp first
    exact ⟨_, rfl⟩

end Orchestrator

end MadRpc
