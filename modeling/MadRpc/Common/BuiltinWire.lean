import MadRpc.Common.Builtin
import MadRpc.Common.Fields

set_option autoImplicit false

/-!
# The wire format of the built-in procedures

What is written for a value is one of the trees that stand for it. Its members may come in any
order and among others, and a map may be iterated in any order.
-/

namespace MadRpc

open Value

namespace ServerType

def name : ServerType → String
  | node => "node"
  | orchestrator => "orchestrator"

def ofName (name : String) : Option ServerType :=
  if name = "node" then some node
  else if name = "orchestrator" then some orchestrator
  else none

def serialize (serverType : ServerType) : Value := .string serverType.name

-- A variant without data is its name, or an object of its name and null.
def deserialize : Value → Option ServerType
  | .string name => ofName name
  | .object [(name, .null)] => ofName name
  | _ => none

theorem ofName_name (serverType : ServerType) : ofName serverType.name = some serverType := by
  cases serverType <;> decide

end ServerType

def HealthResponse.serialize (health : HealthResponse) : Value :=
  record [("status", .string health.status)]

namespace MethodMetrics

def members (metrics : MethodMetrics) : List (String × Value) :=
  [("call_count", uint64 metrics.callCount), ("success_count", uint64 metrics.successCount),
    ("failure_count", uint64 metrics.failureCount),
    ("avg_latency_us", uint64 metrics.avgLatencyUs),
    ("p50_latency_us", uint64 metrics.p50LatencyUs),
    ("p95_latency_us", uint64 metrics.p95LatencyUs),
    ("p99_latency_us", uint64 metrics.p99LatencyUs)]

def serialize (metrics : MethodMetrics) : Value := record metrics.members

def deserialize (tree : Value) : Option MethodMetrics := do
  match ← tree.fields ["call_count", "success_count", "failure_count", "avg_latency_us",
      "p50_latency_us", "p95_latency_us", "p99_latency_us"] with
  | [calls, successes, failures, avg, p50, p95, p99] =>
      return {
        callCount := ← (← calls).uint64?
        successCount := ← (← successes).uint64?
        failureCount := ← (← failures).uint64?
        avgLatencyUs := ← (← avg).uint64?
        p50LatencyUs := ← (← p50).uint64?
        p95LatencyUs := ← (← p95).uint64?
        p99LatencyUs := ← (← p99).uint64? }
  | _ => none

def Written (metrics : MethodMetrics) (tree : Value) : Prop := tree.Has metrics.members

theorem serialize_written (metrics : MethodMetrics) : metrics.Written metrics.serialize :=
  has_record (by simp [members])

theorem deserialize_written (metrics : MethodMetrics) (tree : Value)
    (written : metrics.Written tree) : deserialize tree = some metrics := by
  have fields : tree.fields ["call_count", "success_count", "failure_count", "avg_latency_us",
    "p50_latency_us", "p95_latency_us", "p99_latency_us"] = _ := Has.fields written
  rw [deserialize, fields]
  rfl

end MethodMetrics

namespace NodeMetrics

def members (metrics : NodeMetrics) : List (String × Value) :=
  [("node_addr", .string metrics.nodeAddr), ("request_count", uint64 metrics.requestCount),
    ("last_request_ms", uint64 metrics.lastRequestMs)]

def serialize (metrics : NodeMetrics) : Value := record metrics.members

def deserialize (tree : Value) : Option NodeMetrics := do
  match ← tree.fields ["node_addr", "request_count", "last_request_ms"] with
  | [addr, requests, last] =>
      return {
        nodeAddr := ← (← addr).string?
        requestCount := ← (← requests).uint64?
        lastRequestMs := ← (← last).uint64? }
  | _ => none

def Written (metrics : NodeMetrics) (tree : Value) : Prop := tree.Has metrics.members

theorem serialize_written (metrics : NodeMetrics) : metrics.Written metrics.serialize :=
  has_record (by simp [members])

theorem deserialize_written (metrics : NodeMetrics) (tree : Value)
    (written : metrics.Written tree) : deserialize tree = some metrics := by
  have fields : tree.fields ["node_addr", "request_count", "last_request_ms"] = _ :=
    Has.fields written
  rw [deserialize, fields]
  rfl

end NodeMetrics

namespace MetricsSnapshot

def members (snapshot : MetricsSnapshot) (methods nodes : Value) : List (String × Value) :=
  [("total_requests", uint64 snapshot.totalRequests),
    ("successful_requests", uint64 snapshot.successfulRequests),
    ("failed_requests", uint64 snapshot.failedRequests),
    ("active_connections", uint64 snapshot.activeConnections),
    ("uptime_ms", uint64 snapshot.uptimeMs), ("methods", methods), ("nodes", nodes)]

def serialize (snapshot : MetricsSnapshot) : Value :=
  record (snapshot.members (ofTable MethodMetrics.serialize snapshot.methods)
    (ofOption (ofTable NodeMetrics.serialize) snapshot.nodes))

def deserialize (tree : Value) : Option MetricsSnapshot := do
  match ← tree.fields ["total_requests", "successful_requests", "failed_requests",
      "active_connections", "uptime_ms", "methods", "nodes"] with
  | [total, successful, failed, connections, uptime, methods, nodes] =>
      return {
        totalRequests := ← (← total).uint64?
        successfulRequests := ← (← successful).uint64?
        failedRequests := ← (← failed).uint64?
        activeConnections := ← (← connections).uint64?
        uptimeMs := ← (← uptime).uint64?
        methods := ← (← methods).table? MethodMetrics.deserialize
        nodes := ← Value.optional (table? NodeMetrics.deserialize) nodes }
  | _ => none

def WrittenNodes : Option (AList fun _ : String => NodeMetrics) → Value → Prop
  | none, tree => tree = .null
  | some nodes, tree => Tabulates NodeMetrics.Written nodes tree

def Written (snapshot : MetricsSnapshot) (tree : Value) : Prop :=
  ∃ methods nodes, Tabulates MethodMetrics.Written snapshot.methods methods ∧
    WrittenNodes snapshot.nodes nodes ∧ tree.Has (snapshot.members methods nodes)

structure Same (first second : MetricsSnapshot) : Prop where
  totalRequests : first.totalRequests = second.totalRequests
  successfulRequests : first.successfulRequests = second.successfulRequests
  failedRequests : first.failedRequests = second.failedRequests
  activeConnections : first.activeConnections = second.activeConnections
  uptimeMs : first.uptimeMs = second.uptimeMs
  methods : ∀ name, first.methods.lookup name = second.methods.lookup name
  nodes : ∀ addr, first.nodes.map (AList.lookup addr) = second.nodes.map (AList.lookup addr)

theorem serialize_written (snapshot : MetricsSnapshot) :
    snapshot.Written snapshot.serialize := by
  refine ⟨_, _, tabulates_ofTable MethodMetrics.serialize_written snapshot.methods, ?_,
    has_record (by simp [members])⟩
  cases snapshot.nodes with
  | none => rfl
  | some nodes => exact tabulates_ofTable NodeMetrics.serialize_written nodes

theorem optional_writtenNodes {nodes : Option (AList fun _ : String => NodeMetrics)}
    {tree : Value} (written : WrittenNodes nodes tree) :
    ∃ read, Value.optional (table? NodeMetrics.deserialize) (some tree) = some read ∧
      ∀ addr, read.map (AList.lookup addr) = nodes.map (AList.lookup addr) := by
  cases nodes with
  | none =>
      obtain rfl : tree = .null := written
      exact ⟨none, rfl, fun _ => rfl⟩
  | some nodes =>
      obtain ⟨read, decoded, looked⟩ := Tabulates.table NodeMetrics.deserialize_written written
      obtain ⟨members, rfl, -⟩ := written
      refine ⟨some read, ?_, fun addr => congrArg some (looked addr)⟩
      rw [Value.optional, decoded]
      · rfl
      · intro absent
        cases absent

theorem deserialize_written (snapshot : MetricsSnapshot) (tree : Value)
    (written : snapshot.Written tree) :
    ∃ read, deserialize tree = some read ∧ Same read snapshot := by
  obtain ⟨methods, nodes, tabulated, writtenNodes, has⟩ := written
  obtain ⟨table, decoded, looked⟩ := tabulated.table MethodMetrics.deserialize_written
  obtain ⟨served, optional, found⟩ := optional_writtenNodes writtenNodes
  have fields : tree.fields ["total_requests", "successful_requests", "failed_requests",
    "active_connections", "uptime_ms", "methods", "nodes"] = _ := has.fields
  refine ⟨{ snapshot with methods := table, nodes := served }, ?_,
    ⟨rfl, rfl, rfl, rfl, rfl, looked, found⟩⟩
  rw [deserialize, fields]
  simp only [members, List.map_cons, List.map_nil, Option.bind_eq_bind, Option.bind_some,
    uint64?_uint64, decoded, optional, Option.pure_def]

theorem Same.symm {first second : MetricsSnapshot} (same : Same first second) :
    Same second first :=
  ⟨same.totalRequests.symm, same.successfulRequests.symm, same.failedRequests.symm,
    same.activeConnections.symm, same.uptimeMs.symm, fun name => (same.methods name).symm,
    fun addr => (same.nodes addr).symm⟩

theorem Same.trans {first second third : MetricsSnapshot} (before : Same first second)
    (after : Same second third) : Same first third :=
  ⟨before.totalRequests.trans after.totalRequests,
    before.successfulRequests.trans after.successfulRequests,
    before.failedRequests.trans after.failedRequests,
    before.activeConnections.trans after.activeConnections,
    before.uptimeMs.trans after.uptimeMs,
    fun name => (before.methods name).trans (after.methods name),
    fun addr => (before.nodes addr).trans (after.nodes addr)⟩

/-- A tree stands for one snapshot only, and that is the one that is read. -/
theorem metrics_round_trip (snapshot : MetricsSnapshot) :
    snapshot.Written snapshot.serialize ∧
      ∀ tree, snapshot.Written tree →
        (∃ read, deserialize tree = some read ∧ Same read snapshot) ∧
          ∀ other, Written other tree → Same other snapshot := by
  refine ⟨serialize_written snapshot, fun tree written => ?_⟩
  obtain ⟨read, decoded, same⟩ := deserialize_written snapshot tree written
  refine ⟨⟨read, decoded, same⟩, fun other also => ?_⟩
  obtain ⟨again, twice, alike⟩ := deserialize_written other tree also
  obtain rfl := Option.some.inj (decoded.symm.trans twice)
  exact alike.symm.trans same

end MetricsSnapshot

/-! ## Information about a server -/

namespace ServerBase

def members (base : ServerBase) : List (String × Value) :=
  [("server_type", base.serverType.serialize), ("version", .string base.version),
    ("uptime_ms", uint64 base.uptimeMs)]

def serialize (base : ServerBase) : Value := record base.members

def deserialize (tree : Value) : Option ServerBase := do
  match ← tree.fields ["server_type", "version", "uptime_ms"] with
  | [serverType, version, uptime] =>
      return {
        serverType := ← ServerType.deserialize (← serverType)
        version := ← (← version).string?
        uptimeMs := ← (← uptime).uint64? }
  | _ => none

theorem deserialize_of_has (base : ServerBase) (tree : Value) (has : tree.Has base.members) :
    deserialize tree = some base := by
  obtain ⟨serverType, version, uptimeMs⟩ := base
  have fields : tree.fields ["server_type", "version", "uptime_ms"] = _ := has.fields
  have name := ServerType.ofName_name serverType
  rw [deserialize, fields]
  simp only [members, List.map_cons, List.map_nil, Option.bind_eq_bind, Option.bind_some,
    ServerType.serialize, ServerType.deserialize, name, string?, uint64?_uint64, Option.pure_def]

end ServerBase

namespace NodeInfo

def members (info : NodeInfo) : List (String × Value) :=
  [("version", .string info.version), ("uptime_ms", uint64 info.uptimeMs)]

def deserialize (tree : Value) : Option NodeInfo := do
  match ← tree.fields ["version", "uptime_ms"] with
  | [version, uptime] =>
      return { version := ← (← version).string?, uptimeMs := ← (← uptime).uint64? }
  | _ => none

theorem deserialize_of_has (info : NodeInfo) (tree : Value) (has : tree.Has info.members) :
    deserialize tree = some info := by
  have fields : tree.fields ["version", "uptime_ms"] = _ := has.fields
  rw [deserialize, fields]
  rfl

end NodeInfo

namespace OrchestratorNodeInfo

def members (info : OrchestratorNodeInfo) : List (String × Value) :=
  [("addr", .string info.addr), ("enabled", .bool info.enabled),
    ("disable_reason", ofOption .string info.disableReason),
    ("circuit_state", .string info.circuitState),
    ("consecutive_failures", uint32 info.consecutiveFailures)]

def serialize (info : OrchestratorNodeInfo) : Value := record info.members

def deserialize (tree : Value) : Option OrchestratorNodeInfo := do
  match ← tree.fields ["addr", "enabled", "disable_reason", "circuit_state",
      "consecutive_failures"] with
  | [addr, enabled, reason, circuit, failures] =>
      return {
        addr := ← (← addr).string?
        enabled := ← (← enabled).bool?
        disableReason := ← Value.optional string? reason
        circuitState := ← (← circuit).string?
        consecutiveFailures := ← (← failures).uint32? }
  | _ => none

def Written (info : OrchestratorNodeInfo) (tree : Value) : Prop := tree.Has info.members

theorem serialize_written (info : OrchestratorNodeInfo) : info.Written info.serialize :=
  has_record (by simp [members])

theorem deserialize_written (info : OrchestratorNodeInfo) (tree : Value)
    (written : info.Written tree) : deserialize tree = some info := by
  have fields : tree.fields ["addr", "enabled", "disable_reason", "circuit_state",
    "consecutive_failures"] = _ := Has.fields written
  have reason := @optional_ofOption _ .string string? (fun _ => rfl) (fun _ => nofun)
    info.disableReason
  rw [deserialize, fields]
  simp only [members, List.map_cons, List.map_nil, Option.bind_eq_bind, Option.bind_some, reason,
    string?, bool?, uint32?_uint32, Option.pure_def]

end OrchestratorNodeInfo

namespace OrchestratorInfo

def members (info : OrchestratorInfo) (nodes : List Value) : List (String × Value) :=
  [("version", .string info.version), ("uptime_ms", uint64 info.uptimeMs),
    ("total_nodes", usize info.totalNodes), ("enabled_nodes", usize info.enabledNodes),
    ("disabled_nodes", usize info.disabledNodes), ("nodes", .array nodes)]

def deserialize (tree : Value) : Option OrchestratorInfo := do
  match ← tree.fields ["version", "uptime_ms", "total_nodes", "enabled_nodes", "disabled_nodes",
      "nodes"] with
  | [version, uptime, total, enabled, disabled, nodes] =>
      return {
        version := ← (← version).string?
        uptimeMs := ← (← uptime).uint64?
        totalNodes := ← (← total).usize?
        enabledNodes := ← (← enabled).usize?
        disabledNodes := ← (← disabled).usize?
        nodes := ← (← nodes).list? OrchestratorNodeInfo.deserialize }
  | _ => none

/-- The counts are those of a machine with 64 bits. -/
structure Fits (info : OrchestratorInfo) : Prop where
  total : info.totalNodes < UInt64.size
  enabled : info.enabledNodes < UInt64.size
  disabled : info.disabledNodes < UInt64.size

theorem deserialize_fits {tree : Value} {info : OrchestratorInfo}
    (read : deserialize tree = some info) : info.Fits := by
  obtain ⟨values, -, rest⟩ := Option.bind_eq_some_iff.mp read
  split at rest
  next version uptime total enabled disabled nodes =>
    simp only [Option.bind_eq_bind, Option.bind_eq_some_iff, Option.pure_def,
      Option.some.injEq] at rest
    obtain ⟨_, -, _, -, _, -, _, -, _, -, _, total, _, -, _, enabled, _, -, _, disabled, _, -, _, -,
      rfl⟩ := rest
    exact ⟨usize?_fits total, usize?_fits enabled, usize?_fits disabled⟩
  next => cases rest

theorem deserialize_of_has (info : OrchestratorInfo) (fits : info.Fits) (tree : Value)
    (nodes : List Value) (each : List.Forall₂ OrchestratorNodeInfo.Written info.nodes nodes)
    (has : tree.Has (info.members nodes)) : deserialize tree = some info := by
  have fields : tree.fields ["version", "uptime_ms", "total_nodes", "enabled_nodes",
    "disabled_nodes", "nodes"] = _ := has.fields
  rw [deserialize, fields]
  simp only [members, List.map_cons, List.map_nil, Option.bind_eq_bind, Option.bind_some,
    string?, uint64?_uint64, usize?_usize fits.total, usize?_usize fits.enabled,
    usize?_usize fits.disabled, list?_of_forall₂ OrchestratorNodeInfo.deserialize_written each,
    Option.pure_def]

end OrchestratorInfo

namespace InfoResponse

def base : InfoResponse → ServerBase
  | node info => ⟨.node, info.version, info.uptimeMs⟩
  | orchestrator info => ⟨.orchestrator, info.version, info.uptimeMs⟩

def nodes : InfoResponse → List OrchestratorNodeInfo
  | node _ => []
  | orchestrator info => info.nodes

def members (response : InfoResponse) (nodes : List Value) : List (String × Value) :=
  ("server_type", response.base.serverType.serialize) ::
    match response with
    | node info => info.members
    | orchestrator info => info.members nodes

def serialize (response : InfoResponse) : Value :=
  record (response.members (response.nodes.map OrchestratorNodeInfo.serialize))

def ofTag (tag : String) (content : Value) : Option InfoResponse :=
  match ServerType.ofName tag with
  | some .node => (NodeInfo.deserialize content).map node
  | some .orchestrator => (OrchestratorInfo.deserialize content).map orchestrator
  | none => none

def deserialize : Value → Option InfoResponse
  | .object members => do
      let tag ← (← (← member "server_type" members)).string?
      ofTag tag (.object (members.filter fun entry => !(entry.1 == "server_type")))
  | .array (tag :: content) => do ofTag (← tag.string?) (.array content)
  | _ => none

def Written (response : InfoResponse) (tree : Value) : Prop :=
  ∃ nodes, List.Forall₂ OrchestratorNodeInfo.Written response.nodes nodes ∧
    tree.Has (response.members nodes)

def Fits : InfoResponse → Prop
  | node _ => True
  | orchestrator info => info.Fits

theorem serialize_written (response : InfoResponse) : response.Written response.serialize := by
  refine ⟨_, ?_, has_record ?_⟩
  · rw [List.forall₂_map_right_iff]
    exact List.forall₂_same.mpr fun info _ => info.serialize_written
  · cases response <;> simp [members, NodeInfo.members, OrchestratorInfo.members]

theorem has_untagged {written members : List (String × Value)}
    (once : (written.map Prod.fst).Nodup) (there : members ⊆ written)
    (untagged : ∀ entry ∈ members, entry.1 ≠ "server_type") :
    (Value.object (written.filter fun entry => !(entry.1 == "server_type"))).Has members := by
  refine ⟨_, rfl, once.sublist (List.filter_sublist.map Prod.fst), fun entry member => ?_⟩
  have other : (entry.1 == "server_type") = false := beq_eq_false_iff_ne.mpr (untagged entry member)
  exact List.mem_filter.mpr ⟨there member, by rw [other]; rfl⟩

theorem deserialize_written (response : InfoResponse) (fits : response.Fits) (tree : Value)
    (written : response.Written tree) : deserialize tree = some response := by
  obtain ⟨nodes, each, members, rfl, once, there⟩ := written
  have tagged := member_of_mem once (there List.mem_cons_self)
  have others := List.subset_of_cons_subset there
  rw [deserialize, tagged]
  cases response with
  | node info =>
      have has := has_untagged once others (by simp [NodeInfo.members])
      exact congrArg (Option.map node) (info.deserialize_of_has _ has)
  | orchestrator info =>
      have has := has_untagged once others (by simp [OrchestratorInfo.members])
      exact congrArg (Option.map orchestrator) (info.deserialize_of_has fits _ nodes each has)

theorem base_written (response : InfoResponse) (tree : Value)
    (written : response.Written tree) : ServerBase.deserialize tree = some response.base := by
  obtain ⟨nodes, -, has⟩ := written
  refine ServerBase.deserialize_of_has _ _ (has.fewer ?_)
  cases response <;> simp [members, base, ServerBase.members, NodeInfo.members,
    OrchestratorInfo.members]

theorem ofTag_fits {tag : String} {content : Value} {response : InfoResponse}
    (read : ofTag tag content = some response) : response.Fits := by
  rw [ofTag] at read
  split at read
  next =>
    obtain ⟨info, -, rfl⟩ := Option.map_eq_some_iff.mp read
    trivial
  next =>
    obtain ⟨info, decoded, rfl⟩ := Option.map_eq_some_iff.mp read
    exact OrchestratorInfo.deserialize_fits decoded
  next => cases read

theorem deserialize_fits {tree : Value} {response : InfoResponse}
    (read : deserialize tree = some response) : response.Fits := by
  unfold deserialize at read
  split at read
  next members =>
    simp only [Option.bind_eq_bind, Option.bind_eq_some_iff] at read
    obtain ⟨_, _, _, _, _, _, tagged⟩ := read
    exact ofTag_fits tagged
  next tag content =>
    obtain ⟨_, -, tagged⟩ := Option.bind_eq_some_iff.mp read
    exact ofTag_fits tagged
  next => cases read

/-- Both readers of an information find in any of its trees what was written, and what is read
of anything else is read again once it is written. -/
theorem info_round_trip (response : InfoResponse) :
    response.Written response.serialize ∧
      (∀ tree, response.Written tree →
        ServerBase.deserialize tree = some response.base ∧
          (deserialize tree = some response ↔ response.Fits)) ∧
      ∀ tree, deserialize tree = some response →
        deserialize response.serialize = some response := by
  have written := response.serialize_written
  refine ⟨written, fun tree here => ⟨response.base_written tree here, deserialize_fits,
    fun fits => response.deserialize_written fits tree here⟩, fun tree read => ?_⟩
  exact response.deserialize_written (deserialize_fits read) _ written

end InfoResponse

structure NodeRegistrationRequest where
  nodeUrl : String
  deriving DecidableEq, Repr

namespace NodeRegistrationRequest

def members (request : NodeRegistrationRequest) : List (String × Value) :=
  [("node_url", .string request.nodeUrl)]

def serialize (request : NodeRegistrationRequest) : Value := record request.members

def deserialize (tree : Value) : Option NodeRegistrationRequest := do
  match ← tree.fields ["node_url"] with
  | [nodeUrl] => return { nodeUrl := ← (← nodeUrl).string? }
  | _ => none

theorem deserialize_of_has (request : NodeRegistrationRequest) (tree : Value)
    (has : tree.Has request.members) : deserialize tree = some request := by
  have fields : tree.fields ["node_url"] = _ := has.fields
  rw [deserialize, fields]
  rfl

theorem deserialize_serialize (request : NodeRegistrationRequest) :
    deserialize request.serialize = some request :=
  request.deserialize_of_has _ (has_record (by simp [members]))

end NodeRegistrationRequest

end MadRpc
