import MadRpc.Orchestrator.Attempts

set_option autoImplicit false

namespace MadRpc

namespace MadrpcClient

theorem tryCall_ne_allNodesFailed (exchange : Exchange) :
    tryCall exchange ≠ .error .allNodesFailed := by
  unfold tryCall fromJsonRpcError
  split
  · nofun
  · nofun
  · split_ifs
    · nofun
    · nofun
    · split
      · nofun
      · nofun
      · split
        · split_ifs <;> nofun
        · nofun

theorem call_ne_allNodesFailed (config : RetryConfig) (exchange : Nat → Exchange) :
    (call config exchange).result ≠ .error .allNodesFailed := by
  by_cases none' : config.maxAttempts.toNat = 0
  · rw [call_never config none' exchange]
    nofun
  · obtain ⟨last, _, called⟩ := call_stops config (Nat.pos_of_ne_zero none') exchange
    rw [called]
    exact tryCall_ne_allNodesFailed _

end MadrpcClient

namespace Orchestrator

open MadrpcClient (Called Repeated tryCall call_stops)

theorem retriedVia_iff (client : MadrpcClient.RetryConfig) (attempt : Attempt) :
    RetriedVia client attempt ↔
      ∃ message,
        (sendHttpRequestVia client attempt).result = .error (.nodeUnavailable message) := by
  constructor
  · rintro ⟨err, failed, retryable⟩
    cases err with
    | nodeUnavailable message => exact ⟨message, failed⟩
    | allNodesFailed => exact absurd failed (MadrpcClient.call_ne_allNodesFailed client _)
    | _ => simp [isRetryable] at retryable
  · rintro ⟨message, failed⟩
    exact ⟨_, failed, rfl⟩

def AllRetried (config : RetryConfig) (forwarded : Forwarded) : Prop :=
  forwarded.tried.length = config.maxRetries + 1 ∧ forwarded.result = .error .allNodesFailed

theorem retry_contract_never (config : RetryConfig)
    (builtin : JsonRpcRequest → Except MadrpcError Value) (attempts : Nat → Attempt)
    (req : JsonRpcRequest) (forwards : isMetricsRequest req.method = false)
    (nodeAddr : Nat → String)
    (selected : ∀ attempt ≤ config.maxRetries,
      (attempts attempt).node = some (nodeAddr attempt)) :
    let forwarded := forwardRequestJsonrpc config builtin attempts req
    ¬ AllRetried config forwarded ∧
      (forwarded.tried.length = config.maxRetries + 1 ↔
        ∀ attempt < config.maxRetries, ∃ message,
          (sendHttpRequest (attempts attempt)).result = .error (.nodeUnavailable message)) ∧
      ∃ last ≤ config.maxRetries,
        forwarded.result = (sendHttpRequest (attempts last)).result := by
  obtain ⟨last, stops, ends⟩ :=
    forwardRequestVia_stops .default config builtin req forwards selected
  rw [forwardRequestVia_default] at ends
  obtain ⟨result, tried, _⟩ := ends
  rw [Nat.zero_add] at result
  refine ⟨fun ⟨_, claimed⟩ => ?_, ?_, last, stops.within, result⟩
  · rw [result] at claimed
    exact MadrpcClient.call_ne_allNodesFailed .default _ claimed
  · rw [tried, List.length_map, List.length_range', Nat.add_right_cancel_iff, stops.exhausted_iff]
    exact forall₂_congr fun attempt _ => retriedVia_iff .default (attempts attempt)

theorem retry_contract_never_witness :
    let forwarded := forwardRequestJsonrpc .default (fun _ => .error .allNodesFailed)
      (fun _ => ⟨some "http://a", fun _ => .failed "connection refused"⟩)
      ⟨"2.0", "compute", .null, .null⟩
    ¬ AllRetried .default forwarded :=
  (retry_contract_never .default _ _ _ (by decide) (fun _ => "http://a") fun _ _ => rfl).1

theorem refused_connection_not_retried :
    let attempts := fun (_ : Nat) =>
      (⟨some "http://a", fun _ => .failed "connection refused"⟩ : Attempt)
    let forwarded := forwardRequestJsonrpc .default (fun _ => .error .allNodesFailed) attempts
      ⟨"2.0", "compute", .null, .null⟩
    let refused := MadrpcError.transport "HTTP request failed: connection refused"
    -- The client calls the failure of every attempt retryable, and there is but one attempt.
    (∀ attempt, (sendHttpRequest (attempts attempt)).result = .error refused) ∧
      refused.isRetryable = true ∧ forwarded.tried = ["http://a"] ∧
      forwarded.result = .error refused ∧ ¬ AllRetried .default forwarded := by
  intro attempts forwarded refused
  have settled : forwarded =
      (settle "compute" (.error refused)).after
        (contacted "http://a" (sendHttpRequest (attempts 0))) :=
    forwardLoop_settled .default "compute" attempts 3 0 50 "http://a" rfl
      (.inr fun err failed => by cases failed; rfl)
  rw [settled]
  refine ⟨fun _ => rfl, rfl, rfl, rfl, fun retried => ?_⟩
  cases retried.1

structure Post where
  attempt : Nat
  url : String
  outcome : Except MadrpcError Value

def Post.Decisive (post : Post) : Prop :=
  ∀ err, post.outcome = .error err → err.isRetryable = false

def postsOf (attempts : Nat → Attempt) (attempt : Nat) (url : String) (count : Nat) : List Post :=
  (List.range count).map fun post => ⟨attempt, url, tryCall ((attempts attempt).exchange post)⟩

def postsFrom (attempts : Nat → Attempt) : Nat → List (String × Nat) → List Post
  | _, [] => []
  | attempt, (url, count) :: rest =>
      postsOf attempts attempt url count ++ postsFrom attempts (attempt + 1) rest

def Forwarded.posts (attempts : Nat → Attempt) (forwarded : Forwarded) : List Post :=
  postsFrom attempts 0 forwarded.posted

theorem flatMap_length_le {Item Result : Type} (items : List Item) (expand : Item → List Result)
    (bound : Nat) (each : ∀ item ∈ items, (expand item).length ≤ bound) :
    (items.flatMap expand).length ≤ bound * items.length := by
  induction items with
  | nil => simp
  | cons item rest ih =>
      have here := each item List.mem_cons_self
      have later := ih fun other member => each other (List.mem_cons_of_mem _ member)
      rw [List.flatMap_cons, List.length_append, List.length_cons, Nat.mul_succ]
      omega

section Posts

variable {client : MadrpcClient.RetryConfig} {attempts : Nat → Attempt} {nodeAddr : Nat → String}

def attemptPosts (client : MadrpcClient.RetryConfig) (attempts : Nat → Attempt)
    (nodeAddr : Nat → String) (attempt : Nat) : List Post :=
  postsOf attempts attempt (baseUrl (nodeAddr attempt))
    (sendHttpRequestVia client (attempts attempt)).posts

theorem postsFrom_attempts (start count : Nat) :
    postsFrom attempts start ((List.range' start count).map fun attempt =>
      (baseUrl (nodeAddr attempt), (sendHttpRequestVia client (attempts attempt)).posts)) =
      (List.range' start count).flatMap (attemptPosts client attempts nodeAddr) := by
  induction count generalizing start with
  | zero => rfl
  | succ count ih =>
      rw [List.range'_succ, List.map_cons, postsFrom, ih, List.flatMap_cons]
      rfl

structure AttemptPosts (client : MadrpcClient.RetryConfig) (attempt : Attempt) (posts : List Post) :
    Prop where
  bounded : posts.length ≤ client.maxAttempts.toNat
  series : ∃ earlier final, posts = earlier ++ [final] ∧ (∀ post ∈ earlier, ¬ post.Decisive) ∧
    final.outcome = (sendHttpRequestVia client attempt).result

theorem attemptPosts_correct (some' : 0 < client.maxAttempts.toNat) (attempt : Nat) :
    AttemptPosts client (attempts attempt) (attemptPosts client attempts nodeAddr attempt) := by
  obtain ⟨last, stops, called⟩ := call_stops client some' (attempts attempt).exchange
  have sent : sendHttpRequestVia client (attempts attempt) = _ := called
  have count : (sendHttpRequestVia client (attempts attempt)).posts = last + 1 := by rw [sent]
  have within := stops.within
  rw [attemptPosts, postsOf, count]
  constructor
  · rw [List.length_map, List.length_range]
    omega
  · rw [List.range_succ, List.map_append]
    refine ⟨_, _, rfl, fun post member => ?_, by rw [sent]⟩
    obtain ⟨index, inside, rfl⟩ := List.mem_map.mp member
    obtain ⟨err, failed, retryable⟩ := stops.repeated index (List.mem_range.mp inside)
    intro decisive
    rw [decisive err failed] at retryable
    cases retryable

theorem attemptPosts_retried (some' : 0 < client.maxAttempts.toNat) (attempt : Nat)
    (again : RetriedVia client (attempts attempt)) :
    ∀ post ∈ attemptPosts client attempts nodeAddr attempt, ¬ post.Decisive := by
  obtain ⟨earlier, final, split, repeated, ended⟩ :=
    (@attemptPosts_correct client attempts nodeAddr some' attempt).series
  obtain ⟨message, failed⟩ := (retriedVia_iff client (attempts attempt)).mp again
  intro post member
  rw [split, List.mem_append, List.mem_singleton] at member
  rcases member with before | rfl
  · exact repeated post before
  · -- What the orchestrator tries again, the client has already called retryable.
    intro decisive
    cases decisive _ (ended.trans failed)

structure PostsDecide (posts : List Post) (result : Except MadrpcError Value) : Prop where
  decided : ∀ index post, posts[index]? = some post → post.Decisive →
    index + 1 = posts.length ∧ result = post.outcome
  undecided : (∀ post ∈ posts, ¬ post.Decisive) →
    ∃ final, posts.getLast? = some final ∧ result = final.outcome

theorem postsDecide_of_series {result : Except MadrpcError Value} (earlier : List Post)
    (final : Post) (repeated : ∀ post ∈ earlier, ¬ post.Decisive)
    (ended : result = final.outcome) : PostsDecide (earlier ++ [final]) result := by
  constructor
  · intro index post found decisive
    rw [List.getElem?_append] at found
    split at found
    next => exact absurd decisive (repeated post (List.mem_of_getElem? found))
    next beyond =>
      rw [List.getElem?_singleton] at found
      split at found
      next last =>
        cases found
        rw [List.length_append, List.length_singleton]
        exact ⟨by omega, ended⟩
      next => cases found
  · intro _
    exact ⟨final, List.getLast?_concat, ended⟩

theorem posts_series (some' : 0 < client.maxAttempts.toNat) (last : Nat)
    (again : ∀ attempt < last, RetriedVia client (attempts attempt)) :
    ∃ earlier final,
      (List.range (last + 1)).flatMap (attemptPosts client attempts nodeAddr) =
        earlier ++ [final] ∧
      (∀ post ∈ earlier, ¬ post.Decisive) ∧
      final.outcome = (sendHttpRequestVia client (attempts last)).result := by
  obtain ⟨earlier, final, split, repeated, ended⟩ :=
    (@attemptPosts_correct client attempts nodeAddr some' last).series
  refine ⟨(List.range last).flatMap (attemptPosts client attempts nodeAddr) ++ earlier, final,
    ?_, fun post member => ?_, ended⟩
  · rw [List.range_succ, List.flatMap_append, List.flatMap_singleton, split, List.append_assoc]
  · rcases List.mem_append.mp member with before | here
    · obtain ⟨attempt, inside, posted⟩ := List.mem_flatMap.mp before
      exact attemptPosts_retried some' attempt (again attempt (List.mem_range.mp inside)) post
        posted
    · exact repeated post here

end Posts

theorem two_level_retry (config : RetryConfig)
    (builtin : JsonRpcRequest → Except MadrpcError Value) (attempts : Nat → Attempt)
    (req : JsonRpcRequest) (forwards : isMetricsRequest req.method = false)
    (nodeAddr : Nat → String)
    (selected : ∀ attempt ≤ config.maxRetries,
      (attempts attempt).node = some (nodeAddr attempt)) :
    -- The source's forwarding is the one whose clients have the default configuration.
    forwardRequestJsonrpc config builtin attempts req =
        forwardRequestVia .default config builtin attempts req ∧
      ∀ client : MadrpcClient.RetryConfig, 0 < client.maxAttempts.toNat →
        let forwarded := forwardRequestVia client config builtin attempts req
        let posts := forwarded.posts attempts
        posts.length ≤ client.maxAttempts.toNat * (config.maxRetries + 1) ∧
          PostsDecide posts forwarded.result ∧
          ∀ post ∈ posts, post.url = baseUrl (nodeAddr post.attempt) := by
  refine ⟨(forwardRequestVia_default config builtin attempts req).symm, fun client some' => ?_⟩
  obtain ⟨last, stops, ends⟩ :=
    forwardRequestVia_stops client config builtin req forwards selected
  have posts : (forwardRequestVia client config builtin attempts req).posts attempts =
      (List.range (last + 1)).flatMap (attemptPosts client attempts nodeAddr) := by
    rw [Forwarded.posts, ends.posted, postsFrom_attempts, ← List.range_eq_range']
  have result := ends.result
  rw [Nat.zero_add] at result
  intro forwarded
  rw [show forwarded.posts attempts = _ from posts]
  refine ⟨?_, ?_, fun post member => ?_⟩
  · calc ((List.range (last + 1)).flatMap (attemptPosts client attempts nodeAddr)).length
        ≤ client.maxAttempts.toNat * (List.range (last + 1)).length :=
          flatMap_length_le _ _ _ fun attempt _ => (attemptPosts_correct some' attempt).bounded
      _ ≤ client.maxAttempts.toNat * (config.maxRetries + 1) := by
          rw [List.length_range]
          exact Nat.mul_le_mul_left _ (Nat.succ_le_succ stops.within)
  · obtain ⟨earlier, final, split, repeated, ended⟩ :=
      @posts_series client attempts nodeAddr some' last stops.repeated
    rw [split]
    exact postsDecide_of_series earlier final repeated (result.trans ended.symm)
  · obtain ⟨attempt, _, posted⟩ := List.mem_flatMap.mp member
    obtain ⟨_, _, rfl⟩ := List.mem_map.mp posted
    rfl

theorem two_level_retry_witness :
    let busy := Exchange.responded
      ⟨⟨200, "OK"⟩, .collected (.ok (.errorResponse .null (.internalError "busy")))⟩
    let nodeAddr := fun attempt => if attempt = 0 then "a:1" else "https://b"
    let attempts := fun attempt => (⟨some (nodeAddr attempt),
      fun _ => if attempt = 0 then busy else .failed "connection refused"⟩ : Attempt)
    let forwarded := forwardRequestVia ⟨2⟩ .default (fun _ => .error .allNodesFailed) attempts
      ⟨"2.0", "compute", .null, .null⟩
    let posts := forwarded.posts attempts
    posts.length ≤ 2 * 4 ∧ PostsDecide posts forwarded.result ∧
      ∀ post ∈ posts, post.url = baseUrl (nodeAddr post.attempt) := by
  intro busy nodeAddr attempts
  exact (two_level_retry .default (fun _ => .error .allNodesFailed) attempts
    ⟨"2.0", "compute", .null, .null⟩ (by decide) nodeAddr fun _ _ => rfl).2 ⟨2⟩ (by decide)

end Orchestrator

end MadRpc
