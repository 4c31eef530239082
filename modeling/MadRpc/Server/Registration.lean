import MadRpc.Client.Delivery
import MadRpc.Common.BuiltinWire
import MadRpc.Orchestrator.HttpServer
import MadRpc.Orchestrator.Registration

set_option autoImplicit false

namespace MadRpc

def NodeRegistrationResponse.serialize (response : NodeRegistrationResponse) : Value :=
  Value.record [("registered_url", .string response.registeredUrl),
    ("is_new_registration", .bool response.isNewRegistration)]

/-- `handle_register`, with the text of the error for parameters that are no registration. -/
def OrchestratorRouter.handleRegister (mismatch : Value → String) (lb : LoadBalancer)
    (req : JsonRpcRequest) : LoadBalancer × JsonRpcResponse :=
  match NodeRegistrationRequest.deserialize req.params with
  | none =>
      (lb, .errorResponse req.id
        (.invalidParams ("Invalid registration params: " ++ mismatch req.params)))
  | some registration =>
      match registerNode lb registration.nodeUrl with
      | (lb, .ok response) => (lb, .success req.id response.serialize)
      | (lb, .error e) => (lb, .errorResponse req.id (.nodeRegistrationError e.toString))

/-! ## The loop of the node -/

namespace Node

structure Registration where
  result : Except MadrpcError Unit
  posts : Nat
  slept : Duration

/-- The delay is doubled four times at most, which saturates at nothing. -/
def registerLoop (config : MadrpcClient.RetryConfig) (exchange : Nat → Exchange) :
    Nat → Nat → Duration → Duration → Registration
  | remaining, posts, delay, slept =>
      let called := MadrpcClient.call config fun later => exchange (posts + later)
      match called.result with
      | .ok _ => ⟨.ok (), posts + called.posts, slept⟩
      | .error e =>
          match remaining with
          | 0 =>
              ⟨.error (.transport ("Failed to register after 5 attempts: " ++ e.toString)),
                posts + called.posts, slept⟩
          | remaining + 1 =>
              registerLoop config exchange remaining (posts + called.posts) (delay * 2)
                (slept + delay)

def registerWithOrchestrator (client : Option MadrpcClient.RetryConfig)
    (exchange : Nat → Exchange) : Registration :=
  match client with
  | none => ⟨.error (.invalidRequest "No orchestrator client configured"), 0, 0⟩
  | some config => registerLoop config exchange 4 0 (Duration.fromMillis 500) 0

structure Ends (exchange : Nat → Exchange) (posts remaining attempts : Nat)
    (delay slept : Duration) (registration : Registration) : Prop where
  some' : posts < registration.posts
  few : registration.posts ≤ posts + (remaining + 1) * attempts
  failed : ∀ post, posts ≤ post → post + 1 < registration.posts →
    ∃ e, MadrpcClient.tryCall (exchange post) = .error e
  last : (registration.result = .ok () ∧ (∃ value,
        MadrpcClient.tryCall (exchange (registration.posts - 1)) = .ok value) ∧
      ∃ doubled ≤ remaining, registration.slept = slept + delay * (2 ^ doubled - 1)) ∨
    ∃ e, MadrpcClient.tryCall (exchange (registration.posts - 1)) = .error e ∧
      registration.result =
        .error (.transport ("Failed to register after 5 attempts: " ++ e.toString)) ∧
      registration.slept = slept + delay * (2 ^ remaining - 1)

theorem call_ends (config : MadrpcClient.RetryConfig) (some' : 0 < config.maxAttempts.toNat)
    (exchange : Nat → Exchange) :
    ∃ last < config.maxAttempts.toNat, MadrpcClient.call config exchange =
        ⟨MadrpcClient.tryCall (exchange last), last + 1⟩ ∧
      ∀ post < last, ∃ e, MadrpcClient.tryCall (exchange post) = .error e := by
  obtain ⟨last, stops, called⟩ := MadrpcClient.call_stops config some' exchange
  have within := stops.within
  refine ⟨last, by omega, called, fun post earlier => ?_⟩
  obtain ⟨e, failed, -⟩ := stops.repeated post earlier
  exact ⟨e, failed⟩

theorem Ends.after {exchange : Nat → Exchange} {posts called remaining attempts : Nat}
    {delay slept : Duration} {registration : Registration} (few : called ≤ attempts)
    (failed : ∀ post < called, ∃ e, MadrpcClient.tryCall (exchange (posts + post)) = .error e)
    (later : Ends exchange (posts + called) remaining attempts (delay * 2) (slept + delay)
      registration) :
    Ends exchange posts (remaining + 1) attempts delay slept registration where
  some' := Nat.lt_of_le_of_lt (Nat.le_add_right posts called) later.some'
  few := by
    have bound := later.few
    rw [Nat.add_mul]
    omega
  failed post least before := by
    by_cases here : post < posts + called
    · obtain ⟨offset, rfl⟩ := Nat.exists_eq_add_of_le least
      exact failed offset (by omega)
    · exact later.failed post (Nat.not_lt.mp here) before
  last := by
    have doubled (times : Nat) :
        slept + delay + delay * 2 * (2 ^ times - 1) = slept + delay * (2 ^ (times + 1) - 1) := by
      have positive : 0 < 2 ^ times := Nat.two_pow_pos times
      obtain ⟨power, same⟩ := Nat.exists_eq_succ_of_ne_zero (Nat.pos_iff_ne_zero.mp positive)
      rw [Nat.pow_succ, same, Nat.succ_sub_one, show power.succ * 2 - 1 = 1 + 2 * power by omega]
      rw [Nat.mul_add, Nat.mul_one, Nat.mul_assoc, Nat.add_assoc]
    rcases later.last with ⟨ok, answered, times, within, waited⟩ | ⟨e, refused, text, waited⟩
    · exact .inl ⟨ok, answered, times + 1, Nat.succ_le_succ within, waited.trans (doubled times)⟩
    · exact .inr ⟨e, refused, text, waited.trans (doubled remaining)⟩

theorem registerLoop_ends (config : MadrpcClient.RetryConfig)
    (some' : 0 < config.maxAttempts.toNat) (exchange : Nat → Exchange)
    (remaining posts : Nat) (delay slept : Duration) :
    Ends exchange posts remaining config.maxAttempts.toNat delay slept
      (registerLoop config exchange remaining posts delay slept) := by
  induction remaining generalizing posts delay slept with
  | zero =>
      obtain ⟨last, within, called, failed⟩ := call_ends config some'
        fun later => exchange (posts + later)
      have earlier : ∀ post, posts ≤ post → post + 1 < posts + (last + 1) →
          ∃ e, MadrpcClient.tryCall (exchange post) = .error e := by
        intro post least before
        obtain ⟨offset, rfl⟩ := Nat.exists_eq_add_of_le least
        exact failed offset (by omega)
      rw [registerLoop, called]
      cases outcome : MadrpcClient.tryCall (exchange (posts + last)) with
      | ok value =>
          exact ⟨by simp only; omega, by simp only; omega, earlier,
            .inl ⟨rfl, ⟨value, outcome⟩, 0, Nat.le_refl 0, rfl⟩⟩
      | error e =>
          exact ⟨by simp only; omega, by simp only; omega, earlier,
            .inr ⟨e, outcome, rfl, rfl⟩⟩
  | succ remaining ih =>
      obtain ⟨last, within, called, failed⟩ := call_ends config some'
        fun later => exchange (posts + later)
      rw [registerLoop, called]
      cases outcome : MadrpcClient.tryCall (exchange (posts + last)) with
      | ok value =>
          refine ⟨by simp only; omega, ?_, fun post least before => ?_,
            .inl ⟨rfl, ⟨value, outcome⟩, 0, Nat.zero_le _, rfl⟩⟩
          · rw [Nat.add_mul]
            simp only
            omega
          · obtain ⟨offset, rfl⟩ := Nat.exists_eq_add_of_le least
            exact failed offset (by simp only at before; omega)
      | error e =>
          have few : last + 1 ≤ config.maxAttempts.toNat := by omega
          refine Ends.after few (fun post before => ?_) (ih _ _ _)
          rcases Nat.lt_succ_iff_lt_or_eq.mp before with earlier | rfl
          · exact failed post earlier
          · exact ⟨e, outcome⟩

end Node

/-! ## The network between the two -/

structure RegistrationPost where
  others : List OrchestratorStep
  requestId : UInt64
  delivery : Delivery

namespace RegistrationPost

def request (publicUrl : String) (post : RegistrationPost) : JsonRpcRequest :=
  MadrpcClient.request "_register" (NodeRegistrationRequest.mk publicUrl).serialize post.requestId

def deliver (mismatch : Value → String) (publicUrl : String) (post : RegistrationPost)
    (state : Orchestrator) : Orchestrator × Exchange :=
  let state := Orchestrator.machine.run state post.others
  let (loadBalancer, response) :=
    OrchestratorRouter.handleRegister mismatch state.loadBalancer (post.request publicUrl)
  (if post.delivery.arrives then { state with loadBalancer := loadBalancer } else state,
    post.delivery.exchange response)

def reached (mismatch : Value → String) (publicUrl : String) (start : Orchestrator)
    (posts : Nat → RegistrationPost) : Nat → Orchestrator
  | 0 => start
  | made + 1 =>
      ((posts made).deliver mismatch publicUrl (reached mismatch publicUrl start posts made)).1

def exchanged (mismatch : Value → String) (publicUrl : String) (start : Orchestrator)
    (posts : Nat → RegistrationPost) (made : Nat) : Exchange :=
  ((posts made).deliver mismatch publicUrl (reached mismatch publicUrl start posts made)).2

def steps (publicUrl : String) (post : RegistrationPost) : List OrchestratorStep :=
  post.others ++ if post.delivery.arrives then [.registerNode publicUrl] else []

section

variable (mismatch : Value → String) (publicUrl : String)

theorem handleRegister_eq (lb : LoadBalancer) (post : RegistrationPost) :
    OrchestratorRouter.handleRegister mismatch lb (post.request publicUrl) =
      ((registerNode lb publicUrl).1, match (registerNode lb publicUrl).2 with
        | .ok response => .success (post.request publicUrl).id response.serialize
        | .error e =>
            .errorResponse (post.request publicUrl).id (.nodeRegistrationError e.toString)) := by
  have decoded : NodeRegistrationRequest.deserialize (post.request publicUrl).params =
      some ⟨publicUrl⟩ := NodeRegistrationRequest.deserialize_serialize _
  simp only [OrchestratorRouter.handleRegister, decoded]
  rcases registerNode lb publicUrl with ⟨after, response | e⟩ <;> rfl

theorem deliver_run (post : RegistrationPost) (state : Orchestrator) :
    (post.deliver mismatch publicUrl state).1 =
      Orchestrator.machine.run state (post.steps publicUrl) := by
  rw [deliver, handleRegister_eq, steps, Machine.run_append]
  cases post.delivery <;> rfl

theorem tryCall_deliver (valid : isHttpUrl publicUrl = true) (post : RegistrationPost)
    (state : Orchestrator) :
    (∃ value, MadrpcClient.tryCall (post.deliver mismatch publicUrl state).2 = .ok value) ↔
      post.delivery.answers = true := by
  have accepted : ∃ response, (registerNode (Orchestrator.machine.run state
      post.others).loadBalancer publicUrl).2 = .ok response := by
    simp [registerNode, valid]
  obtain ⟨response, accepted⟩ := accepted
  rw [deliver, handleRegister_eq]
  simp only [accepted]
  cases answers : post.delivery.answers with
  | true => exact iff_of_true ⟨_, Delivery.tryCall_success answers _ _⟩ rfl
  | false =>
      obtain ⟨e, failed⟩ := Delivery.tryCall_unanswered answers
        (.success (post.request publicUrl).id response.serialize)
      refine iff_of_false ?_ Bool.false_ne_true
      rintro ⟨value, succeeded⟩
      cases failed.symm.trans succeeded

end

end RegistrationPost

/-! ## Registration again and again -/

theorem LoadBalancer.joinRotation_eq_self {lb : LoadBalancer} {addr : String}
    (listed : addr ∈ lb.enabledNodes)
    (joined : ∀ node, lb.nodes.lookup addr = some node → node.reenabled = node) :
    lb.joinRotation addr = lb := by
  rw [joinRotation, if_pos listed, AList.modify_eq_self joined]

theorem registerNode_listed (lb : LoadBalancer) (nodeUrl : String)
    (valid : isHttpUrl nodeUrl = true) : nodeUrl ∈ (registerNode lb nodeUrl).1.enabledNodes := by
  have added := addNode_lookup lb nodeUrl
  simp [registerNode, valid, LoadBalancer.enableNode, added]

theorem registerNode_again (lb : LoadBalancer) (nodeUrl : String)
    (valid : isHttpUrl nodeUrl = true) :
    registerNode (registerNode lb nodeUrl).1 nodeUrl =
      ((registerNode lb nodeUrl).1, .ok ⟨nodeUrl, false⟩) := by
  have found := registerNode_lookup lb nodeUrl valid
  have listed := registerNode_listed lb nodeUrl valid
  generalize (registerNode lb nodeUrl).1 = after at found listed
  have present : nodeUrl ∈ after.nodes := AList.lookup_isSome.mp (by rw [found]; rfl)
  have known : after.addNode nodeUrl = after := by rw [LoadBalancer.addNode, if_pos present]
  have joined : after.joinRotation nodeUrl = after := by
    refine LoadBalancer.joinRotation_eq_self listed fun node here => ?_
    obtain rfl := Option.some.inj (found.symm.trans here)
    rfl
  have enabled : (after.enableNode nodeUrl).1 = after := by
    simp only [LoadBalancer.enableNode, found, joined]
  simp [registerNode, valid, known, enabled]

/-! ## Whatever the network does -/

def LoadBalancer.Enlisted (lb : LoadBalancer) (nodeUrl : String) : Prop :=
  nodeUrl ∈ lb.enabledNodes ∧ ∃ node, lb.nodes.lookup nodeUrl = some node ∧
    node.enabled = true ∧ node.disableReason = none ∧ node.consecutiveFailures = 0

theorem registerNode_enlisted (lb : LoadBalancer) (nodeUrl : String)
    (valid : isHttpUrl nodeUrl = true) : (registerNode lb nodeUrl).1.Enlisted nodeUrl :=
  ⟨registerNode_listed lb nodeUrl valid, _, registerNode_lookup lb nodeUrl valid, rfl, rfl, rfl⟩

namespace RegistrationPost

section

variable {mismatch : Value → String} {publicUrl : String} {start : Orchestrator}
  {posts : Nat → RegistrationPost}

theorem reached_succ (made : Nat) :
    reached mismatch publicUrl start posts (made + 1) =
      Orchestrator.machine.run (reached mismatch publicUrl start posts made)
        ((posts made).steps publicUrl) :=
  deliver_run mismatch publicUrl (posts made) _

theorem reached_arrived (valid : isHttpUrl publicUrl = true) (made : Nat)
    (arrived : (posts made).delivery.arrives = true) :
    (reached mismatch publicUrl start posts (made + 1)).loadBalancer.Enlisted publicUrl := by
  rw [reached_succ, steps, arrived, if_pos rfl, Machine.run_append]
  exact registerNode_enlisted _ publicUrl valid

theorem reached_alone (valid : isHttpUrl publicUrl = true) (made : Nat)
    (alone : ∀ post < made, (posts post).others = []) :
    (reached mismatch publicUrl start posts made).loadBalancer =
      if (List.range made).any fun post => (posts post).delivery.arrives then
        (registerNode start.loadBalancer publicUrl).1
      else start.loadBalancer := by
  induction made with
  | zero => rfl
  | succ made ih =>
      have before := ih fun post earlier => alone post (Nat.lt_succ_of_lt earlier)
      have others := alone made (Nat.lt_succ_self made)
      rw [reached_succ, steps, others, List.nil_append, List.range_succ, List.any_append]
      cases arrived : (posts made).delivery.arrives with
      | false => simpa [arrived, Machine.run] using before
      | true =>
          simp only [if_true, List.any_cons, arrived, List.any_nil, Bool.or_false, Bool.or_true]
          show (registerNode (reached mismatch publicUrl start posts made).loadBalancer
            publicUrl).1 = _
          rw [before]
          split
          next => rw [registerNode_again _ _ valid]
          next => rfl

end

/-- What a node may rely on when it registers itself. -/
structure Reliable (mismatch : Value → String) (publicUrl : String) (attempts : Nat)
    (start : Orchestrator) (posts : Nat → RegistrationPost) (registration : Node.Registration) :
    Prop where
  answered : registration.result = .ok () ↔
    (posts (registration.posts - 1)).delivery.answers = true
  first : ∀ made, made + 1 < registration.posts → (posts made).delivery.answers = false
  bounded : 1 ≤ registration.posts ∧ registration.posts ≤ 5 * attempts
  slept : registration.slept ≤ Duration.fromMillis 7500
  failed : registration.result ≠ .ok () → registration.slept = Duration.fromMillis 7500 ∧
    ∃ e : MadrpcError, registration.result =
      .error (.transport ("Failed to register after 5 attempts: " ++ e.toString))
  registered : registration.result = .ok () →
    (reached mismatch publicUrl start posts registration.posts).loadBalancer.Enlisted publicUrl
  once : (∀ post < registration.posts, (posts post).others = []) →
    (reached mismatch publicUrl start posts registration.posts).loadBalancer =
      if (List.range registration.posts).any fun post => (posts post).delivery.arrives then
        (registerNode start.loadBalancer publicUrl).1
      else start.loadBalancer

theorem registration_reliable (mismatch : Value → String) (config : MadrpcClient.RetryConfig)
    (some' : 0 < config.maxAttempts.toNat) (publicUrl : String)
    (valid : isHttpUrl publicUrl = true) (start : Orchestrator)
    (posts : Nat → RegistrationPost) :
    Reliable mismatch publicUrl config.maxAttempts.toNat start posts
      (Node.registerWithOrchestrator (some config)
        (exchanged mismatch publicUrl start posts)) := by
  have ends := Node.registerLoop_ends config some' (exchanged mismatch publicUrl start posts) 4 0
    (Duration.fromMillis 500) 0
  have tried (made : Nat) := tryCall_deliver mismatch publicUrl valid (posts made)
    (reached mismatch publicUrl start posts made)
  rw [Node.registerWithOrchestrator]
  generalize Node.registerLoop config (exchanged mismatch publicUrl start posts) 4 0
    (Duration.fromMillis 500) 0 = registration at ends
  have answered : registration.result = .ok () ↔
      (posts (registration.posts - 1)).delivery.answers = true := by
    rw [← tried]
    rcases ends.last with ⟨ok, succeeded, -⟩ | ⟨e, refused, text, -⟩
    · exact iff_of_true ok succeeded
    · refine iff_of_false (by rw [text]; exact nofun) ?_
      rintro ⟨value, succeeded⟩
      exact absurd (refused.symm.trans succeeded) nofun
  refine ⟨answered, fun made before => ?_, ⟨ends.some', ?_⟩, ?_, ?_, fun ok => ?_,
    reached_alone valid registration.posts⟩
  · obtain ⟨e, refused⟩ := ends.failed made (Nat.zero_le made) before
    refine Bool.eq_false_iff.mpr fun succeeded => ?_
    obtain ⟨value, accepted⟩ := (tried made).mpr succeeded
    exact absurd (refused.symm.trans accepted) nofun
  · exact ends.few.trans_eq (Nat.zero_add _)
  · rcases ends.last with ⟨-, -, doubled, within, waited⟩ | ⟨e, -, -, waited⟩
    · have power : 2 ^ doubled ≤ 2 ^ 4 := Nat.pow_le_pow_right (by decide) within
      rw [waited, Nat.zero_add]
      exact Nat.mul_le_mul_left (Duration.fromMillis 500) (Nat.sub_le_sub_right power 1)
    · exact Nat.le_of_eq waited
  · intro bad
    rcases ends.last with ⟨ok, -⟩ | ⟨e, -, text, waited⟩
    · exact absurd ok bad
    · exact ⟨waited, e, text⟩
  · obtain ⟨made, same⟩ := Nat.exists_eq_add_of_lt ends.some'
    rw [Nat.zero_add] at same
    rw [answered, same, Nat.add_sub_cancel] at ok
    rw [same]
    refine reached_arrived valid made ?_
    cases sent : (posts made).delivery with
    | answered => rfl
    | _ =>
        rw [sent] at ok
        cases ok

/-! The first answer is lost, the second request, and the third post is answered. -/

def thirdAnswered : Nat → RegistrationPost
  | 0 => ⟨[], 1, .unanswered "operation timed out"⟩
  | 1 => ⟨[.call (.nextNode 5)], 2, .lost "connection refused"⟩
  | _ => ⟨[], 3, .answered⟩

theorem registration_reliable_witness :
    Reliable (fun _ => "invalid type") "http://n:9001" 3 (.start (.new ["http://a"]) .default)
      thirdAnswered (Node.registerWithOrchestrator (some .default)
        (exchanged (fun _ => "invalid type") "http://n:9001" (.start (.new ["http://a"]) .default)
          thirdAnswered)) :=
  registration_reliable _ .default (by decide) "http://n:9001" (by decide) _ _

/-! ## A URL that the orchestrator does not take -/

section Rejected

variable {mismatch : Value → String} {publicUrl : String} {start : Orchestrator}
  {posts : Nat → RegistrationPost}

theorem rejected_run (invalid : isHttpUrl publicUrl = false) (state : Orchestrator) :
    Orchestrator.machine.run state [.registerNode publicUrl] = state := by
  simp [Machine.run, Orchestrator.step, registerNode, invalid]

theorem reached_rejected (invalid : isHttpUrl publicUrl = false) (made : Nat) :
    reached mismatch publicUrl start posts made =
      Orchestrator.machine.run start
        ((List.range made).flatMap fun post => (posts post).others) := by
  induction made with
  | zero => rfl
  | succ made ih =>
      rw [reached_succ, ih, steps, List.range_succ, List.flatMap_append, Machine.run_append,
        Machine.run_append, List.flatMap_singleton]
      split
      next => exact rejected_run invalid _
      next => rfl

/-- The rejection counts as a node that is unavailable, and is tried again like one. -/
theorem rejected_repeated (invalid : isHttpUrl publicUrl = false) (made : Nat)
    (passing : ∀ response, (posts made).delivery.instead = some response →
      MadrpcClient.Repeated (.responded response)) :
    MadrpcClient.Repeated (exchanged mismatch publicUrl start posts made) := by
  rw [exchanged, deliver, handleRegister_eq]
  cases sent : (posts made).delivery with
  | lost message | unanswered message => exact ⟨_, rfl, rfl⟩
  | refused response | spoiled response => exact passing response (by rw [sent]; rfl)
  | answered =>
      simp only [registerNode, invalid, Bool.not_false, if_true]
      exact ⟨_, rfl, rfl⟩

end Rejected

end RegistrationPost

namespace Node

theorem registerLoop_exhausted (config : MadrpcClient.RetryConfig)
    (some' : 0 < config.maxAttempts.toNat) (exchange : Nat → Exchange)
    (again : ∀ post, MadrpcClient.Repeated (exchange post))
    (remaining posts : Nat) (delay slept : Duration) :
    (registerLoop config exchange remaining posts delay slept).posts =
        posts + (remaining + 1) * config.maxAttempts.toNat ∧
      ∃ message,
        (registerLoop config exchange remaining posts delay slept).result =
          .error (.transport message) := by
  have called (posts : Nat) : ∃ e, MadrpcClient.call config
      (fun later => exchange (posts + later)) = ⟨.error e, config.maxAttempts.toNat⟩ := by
    obtain ⟨last, stops, result⟩ := MadrpcClient.call_stops config some'
      fun later => exchange (posts + later)
    obtain ⟨e, failed, -⟩ := again (posts + last)
    have all := stops.exhausted_iff.mpr fun attempt _ => again (posts + attempt)
    refine ⟨e, ?_⟩
    rw [result, failed, show last + 1 = config.maxAttempts.toNat by omega]
  induction remaining generalizing posts delay slept with
  | zero =>
      obtain ⟨e, result⟩ := called posts
      rw [registerLoop, result]
      exact ⟨by simp only [Nat.zero_add, Nat.one_mul], _, rfl⟩
  | succ remaining ih =>
      obtain ⟨e, result⟩ := called posts
      obtain ⟨made, text⟩ := ih (posts + config.maxAttempts.toNat) (delay * 2) (slept + delay)
      rw [registerLoop, result]
      refine ⟨made.trans ?_, text⟩
      rw [Nat.add_mul (remaining + 1)]
      omega

end Node

namespace RegistrationPost

structure Rejected (mismatch : Value → String) (publicUrl : String) (attempts : Nat)
    (start : Orchestrator) (posts : Nat → RegistrationPost) (registration : Node.Registration) :
    Prop where
  exhausted : registration.posts = 5 * attempts
  failed : ∃ message, registration.result = .error (.transport message)
  untouched : reached mismatch publicUrl start posts registration.posts =
    Orchestrator.machine.run start
      ((List.range registration.posts).flatMap fun post => (posts post).others)

theorem invalid_url_rejected (mismatch : Value → String) (config : MadrpcClient.RetryConfig)
    (some' : 0 < config.maxAttempts.toNat) (publicUrl : String)
    (invalid : isHttpUrl publicUrl = false) (start : Orchestrator)
    (posts : Nat → RegistrationPost)
    (passing : ∀ made response, (posts made).delivery.instead = some response →
      MadrpcClient.Repeated (.responded response)) :
    Rejected mismatch publicUrl config.maxAttempts.toNat start posts
      (Node.registerWithOrchestrator (some config)
        (exchanged mismatch publicUrl start posts)) := by
  obtain ⟨made, text⟩ := Node.registerLoop_exhausted config some'
    (exchanged mismatch publicUrl start posts)
    (fun made => rejected_repeated invalid made (passing made)) 4 0 (Duration.fromMillis 500) 0
  exact ⟨made.trans (Nat.zero_add _), text, reached_rejected invalid _⟩

theorem invalid_url_rejected_witness :
    Rejected (fun _ => "invalid type") "n:9001" 3 (.start (.new ["http://a"]) .default)
      (fun _ => ⟨[.call (.nextNode 5)], 1, .answered⟩)
      (Node.registerWithOrchestrator (some .default) (exchanged (fun _ => "invalid type") "n:9001"
        (.start (.new ["http://a"]) .default)
        fun _ => ⟨[.call (.nextNode 5)], 1, .answered⟩)) :=
  invalid_url_rejected (fun _ => "invalid type") .default (by decide) "n:9001" (by decide)
    (.start (.new ["http://a"]) .default) (fun _ => ⟨[.call (.nextNode 5)], 1, .answered⟩)
    (fun _ _ => nofun)

end RegistrationPost

end MadRpc
