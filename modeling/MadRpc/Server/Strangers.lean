import MadRpc.Common.RateLimitMeter
import MadRpc.Server.HttpServer

set_option autoImplicit false

namespace MadRpc

open RateLimit (RateLimiter RateLimitConfig RateLimitResult IpAddr Log Follows)

def turnedAway : RateLimitResult → Handled
  | .rateLimited retryAfter => ⟨rateLimitedResponse retryAfter, none⟩
  | .allowed => ⟨unauthorizedResponse, none⟩

structure Front (Post Answer : Type) where
  headers : Post → HeaderMap
  authorized : HeaderMap → Bool
  handle : RateLimitResult → (JsonRpcRequest → Answer) → Post → Handled
  guarded : ∀ verdict route post, authorized (headers post) = false →
    handle verdict route post = turnedAway verdict

namespace Front

variable (toStr : ByteArray → Option String) (authConfig : AuthConfig)

theorem guarded_turnedAway (verdict : RateLimitResult) (headers : HeaderMap) (handle : Handled)
    (unauthorized : MadRpc.authorized toStr authConfig headers = false) :
    MadRpc.guarded toStr authConfig verdict headers handle = turnedAway verdict := by
  cases verdict with
  | rateLimited retryAfter => rfl
  | allowed => simp [MadRpc.guarded, unauthorized, turnedAway]

theorem turnedAway_routed (verdict : RateLimitResult) : (turnedAway verdict).routed = none := by
  cases verdict <;> rfl

def orchestrator : Front OrchestratorHttpServer.JsonRpcPost JsonRpcResponse where
  headers := OrchestratorHttpServer.JsonRpcPost.headers
  authorized := MadRpc.authorized toStr authConfig
  handle := OrchestratorHttpServer.handleJsonrpc toStr authConfig
  guarded verdict _ post := guarded_turnedAway toStr authConfig verdict post.headers _

def node : Front NodeHttpServer.HyperRequest (Except String JsonRpcResponse) where
  headers := NodeHttpServer.HyperRequest.headers
  authorized := MadRpc.authorized toStr authConfig
  handle := NodeHttpServer.handleRequest toStr authConfig
  guarded verdict _ request := guarded_turnedAway toStr authConfig verdict request.headers _

end Front

/-- `State` is all that the router works on. -/
structure Guarded (State : Type) where
  limiter : RateLimiter
  state : State

/-- A post of some address, or what goes on behind the router by itself. -/
inductive GuardedStep (Post Own : Type) where
  | post (call : RateLimit.Call) (post : Post)
  | own (step : Own)

def GuardedStep.calls {Post Own : Type} (steps : List (GuardedStep Post Own)) :
    List RateLimit.Call :=
  steps.filterMap fun step =>
    match step with
    | .post call _ => some call
    | .own _ => none

namespace Guarded

variable {Post Answer Own State : Type}

def new (config : RateLimitConfig) (created : RateLimit.Instant) (state : State) :
    Guarded State :=
  ⟨.new config created, state⟩

def machine (front : Front Post Answer) (route : State → JsonRpcRequest → State × Answer)
    (proceed : State → Own → State) :
    Machine (Guarded State) (GuardedStep Post Own) (Option HttpResponse) where
  step guarded
    | .post call post =>
        let limited := guarded.limiter.checkRateLimit call
        let handled := front.handle limited.2 (fun req => (route guarded.state req).2) post
        (⟨limited.1, match handled.routed with
          | some req => (route guarded.state req).1
          | none => guarded.state⟩, some handled.response)
    | .own step => ({ guarded with state := proceed guarded.state step }, none)

def welcome (front : Front Post Answer) : GuardedStep Post Own → Bool
  | .post _ post => front.authorized (front.headers post)
  | .own _ => true

/-- No stranger posts from an address that somebody else posts from. -/
def Apart (front : Front Post Answer) (steps : List (GuardedStep Post Own)) : Prop :=
  ∀ stranger ∈ GuardedStep.calls (steps.filter fun step => !welcome front step),
    ∀ call ∈ GuardedStep.calls (steps.filter (welcome front)), stranger.ip ≠ call.ip

structure Alike (front : Front Post Answer) (config : RateLimitConfig)
    (steps : List (GuardedStep Post Own)) (guarded other : Guarded State) : Prop where
  state : guarded.state = other.state
  meters : ∃ clock log kept, Follows config clock log guarded.limiter ∧
    Follows config clock kept other.limiter ∧
    (∀ call ∈ GuardedStep.calls steps, clock ≤ call.now) ∧
    ∀ call ∈ GuardedStep.calls (steps.filter (welcome front)), ∀ now,
      config.level call.ip log now = config.level call.ip kept now
  sequential : RateLimit.Sequential (GuardedStep.calls steps)
  apart : Apart front steps

section

variable {front : Front Post Answer} {config : RateLimitConfig}
  {steps rest : List (GuardedStep Post Own)} {guarded other : Guarded State}

theorem Apart.tail {step : GuardedStep Post Own} (apart : Apart front (step :: rest)) :
    Apart front rest := by
  intro stranger here call there
  refine apart stranger ?_ call ?_
  · exact (((List.sublist_cons_self step rest).filter _).filterMap _).subset here
  · exact (((List.sublist_cons_self step rest).filter _).filterMap _).subset there

theorem calls_post (call : RateLimit.Call) (post : Post) (rest : List (GuardedStep Post Own)) :
    GuardedStep.calls (.post call post :: rest) = call :: GuardedStep.calls rest := rfl

theorem Alike.own {step : Own} {route : State → JsonRpcRequest → State × Answer}
    {proceed : State → Own → State} (alike : Alike front config (.own step :: rest) guarded other) :
    Alike front config rest ((machine front route proceed).step guarded (.own step)).1
      ((machine front route proceed).step other (.own step)).1 where
  state := congrArg (proceed · step) alike.state
  meters := alike.meters
  sequential := alike.sequential
  apart := alike.apart.tail

theorem Alike.stranger {route : State → JsonRpcRequest → State × Answer}
    {proceed : State → Own → State} (limits : config.Limits) (refills : config.Refills)
    {call : RateLimit.Call} {post : Post}
    (alike : Alike front config (.post call post :: rest) guarded other)
    (unwelcome : front.authorized (front.headers post) = false) :
    Alike front config rest ((machine front route proceed).step guarded (.post call post)).1
      other := by
  obtain ⟨clock, log, kept, follows, follows', started, same⟩ := alike.meters
  obtain ⟨first, later⟩ := List.pairwise_cons.mp alike.sequential
  have now : clock ≤ call.now := started call List.mem_cons_self
  have shut : ¬ welcome front (.post call post : GuardedStep Post Own) = true := by
    rw [welcome, unwelcome]
    exact nofun
  have apart : ∀ kept ∈ GuardedStep.calls (rest.filter (welcome front)), call.ip ≠ kept.ip := by
    intro kept member
    refine alike.apart call ?_ kept ?_
    · rw [List.filter_cons_of_pos (by simpa using shut), calls_post]
      exact List.mem_cons_self
    · rwa [List.filter_cons_of_neg shut]
  have limited := RateLimit.checkRateLimitWith_correct limits
    (RateLimit.cleanupStaleEntries_sound limits refills) follows call now
  refine ⟨?_, ⟨call.now, _, kept, limited.2, ?_, first, fun there member time => ?_⟩, later,
    alike.apart.tail⟩
  · simp only [machine, front.guarded _ _ post unwelcome, Front.turnedAway_routed]
    exact alike.state
  · exact RateLimit.keeping_sound config _ clock kept call.now follows' now
  · rw [← same there (by rwa [List.filter_cons_of_neg shut]) time]
    exact Metering.level_other _ _ _ _ _ _ (apart there member)

theorem Alike.post {route : State → JsonRpcRequest → State × Answer}
    {proceed : State → Own → State} (limits : config.Limits) (refills : config.Refills)
    {call : RateLimit.Call} {post : Post}
    (alike : Alike front config (.post call post :: rest) guarded other)
    (known : front.authorized (front.headers post) = true) :
    Alike front config rest ((machine front route proceed).step guarded (.post call post)).1
        ((machine front route proceed).step other (.post call post)).1 ∧
      ((machine front route proceed).step guarded (.post call post)).2 =
        ((machine front route proceed).step other (.post call post)).2 := by
  obtain ⟨clock, log, kept, follows, follows', started, same⟩ := alike.meters
  obtain ⟨first, later⟩ := List.pairwise_cons.mp alike.sequential
  have now : clock ≤ call.now := started call List.mem_cons_self
  have open' : welcome front (.post call post : GuardedStep Post Own) = true := known
  rw [List.filter_cons_of_pos open', calls_post] at same
  have sound := RateLimit.cleanupStaleEntries_sound limits refills
  obtain ⟨verdict, next⟩ := RateLimit.checkRateLimitWith_correct limits sound follows call now
  obtain ⟨verdict', next'⟩ := RateLimit.checkRateLimitWith_correct limits sound follows' call now
  rw [same call List.mem_cons_self call.now] at verdict next
  have told : (guarded.limiter.checkRateLimit call).2 =
      (other.limiter.checkRateLimit call).2 := verdict.trans verdict'.symm
  refine ⟨⟨?_, ⟨call.now, _, _, next, next', first, fun there member => ?_⟩, later,
    alike.apart.tail⟩, ?_⟩
  · simp only [machine, told, alike.state]
  · exact Metering.level_cons_congr _ _ _ (same there (List.mem_cons_of_mem call member)) _
  · simp only [machine, told, alike.state]

end

structure Unnoticed (machine : Machine (Guarded State) (GuardedStep Post Own) (Option HttpResponse))
    (welcome : GuardedStep Post Own → Bool) (start : Guarded State)
    (steps : List (GuardedStep Post Own)) : Prop where
  state : (machine.run start steps).state = (machine.run start (steps.filter welcome)).state
  answers : ((steps.zip (machine.outputs start steps)).filter fun answered =>
    welcome answered.1).map Prod.snd = machine.outputs start (steps.filter welcome)
  refused : ∀ step answer, (step, answer) ∈ steps.zip (machine.outputs start steps) →
    welcome step = false → ∃ verdict, answer = some (turnedAway verdict).response

theorem stranger_refused (front : Front Post Answer)
    (route : State → JsonRpcRequest → State × Answer) (proceed : State → Own → State)
    (guarded : Guarded State) (step : GuardedStep Post Own)
    (shut : welcome front step = false) :
    ∃ verdict, ((machine front route proceed).step guarded step).2 =
      some (turnedAway verdict).response := by
  cases step with
  | own => cases shut
  | post call post =>
      refine ⟨(guarded.limiter.checkRateLimit call).2, ?_⟩
      simp only [machine, front.guarded _ _ post shut]

theorem strangers_refused (front : Front Post Answer)
    (route : State → JsonRpcRequest → State × Answer) (proceed : State → Own → State)
    (guarded : Guarded State) (steps : List (GuardedStep Post Own))
    (step : GuardedStep Post Own) (answer : Option HttpResponse)
    (here : (step, answer) ∈ steps.zip ((machine front route proceed).outputs guarded steps))
    (shut : welcome front step = false) :
    ∃ verdict, answer = some (turnedAway verdict).response := by
  induction steps generalizing guarded with
  | nil => exact absurd here List.not_mem_nil
  | cons first rest ih =>
      rw [Machine.outputs_cons, List.zip_cons_cons] at here
      rcases List.mem_cons.mp here with same | later
      · cases same
        exact stranger_refused front route proceed guarded step shut
      · exact ih _ later

theorem unnoticed (front : Front Post Answer)
    (route : State → JsonRpcRequest → State × Answer) (proceed : State → Own → State)
    {config : RateLimitConfig} (limits : config.Limits) (refills : config.Refills)
    (created : RateLimit.Instant) (start : State) (steps : List (GuardedStep Post Own))
    (sequential : RateLimit.Sequential (GuardedStep.calls steps)) (apart : Apart front steps) :
    Unnoticed (machine front route proceed) (welcome front) (new config created start) steps := by
  have initial : Alike front config steps (new config created start)
      (new config created start) := by
    refine ⟨rfl, ?_, sequential, apart⟩
    cases times : GuardedStep.calls steps with
    | nil => exact ⟨0, [], [], RateLimit.new_follows config created 0,
        RateLimit.new_follows config created 0, List.forall_mem_nil _, fun _ _ _ => rfl⟩
    | cons call rest =>
        rw [times] at sequential
        exact ⟨call.now, [], [], RateLimit.new_follows config created _,
          RateLimit.new_follows config created _,
          List.forall_mem_cons.mpr ⟨le_rfl, (List.pairwise_cons.mp sequential).1⟩,
          fun _ _ _ => rfl⟩
  obtain ⟨last, answers⟩ := (machine front route proceed).run_filter (welcome front)
    (Alike front config) (fun input rest guarded other alike shut => by
      cases input with
      | own => cases shut
      | post call post => exact alike.stranger limits refills shut)
    (fun input rest guarded other alike known => by
      cases input with
      | own step => exact ⟨alike.own, rfl⟩
      | post call post => exact alike.post limits refills known) steps _ _ initial
  exact ⟨last.state, answers, strangers_refused front route proceed _ steps⟩

end Guarded

/-- On both servers, requests without the key are refused and change nothing for the others, so
long as they come from addresses of their own. -/
theorem strangers_unnoticed (toStr : ByteArray → Option String) (authConfig : AuthConfig)
    (config : RateLimitConfig) (limits : config.Limits) (refills : config.Refills)
    (created : RateLimit.Instant) {State Own : Type} (start : State)
    (proceed : State → Own → State) :
    (∀ (route : State → JsonRpcRequest → State × JsonRpcResponse) steps,
      RateLimit.Sequential (GuardedStep.calls steps) →
        Guarded.Apart (.orchestrator toStr authConfig) steps →
          Guarded.Unnoticed (Guarded.machine (.orchestrator toStr authConfig) route proceed)
            (Guarded.welcome (.orchestrator toStr authConfig)) (.new config created start) steps) ∧
      ∀ (route : State → JsonRpcRequest → State × Except String JsonRpcResponse) steps,
        RateLimit.Sequential (GuardedStep.calls steps) →
          Guarded.Apart (.node toStr authConfig) steps →
            Guarded.Unnoticed (Guarded.machine (.node toStr authConfig) route proceed)
              (Guarded.welcome (.node toStr authConfig)) (.new config created start) steps :=
  ⟨fun route steps => Guarded.unnoticed _ route proceed limits refills created start steps,
    fun route steps => Guarded.unnoticed _ route proceed limits refills created start steps⟩

/-! A stranger posts twice between two posts of an address with the key. -/

def decodeSecret (value : ByteArray) : Option String :=
  if value.data = "secret".toByteArray.data then some "secret" else none

def keyedPost (headers : HeaderMap) : NodeHttpServer.HyperRequest :=
  ⟨"POST", headers, .collected 58 (.ok ⟨"2.0", "compute", .null, .null⟩)⟩

def crowd : List (GuardedStep NodeHttpServer.HyperRequest Unit) :=
  [.post ⟨.v4 1, 0, 0⟩ (keyedPost ⟨[("x-api-key", "secret".toByteArray)]⟩),
    .post ⟨.v4 2, 1, 1⟩ (keyedPost ⟨[]⟩), .own (), .post ⟨.v4 2, 1, 1⟩ (keyedPost ⟨[]⟩),
    .post ⟨.v4 1, 2, 2⟩ (keyedPost ⟨[("x-api-key", "secret".toByteArray)]⟩)]

theorem crowd_apart :
    Guarded.Apart (.node decodeSecret (.withApiKey "secret")) crowd := by
  have known : authorized decodeSecret (.withApiKey "secret")
      ⟨[("x-api-key", "secret".toByteArray)]⟩ = true := by
    rw [authorized_iff]
    rfl
  have unknown : authorized decodeSecret (.withApiKey "secret") ⟨[]⟩ = false := by
    refine Bool.eq_false_iff.mpr fun admitted => ?_
    rw [authorized_iff] at admitted
    exact absurd admitted (by decide)
  simp [Guarded.Apart, crowd, Guarded.welcome, Front.node, keyedPost, known, unknown,
    GuardedStep.calls]

theorem strangers_unnoticed_witness :
    Guarded.Unnoticed
      (Guarded.machine (.node decodeSecret (.withApiKey "secret"))
        (fun count req => (count + 1, .ok (.success req.id .null))) fun count _ => count)
      (Guarded.welcome (.node decodeSecret (.withApiKey "secret")))
      (.new (.perSecond 10) 0 (0 : Nat)) crowd :=
  (strangers_unnoticed decodeSecret (.withApiKey "secret") (.perSecond 10)
    ⟨by decide +kernel, by decide +kernel, by decide +kernel⟩ (by decide +kernel) 0 0
    fun count _ => count).2 _ crowd (by decide +kernel) crowd_apart

end MadRpc
