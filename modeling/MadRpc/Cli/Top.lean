import MadRpc.Server.Calls

set_option autoImplicit false

namespace MadRpc

inductive KeyCode where
  | char (key : Char)
  | other
  deriving DecidableEq, Repr

structure TopApp where
  serverAddress : String
  serverType : Option ServerType
  currentMetrics : Option MetricsSnapshot
  errorMessage : Option String
  lastUpdate : Option Instant
  intervalMs : UInt64
  shouldQuit : Bool

inductive Summary where
  | metrics (metrics : MetricsSnapshot)
  | error (text : String)
  | loading

/-- The contents of the widgets. Their layout and colours are left out. -/
structure Screen where
  serverType : String
  serverAddress : String
  intervalMs : UInt64
  summary : Summary
  nodesTable : Option (List NodeMetrics)
  methodsTable : Option (List (String × MethodMetrics))

namespace TopApp

def new (serverAddress : String) (intervalMs : UInt64) : TopApp where
  serverAddress := serverAddress
  serverType := none
  currentMetrics := none
  errorMessage := none
  lastUpdate := none
  intervalMs := intervalMs
  shouldQuit := false

def detectServerType (mismatch : Value → String) (called : Except MadrpcError Value)
    (app : TopApp) : TopApp :=
  match called with
  | .ok infoValue =>
      match ServerBase.deserialize infoValue with
      | some info => { app with serverType := some info.serverType, errorMessage := none }
      | none =>
          { app with
            errorMessage := some ("Failed to parse server info: " ++ mismatch infoValue) }
  | .error e =>
      { app with errorMessage := some ("Failed to connect to server: " ++ e.toString) }

def updateMetrics (mismatch : Value → String) (called : Except MadrpcError Value) (now : Instant)
    (app : TopApp) : TopApp :=
  match called with
  | .ok metricsValue =>
      match MetricsSnapshot.deserialize metricsValue with
      | some metrics =>
          { app with currentMetrics := some metrics, lastUpdate := some now, errorMessage := none }
      | none =>
          { app with errorMessage := some ("Failed to parse metrics: " ++ mismatch metricsValue) }
  | .error e =>
      { app with errorMessage := some ("Failed to fetch metrics: " ++ e.toString) }

def handleKeyEvent (key : KeyCode) (app : TopApp) : TopApp :=
  if key = .char 'q' ∨ key = .char 'Q' then { app with shouldQuit := true } else app

def nodesTable (order : List String) (nodes : AList fun _ : String => NodeMetrics) :
    List NodeMetrics :=
  (order.filterMap nodes.lookup).mergeSort fun a b => decide (b.requestCount ≤ a.requestCount)

def methodsTable (order : List String) (methods : AList fun _ : String => MethodMetrics) :
    List (String × MethodMetrics) :=
  (order.filterMap fun name => (methods.lookup name).map (name, ·)).mergeSort
    fun a b => decide (b.2.callCount ≤ a.2.callCount)

/-- The orders are those in which the two maps are iterated. -/
def draw (nodesOrder methodsOrder : List String) (app : TopApp) : Screen where
  serverType := (app.serverType.map ServerType.debug).getD "Unknown"
  serverAddress := app.serverAddress
  intervalMs := app.intervalMs
  summary :=
    match app.currentMetrics, app.errorMessage with
    | some metrics, _ => .metrics metrics
    | none, some error => .error error
    | none, none => .loading
  nodesTable :=
    if app.serverType = some .orchestrator then
      (app.currentMetrics.bind MetricsSnapshot.nodes).map (nodesTable nodesOrder)
    else none
  methodsTable := app.currentMetrics.map fun metrics => methodsTable methodsOrder metrics.methods

end TopApp

structure TopPass where
  polledAt : Instant
  posts : Nat → ServerPost
  updatedAt : Instant
  tickedAt : Instant
  key : Option KeyCode

structure Top where
  app : TopApp
  lastTick : Instant

namespace Top

def ticks (top : Top) (pass : TopPass) : Bool :=
  decide (Duration.fromMillis top.app.intervalMs ≤ pass.polledAt - top.lastTick)

section

variable (mismatch : Value → String) (procedures : Procedures)

def start (serverAddress : String) (intervalMs : UInt64) (detection : Nat → ServerPost)
    (startedAt : Instant) : Top where
  app := (TopApp.new serverAddress intervalMs).detectServerType mismatch
    (ServerPost.called procedures "_info" detection).result
  lastTick := startedAt

def updated (top : Top) (pass : TopPass) : Top :=
  if top.ticks pass then
    { app := top.app.updateMetrics mismatch
        (ServerPost.called procedures "_metrics" pass.posts).result pass.updatedAt
      lastTick := pass.tickedAt }
  else top

def polled (key : Option KeyCode) (top : Top) : Top :=
  match key with
  | some key => { top with app := top.app.handleKeyEvent key }
  | none => top

def machine : Machine Top TopPass (Option TopApp) where
  step top pass :=
    if top.app.shouldQuit then (top, none)
    else
      let top := top.updated mismatch procedures pass
      (top.polled pass.key, some top.app)

def sending (top : Top) (pass : TopPass) (sent : Option MetricsSnapshot) :
    Option MetricsSnapshot :=
  if !top.app.shouldQuit && top.ticks pass then
    ((ServerPost.answered procedures "_metrics" pass.posts).map Server.getMetrics).or sent
  else sent

def sent (top : Top) (passes : List TopPass) : Option MetricsSnapshot :=
  (machine mismatch procedures).history (sending procedures) top passes none

end

end Top

/-! ## What it holds is what the server sent -/

def NotedFailure (text : String) : Prop :=
  ∃ e : MadrpcError, text = "Failed to connect to server: " ++ e.toString ∨
    text = "Failed to fetch metrics: " ++ e.toString

structure Truthful (kind : ServerType) (detected : Bool) (sent : Option MetricsSnapshot)
    (app : TopApp) : Prop where
  serverType : app.serverType = if detected then some kind else none
  unsent : sent = none → app.currentMetrics = none
  metrics : ∀ snapshot, sent = some snapshot →
    ∃ metrics, app.currentMetrics = some metrics ∧ metrics.Same snapshot
  failure : ∀ text, app.errorMessage = some text → NotedFailure text
  silent : app.errorMessage = none → detected = true ∨ sent.isSome = true
  nodes : ∀ snapshot, sent = some snapshot →
    (snapshot.nodes.isSome = true ↔ kind = .orchestrator)

namespace Truthful

section

variable {mismatch : Value → String} {procedures : Procedures} {kind : ServerType}
  {detected : Bool} {sent : Option MetricsSnapshot}

theorem detect (serverAddress : String) (intervalMs : UInt64) (detection : Nat → ServerPost)
    (startedAt : Instant) (same : ∀ post, (detection post).server.serverType = kind) :
    Truthful kind (ServerPost.answered procedures "_info" detection).isSome none
      (Top.start mismatch procedures serverAddress intervalMs detection startedAt).app := by
  rw [Top.start]
  rcases ServerPost.called_cases procedures "_info" detection with
    ⟨made, answered, told⟩ | ⟨missing, e, failed⟩
  · have read := InfoResponse.base_written _ _ (detection made).server.getInfo.serialize_written
    rw [answered, told _ ((detection made).server.handleRequest_info procedures)]
    simp only [TopApp.detectServerType, read, Server.base_serverType, same]
    exact ⟨rfl, fun _ => rfl, nofun, nofun, fun _ => .inl rfl, nofun⟩
  · rw [missing, failed]
    exact ⟨rfl, fun _ => rfl, nofun, fun text noted => ⟨e, .inl (Option.some.inj noted).symm⟩,
      nofun, nofun⟩

theorem update {app : TopApp} (truthful : Truthful kind detected sent app)
    (posts : Nat → ServerPost) (same : ∀ post, (posts post).server.serverType = kind)
    (now : Instant) :
    Truthful kind detected
      (((ServerPost.answered procedures "_metrics" posts).map Server.getMetrics).or sent)
      (app.updateMetrics mismatch (ServerPost.called procedures "_metrics" posts).result now) := by
  rcases ServerPost.called_cases procedures "_metrics" posts with
    ⟨made, answered, told⟩ | ⟨missing, e, failed⟩
  · obtain ⟨read, decoded, alike⟩ := MetricsSnapshot.deserialize_written _ _
      (posts made).server.getMetrics.serialize_written
    rw [answered, told _ ((posts made).server.handleRequest_metrics procedures)]
    simp only [TopApp.updateMetrics, decoded]
    refine ⟨truthful.serverType, nofun, fun snapshot here => ?_, nofun, fun _ => .inr rfl,
      fun snapshot here => ?_⟩
    · obtain rfl := Option.some.inj here
      exact ⟨read, rfl, alike⟩
    · obtain rfl := Option.some.inj here
      rw [Server.nodes_isSome, same]
  · rw [missing, failed]
    exact ⟨truthful.serverType, truthful.unsent, truthful.metrics,
      fun text noted => ⟨e, .inr (Option.some.inj noted).symm⟩, nofun, truthful.nodes⟩

theorem event {app : TopApp} (truthful : Truthful kind detected sent app) (key : KeyCode) :
    Truthful kind detected sent (app.handleKeyEvent key) := by
  rw [TopApp.handleKeyEvent]
  split
  next => exact ⟨truthful.serverType, truthful.unsent, truthful.metrics, truthful.failure,
    truthful.silent, truthful.nodes⟩
  next => exact truthful

theorem updated {top : Top} (truthful : Truthful kind detected sent top.app) (pass : TopPass)
    (same : ∀ post, (pass.posts post).server.serverType = kind) :
    Truthful kind detected (if top.ticks pass then
        ((ServerPost.answered procedures "_metrics" pass.posts).map Server.getMetrics).or sent
      else sent) (top.updated mismatch procedures pass).app := by
  rw [Top.updated]
  split
  next => exact truthful.update pass.posts same pass.updatedAt
  next => exact truthful

theorem polled {top : Top} (truthful : Truthful kind detected sent top.app)
    (key : Option KeyCode) : Truthful kind detected sent (top.polled key).app := by
  cases key with
  | none => exact truthful
  | some key => exact truthful.event key

theorem step {top : Top} (truthful : Truthful kind detected sent top.app) (pass : TopPass)
    (same : ∀ post, (pass.posts post).server.serverType = kind) :
    Truthful kind detected (top.sending procedures pass sent)
      ((Top.machine mismatch procedures).step top pass).1.app := by
  cases quits : top.app.shouldQuit with
  | true =>
      simpa only [Top.machine, Top.sending, quits, if_true, Bool.not_true, Bool.false_and,
        Bool.false_eq_true, if_false] using truthful
  | false =>
      simp only [Top.machine, Top.sending, quits, Bool.false_eq_true, if_false, Bool.not_false,
        Bool.true_and]
      refine (Truthful.updated truthful pass same).polled pass.key

end

end Truthful

def RowsOfNodes (nodes : AList fun _ : String => NodeMetrics) (rows : List NodeMetrics) : Prop :=
  rows.Perm (nodes.entries.map fun entry => entry.2) ∧
    rows.Pairwise fun first second => second.requestCount ≤ first.requestCount

def RowsOfMethods (methods : AList fun _ : String => MethodMetrics)
    (rows : List (String × MethodMetrics)) : Prop :=
  rows.Perm (methods.entries.map fun entry => (entry.1, entry.2)) ∧
    rows.Pairwise fun first second => second.2.callCount ≤ first.2.callCount

/-- Before the first metrics there is an error or the notice of the connection, and afterwards
there are metrics, whatever fails then. -/
structure Shown (kind : ServerType) (detected : Bool) (sent : Option MetricsSnapshot)
    (screen : Screen) : Prop where
  title : screen.serverType = if detected then kind.debug else "Unknown"
  waiting : sent = none →
    (detected = true ∧ screen.summary = .loading ∨
      ∃ text, screen.summary = .error text ∧ NotedFailure text) ∧
    screen.nodesTable = none ∧ screen.methodsTable = none
  summary : ∀ snapshot, sent = some snapshot →
    ∃ metrics, screen.summary = .metrics metrics ∧ metrics.Same snapshot
  methodsTable : ∀ snapshot, sent = some snapshot →
    ∃ rows, screen.methodsTable = some rows ∧ RowsOfMethods snapshot.methods rows
  nodesTable : ∀ snapshot, sent = some snapshot →
    if detected = true ∧ kind = .orchestrator then
      ∃ nodes rows, snapshot.nodes = some nodes ∧ screen.nodesTable = some rows ∧
        RowsOfNodes nodes rows
    else screen.nodesTable = none

theorem sorted_descending {Row : Type*} (count : Row → UInt64) (rows : List Row) :
    (rows.mergeSort fun a b => decide (count b ≤ count a)).Pairwise
      fun first second => count second ≤ count first := by
  have sorted := @List.pairwise_mergeSort _ (fun a b => decide (count b ≤ count a))
    (fun a b c before after => decide_eq_true
      (UInt64.le_trans (of_decide_eq_true after) (of_decide_eq_true before)))
    (fun a b => by simpa using UInt64.le_total (count b) (count a)) rows
  exact sorted.imp of_decide_eq_true

theorem TopApp.nodesTable_rows {order : List String}
    {shown sent : AList fun _ : String => NodeMetrics} (iterated : order.Perm shown.keys) (same : ∀ addr, shown.lookup addr = sent.lookup addr) :
    RowsOfNodes sent (nodesTable order shown) := by
  have rows := AList.rows_perm iterated fun _ metrics => metrics
  simp only [Option.map_id'] at rows
  exact ⟨((List.mergeSort_perm _ _).trans rows).trans ((AList.entries_perm same).map _),
    sorted_descending NodeMetrics.requestCount _⟩

theorem TopApp.methodsTable_rows {order : List String}
    {shown sent : AList fun _ : String => MethodMetrics} (iterated : order.Perm shown.keys)
    (same : ∀ name, shown.lookup name = sent.lookup name) :
    RowsOfMethods sent (methodsTable order shown) :=
  ⟨((List.mergeSort_perm _ _).trans (AList.rows_perm iterated Prod.mk)).trans
      ((AList.entries_perm same).map _),
    sorted_descending (fun row : String × MethodMetrics => row.2.callCount) _⟩

structure TopApp.Iterated (app : TopApp) (nodesOrder methodsOrder : List String) : Prop where
  nodes : ∀ metrics nodes, app.currentMetrics = some metrics → metrics.nodes = some nodes →
    nodesOrder.Perm nodes.keys
  methods : ∀ metrics, app.currentMetrics = some metrics → methodsOrder.Perm metrics.methods.keys

theorem Truthful.shown {kind : ServerType} {detected : Bool} {sent : Option MetricsSnapshot}
    {app : TopApp} (truthful : Truthful kind detected sent app)
    {nodesOrder methodsOrder : List String} (iterated : app.Iterated nodesOrder methodsOrder) :
    Shown kind detected sent (app.draw nodesOrder methodsOrder) where
  title := by
    show (app.serverType.map ServerType.debug).getD "Unknown" = _
    rw [truthful.serverType]
    cases detected <;> rfl
  waiting unsent := by
    have absent := truthful.unsent unsent
    refine ⟨?_, by simp [TopApp.draw, absent], by simp [TopApp.draw, absent]⟩
    cases noted : app.errorMessage with
    | none =>
        refine .inl ⟨?_, by simp only [TopApp.draw, absent, noted]⟩
        exact (truthful.silent noted).resolve_right (by simp [unsent])
    | some text =>
        exact .inr ⟨text, by simp only [TopApp.draw, absent, noted], truthful.failure text noted⟩
  summary snapshot told := by
    obtain ⟨metrics, held, same⟩ := truthful.metrics snapshot told
    exact ⟨metrics, by simp only [TopApp.draw, held], same⟩
  methodsTable snapshot told := by
    obtain ⟨metrics, held, same⟩ := truthful.metrics snapshot told
    exact ⟨_, by simp only [TopApp.draw, held, Option.map_some],
      TopApp.methodsTable_rows (iterated.methods metrics held) same.methods⟩
  nodesTable snapshot told := by
    obtain ⟨metrics, held, same⟩ := truthful.metrics snapshot told
    have known := truthful.serverType
    split
    next watched =>
      obtain ⟨rfl, rfl⟩ := watched
      obtain ⟨nodes, here⟩ := Option.isSome_iff_exists.mp
        ((truthful.nodes snapshot told).mpr rfl)
      have alike := same.nodes
      rw [here] at alike
      cases shown : metrics.nodes with
      | none =>
          rw [shown] at alike
          cases alike ""
      | some read =>
          rw [shown] at alike
          refine ⟨nodes, TopApp.nodesTable nodesOrder read, here, ?_,
            TopApp.nodesTable_rows (iterated.nodes metrics read held shown)
              fun addr => Option.some.inj (alike addr)⟩
          simp only [TopApp.draw, known, held, Option.bind_some, shown, if_true, Option.map_some]
    next other =>
      refine if_neg fun watched => other ?_
      rw [known] at watched
      cases detected with
      | false => cases watched
      | true => exact ⟨rfl, Option.some.inj watched⟩

namespace Top

theorem run_truthful (mismatch : Value → String) (procedures : Procedures) (kind : ServerType)
    {detected : Bool} {top : Top} (truthful : Truthful kind detected none top.app)
    (passes : List TopPass)
    (same : ∀ pass ∈ passes, ∀ post, (pass.posts post).server.serverType = kind) :
    Truthful kind detected (sent mismatch procedures top passes)
      ((machine mismatch procedures).run top passes).app :=
  (machine mismatch procedures).run_history (sending procedures)
    (fun sent top => Truthful kind detected sent top.app)
    (fun _ pass => ∀ post, (pass.posts post).server.serverType = kind)
    (fun _ pass _ truthful same => truthful.step pass same) top passes none truthful
    ((machine mismatch procedures).eachStep_of_forall _ top passes same)

/-- Watching one server, `top` never fails to read what it is told, and shows what the server
last sent, however many of its requests are lost. What the first request does not find out is
not asked again. -/
theorem top_shows_server (mismatch : Value → String) (procedures : Procedures)
    (kind : ServerType) (serverAddress : String) (intervalMs : UInt64)
    (detection : Nat → ServerPost) (startedAt : Instant) (passes : List TopPass)
    (watched : ∀ post, (detection post).server.serverType = kind)
    (same : ∀ pass ∈ passes, ∀ post, (pass.posts post).server.serverType = kind)
    (nodesOrder methodsOrder : List String)
    (iterated : ((machine mismatch procedures).run
      (start mismatch procedures serverAddress intervalMs detection startedAt)
      passes).app.Iterated nodesOrder methodsOrder) :
    Shown kind (ServerPost.answered procedures "_info" detection).isSome
      (sent mismatch procedures
        (start mismatch procedures serverAddress intervalMs detection startedAt) passes)
      (((machine mismatch procedures).run
        (start mismatch procedures serverAddress intervalMs detection startedAt)
        passes).app.draw nodesOrder methodsOrder) :=
  (run_truthful mismatch procedures kind
    (Truthful.detect serverAddress intervalMs detection startedAt watched) passes same).shown
    iterated

/-! The first request is lost, so an orchestrator stays unknown as one. -/

def watchedOrchestrator : Server :=
  .orchestrator (.withConfig .default .initial) 0 7 (.new ["http://a"]) ["http://a"]

def refusing (_ : Nat) : ServerPost := ⟨watchedOrchestrator, .lost "connection refused", 1⟩

def answering : Nat → ServerPost
  | 0 => ⟨watchedOrchestrator, .unanswered "operation timed out", 2⟩
  | _ => ⟨watchedOrchestrator, .answered, 3⟩

def fewPasses : List TopPass :=
  [⟨300000000, refusing, 0, 310000000, none⟩, ⟨600000000, answering, 600000000, 610000000, none⟩,
    ⟨700000000, refusing, 0, 0, some (.char 'q')⟩]

def afterFew : Top :=
  (machine (fun _ => "invalid type") .idle).run
    (start (fun _ => "invalid type") .idle "http://o" 250 refusing 0) fewPasses

theorem afterFew_iterated : afterFew.app.Iterated ["http://a"] [] := by
  have keys : afterFew.app.currentMetrics.map (fun metrics =>
      (metrics.nodes.map AList.keys, metrics.methods.keys)) = some (some ["http://a"], []) := by
    decide
  constructor
  · intro metrics nodes held shown
    rw [held, Option.map_some, shown] at keys
    rw [← Option.some.inj (Prod.mk.inj (Option.some.inj keys)).1]
  · intro metrics held
    rw [held, Option.map_some] at keys
    rw [← (Prod.mk.inj (Option.some.inj keys)).2]

theorem top_shows_server_witness :
    (afterFew.app.draw ["http://a"] []).serverType = "Unknown" ∧
      Shown .orchestrator false (sent (fun _ => "invalid type") .idle
        (start (fun _ => "invalid type") .idle "http://o" 250 refusing 0) fewPasses)
        (afterFew.app.draw ["http://a"] []) := by
  have shown := top_shows_server (fun _ => "invalid type") .idle .orchestrator "http://o" 250
    refusing 0 fewPasses (fun _ => rfl)
    (by
      intro pass member post
      simp only [fewPasses, List.mem_cons, List.not_mem_nil, or_false] at member
      rcases member with rfl | rfl | rfl
      · rfl
      · cases post <;> rfl
      · rfl)
    ["http://a"] [] afterFew_iterated
  have unanswered : (ServerPost.answered .idle "_info" refusing).isSome = false := by decide
  rw [unanswered] at shown
  exact ⟨shown.title, shown⟩

end Top

end MadRpc
