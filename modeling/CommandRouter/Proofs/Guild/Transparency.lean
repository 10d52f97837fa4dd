import CommandRouter.Proofs.Dispatch
import CommandRouter.Proofs.Guild.Session

/-!
# The cache cannot be seen

A repository that nobody writes to behind its back always answers with what is stored, whether it
asks the store or not. So how long it remembers makes a difference to how often the store is asked,
and to nothing else: not to what commands are run, with which settings, not to what is sent or
logged and not to what is stored.

The invariant is that every entry of the cache is what the row of its guild decodes to, be the entry
expired or not. Rows that cannot be decoded are never in the cache, so for them every fetch asks the
store and fails alike. A save changes one row and forgets just that guild; the other entries stay
right because the other rows stay.

An action is transparent if it keeps this invariant and has the same result in all repositories with
the same rows, whatever is in their caches. What goes on from a transparent action without the
repository is transparent as well, and as far as the repository goes dispatching a message is
nothing but a fetch.

## What a handler must not do

The settings that a handler is given are those that the cache holds. A handler that changed them
would be seen by later fetches for as long as the cache holds them, and not at all if they are read
anew each time. So it is asked that handlers leave them alone; settings are changed by saving them.
Otherwise a handler may do as it likes. It may depend on all that has happened before, since the
same has happened in both sessions.

## Main definitions

* `GuildRepository.Steady` is the invariant.
* `Action.Transparent` says that an action cannot tell steady repositories apart.
* `Request` is what the router is asked for in a session, and `Session.account` is what there is to
  be seen of some requests.

## Main results

* `Dispatcher.transparent_handle` and `Step.transparent_action` say that everything that is done in
  a session is transparent.
* `Session.account_eq` is the transparency of the cache, and `Session.account_ne_of_meddling` shows
  that it needs its condition on the handlers.
-/

namespace CommandRouter

/-- Whether an event is that a row is looked up. -/
def Event.isLookup : Event → Bool
  | .queried (.find ..) => true
  | _ => false

namespace GuildRepository

/-- Whether every entry of the cache agrees with the rows that are stored. -/
structure Steady (repository : GuildRepository) (store : GuildStore) (span clock : Int) : Prop where
  /-- The rows are stored, and no fault waits. -/
  source : repository.source = .ofRows store.engine store.rows []
  /-- There is this room for reading them. -/
  room : repository.room = store.room
  /-- Time is counted in integers. -/
  timed : repository.Timed span clock
  /-- What is cached of a guild is what is stored of it. -/
  agrees : ∀ id cached, repository.cache.get? (.text id) = some cached →
    store.settings id = .ok cached.settings

namespace Steady

variable {repository : GuildRepository} {store : GuildStore} {span clock : Int}

/-- Where nothing new is cached and the rows stay, the cache agrees with the rows. -/
theorem of_subset (steady : repository.Steady store span clock) {repository' : GuildRepository}
    (source : repository'.source = .ofRows store.engine store.rows [])
    (room : repository'.room = store.room) (timed : repository'.Timed span clock)
    (cached : ∀ id cached, repository'.cache.get? (.text id) = some cached →
      repository.cache.get? (.text id) = some cached) : repository'.Steady store span clock :=
  ⟨source, room, timed, fun id held found => steady.agrees id held (cached id held found)⟩

theorem forgetting (steady : repository.Steady store span clock) (id : Option String) :
    (repository.forgetting id).Steady store span clock :=
  steady.of_subset ((forgetting_source repository id).trans steady.source)
    ((forgetting_room repository id).trans steady.room) (steady.timed.forgetting id)
    fun _ _ held => (of_get?_forgetting held).1

theorem mono {clock' : Int} (steady : repository.Steady store span clock) (h : clock ≤ clock') :
    repository.Steady store span clock' :=
  ⟨steady.source, steady.room, steady.timed.mono h, steady.agrees⟩

theorem current (steady : repository.Steady store span clock) :
    (repository.current clock).Steady store span clock := by
  refine steady.of_subset steady.source steady.room steady.timed.current fun id cached held => ?_
  rw [GuildRepository.current, Table.get?_filter, Option.filter_eq_some_iff] at held
  exact held.1

/-- What was read may be remembered. -/
theorem holding (steady : repository.Steady store span clock) {id : String}
    {settings : Option GuildSettings} (h : store.settings id = .ok settings) :
    (repository.holding id (clock + span) settings).Steady store span clock := by
  refine ⟨steady.source, steady.room, steady.timed.holding id settings, fun other cached held => ?_⟩
  rw [GuildRepository.holding, Table.get?_insert] at held
  split at held
  · rename_i same
    cases same
    cases held
    exact h
  · exact steady.agrees other cached held

/-- **A fetch gives what is stored**, whether it asks or not. -/
theorem fetch (steady : repository.Steady store span clock) (id : String) :
    (fetch (.int clock) (.text id) repository).result = store.settings id ∧
      (∀ event ∈ (GuildRepository.fetch (.int clock) (.text id) repository).events,
        event.isLookup = true) ∧
      (GuildRepository.fetch (.int clock) (.text id) repository).state.Steady store span clock := by
  have asking : repository.asking (repository.lookup (.text id)) =
      [.queried (repository.lookup (.text id))] :=
    asking_of_answer_ok (answer_lookup steady.source id).1
  have asked : (repository.current clock).asked (repository.lookup (.text id)) =
      repository.current clock := (answer_lookup steady.current.source id).2
  have lookups : ∀ event ∈ repository.asking (repository.lookup (.text id)),
      event.isLookup = true := by
    intro event asked
    rw [asking, List.mem_singleton] at asked
    rw [asked]
    rfl
  refine steady.timed.fetch_cases (motive := fun outcome => outcome.result = store.settings id ∧
    (∀ event ∈ outcome.events, event.isLookup = true) ∧
      outcome.state.Steady store span clock) id ?_ ?_ ?_
  · intro cached _ held _ _
    exact ⟨(steady.agrees id cached held).symm, by simp, steady⟩
  · intro fault reading
    rw [read_of_rows steady.source, steady.room] at reading
    rw [asked]
    exact ⟨reading.symm, lookups, steady.current⟩
  · intro settings reading
    rw [read_of_rows steady.source, steady.room] at reading
    rw [asked]
    exact ⟨reading.symm, lookups, steady.current.holding reading⟩

/-- A save forgets the one guild whose row it changes. -/
theorem save (steady : repository.Steady store span clock) {settings : GuildSettings} {id : String}
    (named : settings.id = .text id) :
    (save settings repository).state.Steady (store.put id settings) span clock := by
  have timed := steady.timed.save named
  rw [run_save_of_rows steady.source named] at timed ⊢
  refine ⟨rfl, steady.room, timed, fun other cached held => ?_⟩
  have left : (repository.forgetting (some id)).cache.get? (.text other) = some cached := held
  obtain ⟨held, -, differ⟩ := of_get?_forgetting left
  rw [store.settings_put_of_ne (fun same => differ (congrArg some same))]
  exact steady.agrees other cached held

end Steady

end GuildRepository

/-! ### Transparent actions -/

namespace Action

variable {α β : Type} {clock : Int}

/-- Whether an action does the same to all steady repositories with the same rows, apart from how
often it looks rows up. -/
def Transparent (clock : Int) (action : Action GuildRepository α) : Prop :=
  ∀ store, ∃ events result store', ∀ (span : Int) (repository : GuildRepository),
    repository.Steady store span clock →
      (action repository).events.filter (fun event => !event.isLookup) = events ∧
        (action repository).result = result ∧
        (action repository).state.Steady store' span clock

namespace Transparent

theorem of_stateless {action : Action GuildRepository α} (h : action.Stateless) :
    action.Transparent clock := by
  obtain ⟨events, result, same⟩ := h
  intro store
  refine ⟨events.filter fun event => !event.isLookup, result, store, ?_⟩
  intro span repository steady
  rw [same]
  exact ⟨rfl, rfl, steady⟩

/-- What begins with a transparent action and goes on without the repository is transparent. -/
theorem of_continues {action : Action GuildRepository β} {first : Action GuildRepository α}
    (h : action.Continues first) (begun : first.Transparent clock) :
    action.Transparent clock := by
  intro store
  obtain ⟨events, result, store', begun⟩ := begun store
  obtain ⟨later, ended, h⟩ := h result
  refine ⟨events ++ later.filter fun event => !event.isLookup, ended, store', ?_⟩
  intro span repository steady
  obtain ⟨seen, known, left⟩ := begun span repository steady
  rw [h repository known, List.filter_append, seen]
  exact ⟨rfl, rfl, left⟩

end Transparent

end Action

namespace GuildRepository

theorem transparent_fetch (clock : Int) (id : String) :
    (fetch (.int clock) (.text id)).Transparent clock := by
  intro store
  refine ⟨[], store.settings id, store, fun span repository steady => ?_⟩
  obtain ⟨result, lookups, left⟩ := steady.fetch id
  refine ⟨List.filter_eq_nil_iff.2 fun event done => ?_, result, left⟩
  simp [lookups event done]

theorem transparent_save (clock : Int) {settings : GuildSettings} {id : String}
    (named : settings.id = .text id) : (save settings).Transparent clock := by
  intro store
  refine ⟨[.queried (.upsert ⟨"guilds", settings.toRecord, .ofList ["id"]⟩)],
    decode store.room (some (.ofRecord settings.toRecord)), store.put id settings,
    fun span repository steady => ⟨?_, ?_, steady.save named⟩⟩
  · rw [run_save_of_rows steady.source named, insertion, steady.source]
    rfl
  · rw [run_save_of_rows steady.source named, steady.room]

end GuildRepository

/-- Every step of a session is transparent. -/
theorem Step.transparent_action (clock : Int) (step : Step) :
    (step.action clock).Transparent clock := by
  cases step with
  | fetch id =>
    exact .of_continues (.of_map _ _) (GuildRepository.transparent_fetch clock id)
  | save id prefixes aliases =>
    exact .of_continues (.of_map _ _) (GuildRepository.transparent_save clock rfl)
  | invalidate id =>
    intro store
    refine ⟨[], .ok .done, store, fun span repository steady => ?_⟩
    rw [GuildRepository.run_invalidate]
    exact ⟨rfl, rfl, steady.forgetting id⟩
  | pass ticks => exact .of_stateless (.pure _)

/-! ### Dispatching -/

namespace Dispatcher

variable {dispatcher : Dispatcher}

/-- **Dispatching is transparent**, if no handler changes the settings that it is given. -/
theorem transparent_handle (leaves : dispatcher.registry.LeavesSettings) (clock : Int)
    (message : Message) : (dispatcher.handle (.int clock) message).Transparent clock := by
  rcases stateless_or_continues_handle leaves (.int clock) message with
    still | ⟨id, -, handled⟩
  · exact .of_stateless still
  · exact .of_continues handled (GuildRepository.transparent_fetch clock id)

/-- Whether rows were looked up makes no difference to what a dispatcher has taken note of. -/
theorem after_filter_isLookup (events : List Event) :
    dispatcher.after (events.filter fun event => !event.isLookup) = dispatcher.after events := by
  have calls : (events.filter fun event => !event.isLookup).filterMap Event.call? =
      events.filterMap Event.call? := by
    rw [List.filterMap_filter]
    refine congrArg (List.filterMap · events) (funext fun event => ?_)
    cases event with
    | queried statement => cases statement <;> rfl
    | _ => rfl
  rw [after, after, calls]

end Dispatcher

/-! ### Sessions -/

/-- What the router is asked for in a session. -/
inductive Request where
  /-- A message is dispatched. -/
  | handle (message : Message)
  /-- A step is taken that concerns the repository alone. -/
  | step (step : Step)

namespace Request

/-- The action that a request asks for at a time. -/
def action (dispatcher : Dispatcher) (clock : Int) : Request → Action GuildRepository Reply
  | handle message => Reply.handled <$> dispatcher.handle (.int clock) message
  | step taken => taken.action clock

/-- The time that passes during a request. -/
def ticks : Request → Nat
  | handle _ => 0
  | step taken => taken.ticks

theorem transparent_action {dispatcher : Dispatcher} (leaves : dispatcher.registry.LeavesSettings)
    (clock : Int) (request : Request) : (request.action dispatcher clock).Transparent clock := by
  cases request with
  | handle message =>
    exact .of_continues (.of_map _ _) (Dispatcher.transparent_handle leaves clock message)
  | step taken => exact taken.transparent_action clock

end Request

/-- What there is to be seen of a request. -/
structure Observation where
  /-- What was done to the world outside, apart from looking rows up. -/
  events : List Event
  /-- The result or the fault. -/
  result : Except Fault Reply

namespace Session

/-- What comes of a request in a session. -/
def outcome (session : Session) (dispatcher : Dispatcher) (request : Request) :
    Outcome GuildRepository Reply :=
  request.action dispatcher session.clock session.repository

/-- The session after a request. -/
def respond (session : Session) (dispatcher : Dispatcher) (request : Request) : Session :=
  ⟨(session.outcome dispatcher request).state, session.clock + request.ticks⟩

/-- The dispatcher after a request in a session: it has taken note of the handlers that were run. -/
def taught (session : Session) (dispatcher : Dispatcher) (request : Request) : Dispatcher :=
  dispatcher.after (session.outcome dispatcher request).events

/-- The session after some requests. -/
def serve (dispatcher : Dispatcher) (session : Session) : List Request → Session
  | [] => session
  | request :: later =>
    serve (session.taught dispatcher request) (session.respond dispatcher request) later

/-- What there is to be seen of a request. -/
def observe (session : Session) (dispatcher : Dispatcher) (request : Request) : Observation :=
  ⟨(session.outcome dispatcher request).events.filter fun event => !event.isLookup,
    (session.outcome dispatcher request).result⟩

/-- What there is to be seen of some requests, one after another. -/
def account (dispatcher : Dispatcher) (session : Session) : List Request → List Observation
  | [] => []
  | request :: later =>
    session.observe dispatcher request ::
      account (session.taught dispatcher request) (session.respond dispatcher request) later

/-- Whether two sessions are at the same time with the same rows, both with caches that agree with
the rows. -/
structure Alike (session session' : Session) (span span' : Int) (store : GuildStore) : Prop where
  /-- The time is the same. -/
  clock : session.clock = session'.clock
  /-- The first cache agrees with the rows. -/
  left : session.repository.Steady store span session.clock
  /-- The second cache agrees with the rows. -/
  right : session'.repository.Steady store span' session'.clock

theorem alike_start (store : GuildStore) (clock span span' : Int) :
    Alike (start store span clock) (start store span' clock) span span' store :=
  ⟨rfl, ⟨rfl, rfl, timed_start store span clock, fun _ _ held => by cases held⟩,
    ⟨rfl, rfl, timed_start store span' clock, fun _ _ held => by cases held⟩⟩

namespace Alike

variable {session session' : Session} {span span' : Int} {store : GuildStore}
  {dispatcher : Dispatcher}

/-- A request is the same in sessions that are alike, and they stay alike. Of both the dispatcher
takes note of the same. -/
theorem respond (alike : Alike session session' span span' store)
    (leaves : dispatcher.registry.LeavesSettings) (request : Request) :
    session.observe dispatcher request = session'.observe dispatcher request ∧
      session.taught dispatcher request = session'.taught dispatcher request ∧
      ∃ store', Alike (session.respond dispatcher request) (session'.respond dispatcher request)
        span span' store' := by
  have later (session : Session) : session.clock ≤ session.clock + request.ticks :=
    Int.le_add_of_nonneg_right (Int.natCast_nonneg _)
  obtain ⟨events, result, store', h⟩ := request.transparent_action leaves session.clock store
  have right := alike.right
  rw [← alike.clock] at right
  obtain ⟨seen, ended, left⟩ := h span session.repository alike.left
  obtain ⟨seen', ended', left'⟩ := h span' session'.repository right
  refine ⟨?_, ?_, store', ?_, left.mono (later session), ?_⟩
  · rw [observe, observe, outcome, outcome, ← alike.clock, seen, ended, seen', ended']
  · rw [taught, taught, ← Dispatcher.after_filter_isLookup,
      ← Dispatcher.after_filter_isLookup (session'.outcome _ _).events, outcome, outcome,
      ← alike.clock, seen, seen']
  · rw [Session.respond, Session.respond, alike.clock]
  · rw [Session.respond, outcome, ← alike.clock]
    exact left'.mono (later session)

/-- So is a run of requests, by induction on them. -/
theorem serve (alike : Alike session session' span span' store)
    (leaves : dispatcher.registry.LeavesSettings) (requests : List Request) :
    session.account dispatcher requests = session'.account dispatcher requests ∧
      ∃ store', Alike (session.serve dispatcher requests) (session'.serve dispatcher requests)
        span span' store' := by
  induction requests generalizing session session' store dispatcher with
  | nil => exact ⟨rfl, store, alike⟩
  | cons request later ih =>
    obtain ⟨seen, noted, store', next⟩ := alike.respond leaves request
    have still : (session.taught dispatcher request).registry.LeavesSettings := leaves
    obtain ⟨account, left⟩ := ih next still
    rw [Session.serve, Session.serve, ← noted]
    refine ⟨?_, left⟩
    rw [Session.account, Session.account, seen, account, noted]

end Alike

/-- A handler that says how often handlers have been run before it. -/
def counting : Handler := ⟨.text "count", fun past _ => { sent := [.int past.length] }⟩

/-- A handler that gives the guild another prefix, behind the back of the repository. -/
def meddling : Handler :=
  ⟨.text "meddle", fun _ call =>
    { edited := call.guild.map fun settings =>
        { settings with prefixes := .ofList [(.text "utility", .text "?")] } }⟩

/-- The rows of a store with one guild, of which nothing is stored but its id. -/
def plainStore : GuildStore :=
  ⟨.inMemory, .flat, Rows.put .empty "7" ⟨[(.text "id", .text "7")]⟩⟩

/-- **A handler that changes the settings it is given makes the cache visible.** The second message
finds the command only if the settings were read anew. -/
theorem account_ne_of_meddling :
    let dispatcher := Dispatcher.single (.level .normal) meddling
    let requests : List Request := [.handle Dispatcher.pinging, .handle Dispatcher.pinging]
    (account dispatcher (start plainStore 300 0) requests).map Observation.result =
        [.ok (.handled true), .ok (.handled false)] ∧
      (account dispatcher (start plainStore 0 0) requests).map Observation.result =
        [.ok (.handled true), .ok (.handled true)] :=
  ⟨rfl, rfl⟩

end Session

end CommandRouter
