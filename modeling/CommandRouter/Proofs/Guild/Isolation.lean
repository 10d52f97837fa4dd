import CommandRouter.Proofs.Calls
import CommandRouter.Proofs.Guild.Transparency

/-!
# Guilds do not see each other

All guilds share one cache and one table of rows. A fetch for one guild forgets what has expired of
all of them, and a save for one writes to the table of all. Still a guild sees of this nothing but
its own row and what memory serves for it: what the router does for the guild, and for messages that
are of no guild, is what it would do if it had been asked for nothing else.

## The invariant

Two repositories are the same for a guild if they hold the same row for it, and if memory serves the
same for it from now on. What else they hold may differ. That includes what they hold for the guild
itself but serve no longer, for whether it is still there depends on when another guild was last
fetched.

Everything that is done for other guilds leaves a repository the same for the guild. Everything that
is done for the guild itself does the same in repositories that are the same for it, and leaves them
so. As far as the repository goes, dispatching a message is a fetch, and after it a change of the
settings that were fetched, if the handler changes them. So this has to be shown for fetches,
changes, saves and invalidations only.

## What handlers may tell each other

A handler may depend on earlier runs, of itself and of others. If it let one guild see what was done
for another, no router could keep them apart. So of the handlers it is asked that what they do for
the guild, or for none, depends only on such earlier runs that were for the guild or for none. What
they do for other guilds is left open, and they may change the settings that they are given.

## Main definitions

* `GuildRepository.serves` is what memory serves for a guild, and `GuildRepository.SameFor` is the
  invariant.
* `Registry.KeepsApart` is what is asked of the handlers, and `Dispatcher.SameFor` relates
  dispatchers that differ in what they have noted of others.
* `Request.concerns` says that a request is made for a guild or for none, and `Session.agenda` lists
  such requests with their times.
* `Session.view` is what a guild sees of a session, and `Session.replay` is what it would see if
  there were no other requests.

## Main results

* `Request.keeps_action` is what other guilds do, and `Request.agrees_action` what the guild does.
* `Session.view_eq_replay` is by induction on the requests.
* `Session.view_eq_of_agenda_eq` compares two sessions, and `Session.view_ne_of_counting` shows that
  it needs its condition on the handlers.
-/

namespace CommandRouter

namespace GuildRepository

/-- The rows that are stored. -/
def rows (repository : GuildRepository) : Rows := repository.source.store.rows

/-- What memory serves for a guild at a time, if it serves anything. -/
def serves (repository : GuildRepository) (guild : String) (time : Int) :
    Option (Option GuildSettings) :=
  ((repository.cache.get? (.text guild)).filter fun cached =>
    !cached.isExpired (.int time)).map Cached.settings

/-- Whether a repository counts its time in integers and no fault waits in its store, which has an
engine and leaves some room for reading. -/
structure Calm (repository : GuildRepository) (engine : GuildEngine) (room : Room)
    (span clock : Int) : Prop where
  /-- The rows are held by the engine, and no fault waits. -/
  source : repository.source = .ofRows engine repository.rows []
  /-- There is this room for reading them. -/
  room : repository.room = room
  /-- Time is counted in integers. -/
  timed : repository.Timed span clock

/-- Whether a guild cannot tell two repositories apart from a time on. -/
structure SameFor (engine : GuildEngine) (room : Room) (guild : String) (span clock : Int)
    (a b : GuildRepository) : Prop where
  /-- The first repository is calm. -/
  left : a.Calm engine room span clock
  /-- The second repository is calm. -/
  right : b.Calm engine room span clock
  /-- What the rows hold of the guild is the same. -/
  settings : a.rows.settings room guild = b.rows.settings room guild
  /-- Memory serves the same for the guild. -/
  served : ∀ time, clock ≤ time → a.serves guild time = b.serves guild time

namespace SameFor

variable {engine : GuildEngine} {room : Room} {guild : String} {span clock : Int}
variable {a b c : GuildRepository}

theorem refl (calm : a.Calm engine room span clock) : SameFor engine room guild span clock a a :=
  ⟨calm, calm, rfl, fun _ _ => rfl⟩

theorem trans (h : SameFor engine room guild span clock a b)
    (h' : SameFor engine room guild span clock b c) : SameFor engine room guild span clock a c :=
  ⟨h.left, h'.right, h.settings.trans h'.settings,
    fun time later => (h.served time later).trans (h'.served time later)⟩

theorem mono (h : SameFor engine room guild span clock a b) {clock' : Int}
    (later : clock ≤ clock') : SameFor engine room guild span clock' a b :=
  ⟨⟨h.left.source, h.left.room, h.left.timed.mono later⟩,
    ⟨h.right.source, h.right.room, h.right.timed.mono later⟩, h.settings,
    fun time still => h.served time (Int.le_trans later still)⟩

end SameFor

/-! ### What is served after a change of the cache -/

section Serves

variable {repository : GuildRepository} {guild other : String} {span clock time : Int}

/-- What has expired is not served anyway. -/
theorem serves_current (timed : repository.Timed span clock) (later : clock ≤ time) :
    (repository.current clock).serves guild time = repository.serves guild time := by
  rw [serves, serves, current, Table.get?_filter, Option.filter_filter]
  cases held : repository.cache.get? (.text guild) with
  | none => rfl
  | some cached =>
    obtain ⟨-, expiry, isExpiry, -⟩ := timed.cached _ cached held
    have both : (decide (expiry ≤ clock) || decide (expiry ≤ time)) = decide (expiry ≤ time) := by
      simp only [Bool.or_eq_right_iff_imp, decide_eq_true_eq]
      omega
    simp only [Option.filter_some, Cached.isExpired_int isExpiry, ← Bool.not_or, both]

theorem serves_holding_self (expiry : Int) (settings : Option GuildSettings) :
    (repository.holding guild expiry settings).serves guild time =
      if time < expiry then some settings else none := by
  rw [serves, holding, Table.get?_insert_self, Option.filter_some, Cached.isExpired_int rfl]
  by_cases fresh : time < expiry
  · simp [fresh, Int.not_le.2 fresh]
  · simp [fresh, Int.not_lt.1 fresh]

theorem serves_holding_of_ne (differ : other ≠ guild) (expiry : Int)
    (settings : Option GuildSettings) :
    (repository.holding other expiry settings).serves guild time =
      repository.serves guild time := by
  have apart : Key.text other ≠ .text guild := fun same => differ (Key.text.inj same)
  rw [serves, serves, holding, Table.get?_insert_of_ne _ _ apart]

/-- Nothing is served for a guild that was forgotten. -/
theorem serves_forgetting_self {id : Option String} (meant : id.all (· == guild) = true) :
    (repository.forgetting id).serves guild time = none := by
  have forgotten : (repository.forgetting id).cache.get? (.text guild) = none := by
    cases id with
    | none => rfl
    | some id =>
      have same : id = guild := by simpa using meant
      rw [same]
      exact Table.get?_erase_self repository.cache (.text guild)
  rw [serves, forgotten]
  rfl

theorem serves_forgetting_of_ne {id : Option String} (other : id.all (· == guild) = false) :
    (repository.forgetting id).serves guild time = repository.serves guild time := by
  have held : (repository.forgetting id).cache.get? (.text guild) =
      repository.cache.get? (.text guild) := by
    cases id with
    | none => cases other
    | some id =>
      have differ : Key.text id ≠ .text guild := fun same => by
        simp [Key.text.inj same] at other
      show (repository.cache.erase (.text id)).get? (.text guild) = _
      rw [Table.get?_erase, if_neg differ]
  rw [serves, serves, held]

/-- Settings that are served and were changed are served as they were changed. -/
theorem serves_edit_self (settings : GuildSettings) :
    (repository.edit guild settings).serves guild time =
      (repository.serves guild time).map fun _ => some settings := by
  rw [serves, serves, edit]
  cases held : repository.cache.get? (.text guild) with
  | none =>
    rw [held]
    rfl
  | some cached =>
    have expiry : Cached.isExpired { cached with settings := some settings } (.int time) =
        cached.isExpired (.int time) := rfl
    rw [Table.get?_insert_self, Option.filter_some, Option.filter_some, expiry]
    cases cached.isExpired (.int time) <;> rfl

theorem serves_edit_of_ne (differ : other ≠ guild) (settings : GuildSettings) :
    (repository.edit other settings).serves guild time = repository.serves guild time := by
  have apart : Key.text other ≠ .text guild := fun same => differ (Key.text.inj same)
  rw [serves, serves, edit]
  cases repository.cache.get? (.text other) with
  | none => rfl
  | some cached => rw [Table.get?_insert_of_ne _ _ apart]

end Serves

/-! ### The operations in full -/

section Operations

variable {repository : GuildRepository} {engine : GuildEngine} {room : Room} {span clock : Int}

/-- A repository after a guild was read: what the rows hold of it is remembered, unless they cannot
be decoded. -/
def reading (repository : GuildRepository) (guild : String) (span clock : Int) : GuildRepository :=
  match repository.rows.settings repository.room guild with
  | .ok settings => (repository.current clock).holding guild (clock + span) settings
  | .error _ => repository.current clock

/-- **A fetch is served from memory or read from the rows.** -/
theorem run_fetch_of_calm (calm : repository.Calm engine room span clock) (guild : String) :
    fetch (.int clock) (.text guild) repository =
      match repository.serves guild clock with
      | some settings => ⟨[], repository, .ok settings⟩
      | none =>
        ⟨[.queried (.find "guilds" "id" (.text guild))], repository.reading guild span clock,
          repository.rows.settings repository.room guild⟩ := by
  have timed := calm.timed
  have source : (repository.current clock).source = .ofRows engine repository.rows [] := calm.source
  rw [run_fetch timed.connected, timed.served?, serves]
  cases (repository.cache.get? (.text guild)).filter fun cached =>
      !cached.isExpired (.int clock) with
  | some cached => rfl
  | none =>
    dsimp only [Option.map_none]
    have asked := answer_lookup source guild
    have asking : (repository.current clock).asking
        ((repository.current clock).lookup (.text guild)) =
          [.queried (.find "guilds" "id" (.text guild))] := by
      rw [asking_of_answer_ok asked.1, lookup, source]
      rfl
    rw [timed.evict]
    dsimp only
    rw [run_load timed.current.connected, read_of_rows source, asked.2, asking, reading]
    dsimp only [current]
    cases repository.rows.settings repository.room guild with
    | error fault => rfl
    | ok settings =>
      dsimp only
      rw [← current, Timed.remember timed.current.lifetime]

theorem calm_reading (calm : repository.Calm engine room span clock) (guild : String) :
    (repository.reading guild span clock).Calm engine room span clock := by
  rw [reading]
  cases repository.rows.settings repository.room guild with
  | error fault => exact ⟨calm.source, calm.room, calm.timed.current⟩
  | ok settings => exact ⟨calm.source, calm.room, calm.timed.current.holding guild settings⟩

theorem rows_reading (repository : GuildRepository) (guild : String) :
    (repository.reading guild span clock).rows = repository.rows := by
  rw [reading]
  cases repository.rows.settings repository.room guild <;> rfl

theorem serves_reading_self (timed : repository.Timed span clock) (guild : String) {time : Int}
    (later : clock ≤ time) :
    (repository.reading guild span clock).serves guild time =
      match repository.rows.settings repository.room guild with
      | .ok settings => if time < clock + span then some settings else none
      | .error _ => repository.serves guild time := by
  rw [reading]
  cases repository.rows.settings repository.room guild with
  | error fault => exact serves_current timed later
  | ok settings => exact serves_holding_self _ _

theorem serves_reading_of_ne (timed : repository.Timed span clock) {guild other : String}
    (differ : other ≠ guild) {time : Int} (later : clock ≤ time) :
    (repository.reading other span clock).serves guild time = repository.serves guild time := by
  rw [reading]
  cases repository.rows.settings repository.room other with
  | error fault => exact serves_current timed later
  | ok settings =>
    dsimp only
    rw [serves_holding_of_ne differ, serves_current timed later]

/-- A repository after settings of a guild were stored. -/
def storing (repository : GuildRepository) (engine : GuildEngine) (guild : String) (row : Row) :
    GuildRepository :=
  { repository.forgetting (some guild) with
    source := .ofRows engine (repository.rows.put guild row) [] }

theorem run_save_of_calm (calm : repository.Calm engine room span clock) {settings : GuildSettings}
    {guild : String} (named : settings.id = .text guild) :
    save settings repository =
      ⟨[.queried (.upsert ⟨"guilds", settings.toRecord, .ofList ["id"]⟩)],
        repository.storing engine guild (engine.stored repository.rows settings.toRecord),
        decode repository.room (some (.ofRecord settings.toRecord))⟩ := by
  rw [run_save_of_rows calm.source named, insertion, calm.source]
  rfl

theorem calm_storing (calm : repository.Calm engine room span clock) (guild : String) (row : Row) :
    (repository.storing engine guild row).Calm engine room span clock :=
  ⟨rfl, (forgetting_room repository (some guild)).trans calm.room,
    (calm.timed.forgetting (some guild)).of_subset ⟨_, _, _, rfl⟩ rfl fun _ _ held => held⟩

theorem rows_edit (repository : GuildRepository) (id : String) (settings : GuildSettings) :
    (repository.edit id settings).rows = repository.rows := by
  rw [edit]
  cases repository.cache.get? (.text id) <;> rfl

/-- A change of settings leaves the expiry as it is. -/
theorem calm_edit (calm : repository.Calm engine room span clock) (id : String)
    (settings : GuildSettings) : (repository.edit id settings).Calm engine room span clock := by
  rw [edit]
  cases held : repository.cache.get? (.text id) with
  | none => exact calm
  | some cached =>
    refine ⟨calm.source, calm.room, calm.timed.source, calm.timed.lifetime,
      fun key entry found => ?_⟩
    rw [Table.get?_insert] at found
    split at found
    · rename_i same
      cases found
      exact ⟨⟨id, same.symm⟩, (calm.timed.cached _ cached held).2⟩
    · exact calm.timed.cached key entry found

end Operations

end GuildRepository

/-! ### What is done for other guilds, and what is done for the guild -/

namespace Action

variable {α β : Type} {engine : GuildEngine} {room : Room} {guild : String} {span clock : Int}

/-- Whether an action leaves every repository the same for a guild. -/
def Keeps (engine : GuildEngine) (room : Room) (guild : String) (span clock : Int)
    (action : Action GuildRepository α) : Prop :=
  ∀ a : GuildRepository, a.Calm engine room span clock →
    GuildRepository.SameFor engine room guild span clock (action a).state a

/-- Whether an action does the same in repositories that are the same for a guild, and leaves them
so. -/
def Agrees (engine : GuildEngine) (room : Room) (guild : String) (span clock : Int)
    (action : Action GuildRepository α) : Prop :=
  ∀ a b : GuildRepository, GuildRepository.SameFor engine room guild span clock a b →
    (action a).events = (action b).events ∧ (action a).result = (action b).result ∧
      GuildRepository.SameFor engine room guild span clock (action a).state (action b).state

theorem Stateless.keeps {action : Action GuildRepository α} (h : action.Stateless) :
    action.Keeps engine room guild span clock := by
  obtain ⟨events, result, h⟩ := h
  intro a calm
  rw [h]
  exact .refl calm

theorem Stateless.agrees {action : Action GuildRepository α} (h : action.Stateless) :
    action.Agrees engine room guild span clock := by
  obtain ⟨events, result, h⟩ := h
  intro a b same
  rw [h, h]
  exact ⟨rfl, rfl, same⟩

/-- What goes on without the repository leaves it as its beginning does. -/
theorem Continues.keeps {action : Action GuildRepository β} {first : Action GuildRepository α}
    (h : action.Continues first) (kept : first.Keeps engine room guild span clock) :
    action.Keeps engine room guild span clock := by
  intro a calm
  obtain ⟨events, result, h⟩ := h (first a).result
  rw [h a rfl]
  exact kept a calm

theorem Continues.agrees {action : Action GuildRepository β} {first : Action GuildRepository α}
    (h : action.Continues first) (agreed : first.Agrees engine room guild span clock) :
    action.Agrees engine room guild span clock := by
  intro a b same
  obtain ⟨events, result, left⟩ := agreed a b same
  obtain ⟨later, ended, h⟩ := h (first a).result
  rw [h a rfl, h b result.symm, events]
  exact ⟨rfl, rfl, left⟩

theorem Keeps.bind {action : Action GuildRepository α} {next : α → Action GuildRepository β}
    (first : action.Keeps engine room guild span clock)
    (later : ∀ a, (next a).Keeps engine room guild span clock) :
    (action >>= next).Keeps engine room guild span clock := by
  intro a calm
  have kept := first a calm
  cases result : (action a).result with
  | error fault =>
    rw [run_bind_of_error result]
    exact kept
  | ok x =>
    rw [run_bind_of_ok result]
    exact (later x _ kept.left).trans kept

theorem Agrees.bind {action : Action GuildRepository α} {next : α → Action GuildRepository β}
    (first : action.Agrees engine room guild span clock)
    (later : ∀ a, (next a).Agrees engine room guild span clock) :
    (action >>= next).Agrees engine room guild span clock := by
  intro a b same
  obtain ⟨events, result, left⟩ := first a b same
  cases ended : (action a).result with
  | error fault =>
    rw [run_bind_of_error ended, run_bind_of_error (result.symm.trans ended)]
    exact ⟨events, rfl, left⟩
  | ok x =>
    obtain ⟨events', result', left'⟩ := later x _ _ left
    rw [run_bind_of_ok ended, run_bind_of_ok (result.symm.trans ended), events, events', result']
    exact ⟨rfl, rfl, left'⟩

end Action

namespace GuildRepository

variable {engine : GuildEngine} {room : Room} {guild other : String} {span clock : Int}

theorem keeps_fetch (differ : other ≠ guild) :
    (fetch (.int clock) (.text other)).Keeps engine room guild span clock := by
  intro a calm
  rw [run_fetch_of_calm calm]
  cases a.serves other clock with
  | some settings => exact .refl calm
  | none =>
    exact ⟨calm_reading calm other, calm, by rw [rows_reading],
      fun time later => serves_reading_of_ne calm.timed differ later⟩

theorem agrees_fetch (guild : String) :
    (fetch (.int clock) (.text guild)).Agrees engine room guild span clock := by
  intro a b same
  rw [run_fetch_of_calm same.left, run_fetch_of_calm same.right,
    ← same.served clock (Int.le_refl clock), same.left.room, same.right.room, ← same.settings]
  cases a.serves guild clock with
  | some settings => exact ⟨rfl, rfl, same⟩
  | none =>
    refine ⟨rfl, rfl, calm_reading same.left guild, calm_reading same.right guild, ?_, ?_⟩
    · rw [rows_reading, rows_reading, same.settings]
    · intro time later
      rw [serves_reading_self same.left.timed guild later,
        serves_reading_self same.right.timed guild later, same.left.room, same.right.room,
        same.settings, same.served time later]

theorem keeps_save {settings : GuildSettings} (named : settings.id = .text other)
    (differ : other ≠ guild) : (save settings).Keeps engine room guild span clock := by
  intro a calm
  rw [run_save_of_calm calm named]
  have elsewhere : (some other).all (· == guild) = false := by simpa using differ
  exact ⟨calm_storing calm other _, calm, a.rows.settings_put_of_ne room differ _,
    fun time later => serves_forgetting_of_ne elsewhere⟩

theorem agrees_save {settings : GuildSettings} (named : settings.id = .text guild) :
    (save settings).Agrees engine room guild span clock := by
  intro a b same
  rw [run_save_of_calm same.left named, run_save_of_calm same.right named]
  have meant : (some guild).all (· == guild) = true := by simp
  refine ⟨rfl, ?_, calm_storing same.left guild _, calm_storing same.right guild _, ?_, ?_⟩
  · rw [same.left.room, same.right.room]
  · have stored (rows : Rows) := GuildStore.settings_put_self ⟨engine, room, rows⟩ guild settings
    exact (stored a.rows).trans (stored b.rows).symm
  · intro time later
    exact (serves_forgetting_self meant).trans (serves_forgetting_self meant).symm

theorem rows_forgetting (repository : GuildRepository) (id : Option String) :
    (repository.forgetting id).rows = repository.rows := by
  rw [rows, forgetting_source, rows]

theorem calm_forgetting {repository : GuildRepository}
    (calm : repository.Calm engine room span clock) (id : Option String) :
    (repository.forgetting id).Calm engine room span clock := by
  refine ⟨?_, (forgetting_room repository id).trans calm.room, calm.timed.forgetting id⟩
  rw [rows_forgetting, forgetting_source]
  exact calm.source

theorem keeps_invalidate {id : Option String} (elsewhere : id.all (· == guild) = false) :
    ((Step.invalidate id).action clock).Keeps engine room guild span clock := by
  intro a calm
  rw [run_invalidate]
  exact ⟨calm_forgetting calm id, calm, by rw [rows_forgetting],
    fun time later => serves_forgetting_of_ne elsewhere⟩

theorem agrees_invalidate {id : Option String} (meant : id.all (· == guild) = true) :
    ((Step.invalidate id).action clock).Agrees engine room guild span clock := by
  intro a b same
  rw [run_invalidate, run_invalidate]
  refine ⟨rfl, rfl, calm_forgetting same.left id, calm_forgetting same.right id, ?_, ?_⟩
  · rw [rows_forgetting, rows_forgetting, same.settings]
  · intro time later
    rw [serves_forgetting_self meant, serves_forgetting_self meant]

end GuildRepository

/-! ### What handlers may depend on -/

/-- Whether a message is of a guild or of none. A message of a guild that cannot be named is taken
to be of another one. -/
def Message.isFor (guild : String) (message : Message) : Bool :=
  match message.guild with
  | none => true
  | some (.ok id) => id == guild
  | some (.error _) => false

/-- The runs of handlers for a guild, or for none. -/
def Call.relevant (guild : String) (past : List Call) : List Call :=
  past.filter fun call => call.message.isFor guild

/-- Whether what the handlers of a command table do for a guild, or for none, depends on no run that
was for others. -/
def Registry.KeepsApart (registry : Registry) (guild : String) : Prop :=
  ∀ entry ∈ registry.entries, ∀ call, call.message.isFor guild = true → ∀ past past',
    Call.relevant guild past = Call.relevant guild past' →
      entry.command.handler.react past call = entry.command.handler.react past' call

namespace Dispatcher

variable {engine : GuildEngine} {room : Room} {guild : String} {span clock : Int}

/-- Whether two dispatchers differ at most in what they have noted of others than a guild. -/
structure SameFor (guild : String) (a b : Dispatcher) : Prop where
  /-- The command table is the same. -/
  registry : a.registry = b.registry
  /-- Both load guilds, or none does. -/
  loadsGuilds : a.loadsGuilds = b.loadsGuilds
  /-- The runs for the guild, or for none, were the same. -/
  past : Call.relevant guild a.past = Call.relevant guild b.past

/-- Dispatchers stay the same if they take note of the same. -/
theorem SameFor.after {a b : Dispatcher} (same : SameFor guild a b) {events events' : List Event}
    (h : Call.relevant guild (events.filterMap Event.call?) =
      Call.relevant guild (events'.filterMap Event.call?)) :
    SameFor guild (a.after events) (b.after events') := by
  refine ⟨same.registry, same.loadsGuilds, ?_⟩
  show Call.relevant guild (a.past ++ _) = Call.relevant guild (b.past ++ _)
  have past := same.past
  rw [Call.relevant, Call.relevant] at past h ⊢
  rw [List.filter_append, List.filter_append, past, h]

/-- **A message of a guild, or of none, is dispatched without regard to the runs for others.** -/
theorem handle_eq_of_sameFor {a b : Dispatcher} (same : SameFor guild a b)
    (apart : a.registry.KeepsApart guild) (now : Value) {message : Message}
    (concerned : message.isFor guild = true) : a.handle now message = b.handle now message := by
  have loaded : a.loadGuild now message = b.loadGuild now message := by
    rw [loadGuild, loadGuild, same.loadsGuilds]
  have executed (found : Match) (registered : found.entry ∈ a.registry.entries) (line : String)
      (settings : Option GuildSettings) :
      a.execute found line settings message = b.execute found line settings message := by
    have reacted := apart found.entry registered (callOf found line settings message) concerned
      a.past b.past same.past
    have ran : a.run found.entry.command.handler (callOf found line settings message) =
        b.run found.entry.command.handler (callOf found line settings message) := by
      rw [run, run, reacted]
    simp only [execute, ran]
  have responded (line : String) : a.respond message line = b.respond message line := by
    funext settings repository
    rw [respond, respond, ← same.registry]
    cases resolved : a.registry.resolveWithAlias line
        (some ⟨some message, settings.map Guild.settled⟩) (settings.map Guild.settled) with
    | error fault => rfl
    | ok found =>
      rw [Action.run_ofExcept_ok_bind, Action.run_ofExcept_ok_bind]
      cases found with
      | none => rfl
      | some found =>
        dsimp only
        rw [executed found (Registry.mem_of_resolveWithAlias resolved)]
  rw [handle, handle, handleLine_eq, handleLine_eq, loaded, responded]

/-- What a handler changes of the settings of other guilds does not concern a guild. -/
theorem keeps_respond (dispatcher : Dispatcher) {message : Message}
    (elsewhere : message.isFor guild = false) (line : String) (settings : Option GuildSettings) :
    (dispatcher.respond message line settings).Keeps engine room guild span clock := by
  obtain ⟨events, edited, result, responded, -⟩ :=
    dispatcher.exists_respond_leave message line settings
  intro a calm
  rw [responded]
  rcases leave_cases message settings edited with ⟨id, changed, inside, left⟩ | left
  · have differ : id ≠ guild := by simpa [Message.isFor, inside] using elsewhere
    rw [left]
    exact ⟨GuildRepository.calm_edit calm id changed, calm, by rw [GuildRepository.rows_edit],
      fun time _ => GuildRepository.serves_edit_of_ne differ changed⟩
  · rw [left]
    exact .refl calm

/-- What a handler changes of the settings of a guild is changed alike. -/
theorem agrees_respond (dispatcher : Dispatcher) {message : Message}
    (concerned : message.isFor guild = true) (line : String) (settings : Option GuildSettings) :
    (dispatcher.respond message line settings).Agrees engine room guild span clock := by
  obtain ⟨events, edited, result, responded, -⟩ :=
    dispatcher.exists_respond_leave message line settings
  intro a b same
  rw [responded, responded]
  refine ⟨rfl, rfl, ?_⟩
  rcases leave_cases message settings edited with ⟨id, changed, inside, left⟩ | left
  · obtain rfl : id = guild := by simpa [Message.isFor, inside] using concerned
    rw [left, left]
    refine ⟨GuildRepository.calm_edit same.left id changed,
      GuildRepository.calm_edit same.right id changed, ?_, fun time later => ?_⟩
    · rw [GuildRepository.rows_edit, GuildRepository.rows_edit, same.settings]
    · rw [GuildRepository.serves_edit_self, GuildRepository.serves_edit_self,
        same.served time later]
  · rw [left, left]
    exact same

/-- A message of another guild leaves everything the same for a guild. -/
theorem keeps_handle (dispatcher : Dispatcher) {message : Message}
    (elsewhere : message.isFor guild = false) :
    (dispatcher.handle (.int clock) message).Keeps engine room guild span clock := by
  rw [handle]
  split
  · rw [handleLine_eq]
    refine .bind ?_ fun settings => dispatcher.keeps_respond elsewhere _ settings
    rcases dispatcher.stateless_or_continues_loadGuild (.int clock) message with
      still | ⟨id, inside, loads⟩
    · exact still.keeps
    · refine loads.keeps (GuildRepository.keeps_fetch ?_)
      simpa [Message.isFor, inside] using elsewhere
  · exact (Action.Stateless.pure false).keeps

/-- A message of a guild, or of none, does what is decided by what is the same for the guild. -/
theorem agrees_handle (dispatcher : Dispatcher) {message : Message}
    (concerned : message.isFor guild = true) :
    (dispatcher.handle (.int clock) message).Agrees engine room guild span clock := by
  rw [handle]
  split
  · rw [handleLine_eq]
    refine .bind ?_ fun settings => dispatcher.agrees_respond concerned _ settings
    rcases dispatcher.stateless_or_continues_loadGuild (.int clock) message with
      still | ⟨id, inside, loads⟩
    · exact still.agrees
    · obtain rfl : id = guild := by simpa [Message.isFor, inside] using concerned
      exact loads.agrees (GuildRepository.agrees_fetch id)
  · exact (Action.Stateless.pure false).agrees

end Dispatcher

namespace Request

variable {engine : GuildEngine} {room : Room} {guild : String} {span : Int} {request : Request}

/-- Whether a request is made for a guild or for none in particular. That time passes is not a
request of anyone. -/
def concerns (guild : String) : Request → Bool
  | handle message => message.isFor guild
  | step (.fetch id) => id == guild
  | step (.save id _ _) => id == guild
  | step (.invalidate id) => id.all (· == guild)
  | step (.pass _) => false

/-- **What other guilds do leaves everything the same for a guild.** -/
theorem keeps_action (dispatcher : Dispatcher) (clock : Int)
    (elsewhere : request.concerns guild = false) :
    (request.action dispatcher clock).Keeps engine room guild span clock := by
  cases request with
  | handle message =>
    exact (Action.Continues.of_map _ _).keeps (dispatcher.keeps_handle elsewhere)
  | step taken =>
    cases taken with
    | fetch id =>
      refine (Action.Continues.of_map _ _).keeps (GuildRepository.keeps_fetch ?_)
      simpa [concerns] using elsewhere
    | save id prefixes aliases =>
      refine (Action.Continues.of_map _ _).keeps (GuildRepository.keeps_save rfl ?_)
      simpa [concerns] using elsewhere
    | invalidate id => exact GuildRepository.keeps_invalidate elsewhere
    | pass ticks => exact (Action.Stateless.pure _).keeps

/-- **What a guild does is decided by what is the same for it.** -/
theorem agrees_action (dispatcher : Dispatcher) (clock : Int)
    (concerned : request.concerns guild = true) :
    (request.action dispatcher clock).Agrees engine room guild span clock := by
  cases request with
  | handle message =>
    exact (Action.Continues.of_map _ _).agrees (dispatcher.agrees_handle concerned)
  | step taken =>
    cases taken with
    | fetch id =>
      obtain rfl : id = guild := by simpa [concerns] using concerned
      exact (Action.Continues.of_map _ _).agrees (GuildRepository.agrees_fetch id)
    | save id prefixes aliases =>
      obtain rfl : id = guild := by simpa [concerns] using concerned
      exact (Action.Continues.of_map _ _).agrees (GuildRepository.agrees_save rfl)
    | invalidate id => exact GuildRepository.agrees_invalidate concerned
    | pass ticks => exact (Action.Stateless.pure _).agrees

/-- A request of a guild, or of none, asks for the same of dispatchers that are the same for it. -/
theorem action_eq_of_sameFor {a b : Dispatcher} (same : a.SameFor guild b)
    (apart : a.registry.KeepsApart guild) (clock : Int)
    (concerned : request.concerns guild = true) :
    request.action a clock = request.action b clock := by
  cases request with
  | handle message =>
    rw [action, action, Dispatcher.handle_eq_of_sameFor same apart (.int clock) concerned]
  | step taken => rfl

/-- A step that concerns the repository alone runs no handler. -/
theorem calls_step {repository : GuildRepository} {clock : Int}
    (calm : repository.Calm engine room span clock) (taken : Step) :
    (taken.action clock repository).events.filterMap Event.call? = [] := by
  cases taken with
  | fetch id =>
    rw [Step.action, Action.run_map]
    exact Dispatcher.filterMap_eq_nil_of_quiet fun event done =>
      ((GuildRepository.events_fetch repository (.int clock) (.text id)).2 event done).1
  | save id prefixes aliases =>
    rw [Step.action, Action.run_map, GuildRepository.run_save_of_calm calm rfl]
    rfl
  | invalidate id =>
    rw [GuildRepository.run_invalidate]
    rfl
  | pass ticks => rfl

/-- What is noted of a request of others does not concern a guild. -/
theorem relevant_calls_action (dispatcher : Dispatcher) {repository : GuildRepository} {clock : Int}
    (calm : repository.Calm engine room span clock) (elsewhere : request.concerns guild = false) :
    Call.relevant guild
      ((request.action dispatcher clock repository).events.filterMap Event.call?) = [] := by
  cases request with
  | step taken =>
    rw [show Request.action dispatcher clock (.step taken) = taken.action clock from rfl,
      calls_step calm taken]
    rfl
  | handle message =>
    rw [Call.relevant, List.filter_eq_nil_iff]
    intro call called
    rw [action, Action.run_map] at called
    rw [Dispatcher.message_of_mem_calls called]
    exact Bool.eq_false_iff.1 elsewhere

end Request

/-! ### Sessions -/

/-- What was done for a request, and how it ended. -/
structure Exchange where
  /-- What was done to the world outside: statements, handlers that were run, texts that were sent
  and messages for the log. -/
  events : List Event
  /-- The result or the fault. -/
  result : Except Fault Reply

namespace Session

/-- What a request comes to in a repository at a time. -/
def exchange (dispatcher : Dispatcher) (repository : GuildRepository) (clock : Int)
    (request : Request) : Exchange :=
  let outcome := request.action dispatcher clock repository
  ⟨outcome.events, outcome.result⟩

/-- The requests that concern a guild, each with the time at which it is made. -/
def agenda (guild : String) : Int → List Request → List (Int × Request)
  | _, [] => []
  | clock, request :: later =>
    if request.concerns guild then (clock, request) :: agenda guild (clock + request.ticks) later
    else agenda guild (clock + request.ticks) later

/-- What a guild sees of a session: what comes of each request that concerns it. -/
def view (dispatcher : Dispatcher) (guild : String) (session : Session) :
    List Request → List Exchange
  | [] => []
  | request :: later =>
    let seen := view (session.taught dispatcher request) guild (session.respond dispatcher request)
      later
    if request.concerns guild then
      exchange dispatcher session.repository session.clock request :: seen
    else seen

/-- What comes of some requests that are made at given times, and of nothing else. -/
def replay (dispatcher : Dispatcher) (repository : GuildRepository) :
    List (Int × Request) → List Exchange
  | [] => []
  | (clock, request) :: later =>
    let outcome := request.action dispatcher clock repository
    exchange dispatcher repository clock request ::
      replay (dispatcher.after outcome.events) outcome.state later

/-- **A guild sees what it would see if nobody else were there**, from a repository and a dispatcher
that are the same for it. -/
theorem view_eq_replay {dispatcher dispatcher' : Dispatcher} {engine : GuildEngine} {room : Room}
    {guild : String} {span : Int} (apart : dispatcher.registry.KeepsApart guild)
    (noted : dispatcher.SameFor guild dispatcher') (session : Session) {alone : GuildRepository}
    (same : GuildRepository.SameFor engine room guild span session.clock session.repository alone)
    (requests : List Request) :
    session.view dispatcher guild requests =
      replay dispatcher' alone (agenda guild session.clock requests) := by
  induction requests generalizing session alone dispatcher dispatcher' with
  | nil => rfl
  | cons request later ih =>
    have passed : session.clock ≤ session.clock + request.ticks :=
      Int.le_add_of_nonneg_right (Int.natCast_nonneg _)
    have apart' : (session.taught dispatcher request).registry.KeepsApart guild := apart
    cases concerned : request.concerns guild with
    | false =>
      -- The session goes on by itself, and what it leaves is still the same for the guild.
      have kept := request.keeps_action dispatcher session.clock concerned _ same.left
      have nothing := request.relevant_calls_action dispatcher same.left concerned
      have noted' : (session.taught dispatcher request).SameFor guild dispatcher' := by
        have still : (session.taught dispatcher request).SameFor guild (dispatcher'.after []) :=
          noted.after nothing
        have same : dispatcher'.after [] = dispatcher' := by
          rw [Dispatcher.after, List.filterMap_nil, List.append_nil]
        rwa [same] at still
      rw [view, agenda, if_neg (by simp [concerned]), if_neg (by simp [concerned])]
      exact ih apart' noted' _ ((kept.trans same).mono passed)
    | true =>
      -- Both go on, and do the same.
      have asked := request.action_eq_of_sameFor noted apart session.clock concerned
      obtain ⟨events, result, left⟩ :=
        request.agrees_action dispatcher session.clock concerned _ _ same
      have here : exchange dispatcher session.repository session.clock request =
          exchange dispatcher' alone session.clock request := by
        rw [exchange, exchange, events, result, asked]
      have noted' : (session.taught dispatcher request).SameFor guild
          (dispatcher'.after (request.action dispatcher' session.clock alone).events) := by
        refine noted.after ?_
        rw [outcome, events, asked]
      have left' : GuildRepository.SameFor engine room guild span session.clock
          (session.respond dispatcher request).repository
          (request.action dispatcher' session.clock alone).state := by
        rw [← asked]
        exact left
      rw [view, agenda, if_pos concerned, if_pos concerned, replay, here]
      exact congrArg _ (ih apart' noted' _ (left'.mono passed))

theorem calm_start (store : GuildStore) (span clock : Int) :
    (start store span clock).repository.Calm store.engine store.room span clock :=
  ⟨rfl, rfl, timed_start store span clock⟩

/-- **Guilds do not see each other**, unless handlers tell. In two sessions that begin with the same
row for a guild, and in which the same requests of the guild, or of none, are made at the same
times, all of these requests come to the same: to the same results, runs of handlers, texts,
statements and messages for the log. The rows and the requests of other guilds may differ in any
way. -/
theorem view_eq_of_agenda_eq (dispatcher : Dispatcher) (engine : GuildEngine) (room : Room)
    {guild : String} (apart : dispatcher.registry.KeepsApart guild) {rows rows' : Rows}
    (row : rows.row? guild = rows'.row? guild) (span : Int)
    {clock clock' : Int} {requests requests' : List Request}
    (same : agenda guild clock requests = agenda guild clock' requests') :
    (start ⟨engine, room, rows⟩ span clock).view dispatcher guild requests =
      (start ⟨engine, room, rows'⟩ span clock').view dispatcher guild requests' := by
  let store : GuildStore := ⟨engine, room, rows⟩
  let store' : GuildStore := ⟨engine, room, rows'⟩
  have settings : rows.settings room guild = rows'.settings room guild := by
    rw [Rows.settings, Rows.settings, row]
  have left : GuildRepository.SameFor engine room guild span clock
      (start store span clock).repository (start store' span clock).repository :=
    ⟨calm_start store span clock, calm_start store' span clock, settings, fun _ _ => rfl⟩
  have right : GuildRepository.SameFor engine room guild span clock'
      (start store' span clock').repository (start store' span clock').repository :=
    .refl (calm_start store' span clock')
  have noted : dispatcher.SameFor guild dispatcher := ⟨rfl, rfl, rfl⟩
  have first := view_eq_replay apart noted (start store span clock) left requests
  have second := view_eq_replay apart noted (start store' span clock') right requests'
  calc (start store span clock).view dispatcher guild requests
      = replay dispatcher (start store' span clock).repository
          (agenda guild clock requests) := first
    _ = replay dispatcher (start store' span clock').repository
          (agenda guild clock' requests') := congrArg _ same
    _ = (start store' span clock').view dispatcher guild requests' := second.symm

/-- Two sets of rows in which one guild has the same row. -/
def neighbours : Rows × Rows :=
  let aliases : Value := .dict [(.text "p", .text "!ping")]
  let row : Row := ⟨[(.text "id", .text "7"), (.text "aliases", aliases)]⟩
  (Rows.put .empty "7" row, (Rows.put .empty "8" ⟨[(.text "prefixes", .int 3)]⟩).put "7" row)

/-- A message of a guild. -/
def saying (content : String) (guild : String) : Request :=
  .handle ⟨.person, content, some (.ok guild), .working⟩

/-- A message of no guild, in a channel to which nothing can be sent. -/
def whispering (content : String) : Request :=
  .handle ⟨.person, content, none, .failing (.raised .runtime "closed")⟩

/-- Two lists of requests that agree in what concerns that guild: a message of it after five ticks,
and a message of no guild. -/
def visits : List Request × List Request :=
  ([.step (.fetch "8"), .step (.pass 5), saying "p 1" "7", .step (.save "8" .empty .empty),
      whispering "!ping"],
    [.step (.pass 2), saying "!ping" "8", .step (.pass 3), saying "p 1" "7",
      .step (.invalidate (some "8")), whispering "!ping", .step (.pass 40)])

/-- A handler that says in a guild how often handlers were run for it, or for none, and gives the
guild another prefix. -/
def scoring : Handler :=
  ⟨.text "score", fun past call =>
    match call.message.guild with
    | some (.ok id) =>
      { sent := [.int (Call.relevant id past).length]
        edited := call.guild.map fun settings =>
          { settings with prefixes := .ofList [(.text "utility", .text "?")] } }
    | _ => {}⟩

/-- The guild does not see what its neighbour does, although the handler counts. -/
theorem view_eq_of_agenda_eq_neighbours :
    let dispatcher := Dispatcher.single (.level .normal) scoring
    dispatcher.registry.KeepsApart "7" ∧ neighbours.1.row? "7" = neighbours.2.row? "7" ∧
      agenda "7" 0 visits.1 = agenda "7" 0 visits.2 ∧
      (start ⟨.inMemory, .flat, neighbours.1⟩ 10 0).view dispatcher "7" visits.1 =
        (start ⟨.inMemory, .flat, neighbours.2⟩ 10 0).view dispatcher "7" visits.2 := by
  intro dispatcher
  have apart : dispatcher.registry.KeepsApart "7" := by
    show ∀ entry ∈ [Entry.mk _ (.ofTexts "Utility" "!") [.text "ping"]], _
    rw [List.forall_mem_singleton]
    rintro ⟨name, ⟨author, content, guild, channel⟩, arguments, settings⟩ concerned past past'
      relevant
    match guild with
    | none | some (.error _) => rfl
    | some (.ok id) =>
      obtain rfl : id = "7" := by simpa [Message.isFor] using concerned
      show Reaction.mk [.int (Call.relevant "7" past).length] _ _ = _
      rw [relevant]
      rfl
  have row : neighbours.1.row? "7" = neighbours.2.row? "7" := rfl
  have same : agenda "7" 0 visits.1 = agenda "7" 0 visits.2 := rfl
  exact ⟨apart, row, same, view_eq_of_agenda_eq dispatcher .inMemory .flat apart row 10
    same⟩

/-- **A handler that counts for all guilds tells one of another.** What the guild asks for is the
same in both sessions, and the handler sends another number to it if the neighbour came first. -/
theorem view_ne_of_counting :
    let dispatcher := Dispatcher.single (.level .normal) counting
    let alone := [saying "!ping" "7"]
    let after := [saying "!ping" "8", saying "!ping" "7"]
    let texts (requests : List Request) :=
      ((start .empty 10 0).view dispatcher "7" requests).map fun exchange =>
        exchange.events.filterMap Event.sent?
    agenda "7" 0 alone = agenda "7" 0 after ∧ texts alone = [[.int 0]] ∧
      texts after = [[.int 1]] :=
  ⟨rfl, rfl, rfl⟩

end Session

end CommandRouter
