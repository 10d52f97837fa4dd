import CommandRouter.Proofs.Arguments
import CommandRouter.Proofs.Guild.Eviction
import CommandRouter.Proofs.Guild.Staleness

/-!
# When the store fails

The settings of a guild may fail to load: the store refuses the statement, or the row cannot be
decoded. Unless that was an interruption, the message is dispatched as if the router had no
repository. Whoever wrote it cannot tell the difference: the result, the handlers that are run and
the texts that are sent are the same.

## What a failure leaves behind

The cache is cleared of what has expired before the store is asked, and an entry is made after the
row was decoded. So a load that fails leaves exactly the entries that had not expired. The guild
itself is not among them, as an entry of it that had not expired would have been served.

Nothing but a successful load makes an entry of a guild. Hence the guild stays out of the cache
until the store has answered for it, whatever else happens: other failures, messages of other
guilds, saves, invalidations, and changes of the rows behind the back of the repository. The first
message for which the store answers is then dispatched with the settings that are stored at that
moment, because memory has nothing else to offer.

## Main definitions

* `Dispatcher.Loads` says that a message makes a dispatcher load a guild.
* `Outcome.LooksLike` compares what two runs of the dispatching show to the outside.
* `Affair` is a message, or anything else that happens to the repository, and `Affair.Answers` says
  that the settings of a guild are loaded in its course.

## Main results

* `Dispatcher.Loads.run_handle_of_error` is the dispatching where the load fails, and
  `Dispatcher.state_handle_cases` what a message does to the repository.
* `GuildRepository.Dated.get?_of_fetch_error` is what the cache holds after that.
* `GuildRepository.absent_following` says that the guild stays out of the cache.
* `Dispatcher.degraded_handle` puts them together.
-/

namespace CommandRouter

/-! ### What a message does to the repository -/

namespace Dispatcher

/-- Whether a message makes a dispatcher load the settings of a guild. -/
structure Loads (dispatcher : Dispatcher) (message : Message) (id : String) : Prop where
  /-- The message is looked at. -/
  looked : message.author = .person ∧ ¬(clean message.content).isEmpty
  /-- The message is of the guild. -/
  inside : message.guild = some (.ok id)
  /-- There is a repository. -/
  loads : dispatcher.loadsGuilds = true

variable {dispatcher : Dispatcher} {message : Message} {id : String}

theorem Loads.handle_eq (h : dispatcher.Loads message id) (now : Value) :
    dispatcher.handle now message =
      dispatcher.loadGuild now message >>=
        dispatcher.respond message (clean message.content) := by
  rw [handle, if_pos h.looked, handleLine_eq]

/-- **Where the guild can be loaded the message is answered with its settings.** -/
theorem Loads.run_handle_of_ok (h : dispatcher.Loads message id) {now : Value}
    {repository after : GuildRepository} {events : List Event} {settings : Option GuildSettings}
    (fetched : GuildRepository.fetch now (.text id) repository = ⟨events, after, .ok settings⟩) :
    dispatcher.handle now message repository =
      ⟨events ++ (dispatcher.respond message (clean message.content) settings after).events,
        (dispatcher.respond message (clean message.content) settings after).state,
        (dispatcher.respond message (clean message.content) settings after).result⟩ := by
  have loaded : dispatcher.loadGuild now message repository = ⟨events, after, .ok settings⟩ := by
    rw [loadGuild_eq_recover h.loads h.inside]
    exact Action.run_recover_of_eq_ok fetched
  rw [h.handle_eq]
  exact Action.run_bind_of_eq_ok loaded

/-- **Where the guild cannot be loaded the message is answered without settings**, after a
notice. -/
theorem Loads.run_handle_of_error (h : dispatcher.Loads message id) {now : Value}
    {repository after : GuildRepository} {events : List Event} {fault : Fault}
    (fetched : GuildRepository.fetch now (.text id) repository = ⟨events, after, .error fault⟩)
    (ordinary : fault.isOrdinary = true) :
    dispatcher.handle now message repository =
      ⟨events ++ Action.notices (loadFailure id) fault ++
          (dispatcher.respond message (clean message.content) none after).events,
        (dispatcher.respond message (clean message.content) none after).state,
        (dispatcher.respond message (clean message.content) none after).result⟩ := by
  have loaded : dispatcher.loadGuild now message repository =
      ⟨events ++ Action.notices (loadFailure id) fault, after, .ok none⟩ := by
    rw [loadGuild_eq_recover h.loads h.inside]
    refine (Action.run_recover_logFault_of_isOrdinary (loadFailure id) (fun _ => return none)
      fetched ordinary).trans ?_
    rw [Action.run_pure, List.append_nil]
  rw [h.handle_eq]
  exact Action.run_bind_of_eq_ok loaded

/-- A message whose guild cannot be loaded leaves the repository as the fetch does, whether the
fault was caught or not. -/
theorem Loads.state_handle_of_error (h : dispatcher.Loads message id) {now : Value}
    {repository : GuildRepository} {fault : Fault}
    (failed : (GuildRepository.fetch now (.text id) repository).result = .error fault) :
    (dispatcher.handle now message repository).state =
      (GuildRepository.fetch now (.text id) repository).state := by
  cases fetched : GuildRepository.fetch now (.text id) repository with
  | mk events after result =>
    rw [fetched] at failed
    cases failed
    cases ordinary : fault.isOrdinary with
    | true =>
      obtain ⟨_, _, still⟩ := dispatcher.stateless_respond_none message (clean message.content)
      rw [h.run_handle_of_error fetched ordinary, still]
    | false =>
      have ended := Action.run_recover_logFault_of_not_isOrdinary (loadFailure id)
        (fun _ => return none) fetched ordinary
      rw [← loadGuild_eq_recover h.loads h.inside] at ended
      rw [h.handle_eq, Action.run_bind_of_eq_error ended]

/-- Without a repository a message that is looked at is answered without settings. -/
theorem run_handle_of_not_loads (h : dispatcher.loadsGuilds = false)
    (looked : message.author = .person ∧ ¬(clean message.content).isEmpty) (now : Value)
    (repository : GuildRepository) :
    dispatcher.handle now message repository =
      dispatcher.respond message (clean message.content) none repository := by
  have loaded : dispatcher.loadGuild now message repository = ⟨[], repository, .ok none⟩ := by
    rw [loadGuild_eq_pure (.inl h), Action.run_pure]
  rw [handle, if_pos looked, handleLine_eq, Action.run_bind_of_eq_ok loaded, List.nil_append]

/-- A message leaves the repository as the fetch of its guild does, apart from what a handler
changes in the settings that were fetched. -/
theorem Loads.exists_state_handle (h : dispatcher.Loads message id) (now : Value)
    (repository : GuildRepository) :
    ∃ given edited, (dispatcher.handle now message repository).state =
      leave message given edited (GuildRepository.fetch now (.text id) repository).state := by
  cases result : (GuildRepository.fetch now (.text id) repository).result with
  | ok settings =>
    obtain ⟨_, edited, _, responded, -⟩ :=
      dispatcher.exists_respond_leave message (clean message.content) settings
    have fetched : GuildRepository.fetch now (.text id) repository =
        ⟨(GuildRepository.fetch now (.text id) repository).events,
          (GuildRepository.fetch now (.text id) repository).state, .ok settings⟩ := by
      rw [← result]
    exact ⟨settings, edited, by rw [h.run_handle_of_ok fetched, responded]⟩
  | error fault => exact ⟨none, none, by rw [h.state_handle_of_error result, leave_given_none]⟩

/-- A message leaves the repository as the fetch of its guild does, or alone, apart from what a
handler changes. -/
theorem state_handle_cases (dispatcher : Dispatcher) (now : Value) (message : Message)
    (repository : GuildRepository) :
    (∃ id, dispatcher.Loads message id ∧ ∃ given edited,
        (dispatcher.handle now message repository).state =
          leave message given edited (GuildRepository.fetch now (.text id) repository).state) ∨
      (dispatcher.handle now message repository).state = repository := by
  by_cases looked : message.author = .person ∧ ¬(clean message.content).isEmpty
  · have bare (unloaded : dispatcher.loadGuild now message = return none) :
        (dispatcher.handle now message repository).state = repository := by
      obtain ⟨events, result, still⟩ :=
        dispatcher.stateless_respond_none message (clean message.content)
      have loaded : dispatcher.loadGuild now message repository = ⟨[], repository, .ok none⟩ := by
        rw [unloaded, Action.run_pure]
      rw [handle, if_pos looked, handleLine_eq, Action.run_bind_of_eq_ok loaded, still]
    by_cases loads : dispatcher.loadsGuilds = true
    · cases inside : message.guild with
      | none => exact .inr (bare (loadGuild_eq_pure (.inr inside)))
      | some guild =>
        cases guild with
        | error fault =>
          refine .inr ?_
          rw [handle, if_pos looked, handleLine_eq, loadGuild_eq_raise loads inside]
          rfl
        | ok id =>
          have here : dispatcher.Loads message id := ⟨looked, inside, loads⟩
          exact .inl ⟨id, here, here.exists_state_handle now repository⟩
    · exact .inr (bare (loadGuild_eq_pure (.inl (Bool.eq_false_iff.2 loads))))
  · rw [handle, if_neg looked]
    exact .inr rfl

end Dispatcher

/-! ### What the outside sees -/

/-- Whether two runs end alike, run the same handlers with the same arguments and settings, and send
the same texts. -/
structure Outcome.LooksLike (a b : Outcome GuildRepository Bool) : Prop where
  /-- The result is the same. -/
  result : a.result = b.result
  /-- The handlers that are run are the same. -/
  calls : a.events.filterMap Event.call? = b.events.filterMap Event.call?
  /-- The texts that are sent are the same. -/
  sent : a.events.filterMap Event.sent? = b.events.filterMap Event.sent?

namespace Dispatcher

section LooksLike

variable {dispatcher : Dispatcher} {message : Message} {id : String} {now : Value}
  {repository : GuildRepository}

/-- What is done with a line looks the same in all repositories, also behind other events that run
no handler and send nothing. -/
theorem looksLike_respond {line : String} {guild : Option GuildSettings} {events : List Event}
    (quiet : ∀ event ∈ events, event.call? = none ∧ event.sent? = none)
    (after state other : GuildRepository) :
    Outcome.LooksLike
      ⟨events ++ (dispatcher.respond message line guild after).events, state,
        (dispatcher.respond message line guild after).result⟩
      (dispatcher.respond message line guild other) := by
  obtain ⟨later, _, ended, same, -⟩ := dispatcher.exists_respond_leave message line guild
  rw [same after, same other]
  refine ⟨rfl, ?_, ?_⟩
  · rw [List.filterMap_append,
      filterMap_eq_nil_of_quiet fun event hevent => (quiet event hevent).1, List.nil_append]
  · rw [List.filterMap_append,
      filterMap_eq_nil_of_quiet fun event hevent => (quiet event hevent).2, List.nil_append]

/-- **Where the guild can be loaded a message is answered with its settings.** -/
theorem Loads.looksLike_of_ok (h : dispatcher.Loads message id) {settings : Option GuildSettings}
    (fetched : (GuildRepository.fetch now (.text id) repository).result = .ok settings)
    (other : GuildRepository) :
    (dispatcher.handle now message repository).LooksLike
      (dispatcher.respond message (clean message.content) settings other) := by
  have quiet := (GuildRepository.events_fetch repository now (.text id)).2
  cases whole : GuildRepository.fetch now (.text id) repository with
  | mk events after result =>
    rw [whole] at fetched quiet
    cases fetched
    rw [h.run_handle_of_ok whole]
    exact looksLike_respond quiet after _ other

/-- **Where the guild cannot be loaded a message is answered without settings.** -/
theorem Loads.looksLike_of_error (h : dispatcher.Loads message id) {fault : Fault}
    (failed : (GuildRepository.fetch now (.text id) repository).result = .error fault)
    (caught : fault.isInterrupt = false) (other : GuildRepository) :
    (dispatcher.handle now message repository).LooksLike
      (dispatcher.respond message (clean message.content) none other) := by
  have ordinary := GuildRepository.isOrdinary_of_fetch failed caught
  have quiet := (GuildRepository.events_fetch repository now (.text id)).2
  cases whole : GuildRepository.fetch now (.text id) repository with
  | mk events after result =>
    rw [whole] at failed quiet
    cases failed
    rw [h.run_handle_of_error whole ordinary]
    refine looksLike_respond (List.forall_mem_append.2 ⟨quiet, fun event told => ?_⟩) after _ other
    have notice := Action.quiet_notices (loadFailure id) fault event told
    exact ⟨notice.1, notice.2.2⟩

/-- A handler is given the settings with which the message is answered. -/
theorem guild_eq_of_looksLike {line : String} {guild : Option GuildSettings}
    {outcome : Outcome GuildRepository Bool}
    (h : outcome.LooksLike (dispatcher.respond message line guild repository)) :
    ∀ call ∈ outcome.events.filterMap Event.call?, call.guild = guild := by
  rw [h.calls]
  rcases dispatcher.calls_respond_cases message line guild repository with
    none | ⟨found, -, called⟩
  · simp [none]
  · simp [called, callOf]

end LooksLike

end Dispatcher

/-! ### What a failure leaves in the cache -/

namespace GuildRepository

/-- The repository after everything that is known to have expired was forgotten. -/
def cleared (repository : GuildRepository) (now : Value) : GuildRepository :=
  { repository with cache := repository.cache.filter fun _ cached => !cached.isExpired now }

variable {repository : GuildRepository} {lifetime : Value}

theorem get?_cleared (repository : GuildRepository) (now : Value) (key : Key) :
    (repository.cleared now).cache.get? key =
      (repository.cache.get? key).filter fun cached => !cached.isExpired now :=
  Table.get?_filter ..

/-- To load a guild in vain changes nothing in the cache. -/
theorem cache_load_of_error (connected : repository.source.connected = true) {now id : Value}
    {fault : Fault} (failed : (load now id repository).result = .error fault) :
    (load now id repository).state.cache = repository.cache := by
  rw [run_load connected] at failed ⊢
  cases reading : repository.read id with
  | error fault => rfl
  | ok settings =>
    rw [reading] at failed
    dsimp only at failed ⊢
    cases remembering : (repository.asked (repository.lookup id)).remember now id settings with
    | error fault => rfl
    | ok remembered =>
      rw [remembering] at failed
      cases failed

namespace Dated

/-- An eviction succeeds where everything expires at a place on the line. -/
theorem evict_eq (dated : repository.Dated lifetime) {now : Value} (reading : IsReading now) :
    repository.evict now = .ok (repository.cleared now) := by
  refine evict_eq_ok fun cached held => ?_
  obtain ⟨expiry, isExpiry, -⟩ := dated.cached cached held
  obtain ⟨time, isTime, -⟩ := reading
  exact ⟨_, Value.compare_of_number? .atMost isExpiry isTime⟩

/-- Memory serves what it holds and has not expired. -/
theorem served?_eq (dated : repository.Dated lifetime) {now : Value} (reading : IsReading now)
    (id : String) :
    repository.served? now (.text id) =
      .ok ((repository.cache.get? (.text id)).filter fun cached => !cached.isExpired now) := by
  have looked : repository.cached? (.text id) = repository.cache.get? (.text id) := rfl
  rw [GuildRepository.served?, if_pos (by rfl), looked]
  cases held : repository.cache.get? (.text id) with
  | none => rfl
  | some cached =>
    obtain ⟨expiry, isExpiry, placed⟩ := dated.cached cached
      (List.mem_map.2 ⟨_, Table.mem_toList_iff.2 held, rfl⟩)
    obtain ⟨time, isTime, finite⟩ := reading
    dsimp only
    rw [Cached.isExpired_eq isExpiry placed isTime finite.isPlaced, Option.filter_some]
    cases cached.isExpired now <;> rfl

/-- **A load that fails leaves the entries that had not expired, and no entry of its guild.** -/
theorem get?_of_fetch_error (dated : repository.Dated lifetime) {now : Value}
    (reading : IsReading now) {id : String} {fault : Fault}
    (failed : (GuildRepository.fetch now (.text id) repository).result = .error fault) :
    (∀ key, (GuildRepository.fetch now (.text id) repository).state.cache.get? key =
        (repository.cache.get? key).filter fun cached => !cached.isExpired now) ∧
      (GuildRepository.fetch now (.text id) repository).state.cache.get? (.text id) = none := by
  cases connected : repository.source.connected with
  | false =>
    rw [run_fetch_of_not_connected connected] at failed
    cases failed
  | true =>
    rw [run_fetch connected, dated.served?_eq reading] at failed ⊢
    cases unserved : (repository.cache.get? (.text id)).filter fun cached =>
        !cached.isExpired now with
    | some cached =>
      rw [unserved] at failed
      cases failed
    | none =>
      rw [unserved] at failed
      dsimp only at failed ⊢
      rw [dated.evict_eq reading] at failed ⊢
      dsimp only at failed ⊢
      have still : (repository.cleared now).source.connected = true := connected
      rw [cache_load_of_error still failed]
      exact ⟨repository.get?_cleared now, (repository.get?_cleared now _).trans unserved⟩

/-- A guild that is not in the cache is loaded when it is fetched, and what the store has is given
back. -/
theorem run_fetch_of_absent {span : Int} (dated : repository.Dated (.int span))
    (connected : repository.source.connected = true) {id : String}
    (absent : repository.cache.get? (.text id) = none) (clock : Int)
    {settings : Option GuildSettings} (read : repository.read (.text id) = .ok settings) :
    ∃ after, GuildRepository.fetch (.int clock) (.text id) repository =
      ⟨repository.asking (repository.lookup (.text id)), after, .ok settings⟩ := by
  have reading := isReading_int clock
  rw [run_fetch connected, dated.served?_eq reading, absent, Option.filter_none,
    dated.evict_eq reading]
  dsimp only
  -- The source is what it was, so the store has for the guild what it had.
  have still : (repository.cleared (.int clock)).source.connected = true := connected
  have unchanged : (repository.cleared (.int clock)).read (.text id) = .ok settings := read
  have kept : ((repository.cleared (.int clock)).asked
      ((repository.cleared (.int clock)).lookup (.text id))).lifetime = .int span := dated.lifetime
  rw [run_load still, unchanged]
  dsimp only
  rw [Timed.remember kept]
  exact ⟨_, rfl⟩

end Dated

/-! ### The guild stays out of the cache -/

/-- What an eviction leaves was held before. -/
theorem of_get?_evict {now : Value} {evicted : GuildRepository}
    (h : repository.evict now = .ok evicted) {key : Key} {cached : Cached}
    (held : evicted.cache.get? key = some cached) : repository.cache.get? key = some cached := by
  rw [eq_of_evict h, Table.get?_filter, Option.filter_eq_some_iff] at held
  exact held.1

/-- What an invalidation leaves was held before. -/
theorem of_get?_invalidate {id : Value} {forgotten : GuildRepository}
    (h : repository.invalidate id = .ok forgotten) {key : Key} {cached : Cached}
    (held : forgotten.cache.get? key = some cached) : repository.cache.get? key = some cached := by
  rcases eq_of_invalidate h with rfl | rfl | rfl
  · cases held
  · exact held
  · rw [forget] at held
    split at held
    · rw [Table.get?_erase] at held
      split at held
      · cases held
      · exact held
    · exact held

/-- Changed settings take the place of those that are held, so nothing is held that was not. -/
theorem get?_edit_eq_none {id : String} (absent : repository.cache.get? (.text id) = none)
    (other : String) (settings : GuildSettings) :
    (repository.edit other settings).cache.get? (.text id) = none := by
  rw [edit]
  cases held : repository.cache.get? (.text other) with
  | none => exact absent
  | some cached =>
    have apart : Key.text other ≠ .text id := by
      rintro ⟨⟩
      cases held.symm.trans absent
    exact (Table.get?_insert_of_ne _ _ apart).trans absent

/-- Changed settings expire when those expire whose place they take. -/
theorem Dated.edit (dated : repository.Dated lifetime) (id : String) (settings : GuildSettings) :
    (repository.edit id settings).Dated lifetime := by
  rw [GuildRepository.edit]
  cases held : repository.cache.get? (.text id) with
  | none => exact dated
  | some cached =>
    refine ⟨dated.lifetime, fun entry listed => ?_⟩
    rcases Table.eq_or_mem_of_mem_values_insert listed with rfl | old
    · exact dated.cached cached (List.mem_map.2 ⟨_, Table.mem_toList_iff.2 held, rfl⟩)
    · exact dated.cached entry old

/-- What is held after a save was held before. -/
theorem of_get?_save {settings : GuildSettings} {key : Key} {cached : Cached}
    (held : (save settings repository).state.cache.get? key = some cached) :
    repository.cache.get? key = some cached := by
  cases connected : repository.source.connected with
  | false =>
    rw [run_save_of_not_connected connected] at held
    exact held
  | true =>
    rw [run_save connected] at held
    split at held
    · exact held
    · split at held
      · exact held
      · rename_i forgotten forgetting
        exact of_get?_invalidate forgetting held

/-- **Only a load makes an entry.** What is held of a guild after a fetch was held before, or the
fetch has loaded the guild. -/
theorem of_get?_fetch {now other : Value} {id : String} {cached : Cached}
    (held : (fetch now other repository).state.cache.get? (.text id) = some cached) :
    repository.cache.get? (.text id) = some cached ∨ other.key? = some (.text id) ∧
      repository.source.connected = true ∧
        ∃ settings, (fetch now other repository).result = .ok settings := by
  cases connected : repository.source.connected with
  | false =>
    rw [run_fetch_of_not_connected connected] at held
    exact .inl held
  | true =>
    refine fetch_cases (motive := fun outcome =>
      outcome.state.cache.get? (.text id) = some cached → _ ∨ _ ∧ _ ∧
        ∃ settings, outcome.result = .ok settings) repository now other ?_ ?_ ?_ ?_ ?_ held
    · exact fun _ held => .inl held
    · exact fun _ _ held => .inl held
    · exact fun _ _ _ held => .inl held
    · intro evicted _ evicting _ held
      exact .inl (of_get?_evict evicting held)
    · intro evicted settings remembered evicting _ remembering held
      by_cases named : other.key? = some (.text id)
      · exact .inr ⟨named, rfl, settings, rfl⟩
      · have kept : (evicted.asked (evicted.lookup other)).cached? (.text id) = some cached :=
          cached?_of_remember remembering (Ne.symm named) held
        exact .inl (of_get?_evict evicting kept)

/-- Whether a guild is loaded in the course of an occurrence. -/
def Occurrence.Answers (repository : GuildRepository) (id : String) : Occurrence → Prop
  | .fetch now other => other.key? = some (.text id) ∧ repository.source.connected = true ∧
      ∃ settings, (GuildRepository.fetch now other repository).result = .ok settings
  | _ => False

theorem of_get?_undergo {occurrence : Occurrence} {id : String} {cached : Cached}
    (held : (repository.undergo occurrence).cache.get? (.text id) = some cached) :
    repository.cache.get? (.text id) = some cached ∨ occurrence.Answers repository id := by
  cases occurrence with
  | fetch now other => exact of_get?_fetch held
  | save settings => exact .inl (of_get?_save held)
  | invalidate other =>
    change (change _ repository).state.cache.get? _ = _ at held
    rw [run_change] at held
    cases forgetting : repository.invalidate other with
    | error fault =>
      rw [forgetting] at held
      exact .inl held
    | ok forgotten =>
      rw [forgetting] at held
      exact .inl (of_get?_invalidate forgetting held)
  | outside source lifetime room => exact .inl held

end GuildRepository

/-! ### Affairs -/

/-- Something that a repository is concerned with: a message, or anything else. -/
inductive Affair where
  /-- A message is dispatched at a time. -/
  | message (dispatcher : Dispatcher) (clock : Int) (message : Message)
  /-- Something happens to the repository itself. -/
  | other (occurrence : GuildRepository.Occurrence)

namespace Affair

/-- Whether the clock gives finite readings, and the lifetime stays. -/
def Regular (lifetime : Value) : Affair → Prop
  | message .. => True
  | other occurrence => occurrence.Regular lifetime

/-- What an affair makes of a repository. -/
def leave (repository : GuildRepository) : Affair → GuildRepository
  | message dispatcher clock posted =>
    (dispatcher.handle (.int clock) posted repository).state
  | other occurrence => repository.undergo occurrence

/-- Whether the store answers for a guild in the course of an affair, so that its settings are
loaded. -/
def Answers (repository : GuildRepository) (id : String) : Affair → Prop
  | message dispatcher clock posted => dispatcher.Loads posted id ∧
      repository.source.connected = true ∧
        ∃ settings, (GuildRepository.fetch (.int clock) (.text id) repository).result =
          .ok settings
  | other occurrence => occurrence.Answers repository id

end Affair

namespace GuildRepository

variable {repository : GuildRepository} {id : String}

/-- What some affairs make of a repository, one after another. -/
def following (repository : GuildRepository) (affairs : List Affair) : GuildRepository :=
  affairs.foldl Affair.leave repository

/-- Whether the store never answers for a guild in the course of some affairs. -/
def Unanswered (id : String) : GuildRepository → List Affair → Prop
  | _, [] => True
  | repository, affair :: later =>
    ¬affair.Answers repository id ∧ Unanswered id (affair.leave repository) later

/-- A guild of which nothing is held comes into the cache only if the store answers for it. -/
theorem get?_leave_eq_none {affair : Affair} (absent : repository.cache.get? (.text id) = none)
    (vain : ¬affair.Answers repository id) :
    (affair.leave repository).cache.get? (.text id) = none := by
  cases affair with
  | message dispatcher clock message =>
    show (dispatcher.handle (.int clock) message repository).state.cache.get? _ = none
    rcases dispatcher.state_handle_cases (.int clock) message repository with
      ⟨other, loads, given, edited, same⟩ | same
    · have unfetched : (fetch (.int clock) (.text other) repository).state.cache.get? (.text id) =
          none := by
        refine Option.eq_none_iff_forall_ne_some.2 fun cached held => ?_
        rcases of_get?_fetch held with old | ⟨named, connected, loaded⟩
        · cases absent.symm.trans old
        · cases named
          exact vain ⟨loads, connected, loaded⟩
      rw [same]
      rcases Dispatcher.leave_cases message given edited with ⟨place, changed, -, edits⟩ | still
      · rw [edits]
        exact get?_edit_eq_none unfetched place changed
      · rw [still]
        exact unfetched
    · rw [same]
      exact absent
  | other occurrence =>
    refine Option.eq_none_iff_forall_ne_some.2 fun cached held => ?_
    rcases of_get?_undergo held with old | answers
    · cases absent.symm.trans old
    · exact vain answers

/-- **A guild stays out of the cache until the store answers for it.** -/
theorem absent_following {affairs : List Affair} (unanswered : Unanswered id repository affairs)
    (absent : repository.cache.get? (.text id) = none) :
    (repository.following affairs).cache.get? (.text id) = none := by
  induction affairs generalizing repository with
  | nil => exact absent
  | cons affair later ih =>
    obtain ⟨vain, rest⟩ := unanswered
    exact ih rest (get?_leave_eq_none absent vain)

theorem Dated.following {lifetime : Value} (dated : repository.Dated lifetime)
    (span : IsSpan lifetime) {affairs : List Affair}
    (regular : ∀ affair ∈ affairs, affair.Regular lifetime) :
    (repository.following affairs).Dated lifetime := by
  induction affairs generalizing repository with
  | nil => exact dated
  | cons affair later ih =>
    obtain ⟨first, others⟩ := List.forall_mem_cons.1 regular
    refine ih ?_ others
    cases affair with
    | message dispatcher clock message =>
      show (dispatcher.handle (.int clock) message repository).state.Dated lifetime
      rcases dispatcher.state_handle_cases (.int clock) message repository with
        ⟨id, -, given, edited, same⟩ | same
      · have fetched := dated.fetch span (isReading_int clock) (.text id)
        rw [same]
        rcases Dispatcher.leave_cases message given edited with ⟨place, changed, -, edits⟩ | still
        · rw [edits]
          exact fetched.edit place changed
        · rw [still]
          exact fetched
      · rw [same]
        exact dated
    | other occurrence => exact dated.undergo span first

end GuildRepository

/-! ### The whole -/

namespace Dispatcher

/-- **A failing store costs a guild its settings, and nothing else.** A message whose guild cannot
be loaded looks like one for which there is no repository, and its handler is given no settings.
The cache then holds what had not expired, and nothing of the guild. As long as the store does not
answer for the guild nothing comes in, so the first message for which it does is answered with the
settings that are stored then. -/
theorem degraded_handle {registry : Registry} {past : List Call} {repository : GuildRepository}
    {span clock : Int}
    (dated : repository.Dated (.int span)) {message : Message} {id : String}
    (loads : Loads ⟨registry, true, past⟩ message id) {fault : Fault}
    (failed : (GuildRepository.fetch (.int clock) (.text id) repository).result = .error fault)
    (caught : fault.isInterrupt = false) :
    let outcome := handle ⟨registry, true, past⟩ (.int clock) message repository
    (∀ other, outcome.LooksLike (handle ⟨registry, false, past⟩ (.int clock) message other)) ∧
      (∀ call ∈ outcome.events.filterMap Event.call?, call.guild = none) ∧
      outcome.state.cache.get? (.text id) = none ∧
      (∀ key, outcome.state.cache.get? key =
        (repository.cache.get? key).filter fun cached => !cached.isExpired (.int clock)) ∧
      ∀ affairs, (∀ affair ∈ affairs, affair.Regular (.int span)) →
        GuildRepository.Unanswered id outcome.state affairs →
        ∀ (dispatcher : Dispatcher) (later : Int) (message : Message) settings,
          dispatcher.Loads message id →
          (outcome.state.following affairs).source.connected = true →
          (outcome.state.following affairs).read (.text id) = .ok settings →
            (dispatcher.handle (.int later) message (outcome.state.following affairs)).LooksLike
              (dispatcher.respond message (clean message.content) settings
                (outcome.state.following affairs)) ∧
            ∀ engine rows failures,
              (outcome.state.following affairs).source = .ofRows engine rows failures →
                rows.settings (outcome.state.following affairs).room id = .ok settings := by
  intro outcome
  have reading := GuildRepository.isReading_int clock
  have state : outcome.state =
      (GuildRepository.fetch (.int clock) (.text id) repository).state :=
    loads.state_handle_of_error failed
  obtain ⟨left, absent⟩ := dated.get?_of_fetch_error reading failed
  refine ⟨fun other => ?_, ?_, by rw [state, absent], by rw [state]; exact left, ?_⟩
  · have bare : handle ⟨registry, false, past⟩ (.int clock) message other =
        respond ⟨registry, true, past⟩ message (clean message.content) none other :=
      run_handle_of_not_loads rfl loads.looked (.int clock) other
    rw [bare]
    exact loads.looksLike_of_error failed caught other
  · exact guild_eq_of_looksLike (loads.looksLike_of_error failed caught repository)
  · intro affairs regular unanswered dispatcher later message settings loads connected read
    have still : outcome.state.Dated (.int span) := by
      rw [state]
      exact dated.fetch (GuildRepository.isSpan_int span) reading (.text id)
    have out := GuildRepository.absent_following unanswered (by rw [state, absent])
    obtain ⟨after, fetched⟩ :=
      (still.following (GuildRepository.isSpan_int span) regular).run_fetch_of_absent connected out
        later read
    refine ⟨loads.looksLike_of_ok (by rw [fetched]) _, fun engine rows failures source => ?_⟩
    exact (GuildRepository.settings_of_read source read).2

/-- What the store says when it refuses a statement. -/
def refusal : Fault := .raised .runtime "no answer"

/-- A repository that holds another guild, and whose store is about to refuse some statements. -/
def refusingRepository (failures : List Fault) : GuildRepository :=
  ⟨.ofRows .inMemory questioningStore.rows failures, .int 300,
    .ofList [(.text "8", ⟨.text "8", .int 90, none⟩)], questioningStore.room⟩

/-- A message with the default prefix of the command. -/
def defaultMessage : Message := ⟨.person, "!ping", some (.ok "7"), .working⟩

/-- The default prefix counts while the store refuses, and the stored one as soon as it answers. -/
theorem degraded_handle_refusing :
    let dispatcher : Dispatcher := ⟨steadyDispatcher.registry, true, []⟩
    let outcome := dispatcher.handle (.int 5) defaultMessage (refusingRepository [refusal, refusal])
    let repository := outcome.state.following [.message dispatcher 6 defaultMessage]
    (refusingRepository [refusal, refusal]).Dated (.int 300) ∧
      dispatcher.Loads defaultMessage "7" ∧
      (GuildRepository.fetch (.int 5) (.text "7")
        (refusingRepository [refusal, refusal])).result = .error refusal ∧
      (∀ other, outcome.LooksLike
        (handle ⟨steadyDispatcher.registry, false, []⟩ (.int 5) defaultMessage other)) ∧
      outcome.state.cache.get? (.text "8") = some ⟨.text "8", .int 90, none⟩ ∧
      dispatcher.Loads questioningMessage "7" ∧ repository = refusingRepository [] ∧
      (dispatcher.handle (.int 7) questioningMessage repository).LooksLike
        (dispatcher.respond questioningMessage (clean questioningMessage.content)
          (some questioning) repository) := by
  intro dispatcher outcome repository
  have dated : (refusingRepository [refusal, refusal]).Dated (.int 300) := by
    refine ⟨rfl, fun cached held => ?_⟩
    have only : cached = ⟨.text "8", .int 90, none⟩ := by
      simpa [refusingRepository, Table.ofList, Table.insert, Table.insertEntry, Table.toList,
        Table.empty] using held
    rw [only]
    exact GuildRepository.isSpan_int 90
  have loads : dispatcher.Loads defaultMessage "7" := ⟨⟨rfl, by decide +kernel⟩, rfl, rfl⟩
  have asks : dispatcher.Loads questioningMessage "7" := ⟨⟨rfl, by decide +kernel⟩, rfl, rfl⟩
  have failed : (GuildRepository.fetch (.int 5) (.text "7")
      (refusingRepository [refusal, refusal])).result = .error refusal := rfl
  have first : outcome.state = refusingRepository [refusal] :=
    (loads.state_handle_of_error failed).trans rfl
  have second : repository = refusingRepository [] := by
    have again : (GuildRepository.fetch (.int 6) (.text "7")
        (refusingRepository [refusal])).result = .error refusal := rfl
    show (dispatcher.handle (.int 6) defaultMessage outcome.state).state = _
    rw [first, loads.state_handle_of_error again]
    rfl
  have unanswered :
      GuildRepository.Unanswered "7" outcome.state [.message dispatcher 6 defaultMessage] := by
    refine ⟨?_, trivial⟩
    rintro ⟨-, -, settings, loaded⟩
    rw [first] at loaded
    cases loaded
  have read : repository.read (.text "7") = .ok (some questioning) := by
    rw [second]
    rfl
  have connected : repository.source.connected = true := by
    rw [second]
    rfl
  obtain ⟨bare, -, -, kept, recovered⟩ := degraded_handle dated loads failed rfl
  refine ⟨dated, loads, failed, bare, (kept (.text "8")).trans rfl, asks, second, ?_⟩
  exact (recovered _ (by simp [Affair.Regular]) unanswered dispatcher 7 questioningMessage _ asks
    connected read).1

end Dispatcher

end CommandRouter
