import CommandRouter.Dispatch
import CommandRouter.Proofs.Guild.Kinds
import CommandRouter.Proofs.Registry.Aliases
import CommandRouter.Store.Memory

/-!
# What dispatching a message may come to

Only the loading of the guild and the run of the handler are guarded. What lies between them, the
resolution of the line, and what follows a failure, the reply in the channel, are not; they have to
end with a result by themselves. They do so because the command table and the settings of guilds
hold values of the right kinds, and because a reply is a text, which can always be shortened.

## Where a message is lost

A failure is told of where it is dealt with, and that has to succeed. It does not if the failure has
no message, or if the guild whose id has to be named in the notice cannot be named. Then the
dispatching ends with a fault after all, and whoever wrote the message is left without a reply. So
the promises below are made for handlers and channels that fail with ordinary faults, and for
guilds that can be named. A store may fail as it likes, because its faults are told of once before.

An interruption by the user is not meant to be caught. The promises are made for stores that are not
interrupted.

## Main definitions

* `Dispatcher.Run` is a run of a handler, and `Dispatcher.Course` what was done around it.
* `Dispatcher.respond` is the dispatching of a line after the guild has been loaded.
* `Dispatcher.Orderly` says everything that is promised of the dispatching of a message.
* `Registry.LeavesSettings` says that no handler changes the settings that it is given.

## Main results

* `Channel.run_sendSafely_text` says what becomes of a text that is sent safely, and
  `Channel.run_answer` what of a message that is answered with one.
* `Dispatcher.exists_loadGuild_eq`, `Dispatcher.exists_execute_eq` and
  `Dispatcher.exists_respond_eq` say what the parts of the dispatching do, and
  `Dispatcher.stateless_or_continues_handle` that the repository matters to nothing but the loading.
* `Dispatcher.exists_orderly_handle` is the promise, for every message, and
  `Dispatcher.handle_eq_error` shows that it needs its conditions.
-/

namespace CommandRouter

/-! ### Sending -/

namespace Channel

variable {σ : Type}

/-- A text that was shortened fits. -/
theorem length_shortened_le (text : String) : (shortened text).length ≤ maxLength := by
  have dots : "...".length = 3 := rfl
  rw [shortened]
  split
  · rw [String.length_append, String.length_ofList, List.length_take, dots, maxLength]
    omega
  · omega

/-- The notice that a text could not be sent. -/
def refusal (reason : String) : Notice :=
  .debug "DiscordUtils" ("Failed to send message: " ++ reason)

/-- What is done when a text is sent safely. -/
def safeEvents (channel : Channel) (text : String) : List Event :=
  match channel with
  | working => [.sent (.text (shortened text))]
  | failing fault => Action.notices refusal fault
  | absent | mute => []

/-- To send a text safely does the same in every state. It fails only if a refusal cannot be told
of. -/
theorem run_sendSafely_text (channel : Channel) (text : String) :
    ∃ result, (∀ s : σ, channel.sendSafely (.text text) s =
        ⟨channel.safeEvents text, s, result⟩) ∧
      (Ordinary channel.delivery → ∃ content, result = .ok content) := by
  cases channel with
  | working => exact ⟨.ok (some (.text (shortened text))), fun s => rfl, fun _ => ⟨_, rfl⟩⟩
  | absent => exact ⟨.ok none, fun s => rfl, fun _ => ⟨_, rfl⟩⟩
  | mute => exact ⟨.ok none, fun s => rfl, fun _ => ⟨_, rfl⟩⟩
  | failing fault =>
    have refused (s : σ) : (do
        (failing fault).send (.text (shortened text))
        return some (.text (shortened text)) : Action σ (Option Value)) s =
          ⟨[], s, .error fault⟩ := rfl
    cases ordinary : fault.isOrdinary with
    | true =>
      refine ⟨.ok none, fun s => ?_, fun _ => ⟨none, rfl⟩⟩
      refine (Action.run_recover_logFault_of_isOrdinary refusal (fun _ => return none)
        (refused s) ordinary).trans ?_
      rw [List.nil_append, Action.run_pure, List.append_nil]
      rfl
    | false =>
      refine ⟨.error fault.told, fun s => ?_, fun spoken => ?_⟩
      · refine (Action.run_recover_logFault_of_not_isOrdinary refusal (fun _ => return none)
          (refused s) ordinary).trans ?_
        rw [safeEvents, Action.notices_of_not_isOrdinary ordinary]
      · rw [spoken fault rfl] at ordinary
        cases ordinary

/-- A text is sent safely, and after that a message does not count as handled. -/
theorem run_answer (channel : Channel) (text : String) :
    ∃ result, (∀ s : σ, (do
        let _ ← channel.sendSafely (.text text)
        return false : Action σ Bool) s = ⟨channel.safeEvents text, s, result⟩) ∧
      (Ordinary channel.delivery → result = .ok false) := by
  obtain ⟨sent, sending, delivers⟩ := channel.run_sendSafely_text (σ := σ) text
  refine ⟨sent.map fun _ => false, fun s => ?_, fun delivered => ?_⟩
  · cases sent with
    | ok content =>
      rw [Action.run_bind_of_eq_ok (sending s), Action.run_pure, List.append_nil]
      rfl
    | error fault => exact Action.run_bind_of_eq_error (sending s)
  · obtain ⟨content, rfl⟩ := delivers delivered
    rfl

/-- Whether some events run no handler and send no statement, and send at most one text, which
fits. -/
structure Brief (events : List Event) : Prop where
  /-- No handler is run, and no statement is sent. -/
  quiet : ∀ event ∈ events, event.call? = none ∧ event.statement? = none
  /-- At most one text is sent, and it fits. -/
  sent : events.filterMap Event.sent? = [] ∨
    ∃ reply : String, events.filterMap Event.sent? = [.text reply] ∧ reply.length ≤ maxLength

theorem Brief.nil : Brief [] := ⟨by simp, Or.inl rfl⟩

theorem Brief.notices (notice : String → Notice) (fault : Fault) {events : List Event}
    (h : Brief events) : Brief (Action.notices notice fault ++ events) := by
  have quiet := Action.quiet_notices notice fault
  constructor
  · intro event hevent
    rcases List.mem_append.1 hevent with told | later
    · exact ⟨(quiet event told).1, (quiet event told).2.1⟩
    · exact h.quiet event later
  · rw [List.filterMap_append,
      List.filterMap_eq_nil_iff.2 fun event told => (quiet event told).2.2]
    exact h.sent

theorem brief_safeEvents (channel : Channel) (text : String) :
    Brief (channel.safeEvents text) := by
  cases channel with
  | working =>
    exact ⟨by simp [safeEvents, Event.call?, Event.statement?],
      Or.inr ⟨shortened text, rfl, length_shortened_le text⟩⟩
  | failing fault =>
    rw [safeEvents, ← List.append_nil (Action.notices refusal fault)]
    exact Brief.nil.notices refusal fault
  | absent => exact Brief.nil
  | mute => exact Brief.nil

end Channel

/-! ### Handlers of a command table -/

/-- Whether the handlers of a command table leave the settings of guilds alone. -/
def Registry.LeavesSettings (registry : Registry) : Prop :=
  ∀ entry ∈ registry.entries, ∀ past call,
    (entry.command.handler.react past call).edited = none

namespace Dispatcher

/-! ### Running a handler -/

/-- A run of the handler of an entry. -/
structure Run where
  /-- The entry that was reached. -/
  entry : Entry
  /-- What the handler is told. -/
  call : Call

namespace Run

/-- What comes of a run, after some earlier runs. -/
def reaction (run : Run) (past : List Call) : Reaction :=
  run.entry.command.handler.react past run.call

/-- What is done in a run. -/
def events (run : Run) (past : List Call) : List Event :=
  .called run.call :: (run.reaction past).sent.map Event.sent

/-- What a handler sends calls no handler and sends no statement. -/
theorem quiet_sent (sent : List Value) :
    ∀ event ∈ sent.map Event.sent, event.call? = none ∧ event.statement? = none :=
  List.forall_mem_map.2 fun _ _ => ⟨rfl, rfl⟩

end Run

theorem filterMap_eq_nil_of_quiet {α : Type} {f : Event → Option α} {events : List Event}
    (h : ∀ event ∈ events, f event = none) : events.filterMap f = [] :=
  List.filterMap_eq_nil_iff.2 h

/-- A run is recorded as one call. -/
theorem Run.calls_events (run : Run) (past : List Call) :
    (run.events past).filterMap Event.call? = [run.call] := by
  have called : Event.call? (.called run.call) = some run.call := rfl
  rw [events, List.filterMap_cons_some called,
    filterMap_eq_nil_of_quiet fun event hevent => (quiet_sent _ event hevent).1]

/-- A run sends no statement. -/
theorem Run.statements_events (run : Run) (past : List Call) :
    (run.events past).filterMap Event.statement? = [] := by
  rw [events, List.filterMap_cons_none rfl,
    filterMap_eq_nil_of_quiet fun event hevent => (quiet_sent _ event hevent).2]

@[simp] theorem leave_given_none (message : Message) (edited : Option GuildSettings)
    (repository : GuildRepository) : leave message none edited repository = repository := by
  rw [leave]
  rintro _ _ _ _ ⟨⟩

@[simp] theorem leave_edited_none (message : Message) (given : Option GuildSettings)
    (repository : GuildRepository) : leave message given none repository = repository := by
  rw [leave]
  rintro _ _ _ _ _ ⟨⟩

/-- If anything is changed by what a handler leaves, it is the settings of the guild of the
message. -/
theorem leave_cases (message : Message) (given edited : Option GuildSettings) :
    (∃ id settings, message.guild = some (.ok id) ∧
      ∀ repository, leave message given edited repository = repository.edit id settings) ∨
        ∀ repository, leave message given edited repository = repository := by
  cases given with
  | none => exact .inr fun repository => leave_given_none message edited repository
  | some settings =>
    cases edited with
    | none => exact .inr fun repository => leave_edited_none message _ repository
    | some changed =>
      cases inside : message.guild with
      | none => exact .inr fun repository => by rw [leave.eq_def, inside]
      | some guild =>
        cases guild with
        | error fault => exact .inr fun repository => by rw [leave.eq_def, inside]
        | ok id => exact .inl ⟨id, changed, rfl, fun repository => by rw [leave.eq_def, inside]⟩

/-- A handler does the same whatever the repository is. It changes no settings but those that it was
given. -/
theorem run_run (dispatcher : Dispatcher) (run : Run) (repository : GuildRepository) :
    dispatcher.run run.entry.command.handler run.call repository =
      ⟨run.events dispatcher.past,
        leave run.call.message run.call.guild (run.reaction dispatcher.past).edited repository,
        (run.reaction dispatcher.past).result⟩ := by
  have done : (Action.emitAll (run.events dispatcher.past) : Action GuildRepository Unit)
      repository = ⟨run.events dispatcher.past, repository, .ok ()⟩ := rfl
  refine (Action.run_bind_of_eq_ok done).trans ?_
  rw [Action.run_modify_bind, Action.run_ofExcept, List.append_nil]
  rfl

/-! ### Loading the guild -/

/-- The notice that a guild could not be loaded. -/
def loadFailure (id : String) (reason : String) : Notice :=
  .error "Command" ("Failed to load guild " ++ id ++ ": " ++ reason)

section Loading

variable {dispatcher : Dispatcher} {message : Message} {now : Value}

/-- A guild that can be named is fetched, and a failure to do so is logged. -/
theorem loadGuild_eq_recover (loads : dispatcher.loadsGuilds = true) {id : String}
    (inside : message.guild = some (.ok id)) :
    dispatcher.loadGuild now message =
      Action.recover (GuildRepository.fetch now (.text id)) fun fault => do
        Action.logFault (loadFailure id) fault
        return none := by
  rw [loadGuild, inside]
  exact if_pos loads

/-- Without a guild there is nothing to load, and without a repository there is no way to. -/
theorem loadGuild_eq_pure (h : dispatcher.loadsGuilds = false ∨ message.guild = none) :
    dispatcher.loadGuild now message = (return none) := by
  rw [loadGuild]
  cases inside : message.guild with
  | none => rfl
  | some guild =>
    rcases h with bare | outside
    · exact if_neg (by simp [bare])
    · rw [outside] at inside
      cases inside

/-- A guild that cannot be named is not loaded, and it cannot be said which one it is. -/
theorem loadGuild_eq_raise (loads : dispatcher.loadsGuilds = true) {fault : Fault}
    (inside : message.guild = some (.error fault)) :
    dispatcher.loadGuild now message = Action.raise fault := by
  funext repository
  have nameless (next : String → Action GuildRepository (Option GuildSettings)) :
      (Action.ofExcept (.error fault) >>= next : Action GuildRepository _) repository =
        ⟨[], repository, .error fault⟩ := rfl
  have loading : dispatcher.loadGuild now message =
      Action.recover (Action.ofExcept (.error fault) >>= fun id =>
          GuildRepository.fetch now (.text id)) fun cause =>
        Action.ofExcept (.error fault) >>= fun id => do
          Action.logFault (loadFailure id) cause
          return none := by
    rw [loadGuild, inside]
    exact if_pos loads
  rw [loading]
  cases interrupt : fault.isInterrupt with
  | true => exact Action.run_recover_of_eq_interrupt (nameless _) interrupt
  | false => exact Action.run_recover_of_eq_error (nameless _) interrupt

/-- While a guild is loaded no handler is run, and nothing is sent to a channel. -/
theorem quiet_loadGuild (dispatcher : Dispatcher) (now : Value) (message : Message)
    (repository : GuildRepository) :
    ∀ event ∈ (dispatcher.loadGuild now message repository).events,
      event.call? = none ∧ event.sent? = none := by
  by_cases bare : dispatcher.loadsGuilds = false ∨ message.guild = none
  · rw [loadGuild_eq_pure bare]
    exact List.forall_mem_nil _
  obtain ⟨loads, inside⟩ := not_or.1 bare
  rw [Bool.not_eq_false] at loads
  obtain ⟨guild, inside⟩ := Option.ne_none_iff_exists'.1 inside
  cases guild with
  | error fault =>
    rw [loadGuild_eq_raise loads inside]
    exact List.forall_mem_nil _
  | ok id =>
    rw [loadGuild_eq_recover loads inside]
    have quiet := (GuildRepository.events_fetch repository now (.text id)).2
    cases fetched : GuildRepository.fetch now (.text id) repository with
    | mk events after result =>
      rw [fetched] at quiet
      cases result with
      | ok settings =>
        rw [Action.run_recover_of_eq_ok fetched]
        exact quiet
      | error fault =>
        cases ordinary : fault.isOrdinary with
        | false =>
          rw [Action.run_recover_logFault_of_not_isOrdinary _ (fun _ => return none) fetched
            ordinary]
          exact quiet
        | true =>
          rw [Action.run_recover_logFault_of_isOrdinary _ (fun _ => return none) fetched
            ordinary, Action.run_pure, List.append_nil]
          refine List.forall_mem_append.2 ⟨quiet, fun event told => ?_⟩
          have notice := Action.quiet_notices (loadFailure id) fault event told
          exact ⟨notice.1, notice.2.2⟩

/-- The settings of a guild are loaded, or there are none. That costs at most one statement. -/
theorem exists_loadGuild_eq (dispatcher : Dispatcher) (now : Value) {message : Message}
    (named : ∀ guild ∈ message.guild, ∃ id, guild = .ok id) {repository : GuildRepository}
    (wellKinded : repository.WellKinded) (h : repository.source.store.Uninterrupted) :
    ∃ events repository' guild,
      dispatcher.loadGuild now message repository = ⟨events, repository', .ok guild⟩ ∧
      (events.filterMap Event.statement?).length ≤ 1 ∧
      ∀ settings ∈ guild, settings.WellKinded := by
  by_cases bare : dispatcher.loadsGuilds = false ∨ message.guild = none
  · rw [loadGuild_eq_pure bare]
    exact ⟨[], repository, none, rfl, by simp, by simp⟩
  obtain ⟨loads, inside⟩ := not_or.1 bare
  rw [Bool.not_eq_false] at loads
  obtain ⟨_, inside⟩ := Option.ne_none_iff_exists'.1 inside
  obtain ⟨id, rfl⟩ := named _ inside
  rw [loadGuild_eq_recover loads inside]
  have statements := (GuildRepository.events_fetch repository now (.text id)).1
  cases fetched : GuildRepository.fetch now (.text id) repository with
  | mk events after result =>
    have whole : (GuildRepository.fetch now (.text id) repository).result = result := by
      rw [fetched]
    rw [fetched] at statements
    cases result with
    | ok guild =>
      rw [Action.run_recover_of_eq_ok fetched]
      exact ⟨_, _, guild, rfl, statements,
        GuildRepository.wellKinded_of_fetch wellKinded whole⟩
    | error fault =>
      have ordinary := GuildRepository.ordinary_fetch h now (.text id) fault whole
      obtain ⟨reason, -, logged⟩ :=
        Action.exists_notices_eq (loadFailure id) ordinary
      refine ⟨events ++ [.logged (loadFailure id reason)], after, none, ?_, ?_, by simp⟩
      · refine (Action.run_recover_logFault_of_isOrdinary _ (fun _ => return none) fetched
          ordinary).trans ?_
        rw [logged, Action.run_pure, List.append_nil]
      · rw [List.filterMap_append, List.length_append]
        exact statements

end Loading

/-! ### Running the command -/

/-- The notice that a command is going to be run. -/
def executing (found : Match) (line : String) : Notice :=
  .debug "Command" ("Executing: " ++ found.entry.name.text ++ " " ++
    (Value.list (found.argumentsOf line)).inner)

/-- The notice that a command has failed. -/
def commandFailure (found : Match) (reason : String) : Notice :=
  .error "Command" ("Command error (" ++ found.entry.name.text ++ "): " ++ reason)

/-- The run that is meant when a line has reached a command. -/
def Run.of (found : Match) (line : String) (guild : Option GuildSettings) (message : Message) :
    Run :=
  ⟨found.entry, callOf found line guild message⟩

/-- What a run comes to that is announced by a notice. -/
theorem run_announced (dispatcher : Dispatcher) (run : Run) (notice : Notice)
    (repository : GuildRepository) :
    (do
      Action.log notice
      dispatcher.run run.entry.command.handler run.call
      return true : Action GuildRepository Bool) repository =
    ⟨.logged notice :: run.events dispatcher.past,
      leave run.call.message run.call.guild (run.reaction dispatcher.past).edited repository,
      (run.reaction dispatcher.past).result.map fun _ => true⟩ := by
  have ran : dispatcher.run run.entry.command.handler run.call repository = _ :=
    dispatcher.run_run run repository
  rw [Action.run_log_bind]
  cases ended : (run.reaction dispatcher.past).result with
  | ok _ =>
    rw [ended] at ran
    rw [Action.run_bind_of_eq_ok ran, Action.run_pure, List.append_nil]
    rfl
  | error fault =>
    rw [ended] at ran
    rw [Action.run_bind_of_eq_error ran]
    rfl

/-- A command that was reached is run. If it fails, a notice and a text say so, if they can. -/
theorem exists_execute_eq (dispatcher : Dispatcher) (found : Match) (line : String)
    (guild : Option GuildSettings) (message : Message) :
    ∃ later ended,
      (∀ repository, dispatcher.execute found line guild message repository =
        ⟨.logged (executing found line) ::
            (Run.of found line guild message).events dispatcher.past ++ later,
          leave message guild
            ((Run.of found line guild message).reaction dispatcher.past).edited repository,
          ended⟩) ∧
      Channel.Brief later ∧
      (Ordinary message.channel.delivery →
        Ordinary ((Run.of found line guild message).reaction dispatcher.past).result →
          ∃ handled, ended = .ok handled ∧
            (handled = true ↔
              ((Run.of found line guild message).reaction dispatcher.past).result = .ok ()) ∧
            (handled = true → later = [])) := by
  let run := Run.of found line guild message
  have attempted := dispatcher.run_announced run (executing found line)
  show ∃ later ended, (∀ repository, dispatcher.execute found line guild message repository =
      ⟨.logged (executing found line) :: run.events dispatcher.past ++ later,
        leave message guild (run.reaction dispatcher.past).edited repository, ended⟩) ∧ _ ∧
    (_ → Ordinary (run.reaction dispatcher.past).result → ∃ handled, ended = .ok handled ∧
      (handled = true ↔ (run.reaction dispatcher.past).result = .ok ()) ∧ _)
  cases ended : (run.reaction dispatcher.past).result with
  | ok _ =>
    rw [ended] at attempted
    refine ⟨[], .ok true, fun repository => ?_, Channel.Brief.nil,
      fun _ _ => ⟨true, rfl, by simp, fun _ => rfl⟩⟩
    rw [List.append_nil]
    exact Action.run_recover_of_eq_ok (attempted repository)
  | error fault =>
    rw [ended] at attempted
    let answer : Fault → Action GuildRepository Bool := fun _ => do
      let _ ← message.channel.sendSafely (.text (failureReply found.entry.name.text))
      return false
    -- A fault that cannot be told of ends the dispatching.
    cases ordinary : fault.isOrdinary with
    | false =>
      refine ⟨[], .error fault.told, fun repository => ?_, Channel.Brief.nil, fun _ spoken => ?_⟩
      · rw [List.append_nil]
        exact Action.run_recover_logFault_of_not_isOrdinary (commandFailure found) answer
          (attempted repository) ordinary
      · rw [Ordinary.error_iff, ordinary] at spoken
        cases spoken
    | true =>
      obtain ⟨result, answering, answers⟩ := Channel.run_answer (σ := GuildRepository)
        message.channel (failureReply found.entry.name.text)
      refine ⟨Action.notices (commandFailure found) fault ++
          message.channel.safeEvents (failureReply found.entry.name.text),
        result, fun repository => ?_,
        (Channel.brief_safeEvents _ _).notices _ _, fun delivered _ => ?_⟩
      · refine (Action.run_recover_logFault_of_isOrdinary (commandFailure found) answer
          (attempted repository) ordinary).trans ?_
        rw [show answer fault _ = _ from answering _, List.append_assoc]
        rfl
      · obtain rfl := answers delivered
        exact ⟨false, rfl, by simp, by simp⟩

/-! ### What is done with a line -/

/-- What is done with a line when the guild has been loaded. -/
def respond (dispatcher : Dispatcher) (message : Message) (line : String)
    (guild : Option GuildSettings) : Action GuildRepository Bool := do
  let place := guild.map Guild.settled
  match ← Action.ofExcept (dispatcher.registry.resolveWithAlias line (some ⟨some message, place⟩)
    place) with
  | none => return false
  | some found =>
    if found.entry.command.guildOnly && message.guild.isNone then
      let _ ← message.channel.sendSafely (.text guildOnlyReply)
      return false
    else dispatcher.execute found line guild message

theorem handleLine_eq (dispatcher : Dispatcher) (now : Value) (message : Message) (line : String) :
    dispatcher.handleLine now message line =
      dispatcher.loadGuild now message >>= dispatcher.respond message line := rfl

/-- **What is done with a line does not depend on the repository.** It changes nothing there but
settings that a handler was given, if the handler does so. -/
theorem exists_respond_leave (dispatcher : Dispatcher) (message : Message) (line : String)
    (guild : Option GuildSettings) :
    ∃ events edited result,
      (∀ repository, dispatcher.respond message line guild repository =
        ⟨events, leave message guild edited repository, result⟩) ∧
      ∀ settings ∈ edited, ∃ entry ∈ dispatcher.registry.entries, ∃ call : Call,
        (entry.command.handler.react dispatcher.past call).edited = some settings := by
  cases resolved : dispatcher.registry.resolveWithAlias line
      (some ⟨some message, guild.map Guild.settled⟩) (guild.map Guild.settled) with
  | error fault =>
    refine ⟨[], none, .error fault, fun repository => ?_, by simp⟩
    rw [respond, resolved, leave_edited_none]
    rfl
  | ok found =>
    cases found with
    | none =>
      refine ⟨[], none, .ok false, fun repository => ?_, by simp⟩
      rw [respond, resolved, leave_edited_none]
      rfl
    | some found =>
      by_cases refused : (found.entry.command.guildOnly && message.guild.isNone) = true
      · obtain ⟨result, answering, -⟩ := Channel.run_answer (σ := GuildRepository)
          message.channel guildOnlyReply
        refine ⟨message.channel.safeEvents guildOnlyReply, none, result, fun repository => ?_,
          by simp⟩
        rw [respond, resolved, Action.run_ofExcept_ok_bind, leave_edited_none]
        dsimp only
        rw [if_pos refused]
        exact answering repository
      · obtain ⟨later, ended, executed, -⟩ :=
          dispatcher.exists_execute_eq found line guild message
        let run := Run.of found line guild message
        refine ⟨.logged (executing found line) :: run.events dispatcher.past ++ later,
          (run.reaction dispatcher.past).edited, ended, fun repository => ?_,
          fun settings hsettings =>
            ⟨found.entry, Registry.mem_of_resolveWithAlias resolved, run.call, hsettings⟩⟩
        rw [respond, resolved, Action.run_ofExcept_ok_bind]
        dsimp only
        rw [if_neg refused]
        exact executed repository

/-- Where no settings are given, the repository stays as it is. -/
theorem stateless_respond_none (dispatcher : Dispatcher) (message : Message) (line : String) :
    (dispatcher.respond message line none).Stateless := by
  obtain ⟨events, edited, result, responded, -⟩ := dispatcher.exists_respond_leave message line none
  refine ⟨events, result, fun repository => ?_⟩
  rw [responded, leave_given_none]

/-- Where no handler changes settings, the repository stays as it is. -/
theorem stateless_respond {dispatcher : Dispatcher} (leaves : dispatcher.registry.LeavesSettings)
    (message : Message) (line : String) (guild : Option GuildSettings) :
    (dispatcher.respond message line guild).Stateless := by
  obtain ⟨events, edited, result, responded, origin⟩ :=
    dispatcher.exists_respond_leave message line guild
  have unedited : edited = none := by
    cases edited with
    | none => rfl
    | some settings =>
      obtain ⟨entry, registered, call, changed⟩ := origin settings rfl
      cases (leaves entry registered _ call).symm.trans changed
  refine ⟨events, result, fun repository => ?_⟩
  rw [responded, unedited, leave_edited_none]

/-- The repository matters to the loading of a guild only in that the guild is fetched. -/
theorem stateless_or_continues_loadGuild (dispatcher : Dispatcher) (now : Value)
    (message : Message) :
    (dispatcher.loadGuild now message).Stateless ∨ ∃ id, message.guild = some (.ok id) ∧
      (dispatcher.loadGuild now message).Continues (GuildRepository.fetch now (.text id)) := by
  by_cases bare : dispatcher.loadsGuilds = false ∨ message.guild = none
  · rw [loadGuild_eq_pure bare]
    exact .inl (.pure none)
  obtain ⟨loads, inside⟩ := not_or.1 bare
  rw [Bool.not_eq_false] at loads
  obtain ⟨guild, inside⟩ := Option.ne_none_iff_exists'.1 inside
  cases guild with
  | error fault =>
    rw [loadGuild_eq_raise loads inside]
    exact .inl (.raise fault)
  | ok id =>
    refine .inr ⟨id, inside, ?_⟩
    rw [loadGuild_eq_recover loads inside]
    exact (Action.Continues.refl _).recover fun fault =>
      (Action.Stateless.logFault _ fault).bind fun _ => .pure none

/-- **The repository matters to a message only in that its guild is fetched**, if it has one and no
handler changes what was fetched. -/
theorem stateless_or_continues_handle {dispatcher : Dispatcher}
    (leaves : dispatcher.registry.LeavesSettings) (now : Value) (message : Message) :
    (dispatcher.handle now message).Stateless ∨ ∃ id, message.guild = some (.ok id) ∧
      (dispatcher.handle now message).Continues (GuildRepository.fetch now (.text id)) := by
  rw [handle]
  split
  · rw [handleLine_eq]
    have responded (guild : Option GuildSettings) :=
      stateless_respond leaves message (clean message.content) guild
    rcases dispatcher.stateless_or_continues_loadGuild now message with still | ⟨id, inside, loads⟩
    · exact .inl (still.bind responded)
    · exact .inr ⟨id, inside, loads.bind responded⟩
  · exact .inl (.pure false)

/-! ### The whole -/

/-- What was done when a message was dispatched: by the dispatcher itself before and after a handler
was run, and by that run, if there was one. -/
structure Course where
  /-- What the dispatcher did first. -/
  before : List Event
  /-- The run of a handler. -/
  ran : Option Run
  /-- What the dispatcher did last. -/
  later : List Event

namespace Course

/-- What the dispatcher itself did. -/
def own (course : Course) : List Event := course.before ++ course.later

/-- Everything that was done, after some earlier runs of handlers. -/
def events (course : Course) (past : List Call) : List Event :=
  course.before ++ course.ran.elim [] (fun run => run.events past) ++ course.later

end Course

/-- Whether a run is one for a message: of the handler of an entry of a table, which is told of the
message. -/
structure Run.Belongs (run : Run) (registry : Registry) (message : Message) : Prop where
  /-- The entry is registered. -/
  registered : run.entry ∈ registry.entries
  /-- The handler is that of the entry. -/
  handler : run.call.handler = run.entry.command.handler.name
  /-- The handler is told of the message. -/
  told : run.call.message = message
  /-- A command for guilds only is run for a message of a guild. -/
  guildOnly : run.entry.command.guildOnly = true → message.guild.isSome = true

/-- What is promised of the dispatching of a message. -/
structure Orderly (dispatcher : Dispatcher) (message : Message)
    (outcome : Outcome GuildRepository Bool) (handled : Bool) (course : Course) : Prop where
  /-- The dispatching ends with a result. -/
  result : outcome.result = .ok handled
  /-- What was done is what the course says. -/
  events : outcome.events = course.events dispatcher.past
  /-- No handler but that of the run was called, and that one was called once. -/
  calls : outcome.events.filterMap Event.call? = (course.ran.map Run.call).toList
  /-- The handler is that of an entry of the table, and may be run for the message. -/
  belongs : ∀ run ∈ course.ran, run.Belongs dispatcher.registry message
  /-- The message counts as handled exactly if the run came to its end. -/
  handled_iff : handled = true ↔
    ∃ run ∈ course.ran, (run.reaction dispatcher.past).result = .ok ()
  /-- A message that is not of a person, or in which nothing is visible, leaves no trace. -/
  ignored : message.author ≠ .person ∨ (clean message.content).isEmpty = true →
    outcome.events = []
  /-- At most one statement is sent. -/
  statements : (outcome.events.filterMap Event.statement?).length ≤ 1
  /-- The dispatcher itself sends at most one text, which fits, and only if the message does not
  count as handled. -/
  replies : course.own.filterMap Event.sent? = [] ∨ handled = false ∧ ∃ reply : String,
    course.own.filterMap Event.sent? = [.text reply] ∧ reply.length ≤ Channel.maxLength

/-- Whether a course is as it should be, whatever the repository is. -/
structure Course.Regular (course : Course) (dispatcher : Dispatcher) (message : Message)
    (handled : Bool) : Prop where
  /-- The handler is that of an entry of the table, and may be run for the message. -/
  belongs : ∀ run ∈ course.ran, run.Belongs dispatcher.registry message
  /-- The message counts as handled exactly if the run came to its end. -/
  handled_iff : handled = true ↔
    ∃ run ∈ course.ran, (run.reaction dispatcher.past).result = .ok ()
  /-- Before the run at most one statement is sent. -/
  statements : (course.before.filterMap Event.statement?).length ≤ 1
  /-- Before the run nothing is sent, and no handler is called. -/
  before : ∀ event ∈ course.before, event.call? = none ∧ event.sent? = none
  /-- After the run a text may be sent. -/
  later : Channel.Brief course.later
  /-- Nothing is done after a run that came to its end. -/
  ended : handled = true → course.later = []

namespace Course.Regular

variable {course : Course} {dispatcher : Dispatcher} {message : Message} {handled : Bool}

/-- The loading of the guild may come before a course that sends no statement. -/
theorem preceded (regular : course.Regular dispatcher message handled)
    (unasked : course.before.filterMap Event.statement? = []) {events : List Event}
    (statements : (events.filterMap Event.statement?).length ≤ 1)
    (quiet : ∀ event ∈ events, event.call? = none ∧ event.sent? = none) :
    (Course.mk (events ++ course.before) course.ran course.later).Regular dispatcher message
      handled := by
  refine { regular with statements := ?_, before := ?_ }
  · rw [List.filterMap_append, unasked, List.append_nil]
    exact statements
  · intro event done
    rcases List.mem_append.1 done with first | second
    · exact quiet event first
    · exact regular.before event second

/-- Everything that a course calls is called by its run. -/
theorem calls (regular : course.Regular dispatcher message handled) :
    (course.events dispatcher.past).filterMap Event.call? =
      (course.ran.map Run.call).toList := by
  rw [Course.events, List.filterMap_append, List.filterMap_append,
    filterMap_eq_nil_of_quiet fun event hevent => (regular.before event hevent).1,
    filterMap_eq_nil_of_quiet fun event hevent => (regular.later.quiet event hevent).1]
  cases course.ran with
  | none => rfl
  | some run => simp [run.calls_events]

/-- Every statement of a course is sent before its run. -/
theorem statements_events (regular : course.Regular dispatcher message handled) :
    (course.events dispatcher.past).filterMap Event.statement? =
      course.before.filterMap Event.statement? := by
  rw [Course.events, List.filterMap_append, List.filterMap_append,
    filterMap_eq_nil_of_quiet fun event hevent => (regular.later.quiet event hevent).2]
  cases course.ran with
  | none => simp
  | some run => simp [run.statements_events]

/-- A message that is looked at is dispatched in an orderly way if the course is regular. -/
theorem orderly (regular : course.Regular dispatcher message handled)
    (visible : message.author = .person ∧ (clean message.content).isEmpty = false)
    {outcome : Outcome GuildRepository Bool} (result : outcome.result = .ok handled)
    (events : outcome.events = course.events dispatcher.past) :
    Orderly dispatcher message outcome handled course := by
  have replies : course.own.filterMap Event.sent? = course.later.filterMap Event.sent? := by
    rw [Course.own, List.filterMap_append,
      filterMap_eq_nil_of_quiet fun event hevent => (regular.before event hevent).2,
      List.nil_append]
  refine ⟨result, events, by rw [events, regular.calls], regular.belongs, regular.handled_iff, ?_,
    by rw [events, regular.statements_events]; exact regular.statements, ?_⟩
  · rintro (unknown | blank)
    · exact absurd visible.1 unknown
    · rw [visible.2] at blank
      cases blank
  · rw [replies]
    rcases regular.later.sent with nothing | reply
    · exact Or.inl nothing
    · cases handled with
      | false => exact Or.inr ⟨rfl, reply⟩
      | true => exact Or.inl (by rw [regular.ended rfl]; rfl)

end Course.Regular

/-- Whether the handlers of a dispatcher, run for a message, fail with ordinary faults only. -/
def FailsOrdinarily (dispatcher : Dispatcher) (message : Message) : Prop :=
  ∀ entry ∈ dispatcher.registry.entries, ∀ call, call.message = message →
    Ordinary (entry.command.handler.react dispatcher.past call).result

/-- What is done with a line when the guild has been loaded ends with a result. -/
theorem exists_respond_eq (dispatcher : Dispatcher) (message : Message) (line : String)
    {guild : Option GuildSettings} (registryKinds : dispatcher.registry.WellKinded)
    (kinds : ∀ settings ∈ guild, settings.WellKinded)
    (ordinary : dispatcher.FailsOrdinarily message)
    (delivered : Ordinary message.channel.delivery) :
    ∃ (handled : Bool) (course : Course) (edited : Option GuildSettings),
      (∀ repository, dispatcher.respond message line guild repository =
        ⟨course.events dispatcher.past, leave message guild edited repository, .ok handled⟩) ∧
      course.Regular dispatcher message handled ∧
      course.before.filterMap Event.statement? = [] := by
  have nothing (later : List Event) (brief : Channel.Brief later) :
      (Course.mk [] none later).Regular dispatcher message false :=
    ⟨by simp, by simp, by simp, by simp, brief, by simp⟩
  obtain ⟨found, resolved, registered⟩ := Registry.yields_resolveWithAlias registryKinds
    (Context.givesStrings_settled kinds (some message)) line
    (Guild.isString_of_mem_aliasesOf_settled kinds)
  have rest (repository : GuildRepository) :
      dispatcher.respond message line guild repository = _ :=
    Action.run_bind_of_eq_ok (congrArg (fun result => Outcome.mk [] repository result) resolved)
  cases found with
  | none =>
    refine ⟨false, ⟨[], none, []⟩, none, fun repository => ?_, nothing [] .nil, rfl⟩
    rw [rest, leave_edited_none]
    rfl
  | some found =>
    by_cases refused : (found.entry.command.guildOnly && message.guild.isNone) = true
    · obtain ⟨result, answering, answers⟩ := Channel.run_answer (σ := GuildRepository)
        message.channel guildOnlyReply
      obtain rfl := answers delivered
      refine ⟨false, ⟨[], none, message.channel.safeEvents guildOnlyReply⟩, none,
        fun repository => ?_, nothing _ (Channel.brief_safeEvents _ _), rfl⟩
      rw [rest, leave_edited_none]
      dsimp only
      rw [if_pos refused, answering]
      simp [Course.events]
    · have known := registered found rfl
      obtain ⟨later, _, executed, brief, ends⟩ :=
        dispatcher.exists_execute_eq found line guild message
      obtain ⟨handled, rfl, handled_iff, ended⟩ := ends delivered (ordinary found.entry known _ rfl)
      let run := Run.of found line guild message
      refine ⟨handled, ⟨[.logged (executing found line)], some run, later⟩,
        (run.reaction dispatcher.past).edited, fun repository => ?_,
        ⟨?_, by simpa using handled_iff, Nat.zero_le 1, ?_, brief, ended⟩, rfl⟩
      · rw [rest]
        dsimp only
        rw [if_neg refused, executed]
        rfl
      · rintro run ⟨⟩
        refine ⟨known, rfl, rfl, fun only => ?_⟩
        have only : found.entry.command.guildOnly = true := only
        rw [only, Bool.true_and, Option.isNone_iff_eq_none] at refused
        exact Option.isSome_iff_ne_none.2 refused
      · rw [List.forall_mem_singleton]
        exact ⟨rfl, rfl⟩

/-- **Dispatching a message ends with a result**, and at most one handler is run, once; the result
says whether it came to its end. That holds for every command table, every message of a guild that
can be named, and every repository that can come about, as long as the handlers and the channel fail
with ordinary faults and the store is not interrupted. -/
theorem exists_orderly_handle (dispatcher : Dispatcher) (repository : GuildRepository)
    (table : dispatcher.registry.Reached) (cache : repository.Reached)
    (store : repository.source.store.Uninterrupted) (now : Value) (message : Message)
    (handlers : dispatcher.FailsOrdinarily message)
    (named : ∀ guild ∈ message.guild, ∃ id, guild = .ok id)
    (delivered : Ordinary message.channel.delivery) :
    ∃ handled course,
      Orderly dispatcher message (dispatcher.handle now message repository) handled course := by
  by_cases visible : message.author = .person ∧ ¬(clean message.content).isEmpty
  · obtain ⟨events, repository', guild, loaded, statements, kinds⟩ :=
      dispatcher.exists_loadGuild_eq now named cache.wellKinded store
    have quiet := dispatcher.quiet_loadGuild now message repository
    rw [loaded] at quiet
    obtain ⟨handled, course, edited, responded, regular, unasked⟩ :=
      dispatcher.exists_respond_eq message (clean message.content) table.wellKinded kinds handlers
        delivered
    refine ⟨handled, ⟨events ++ course.before, course.ran, course.later⟩, ?_⟩
    rw [handle, if_pos visible, handleLine_eq, Action.run_bind_of_eq_ok loaded, responded]
    refine (regular.preceded unasked statements quiet).orderly (by simpa using visible) rfl ?_
    simp [Course.events]
  · rw [handle, if_neg visible]
    exact ⟨false, ⟨[], none, []⟩, rfl, rfl, rfl, by simp, by simp, fun _ => rfl, by simp,
      Or.inl rfl⟩

/-- A history that registers one command, for guilds only, with a priority and a handler. -/
def singleHistory (priority : Rating) (handler : Handler) : List Roster.Operation := [
  .addCategory (.ofTexts "Utility" "!"),
  .register (some {
    instanceId := 0
    classId := 0
    definition := {
      name := .ofText "ping"
      description := .text "Answers."
      triggers := .list [.text "ping"]
      category := .text "Utility"
      priority
      parameters := .list []
      examples := .list []
      guildOnly := .bool true }
    handler
    prefixRule := none }) none]

/-- A dispatcher with that command alone. -/
def single (priority : Rating) (handler : Handler) : Dispatcher :=
  ⟨(Roster.after (.create .empty) (singleHistory priority handler)).registry, true, []⟩

theorem reached_single (level : Priority) (handler : Handler) :
    (single (.level level) handler).registry.Reached := by
  refine ⟨singleHistory (.level level) handler, fun operation hoperation => ?_, rfl⟩
  rw [singleHistory, List.mem_cons, List.mem_singleton] at hoperation
  rcases hoperation with rfl | rfl
  · exact ⟨⟨_, rfl⟩, rfl⟩
  · refine ⟨?_, by simp⟩
    rintro command ⟨⟩
    exact ⟨⟨⟨_, rfl⟩, ⟨_, rfl⟩⟩, by simp⟩

/-- A repository that is about to ask a store which fails, and cannot say why. -/
def failingRepository : GuildRepository :=
  .create true ⟨.inMemory, .empty, [.unspoken .value .value "too long to be written"]⟩ (.int 300)
    .flat

/-- A message that calls the command. -/
def pinging : Message := ⟨.person, "!ping", some (.ok "7"), .working⟩

/-- The promise, for a handler that replies and then fails, and a store that fails before it. -/
theorem exists_orderly_handle_late :
    let dispatcher := single (.level .normal) (.scripted (.text "late") (some (.text "pong"))
      (some (.raised .runtime "too late")))
    ∃ handled course, Orderly dispatcher pinging
      (dispatcher.handle (.int 0) pinging failingRepository) handled course := by
  intro dispatcher
  have cache : failingRepository.Reached := ⟨_, _, _, _, [], rfl⟩
  have store : failingRepository.source.store.Uninterrupted :=
    Store.uninterrupted_ofEngine .inMemory .empty (by decide)
  have handlers : dispatcher.FailsOrdinarily pinging := by
    show ∀ entry ∈ [Entry.mk _ (.ofTexts "Utility" "!") [.text "ping"]], _
    rw [List.forall_mem_singleton]
    rintro ⟨_, _, _, _⟩ rfl
    exact Ordinary.error_iff.2 rfl
  refine exists_orderly_handle dispatcher failingRepository (reached_single _ _) cache store
    (.int 0) pinging handlers ?_ (.of_ok ())
  rintro guild ⟨⟩
  exact ⟨"7", rfl⟩

/-- **Dispatching may fail.** It does so if the fault of a handler has no message, if the id of the
guild cannot be read, and if the command has no level. In none of these cases there was an
interruption. -/
theorem handle_eq_error :
    let unspoken : Fault := .unspoken .value .value "too long to be written"
    let failing := single (.level .normal) (.scripted (.text "h") none (some unspoken))
    let silent := single (.level .normal) (.scripted (.text "h") none none)
    let levelless := single (.other .null) (.scripted (.text "h") none none)
    let nameless : Message := { pinging with guild := some (.error (.raised .general "gone")) }
    let repository : GuildRepository :=
      .create true ⟨.inMemory, .empty, []⟩ (.int 300) .flat
    unspoken.isInterrupt = false ∧ failing.registry.Reached ∧ silent.registry.Reached ∧
      (failing.handle (.int 0) pinging repository).result =
        .error (.raised .value "too long to be written") ∧
      (silent.handle (.int 0) nameless repository).result = .error (.raised .general "gone") ∧
      (levelless.handle (.int 0) pinging repository).result =
        .error (.lacks "NoneType" "value") := by
  exact ⟨rfl, reached_single _ _, reached_single _ _, rfl, rfl, rfl⟩

end Dispatcher

end CommandRouter
