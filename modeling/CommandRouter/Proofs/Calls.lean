import CommandRouter.Proofs.Dispatch

/-!
# The handlers that are run for a message

No handler is run while a guild is loaded, and none while a reply is sent. So what is run for a
message is run for its line, and that is at most one handler: the one of the match that the line is
resolved to. It does not matter how the run ends, or whether the failure of it can be told of.

## Main results

* `Dispatcher.calls_respond_cases` and `Dispatcher.calls_handle_cases` say which handler is run, for
  a line and for a message.
* `Dispatcher.message_of_mem_calls` says that a handler is told of the message that is dispatched.
-/

namespace CommandRouter

namespace Dispatcher

/-- A command that was reached is run once, however that ends. -/
theorem calls_execute (dispatcher : Dispatcher) (found : Match) (line : String)
    (guild : Option GuildSettings) (message : Message) (repository : GuildRepository) :
    (dispatcher.execute found line guild message repository).events.filterMap Event.call? =
      [callOf found line guild message] := by
  obtain ⟨later, ended, executed, brief, -⟩ :=
    dispatcher.exists_execute_eq found line guild message
  have none : later.filterMap Event.call? = [] :=
    filterMap_eq_nil_of_quiet fun event hevent => (brief.quiet event hevent).1
  rw [executed, List.cons_append, List.filterMap_cons_none rfl, List.filterMap_append,
    Run.calls_events, none, List.append_nil]
  rfl

/-- No handler is called while a guild is loaded. -/
theorem calls_loadGuild (dispatcher : Dispatcher) (now : Value) (message : Message)
    (repository : GuildRepository) :
    (dispatcher.loadGuild now message repository).events.filterMap Event.call? = [] :=
  filterMap_eq_nil_of_quiet fun event hevent =>
    (dispatcher.quiet_loadGuild now message repository event hevent).1

/-- A line calls the handler that it reaches, or none. -/
theorem calls_respond_cases (dispatcher : Dispatcher) (message : Message) (line : String)
    (guild : Option GuildSettings) (repository : GuildRepository) :
    (dispatcher.respond message line guild repository).events.filterMap Event.call? = [] ∨
      ∃ found, dispatcher.registry.resolveWithAlias line
          (some ⟨some message, guild.map .settled⟩) (guild.map .settled) = .ok (some found) ∧
        (dispatcher.respond message line guild repository).events.filterMap Event.call? =
          [callOf found line guild message] := by
  cases resolved : dispatcher.registry.resolveWithAlias line
      (some ⟨some message, guild.map .settled⟩) (guild.map .settled) with
  | error fault =>
    rw [respond, resolved]
    exact .inl rfl
  | ok found =>
    rw [respond, resolved, Action.run_ofExcept_ok_bind]
    cases found with
    | none => exact .inl rfl
    | some found =>
      dsimp only
      split
      · obtain ⟨result, answering, -⟩ := Channel.run_answer (σ := GuildRepository)
          message.channel guildOnlyReply
        left
        rw [answering]
        exact filterMap_eq_nil_of_quiet fun event hevent =>
          ((message.channel.brief_safeEvents guildOnlyReply).quiet event hevent).1
      · exact .inr ⟨found, rfl, dispatcher.calls_execute found line guild message repository⟩

/-- A message calls no handler, or what it calls is called when its guild has been loaded. -/
theorem calls_handle_cases (dispatcher : Dispatcher) (now : Value) (message : Message)
    (repository : GuildRepository) :
    (dispatcher.handle now message repository).events.filterMap Event.call? = [] ∨
      ∃ guild after, (dispatcher.loadGuild now message repository).result = .ok guild ∧
        (dispatcher.handle now message repository).events.filterMap Event.call? =
          (dispatcher.respond message (clean message.content) guild after).events.filterMap
            Event.call? := by
  rw [handle]
  split
  · have quiet := calls_loadGuild dispatcher now message repository
    rw [handleLine_eq]
    cases loaded : dispatcher.loadGuild now message repository with
    | mk events after result =>
      rw [loaded] at quiet
      cases result with
      | error fault =>
        rw [Action.run_bind_of_eq_error loaded]
        exact .inl quiet
      | ok guild =>
        rw [Action.run_bind_of_eq_ok loaded, List.filterMap_append, quiet, List.nil_append]
        exact .inr ⟨guild, after, rfl, rfl⟩
  · exact .inl rfl

/-- A handler that is run is told of the message that is dispatched. -/
theorem message_of_mem_calls {dispatcher : Dispatcher} {now : Value} {message : Message}
    {repository : GuildRepository} {call : Call}
    (h : call ∈ (dispatcher.handle now message repository).events.filterMap Event.call?) :
    call.message = message := by
  rcases dispatcher.calls_handle_cases now message repository with none | ⟨guild, after, -, same⟩
  · rw [none] at h
    cases h
  rw [same] at h
  rcases dispatcher.calls_respond_cases message (clean message.content) guild after with
    none | ⟨found, -, called⟩
  · rw [none] at h
    cases h
  · rw [called, List.mem_singleton] at h
    rw [h]
    rfl

end Dispatcher

end CommandRouter
