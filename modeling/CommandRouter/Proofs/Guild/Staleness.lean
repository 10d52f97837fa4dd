import CommandRouter.Proofs.Guild.Session

/-!
# How old the settings of a guild may be

Rows may be changed behind the back of a repository, and statements may fail. Then the cache no
longer agrees with the rows, and what it holds can only be vouched for by the past: every entry is
what was stored for its guild at some moment of the history, and nothing that would have forgotten
it has happened since. Its expiry tells how long ago that moment may be.

The moment is the one at which the entry was read. No later incident changes an entry: a fetch of
the same guild replaces it by what is stored then, a save or an invalidation that succeeds forgets
it, and everything else leaves it alone, also a fetch or a save that fails. So the invariant is kept
by lengthening the history since the moment, or by starting it anew.

## Main definitions

* `Incident` is anything that may happen to a session, also from outside, and `Session.after` is
  what a history of incidents makes of it.
* `Incident.Disturbs` says which incidents make a cache forget a guild, and `Session.Undisturbed`
  that there is none of them in a history.

## Main results

* `Session.of_get?_undergo` is what one incident does to an entry of the cache.
* `Session.of_get?_after` is the invariant, by induction on the history.
* `Session.fresh_or_remembered_of_fetch` says how old the settings are that a fetch gives.
-/

namespace CommandRouter

namespace GuildRepository

/-- The repository after something happened to its store. -/
def withStore (repository : GuildRepository) (f : Store → Store) : GuildRepository :=
  { repository with source := { repository.source with store := f repository.source.store } }

theorem Timed.withStore {repository : GuildRepository} {span clock : Int} {f : Store → Store}
    (timed : repository.Timed span clock)
    (h : ∀ engine rows failures, ∃ rows' failures',
      f ⟨engine, rows, failures⟩ = ⟨engine, rows', failures'⟩) :
    (repository.withStore f).Timed span clock := by
  obtain ⟨engine, rows, failures, source⟩ := timed.source
  obtain ⟨rows', failures', same⟩ := h engine.toEngine rows failures
  refine timed.of_subset ⟨engine, rows', failures', ?_⟩ rfl fun _ _ held => held
  rw [GuildRepository.withStore, source, RowSource.ofRows, RowSource.ofRows, same]

/-- What is read is what is stored, and no fault was waiting. -/
theorem settings_of_read {repository : GuildRepository} {engine : GuildEngine} {rows : Rows}
    {failures : List Fault} (source : repository.source = .ofRows engine rows failures)
    {id : String} {settings : Option GuildSettings}
    (h : repository.read (.text id) = .ok settings) :
    failures = [] ∧ rows.settings repository.room id = .ok settings := by
  cases failures with
  | nil =>
    rw [read_of_rows source] at h
    exact ⟨rfl, h⟩
  | cons fault later =>
    rw [read, (answer_of_failing source _).1] at h
    cases h

end GuildRepository

/-- Something that happens to a session. -/
inductive Incident where
  /-- A step is taken. -/
  | step (taken : Step)
  /-- One more of the next statements is going to fail. -/
  | fail (fault : Fault)
  /-- Rows are changed by others. -/
  | change (rows : Rows)

namespace Session

/-- The session after an incident. -/
def undergo (session : Session) : Incident → Session
  | .step taken => session.take taken
  | .fail fault =>
    { session with repository := session.repository.withStore fun store => store.fail fault }
  | .change rows =>
    { session with repository := session.repository.withStore fun store => { store with rows } }

/-- The session after a history of incidents. -/
def after (session : Session) (incidents : List Incident) : Session :=
  incidents.foldl undergo session

/-- What is stored for a guild. -/
def stored (session : Session) (id : String) : Except Fault (Option GuildSettings) :=
  session.repository.source.store.rows.settings session.repository.room id

/-- How a fetch would turn out now. -/
def fetch (session : Session) (id : String) : Outcome GuildRepository (Option GuildSettings) :=
  GuildRepository.fetch (.int session.clock) (.text id) session.repository

end Session

/-- Whether an incident makes the cache of a session forget a guild: a save of it that the store
accepts, or an invalidation of it or of every guild. -/
def Incident.Disturbs (incident : Incident) (session : Session) (id : String) : Prop :=
  match incident with
  | .step (.save saved prefixes aliases) =>
    saved = id ∧ ∃ row, session.repository.answer
      (session.repository.insertion ⟨.text saved, prefixes, aliases⟩) = .ok row
  | .step (.invalidate forgotten) => forgotten = none ∨ forgotten = some id
  | _ => False

namespace Session

/-- Whether no incident of a history makes the cache forget a guild. -/
def Undisturbed (id : String) : Session → List Incident → Prop
  | _, [] => True
  | session, incident :: later =>
    ¬incident.Disturbs session id ∧ Undisturbed id (session.undergo incident) later

variable {session : Session} {span : Int} {id : String}

/-- A save that ends with a result was accepted by the store. -/
theorem disturbs_of_save {prefixes aliases : Table Label Value}
    (connected : session.repository.source.connected = true) {settings : Option GuildSettings}
    (h : (GuildRepository.save ⟨.text id, prefixes, aliases⟩ session.repository).result =
      .ok settings) : (Incident.step (.save id prefixes aliases)).Disturbs session id := by
  refine ⟨rfl, ?_⟩
  rw [GuildRepository.run_save connected] at h
  cases answered : session.repository.answer
      (session.repository.insertion ⟨.text id, prefixes, aliases⟩) with
  | ok row => exact ⟨row, rfl⟩
  | error fault =>
    rw [answered] at h
    cases h

/-! ### One incident -/

theorem timed_undergo (timed : session.repository.Timed span session.clock) (incident : Incident) :
    (session.undergo incident).repository.Timed span (session.undergo incident).clock := by
  cases incident with
  | step taken => exact timed_take timed taken
  | fail fault =>
    refine timed.withStore (f := fun store => store.fail fault) fun _ rows failures => ?_
    exact ⟨rows, failures ++ [fault], rfl⟩
  | change rows =>
    refine timed.withStore (f := fun store => { store with rows }) fun _ _ failures => ?_
    exact ⟨rows, failures, rfl⟩

/-- A fetch leaves an entry as it was, or reads it from what is stored. -/
theorem of_get?_fetch (timed : session.repository.Timed span session.clock) (fetched : String)
    {cached : Cached}
    (h : (session.fetch fetched).state.cache.get? (.text id) = some cached) :
    session.repository.cache.get? (.text id) = some cached ∨
      session.stored id = .ok cached.settings ∧ cached.expiry = .int (session.clock + span) := by
  obtain ⟨engine, rows, failures, source⟩ := timed.source
  have kept {cached : Cached}
      (h : (session.repository.current session.clock).cache.get? (.text id) = some cached) :
      session.repository.cache.get? (.text id) = some cached := by
    rw [GuildRepository.current, Table.get?_filter, Option.filter_eq_some_iff] at h
    exact h.1
  refine timed.fetch_cases (motive := fun outcome =>
    outcome.state.cache.get? (.text id) = some cached → _) fetched ?_ ?_ ?_ h
  · intro _ _ _ _ _ held
    exact Or.inl held
  · intro _ _ held
    exact Or.inl (kept held)
  · intro settings reading held
    rw [GuildRepository.holding, Table.get?_insert] at held
    split at held
    · rename_i same
      cases same
      cases held
      refine Or.inr ⟨?_, rfl⟩
      rw [stored, source]
      exact (GuildRepository.settings_of_read source reading).2
    · exact Or.inl (kept held)

/-- What is held after a save was held before, and the save was of another guild or failed. -/
theorem of_get?_save (timed : session.repository.Timed span session.clock) (saved : String)
    (prefixes aliases : Table Label Value) {cached : Cached}
    (h : (GuildRepository.save ⟨.text saved, prefixes, aliases⟩
      session.repository).state.cache.get? (.text id) = some cached) :
    ¬(Incident.step (.save saved prefixes aliases)).Disturbs session id ∧
      session.repository.cache.get? (.text id) = some cached := by
  obtain ⟨engine, rows, failures, source⟩ := timed.source
  cases failures with
  | nil =>
    rw [GuildRepository.run_save_of_rows source rfl] at h
    have held : (session.repository.forgetting (some saved)).cache.get? (.text id) =
      some cached := h
    obtain ⟨held, -, differ⟩ := GuildRepository.of_get?_forgetting held
    refine ⟨?_, held⟩
    rintro ⟨same, -⟩
    exact differ (congrArg some same)
  | cons fault later =>
    rw [(GuildRepository.run_save_of_failing source _).1] at h
    refine ⟨?_, h⟩
    rintro ⟨-, row, answered⟩
    rw [(GuildRepository.answer_of_failing source _).1] at answered
    cases answered

/-- **What one incident does to the cache.** What is held of a guild after an incident that does not
disturb it was held before, or it is what was stored for it at that moment. After one that disturbs
it, nothing is held. -/
theorem of_get?_undergo (timed : session.repository.Timed span session.clock) (incident : Incident)
    {cached : Cached}
    (h : (session.undergo incident).repository.cache.get? (.text id) = some cached) :
    ¬incident.Disturbs session id ∧
      (session.repository.cache.get? (.text id) = some cached ∨
        session.stored id = .ok cached.settings ∧
          cached.expiry = .int (session.clock + span)) := by
  cases incident with
  | fail fault => exact ⟨not_false, Or.inl h⟩
  | change rows => exact ⟨not_false, Or.inl h⟩
  | step taken =>
    change (taken.action session.clock session.repository).state.cache.get? _ = _ at h
    cases taken with
    | fetch fetched =>
      rw [Step.action, Action.run_map] at h
      exact ⟨not_false, of_get?_fetch timed fetched h⟩
    | save saved prefixes aliases =>
      rw [Step.action, Action.run_map] at h
      obtain ⟨undisturbed, held⟩ := of_get?_save timed saved prefixes aliases h
      exact ⟨undisturbed, Or.inl held⟩
    | invalidate forgotten =>
      rw [GuildRepository.run_invalidate] at h
      obtain ⟨held, some, differ⟩ := GuildRepository.of_get?_forgetting h
      refine ⟨?_, Or.inl held⟩
      rintro (every | same)
      · exact some every
      · exact differ same
    | pass ticks => exact ⟨not_false, Or.inl h⟩

/-! ### Histories -/

theorem timed_after (timed : session.repository.Timed span session.clock)
    (incidents : List Incident) :
    (session.after incidents).repository.Timed span (session.after incidents).clock := by
  induction incidents generalizing session with
  | nil => exact timed
  | cons incident later ih => exact ih (timed_undergo timed incident)

/-- **Every entry of the cache was stored once**, and nothing has disturbed its guild since, unless
the entry has been there all the time. -/
theorem of_get?_after (timed : session.repository.Timed span session.clock)
    (incidents : List Incident) {cached : Cached}
    (h : (session.after incidents).repository.cache.get? (.text id) = some cached) :
    session.repository.cache.get? (.text id) = some cached ∧ Undisturbed id session incidents ∨
      ∃ earlier later, incidents = earlier ++ later ∧
        (session.after earlier).stored id = .ok cached.settings ∧
        cached.expiry = .int ((session.after earlier).clock + span) ∧
        Undisturbed id (session.after earlier) later := by
  induction incidents generalizing session with
  | nil => exact Or.inl ⟨h, trivial⟩
  | cons incident later ih =>
    rcases ih (timed_undergo timed incident) h with ⟨held, quiet⟩ | ⟨earlier, since, rfl, known⟩
    · -- The entry is there after the first incident: it is an old one, or it was read just then.
      obtain ⟨undisturbed, old | ⟨read, expiry⟩⟩ := of_get?_undergo timed incident held
      · exact Or.inl ⟨old, undisturbed, quiet⟩
      · exact Or.inr ⟨[], incident :: later, rfl, read, expiry, undisturbed, quiet⟩
    · exact Or.inr ⟨incident :: earlier, since, rfl, known⟩

/-- **How old the settings of a guild may be.** What a fetch gives is what is stored at that very
moment, for one statement that looks the guild up; or it costs nothing and was stored at an earlier
moment, which is less than the lifetime ago, and since which the guild was neither saved nor
invalidated. -/
theorem fresh_or_remembered_of_fetch (store : GuildStore) (span clock : Int)
    (incidents : List Incident) (id : String) (settings : Option GuildSettings)
    (h : (((start store span clock).after incidents).fetch id).result = .ok settings) :
    (((start store span clock).after incidents).stored id = .ok settings ∧
        (((start store span clock).after incidents).fetch id).events =
          [.queried (.find "guilds" "id" (.text id))]) ∨
      (((start store span clock).after incidents).fetch id).events = [] ∧
        ∃ earlier later, incidents = earlier ++ later ∧
          ((start store span clock).after earlier).stored id = .ok settings ∧
          ((start store span clock).after incidents).clock <
            ((start store span clock).after earlier).clock + span ∧
          Undisturbed id ((start store span clock).after earlier) later := by
  have timed := timed_after (timed_start store span clock) incidents
  obtain ⟨_, current, failures, source⟩ := timed.source
  revert h
  refine timed.fetch_cases (motive := fun outcome => outcome.result = .ok settings →
    (_ ∧ outcome.events = _) ∨ (outcome.events = [] ∧ _)) id ?_ ?_ ?_
  · rintro cached expiry held isExpiry unexpired ⟨⟩
    rcases of_get?_after (timed_start store span clock) incidents held with
      ⟨never, -⟩ | ⟨earlier, later, split, read, bound, quiet⟩
    · cases never
    · rw [isExpiry] at bound
      cases bound
      exact Or.inr ⟨rfl, earlier, later, split, read, unexpired, quiet⟩
  · rintro fault _ ⟨⟩
  · rintro settings reading ⟨⟩
    obtain ⟨rfl, read⟩ := GuildRepository.settings_of_read source reading
    refine Or.inl ⟨?_, ?_⟩
    · rw [stored, source]
      exact read
    · rw [GuildRepository.asking_of_answer_ok (GuildRepository.answer_lookup source id).1,
        GuildRepository.lookup, source]
      rfl

/-- A history in which a row is stored by others after its guild was fetched. -/
def overtaken : List Incident := [
  .step (.fetch "7"),
  .change (Rows.put .empty "7" (.ofRecord (.ofList [("id", .text "7")]))),
  .step (.pass 5)]

/-- A session with a store in memory that holds nothing. -/
def rowless : Session := start .empty 10 0

/-- Memory still serves that the guild has no settings. -/
theorem fresh_or_remembered_of_fetch_overtaken :
    ((rowless.after overtaken).fetch "7").result = .ok none ∧
      (((rowless.after overtaken).stored "7" = .ok none ∧
          ((rowless.after overtaken).fetch "7").events =
            [.queried (.find "guilds" "id" (.text "7"))]) ∨
        ((rowless.after overtaken).fetch "7").events = [] ∧
          ∃ earlier later, overtaken = earlier ++ later ∧
            (rowless.after earlier).stored "7" = .ok none ∧
            (rowless.after overtaken).clock < (rowless.after earlier).clock + 10 ∧
            Undisturbed "7" (rowless.after earlier) later) := by
  have served : ((rowless.after overtaken).fetch "7").result = .ok none := rfl
  exact ⟨served, fresh_or_remembered_of_fetch .empty 10 0 overtaken "7" none served⟩

end Session

end CommandRouter
