import CommandRouter.Proofs.Guild.Decoding
import CommandRouter.Proofs.Guild.Fetch
import CommandRouter.Store.Guilds

/-!
# What can be relied on when a guild is fetched

Whatever has happened to a repository, the settings that it gives away were read from a row: the
cache starts empty, and only what was decoded is put into it. So their maps stand for strings. That
holds however rows, lifetime and connection have changed in between.

A fetch may fail in many ways, but never with an interruption of its own. A fault of the store has
been told of before it is the fault of a fetch. So unless the store was interrupted, the fault of a
fetch is one that a recovery catches and can tell of.

## Main definitions

* `GuildRepository.Occurrence` is something that happens to a repository, and
  `GuildRepository.after` is the repository that a list of occurrences leaves.
* `GuildRepository.WellKinded` says that the maps of all cached settings stand for strings.

## Main results

* `GuildRepository.wellKinded_after` is the invariant of the cache.
* `GuildRepository.isOrdinary_of_fetch`, `GuildRepository.ordinary_fetch`,
  `GuildRepository.wellKinded_of_fetch` and `GuildRepository.events_fetch` are about the faults, the
  settings and the trace of a fetch.
-/

namespace CommandRouter

/-! ### Faults of the store -/

namespace Store

/-- Whether a store is never interrupted, in whatever way its statements fail. -/
structure Uninterrupted (store : Store) : Prop where
  /-- No interruption waits. -/
  waiting : ∀ fault ∈ store.failures, fault.told.isInterrupt = false
  /-- The engine is not interrupted. -/
  engine : ∀ rows statement fault, (store.engine.execute rows statement).1 = .error fault →
    fault.told.isInterrupt = false

theorem Uninterrupted.answer {store : Store} (h : store.Uninterrupted) (statement : Statement)
    {fault : Fault} (failed : (store.answer statement).1 = .error fault) :
    fault.told.isInterrupt = false := by
  rw [Store.answer] at failed
  split at failed
  · rename_i waiting
    cases failed
    exact h.waiting fault (by rw [waiting]; exact List.mem_cons_self)
  · exact h.engine _ _ fault failed

/-- A store of guilds is interrupted only by what waits for it. -/
theorem uninterrupted_ofEngine (engine : GuildEngine) (rows : Rows) {failures : List Fault}
    (waiting : ∀ fault ∈ failures, fault.told.isInterrupt = false) :
    Uninterrupted ⟨engine.toEngine, rows, failures⟩ :=
  ⟨waiting, fun rows statement fault failed => (engine.harmless rows statement fault failed).1⟩

end Store

namespace GuildRepository

variable {repository : GuildRepository}

/-! ### Faults of a fetch -/

theorem ordinary_served? (repository : GuildRepository) (now id : Value) :
    Ordinary (repository.served? now id) := by
  rw [served?]
  split
  · split
    · exact .of_ok _
    · exact (Value.ordinary_compare _ _ _).map
  · exact Ordinary.error_iff.2 rfl

theorem ordinary_evict (repository : GuildRepository) (now : Value) :
    Ordinary (repository.evict now) :=
  (Ordinary.mapM fun _ _ => Value.ordinary_compare _ _ _).bind fun _ _ => .of_ok _

theorem ordinary_remember (repository : GuildRepository) (now id : Value)
    (settings : Option GuildSettings) : Ordinary (repository.remember now id settings) :=
  (Value.ordinary_add _ _).map

/-- What is read fails with an ordinary fault, or with an interruption of the store. -/
theorem isOrdinary_of_read {id : Value} {fault : Fault} (failed : repository.read id = .error fault)
    (caught : fault.isInterrupt = false) : fault.isOrdinary = true := by
  rw [read, answer] at failed
  cases answered : (repository.source.store.answer (repository.lookup id)).1 with
  | ok row =>
    rw [answered] at failed
    exact ordinary_decode _ _ fault failed
  | error cause =>
    rw [answered] at failed
    cases failed
    exact Fault.isOrdinary_told caught

theorem ordinary_read (h : repository.source.store.Uninterrupted) (id : Value) :
    Ordinary (repository.read id) := by
  intro fault failed
  refine isOrdinary_of_read failed ?_
  rw [read, answer] at failed
  cases answered : (repository.source.store.answer (repository.lookup id)).1 with
  | ok row =>
    rw [answered] at failed
    exact (Fault.isOrdinary_iff.1 (ordinary_decode _ _ fault failed)).1
  | error cause =>
    rw [answered] at failed
    cases failed
    exact h.answer _ answered

/-- An eviction changes nothing but the cache. -/
theorem source_of_evict {now : Value} {evicted : GuildRepository}
    (h : repository.evict now = .ok evicted) : evicted.source = repository.source := by
  rw [eq_of_evict h]

/-- A fetch that fails does so with an ordinary fault, or with what came of reading the row. -/
theorem isOrdinary_or_read_of_fetch {now id : Value} {fault : Fault}
    (failed : (fetch now id repository).result = .error fault) :
    fault.isOrdinary = true ∨ ∃ evicted, repository.evict now = .ok evicted ∧
      evicted.read id = .error fault := by
  refine fetch_cases (motive := fun outcome => outcome.result = .error fault →
    fault.isOrdinary = true ∨ ∃ evicted, repository.evict now = .ok evicted ∧
      evicted.read id = .error fault) repository now id ?_ ?_ ?_ ?_ ?_ failed
  · rintro _ ⟨⟩
  · rintro _ (refused | refused) ⟨⟩
    · exact .inl (ordinary_served? repository now id fault refused)
    · exact .inl (ordinary_evict repository now fault refused)
  · rintro cached _ _ ⟨⟩
  · rintro evicted _ evicting (unread | ⟨settings, -, unremembered⟩) ⟨⟩
    · exact .inr ⟨evicted, evicting, unread⟩
    · exact .inl (ordinary_remember _ now id settings fault unremembered)
  · rintro _ settings _ _ _ _ ⟨⟩

/-- **A fetch that fails can be told of**, unless it was interrupted. -/
theorem isOrdinary_of_fetch {now id : Value} {fault : Fault}
    (failed : (fetch now id repository).result = .error fault)
    (caught : fault.isInterrupt = false) : fault.isOrdinary = true := by
  rcases isOrdinary_or_read_of_fetch failed with ordinary | ⟨_, -, unread⟩
  · exact ordinary
  · exact isOrdinary_of_read unread caught

/-- A fetch fails with ordinary faults only, if the store is not interrupted. -/
theorem ordinary_fetch (h : repository.source.store.Uninterrupted) (now id : Value) :
    Ordinary (fetch now id repository).result := by
  intro fault failed
  rcases isOrdinary_or_read_of_fetch failed with ordinary | ⟨evicted, evicting, unread⟩
  · exact ordinary
  · rw [← source_of_evict evicting] at h
    exact ordinary_read h id fault unread

/-! ### The trace of a fetch -/

/-- A fetch sends at most one statement. It runs no handler, and it sends nothing to a channel. -/
theorem events_fetch (repository : GuildRepository) (now id : Value) :
    ((fetch now id repository).events.filterMap Event.statement?).length ≤ 1 ∧
      ∀ event ∈ (fetch now id repository).events, event.call? = none ∧ event.sent? = none := by
  have asking (asked : GuildRepository) (statement : Statement) :
      ((asked.asking statement).filterMap Event.statement?).length ≤ 1 ∧
        ∀ event ∈ asked.asking statement, event.call? = none ∧ event.sent? = none := by
    have notices : ∀ event ∈ RowSource.failureNotices asked.source.name
        (asked.source.store.answer statement).1,
          event.call? = none ∧ event.statement? = none ∧ event.sent? = none := by
      cases (asked.source.store.answer statement).1 with
      | ok row => exact List.forall_mem_nil _
      | error fault => exact Action.quiet_notices _ _
    have sent : Event.statement? (.queried statement) =
        some (statement.sql, statement.parameters) := rfl
    rw [GuildRepository.asking, List.filterMap_cons_some sent,
      List.filterMap_eq_nil_iff.2 fun event hevent => (notices event hevent).2.1]
    refine ⟨Nat.le_refl 1, List.forall_mem_cons.2 ⟨⟨rfl, rfl⟩, fun event hevent => ?_⟩⟩
    exact ⟨(notices event hevent).1, (notices event hevent).2.2⟩
  refine fetch_cases (motive := fun outcome =>
    (outcome.events.filterMap Event.statement?).length ≤ 1 ∧
      ∀ event ∈ outcome.events, event.call? = none ∧ event.sent? = none) repository now id
    ?_ ?_ ?_ ?_ ?_
  · intro _
    simp
  · intro _ _
    simp
  · intro _ _ _
    simp
  · intro _ _ _ _
    exact asking _ _
  · intro _ _ _ _ _ _
    exact asking _ _

/-! ### What the cache holds -/

/-- Whether the maps of all cached settings stand for strings. -/
def WellKinded (repository : GuildRepository) : Prop :=
  ∀ cached ∈ repository.cache.values, ∀ settings ∈ cached.settings, settings.WellKinded

theorem wellKinded_create (connected : Bool) (store : Store) (lifetime : Value) (room : Room) :
    (create connected store lifetime room).WellKinded :=
  fun _ h => by simp [create] at h

/-- Where nothing new is cached, everything stays well-kinded. -/
theorem WellKinded.of_subset {repository' : GuildRepository} (wellKinded : repository.WellKinded)
    (h : ∀ cached ∈ repository'.cache.values, cached ∈ repository.cache.values) :
    repository'.WellKinded :=
  fun cached held => wellKinded cached (h cached held)

theorem WellKinded.evict (wellKinded : repository.WellKinded) {now : Value}
    {evicted : GuildRepository} (h : repository.evict now = .ok evicted) : evicted.WellKinded := by
  rw [eq_of_evict h]
  exact wellKinded.of_subset fun _ => Table.mem_values_of_mem_values_filter

theorem WellKinded.remember (wellKinded : repository.WellKinded) {now id : Value}
    {settings : Option GuildSettings} (hsettings : ∀ s ∈ settings, s.WellKinded)
    {remembered : GuildRepository} (h : repository.remember now id settings = .ok remembered) :
    remembered.WellKinded := by
  obtain ⟨expiry, _, rfl⟩ := map_eq_ok_iff.1 h
  split
  · exact wellKinded
  · intro cached held
    rcases Table.eq_or_mem_of_mem_values_insert held with rfl | old
    · exact hsettings
    · exact wellKinded cached old

theorem WellKinded.invalidate (wellKinded : repository.WellKinded) {id : Value}
    {forgotten : GuildRepository} (h : repository.invalidate id = .ok forgotten) :
    forgotten.WellKinded := by
  refine wellKinded.of_subset fun cached held => ?_
  rcases eq_of_invalidate h with rfl | rfl | rfl
  · simp [forgetAll] at held
  · exact held
  · rw [forget] at held
    split at held
    · exact Table.mem_values_of_mem_values_filter held
    · exact held

/-- What a store has for a guild is well-kinded. -/
theorem wellKinded_of_read {id : Value} {settings : Option GuildSettings}
    (h : repository.read id = .ok settings) : ∀ s ∈ settings, s.WellKinded := by
  obtain ⟨row, -, decoded⟩ := bind_eq_ok_iff.1 h
  exact wellKinded_of_decode decoded

theorem WellKinded.fetch (wellKinded : repository.WellKinded) (now id : Value) :
    (fetch now id repository).state.WellKinded := by
  refine fetch_cases (motive := fun outcome => outcome.state.WellKinded) repository now id
    ?_ ?_ ?_ ?_ ?_
  · intro _
    exact wellKinded
  · intro _ _
    exact wellKinded
  · intro _ _ _
    exact wellKinded
  · intro evicted _ evicting _
    exact (wellKinded.evict evicting).of_subset fun _ held => held
  · intro evicted settings changed evicting reading remembering
    have kept : (evicted.asked (evicted.lookup id)).WellKinded :=
      (wellKinded.evict evicting).of_subset fun _ held => held
    exact kept.remember (wellKinded_of_read reading) remembering

theorem WellKinded.save (wellKinded : repository.WellKinded) (settings : GuildSettings) :
    (save settings repository).state.WellKinded := by
  cases connected : repository.source.connected with
  | false =>
    rw [run_save_of_not_connected connected]
    exact wellKinded
  | true =>
    have asked : (repository.asked (repository.insertion settings)).WellKinded :=
      wellKinded.of_subset fun _ held => held
    rw [run_save connected]
    split
    · exact asked
    · split
      · exact asked
      · rename_i forgotten forgetting
        exact asked.invalidate forgetting

/-- The settings that a fetch gives are well-kinded, be they read or remembered. -/
theorem wellKinded_of_fetch (wellKinded : repository.WellKinded) {now id : Value}
    {settings : Option GuildSettings} (h : (fetch now id repository).result = .ok settings) :
    ∀ s ∈ settings, s.WellKinded := by
  refine fetch_cases (motive := fun outcome => outcome.result = .ok settings →
    ∀ s ∈ settings, s.WellKinded) repository now id ?_ ?_ ?_ ?_ ?_ h
  · rintro _ ⟨⟩ s hs
    cases hs
  · rintro _ _ ⟨⟩
  · rintro cached _ looked ⟨⟩
    rw [served?] at looked
    split at looked
    · split at looked
      · cases looked
      · rename_i entry held
        obtain ⟨isServed, -, same⟩ := map_eq_ok_iff.1 looked
        split at same
        · cases same
          obtain ⟨key, -, found⟩ := Option.bind_eq_some_iff.1 held
          exact wellKinded cached (List.mem_map.2 ⟨_, Table.mem_toList_iff.2 found, rfl⟩)
        · cases same
    · cases looked
  · rintro _ _ _ _ ⟨⟩
  · rintro _ _ _ _ reading _ ⟨⟩
    exact wellKinded_of_read reading

/-! ### Histories -/

/-- Something that happens to a repository. -/
inductive Occurrence where
  /-- A guild is fetched at a time. -/
  | fetch (now id : Value)
  /-- Settings are saved. -/
  | save (settings : GuildSettings)
  /-- A guild, or every guild, is invalidated. -/
  | invalidate (id : Value)
  /-- Rows are changed, faults are queued, the connection is made or lost, settings are to be kept
  for another time from now on, or there is other room for reading. -/
  | outside (source : RowSource) (lifetime : Value) (room : Room)

/-- What an occurrence makes of a repository. -/
def undergo (repository : GuildRepository) : Occurrence → GuildRepository
  | .fetch now id => (fetch now id repository).state
  | .save settings => (save settings repository).state
  | .invalidate id => (change (fun repository => repository.invalidate id) repository).state
  | .outside source lifetime room => { repository with source, lifetime, room }

/-- What some occurrences make of a repository, one after another. -/
def after (repository : GuildRepository) (occurrences : List Occurrence) : GuildRepository :=
  occurrences.foldl undergo repository

theorem WellKinded.undergo (wellKinded : repository.WellKinded) (occurrence : Occurrence) :
    (repository.undergo occurrence).WellKinded := by
  cases occurrence with
  | fetch now id => exact wellKinded.fetch now id
  | save settings => exact wellKinded.save settings
  | invalidate id =>
    show (change _ repository).state.WellKinded
    rw [run_change]
    cases forgetting : repository.invalidate id with
    | error fault => exact wellKinded
    | ok forgotten => exact wellKinded.invalidate forgetting
  | outside source lifetime room => exact wellKinded

/-- The invariant of the cache, whatever happens to a repository. -/
theorem wellKinded_after (wellKinded : repository.WellKinded) (occurrences : List Occurrence) :
    (repository.after occurrences).WellKinded := by
  induction occurrences generalizing repository with
  | nil => exact wellKinded
  | cons occurrence later ih => exact ih (wellKinded.undergo occurrence)

/-- Whether a repository may come about, however it started and whatever has happened to it. -/
def Reached (repository : GuildRepository) : Prop :=
  ∃ connected store lifetime room occurrences,
    repository = (create connected store lifetime room).after occurrences

theorem Reached.wellKinded (reached : repository.Reached) : repository.WellKinded := by
  obtain ⟨connected, store, lifetime, room, occurrences, rfl⟩ := reached
  exact wellKinded_after (wellKinded_create connected store lifetime room) occurrences

end GuildRepository

end CommandRouter
