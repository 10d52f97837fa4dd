import CommandRouter.Guild.Repository
import CommandRouter.Proofs.Actions
import CommandRouter.Proofs.Results

/-!
# What a fetch and a save come to

A repository that is not connected does nothing. Otherwise a fetch first looks into the cache. What
is served from there costs no statement; everything else costs exactly one, and it is asked for
after the cache has been cleared of what expired. Whether the answer can be remembered is decided
last, so a fetch that fails leaves nothing behind but what the store made of the statement.

A save costs one statement as well. The cache forgets the guild only after the store has answered.

## Main definitions

* `RowSource.failureNotices` is what is logged of the answer to a statement.
* `GuildRepository.asked` is a repository whose store has answered a statement.

## Main results

* `RowSource.run_find` and `RowSource.run_upsert` are the two statements.
* `GuildRepository.fetch_cases` says what a fetch may come to, and `GuildRepository.run_save` what a
  save comes to.
-/

namespace CommandRouter

/-! ### Statements -/

namespace RowSource

/-- What is logged of the answer to a statement: nothing, unless it is a fault. -/
def failureNotices {α : Type} (name : String) : Except Fault α → List Event
  | .ok _ => []
  | .error fault => Action.notices (fun message => .error name ("Query failed: " ++ message)) fault

variable {source : RowSource}

theorem run_send (statement : Statement) :
    send statement source =
      ⟨[.queried statement], { source with store := (source.store.answer statement).2 },
        (source.store.answer statement).1⟩ := by
  rw [send, Action.run_emit_bind, Action.run_get_bind]
  dsimp only
  rw [Action.run_set_bind, Action.run_ofExcept]

theorem run_query (connected : source.connected = true) (statement : Statement) :
    query statement source =
      ⟨.queried statement :: failureNotices source.name (source.store.answer statement).1,
        { source with store := (source.store.answer statement).2 },
        (source.store.answer statement).1.mapError Fault.told⟩ := by
  rw [query, connectedly, Action.run_get_bind, if_pos connected]
  have sent : send statement source = _ := run_send statement
  cases answered : (source.store.answer statement).1 with
  | ok row =>
    rw [answered] at sent
    exact Action.run_telling_of_eq_ok sent
  | error fault =>
    rw [answered] at sent
    exact Action.run_telling_of_eq_error sent

/-- A statement whose answer counts only if it has columns. -/
theorem run_query_present (connected : source.connected = true) (statement : Statement) :
    (query statement >>= fun row => pure (present row) : Action RowSource _) source =
      ⟨.queried statement :: failureNotices source.name (source.store.answer statement).1,
        { source with store := (source.store.answer statement).2 },
        ((source.store.answer statement).1.mapError Fault.told).map present⟩ := by
  have asked := run_query connected statement
  cases answered : (source.store.answer statement).1 with
  | ok row =>
    rw [answered] at asked
    rw [Action.run_bind_of_eq_ok asked, Action.run_pure, List.append_nil]
    rfl
  | error fault =>
    rw [answered] at asked
    rw [Action.run_bind_of_eq_error asked]
    rfl

theorem run_find (connected : source.connected = true) (id : Value) :
    find id source =
      ⟨.queried (.find source.table source.keyColumn id) ::
          failureNotices source.name
            (source.store.answer (.find source.table source.keyColumn id)).1,
        { source with store := (source.store.answer (.find source.table source.keyColumn id)).2 },
        ((source.store.answer (.find source.table source.keyColumn id)).1.mapError
          Fault.told).map present⟩ := by
  rw [find, Action.run_get_bind, run_query_present connected]

theorem run_upsert (connected : source.connected = true) (record : Record)
    (conflict : List String) :
    upsert record conflict source =
      ⟨.queried (.upsert ⟨source.table, record, .ofList conflict⟩) ::
          failureNotices source.name
            (source.store.answer (.upsert ⟨source.table, record, .ofList conflict⟩)).1,
        { source with
          store := (source.store.answer (.upsert ⟨source.table, record, .ofList conflict⟩)).2 },
        ((source.store.answer (.upsert ⟨source.table, record, .ofList conflict⟩)).1.mapError
          Fault.told).map present⟩ := by
  rw [upsert, Action.run_get_bind, insert, run_query_present connected]

end RowSource

/-! ### The operations of the repository -/

namespace GuildRepository

variable {repository : GuildRepository}

/-- The statement that looks a guild up. -/
def lookup (repository : GuildRepository) (id : Value) : Statement :=
  .find repository.source.table repository.source.keyColumn id

/-- The statement that stores settings. -/
def insertion (repository : GuildRepository) (settings : GuildSettings) : Statement :=
  .upsert ⟨repository.source.table, settings.toRecord, .ofList ["id"]⟩

/-- What the answer of the store to a statement comes to. A fault has been told of. -/
def answer (repository : GuildRepository) (statement : Statement) : Except Fault (Option Row) :=
  (repository.source.store.answer statement).1.mapError Fault.told

/-- The repository after the store has answered a statement. -/
def asked (repository : GuildRepository) (statement : Statement) : GuildRepository :=
  { repository with
    source := { repository.source with store := (repository.source.store.answer statement).2 } }

/-- What is done when a statement is sent. -/
def asking (repository : GuildRepository) (statement : Statement) : List Event :=
  .queried statement ::
    RowSource.failureNotices repository.source.name (repository.source.store.answer statement).1

/-- What the store has for a guild when it is asked. -/
def read (repository : GuildRepository) (id : Value) : Except Fault (Option GuildSettings) :=
  (repository.answer (repository.lookup id)).map RowSource.present >>=
    decode repository.room

theorem run_change (f : GuildRepository → Except Fault GuildRepository) :
    change f repository =
      match f repository with
      | .error fault => ⟨[], repository, .error fault⟩
      | .ok changed => ⟨[], changed, .ok ()⟩ := by
  rw [change, Action.run_get_bind]
  cases f repository <;> rfl

theorem run_change_bind {α : Type} (f : GuildRepository → Except Fault GuildRepository)
    (next : Unit → Action GuildRepository α) :
    (change f >>= next) repository =
      match f repository with
      | .error fault => ⟨[], repository, .error fault⟩
      | .ok changed => next () changed := by
  rw [change, bind_assoc, Action.run_get_bind, bind_assoc]
  cases f repository <;> rfl

/-- What an eviction leaves. -/
theorem eq_of_evict {now : Value} {evicted : GuildRepository}
    (h : repository.evict now = .ok evicted) :
    evicted = { repository with
      cache := repository.cache.filter fun _ cached => !cached.isExpired now } := by
  obtain ⟨_, _, same⟩ := bind_eq_ok_iff.1 h
  cases same
  rfl

/-- An eviction succeeds if every expiry can be compared. -/
theorem evict_eq_ok {now : Value}
    (h : ∀ cached ∈ repository.cache.values, ∃ expired, cached.expiresBy now = .ok expired) :
    repository.evict now = .ok { repository with
      cache := repository.cache.filter fun _ cached => !cached.isExpired now } := by
  have compared : Yields (repository.cache.values.mapM fun cached => cached.expiresBy now)
      fun _ => True := by
    refine (Yields.mapM (p := fun _ => True) fun cached held => ?_).mono fun _ _ => trivial
    obtain ⟨expired, same⟩ := h cached held
    exact ⟨expired, same, trivial⟩
  obtain ⟨_, compared, -⟩ := compared
  rw [evict, compared]
  rfl

/-- Where there is no connection, a fetch does nothing. -/
theorem run_fetch_of_not_connected (unconnected : repository.source.connected = false)
    (now id : Value) : fetch now id repository = ⟨[], repository, .ok none⟩ := by
  rw [fetch, Action.run_get_bind, if_neg (by simp [unconnected])]
  rfl

/-- A fetch goes on to `load` only if memory serves nothing, and only after an eviction. -/
theorem run_fetch (connected : repository.source.connected = true) (now id : Value) :
    fetch now id repository =
      match repository.served? now id with
      | .error fault => ⟨[], repository, .error fault⟩
      | .ok (some cached) => ⟨[], repository, .ok cached.settings⟩
      | .ok none =>
        match repository.evict now with
        | .error fault => ⟨[], repository, .error fault⟩
        | .ok evicted => load now id evicted := by
  rw [fetch, Action.run_get_bind, if_pos connected]
  cases repository.served? now id with
  | error fault => rfl
  | ok found =>
    cases found with
    | some cached => rfl
    | none => exact run_change_bind _ _

/-- The store is asked for the row of a guild. -/
theorem run_onSource_find (connected : repository.source.connected = true) (id : Value) :
    onSource (RowSource.find id) repository =
      ⟨repository.asking (repository.lookup id), repository.asked (repository.lookup id),
        (repository.answer (repository.lookup id)).map RowSource.present⟩ := by
  rw [onSource, Action.run_zoom, RowSource.run_find connected]
  rfl

/-- The store is given the row that stores settings. -/
theorem run_onSource_upsert (connected : repository.source.connected = true)
    (settings : GuildSettings) :
    onSource (RowSource.upsert settings.toRecord ["id"]) repository =
      ⟨repository.asking (repository.insertion settings),
        repository.asked (repository.insertion settings),
        (repository.answer (repository.insertion settings)).map RowSource.present⟩ := by
  rw [onSource, Action.run_zoom, RowSource.run_upsert connected]
  rfl

/-- What cannot be decoded, or has no expiry, is not remembered. -/
theorem run_keep (now id : Value) (row : Option Row) :
    keep now id row repository =
      match decode repository.room row with
      | .error fault => ⟨[], repository, .error fault⟩
      | .ok settings =>
        match repository.remember now id settings with
        | .error fault => ⟨[], repository, .error fault⟩
        | .ok remembered => ⟨[], remembered, .ok settings⟩ := by
  rw [keep, Action.run_get_bind]
  cases decode repository.room row with
  | error fault => rfl
  | ok settings =>
    rw [Action.run_ofExcept_ok_bind, run_change_bind]
    cases remembering : repository.remember now id settings <;> simp [remembering]

/-- What is read is asked for, decoded, and remembered. -/
theorem run_load (connected : repository.source.connected = true) (now id : Value) :
    load now id repository =
      match repository.read id with
      | .error fault =>
        ⟨repository.asking (repository.lookup id), repository.asked (repository.lookup id),
          .error fault⟩
      | .ok settings =>
        match (repository.asked (repository.lookup id)).remember now id settings with
        | .error fault =>
          ⟨repository.asking (repository.lookup id), repository.asked (repository.lookup id),
            .error fault⟩
        | .ok remembered =>
          ⟨repository.asking (repository.lookup id), remembered, .ok settings⟩ := by
  have found := run_onSource_find connected id
  rw [load, read]
  cases answered : (repository.answer (repository.lookup id)).map RowSource.present with
  | error fault =>
    rw [answered] at found
    exact Action.run_bind_of_eq_error found
  | ok row =>
    have same : (repository.asked (repository.lookup id)).room = repository.room := rfl
    rw [answered] at found
    rw [Action.run_bind_of_eq_ok found, ok_bind, run_keep, same]
    cases decode repository.room row with
    | error fault => simp
    | ok settings =>
      dsimp only
      cases (repository.asked (repository.lookup id)).remember now id settings <;> simp

/-- **What a fetch may come to.** There is nothing to ask, or it is refused before anything was
asked for, or memory serves it, or it fails on the way, or what was read is remembered. -/
theorem fetch_cases {motive : Outcome GuildRepository (Option GuildSettings) → Prop}
    (repository : GuildRepository) (now id : Value)
    (unconnected : repository.source.connected = false → motive ⟨[], repository, .ok none⟩)
    (refused : ∀ fault,
      repository.served? now id = .error fault ∨ repository.evict now = .error fault →
        motive ⟨[], repository, .error fault⟩)
    (served : ∀ cached, repository.source.connected = true →
      repository.served? now id = .ok (some cached) →
        motive ⟨[], repository, .ok cached.settings⟩)
    (failed : ∀ evicted fault, repository.evict now = .ok evicted →
      evicted.read id = .error fault ∨ (∃ settings, evicted.read id = .ok settings ∧
        (evicted.asked (evicted.lookup id)).remember now id settings = .error fault) →
        motive
          ⟨evicted.asking (evicted.lookup id), evicted.asked (evicted.lookup id), .error fault⟩)
    (remembered : ∀ evicted settings remembered, repository.evict now = .ok evicted →
      evicted.read id = .ok settings →
        (evicted.asked (evicted.lookup id)).remember now id settings = .ok remembered →
          motive ⟨evicted.asking (evicted.lookup id), remembered, .ok settings⟩) :
    motive (fetch now id repository) := by
  cases connected : repository.source.connected with
  | false =>
    rw [run_fetch_of_not_connected connected]
    exact unconnected connected
  | true =>
    rw [run_fetch connected]
    cases looked : repository.served? now id with
    | error fault => exact refused fault (Or.inl looked)
    | ok found =>
      cases found with
      | some cached => exact served cached connected looked
      | none =>
        cases evicting : repository.evict now with
        | error fault => exact refused fault (Or.inr evicting)
        | ok evicted =>
          have still : evicted.source.connected = true := by
            obtain ⟨_, _, same⟩ := bind_eq_ok_iff.1 evicting
            cases same
            exact connected
          show motive (load now id evicted)
          rw [run_load still]
          cases reading : evicted.read id with
          | error fault => exact failed evicted fault evicting (Or.inl reading)
          | ok settings =>
            dsimp only
            cases remembering :
                (evicted.asked (evicted.lookup id)).remember now id settings with
            | error fault =>
              exact failed evicted fault evicting (Or.inr ⟨settings, reading, remembering⟩)
            | ok changed => exact remembered evicted settings changed evicting reading remembering

/-! ### Saving and forgetting -/

theorem invalidate_of_ne_null {id : Value} (h : id ≠ .null) (repository : GuildRepository) :
    repository.invalidate id =
      if repository.cache.isEmpty then .ok repository
      else if id.isKey then .ok (repository.forget id)
      else .error (.notAKey id.kindName) := by
  cases id with
  | null => exact absurd rfl h
  | _ => rfl

/-- An invalidation forgets everything, nothing or one guild. -/
theorem eq_of_invalidate {id : Value} {forgotten : GuildRepository}
    (h : repository.invalidate id = .ok forgotten) :
    forgotten = repository.forgetAll ∨ forgotten = repository ∨
      forgotten = repository.forget id := by
  by_cases every : id = .null
  · subst every
    exact Or.inl (Except.ok.inj h).symm
  · rw [invalidate_of_ne_null every] at h
    split at h
    · exact Or.inr (Or.inl (Except.ok.inj h).symm)
    · split at h
      · exact Or.inr (Or.inr (Except.ok.inj h).symm)
      · cases h

/-- Where there is no connection, a save says so and does nothing. -/
theorem run_save_of_not_connected (unconnected : repository.source.connected = false)
    (settings : GuildSettings) :
    save settings repository =
      ⟨[.logged (.warning repository.source.name
        "Database not connected, guild settings not saved")], repository, .ok none⟩ := by
  rw [save, Action.run_get_bind, if_neg (by simp [unconnected]), saveNothing, Action.run_get_bind,
    Action.run_log_bind]
  rfl

theorem room_of_invalidate {id : Value} {forgotten : GuildRepository}
    (h : repository.invalidate id = .ok forgotten) : forgotten.room = repository.room := by
  rcases eq_of_invalidate h with rfl | rfl | rfl
  · rfl
  · rfl
  · rw [forget]
    split <;> rfl

/-- What is done after a save was answered comes to a change of the cache and a decoding. -/
theorem run_settle (id : Value) (row : Option Row) :
    settle id row repository =
      match repository.invalidate id with
      | .error fault => ⟨[], repository, .error fault⟩
      | .ok forgotten => ⟨[], forgotten, decode repository.room row⟩ := by
  rw [settle, run_change_bind]
  cases forgetting : repository.invalidate id with
  | error fault => rfl
  | ok forgotten =>
    dsimp only
    rw [Action.run_get_bind, room_of_invalidate forgetting]
    rfl

/-- What a save comes to. The cache forgets the guild only after the store has answered, and what
the store answered is decoded last. -/
theorem run_save (connected : repository.source.connected = true) (settings : GuildSettings) :
    save settings repository =
      match (repository.answer (repository.insertion settings)).map RowSource.present with
      | .error fault =>
        ⟨repository.asking (repository.insertion settings),
          repository.asked (repository.insertion settings), .error fault⟩
      | .ok row =>
        match (repository.asked (repository.insertion settings)).invalidate settings.id with
        | .error fault =>
          ⟨repository.asking (repository.insertion settings),
            repository.asked (repository.insertion settings), .error fault⟩
        | .ok forgotten =>
          ⟨repository.asking (repository.insertion settings), forgotten,
            decode repository.room row⟩ := by
  have stored := run_onSource_upsert connected settings
  rw [save, Action.run_get_bind, if_pos connected]
  cases answered : (repository.answer (repository.insertion settings)).map RowSource.present with
  | error fault =>
    rw [answered] at stored
    exact Action.run_bind_of_eq_error stored
  | ok row =>
    rw [answered] at stored
    have same : (repository.asked (repository.insertion settings)).room = repository.room := rfl
    rw [Action.run_bind_of_eq_ok stored, run_settle, same]
    cases (repository.asked (repository.insertion settings)).invalidate settings.id <;> simp

end GuildRepository

end CommandRouter
