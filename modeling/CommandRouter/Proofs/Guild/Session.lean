import CommandRouter.Proofs.Guild.Timed

/-!
# Sessions with a repository

A session is a repository that is used at one time after another. What is done at a time takes no
time; time passes in between, by whole ticks and only forwards.

Rows are read and written by ids that are texts, which is what the ids of guilds are. Saved settings
may hold anything else.

## Main definitions

* `Step` is what is done in a session, with `Step.action` as the action that does it.
* `Session` is a repository at a time. It begins with `Session.start`, and `Session.take` is how it
  goes on.

## Main results

* `GuildRepository.of_get?_forgetting` says what is still cached after an invalidation.
* `Session.timed_start` and `Session.timed_take` keep the invariant of repositories whose time is
  counted in integers.
-/

namespace CommandRouter

/-- What an action of the router has to say when it has ended. -/
inductive Reply where
  /-- Whether a command ran to its end. -/
  | handled (ran : Bool)
  /-- The settings of a guild, if it has any. -/
  | settings (settings : Option GuildSettings)
  /-- That something was done. -/
  | done

/-- What is done with a repository at a time. -/
inductive Step where
  /-- The settings of a guild are fetched. -/
  | fetch (id : String)
  /-- Settings are saved. -/
  | save (id : String) (prefixes aliases : Table Label Value)
  /-- A guild, or every guild, is invalidated. -/
  | invalidate (id : Option String)
  /-- Time passes. -/
  | pass (ticks : Nat)

namespace Step

/-- The action that takes a step at a time. -/
def action (clock : Int) : Step → Action GuildRepository Reply
  | fetch id => Reply.settings <$> GuildRepository.fetch (.int clock) (.text id)
  | save id prefixes aliases =>
    Reply.settings <$> GuildRepository.save ⟨.text id, prefixes, aliases⟩
  | invalidate id => do
    GuildRepository.change fun repository => repository.invalidate (id.elim .null .text)
    return .done
  | pass _ => return .done

/-- The time that passes during a step. -/
def ticks : Step → Nat
  | pass ticks => ticks
  | _ => 0

end Step

/-- A repository at a time. -/
structure Session where
  /-- The repository. -/
  repository : GuildRepository
  /-- The time. -/
  clock : Int

namespace GuildRepository

/-- The repository after one guild was forgotten, or every guild. -/
def forgetting (repository : GuildRepository) : Option String → GuildRepository
  | none => repository.forgetAll
  | some id => repository.forget (.text id)

theorem run_invalidate (repository : GuildRepository) (clock : Int) (id : Option String) :
    (Step.invalidate id).action clock repository = ⟨[], repository.forgetting id, .ok .done⟩ := by
  have forgotten : repository.invalidate (id.elim .null .text) =
      .ok (repository.forgetting id) := by
    cases id with
    | none => rfl
    | some id => exact invalidate_text repository id
  have changed : change (fun repository => repository.invalidate (id.elim .null .text)) repository =
      ⟨[], repository.forgetting id, .ok ()⟩ := by
    rw [run_change, forgotten]
  exact Action.run_bind_of_eq_ok changed

theorem forgetting_source (repository : GuildRepository) (id : Option String) :
    (repository.forgetting id).source = repository.source := by
  cases id <;> rfl

theorem forgetting_room (repository : GuildRepository) (id : Option String) :
    (repository.forgetting id).room = repository.room := by
  cases id <;> rfl

/-- What is held after an invalidation was held before, and it is of a guild that was not meant. -/
theorem of_get?_forgetting {repository : GuildRepository} {id : Option String} {other : String}
    {cached : Cached}
    (h : (repository.forgetting id).cache.get? (.text other) = some cached) :
    repository.cache.get? (.text other) = some cached ∧ id ≠ none ∧ id ≠ some other := by
  cases id with
  | none => cases h
  | some id =>
    change (repository.cache.erase (.text id)).get? (.text other) = some cached at h
    rw [Table.get?_erase] at h
    split at h
    · cases h
    · rename_i differ
      refine ⟨h, by simp, ?_⟩
      rintro ⟨⟩
      exact differ rfl

theorem Timed.forgetting {repository : GuildRepository} {span clock : Int}
    (timed : repository.Timed span clock) (id : Option String) :
    (repository.forgetting id).Timed span clock := by
  cases id with
  | none => exact timed.forgetAll
  | some id => exact timed.forget id

theorem Timed.step {repository : GuildRepository} {span clock : Int}
    (timed : repository.Timed span clock) (step : Step) :
    (step.action clock repository).state.Timed span clock := by
  cases step with
  | fetch id =>
    rw [Step.action, Action.run_map]
    exact timed.fetch id
  | save id prefixes aliases =>
    rw [Step.action, Action.run_map]
    exact timed.save rfl
  | invalidate id =>
    rw [run_invalidate]
    exact timed.forgetting id
  | pass ticks => exact timed

end GuildRepository

namespace Session

/-- A session that begins with an empty cache. -/
def start (store : GuildStore) (span clock : Int) : Session :=
  ⟨.create true ⟨store.engine.toEngine, store.rows, []⟩ (.int span) store.room, clock⟩

/-- The session after a step. -/
def take (session : Session) (step : Step) : Session :=
  ⟨(step.action session.clock session.repository).state, session.clock + step.ticks⟩

theorem timed_start (store : GuildStore) (span clock : Int) :
    (start store span clock).repository.Timed span clock :=
  ⟨⟨store.engine, store.rows, [], rfl⟩, rfl, fun _ _ held => by cases held⟩

theorem timed_take {session : Session} {span : Int}
    (timed : session.repository.Timed span session.clock) (step : Step) :
    (session.take step).repository.Timed span (session.take step).clock :=
  (timed.step step).mono (Int.le_add_of_nonneg_right (Int.natCast_nonneg _))

end Session

end CommandRouter
