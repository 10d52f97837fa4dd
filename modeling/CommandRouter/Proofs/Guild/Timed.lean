import CommandRouter.Proofs.Guild.Rows

/-!
# Repositories whose time is counted in integers

Times and lifetimes are values, and with odd ones a fetch may fail before it has asked for anything.
Where both are integers nothing of that kind happens. An entry of the cache is then either served or
evicted, and what a fetch may come to is settled by three cases: memory serves the guild, the store
is asked in vain, or what the store has is remembered until the lifetime is over.

## Main definitions

* `GuildRepository.Timed` says that the lifetime of a repository and the expiries of its cache are
  integers, and that no expiry is further away than the lifetime.
* `GuildRepository.current` is a repository after an eviction, and `GuildRepository.holding` one
  that has remembered something.

## Main results

* `GuildRepository.Timed.fetch_cases` are the three cases.
* `GuildRepository.Timed.fetch`, `GuildRepository.Timed.save` and `GuildRepository.Timed.forget` are
  how the invariant is kept.
-/

namespace CommandRouter

/-! ### Comparisons of integers -/

namespace Number

theorem lt_int (m n : Int) : (int m).lt (int n) = decide (m < n) := by
  show decide ((m : Rat) < n) = decide (m < n)
  exact decide_eq_decide.2 Rat.intCast_lt_intCast

theorem le_int (m n : Int) : (int m).le (int n) = decide (m ≤ n) := by
  show (!decide ((n : Rat) < m)) = decide (m ≤ n)
  rw [← decide_not, decide_eq_decide, Rat.intCast_lt_intCast]
  exact Int.not_lt

end Number

namespace Cached

variable {cached : Cached} {expiry : Int}

theorem isServed_int (h : cached.expiry = .int expiry) (clock : Int) :
    cached.isServed (.int clock) = .ok (decide (clock < expiry)) := by
  rw [isServed, h, Value.compare_int, Comparison.numbers, Number.lt_int]

theorem expiresBy_int (h : cached.expiry = .int expiry) (clock : Int) :
    cached.expiresBy (.int clock) = .ok (decide (expiry ≤ clock)) := by
  rw [expiresBy, h, Value.compare_int, Comparison.numbers, Number.le_int]

theorem isExpired_int (h : cached.expiry = .int expiry) (clock : Int) :
    cached.isExpired (.int clock) = decide (expiry ≤ clock) := by
  rw [isExpired, expiresBy_int h]
  rfl

end Cached

namespace GuildRepository

/-- Whether a repository is connected and counts its time in integers. -/
structure Timed (repository : GuildRepository) (span clock : Int) : Prop where
  /-- The source is one of guilds. -/
  source : ∃ engine rows failures, repository.source = .ofRows engine rows failures
  /-- The lifetime is an integer. -/
  lifetime : repository.lifetime = .int span
  /-- The cache holds guilds by texts, each no longer than for the lifetime. -/
  cached : ∀ key cached, repository.cache.get? key = some cached →
    (∃ id, key = .text id) ∧ ∃ expiry, cached.expiry = .int expiry ∧ expiry ≤ clock + span

/-- The repository after everything that has expired was forgotten. -/
def current (repository : GuildRepository) (clock : Int) : GuildRepository :=
  { repository with
    cache := repository.cache.filter fun _ cached => !cached.isExpired (.int clock) }

/-- The repository after something was remembered of a guild. -/
def holding (repository : GuildRepository) (id : String) (expiry : Int)
    (settings : Option GuildSettings) : GuildRepository :=
  { repository with
    cache := repository.cache.insert (.text id)
      ⟨((repository.cache.get? (.text id)).map Cached.id).getD (.text id), .int expiry, settings⟩ }

namespace Timed

variable {repository : GuildRepository} {span clock : Int}

theorem connected (timed : repository.Timed span clock) :
    repository.source.connected = true := by
  obtain ⟨engine, rows, failures, source⟩ := timed.source
  rw [source]
  rfl

theorem evict (timed : repository.Timed span clock) :
    repository.evict (.int clock) = .ok (repository.current clock) := by
  refine evict_eq_ok fun cached held => ?_
  obtain ⟨⟨key, _⟩, entry, rfl⟩ := List.mem_map.1 held
  obtain ⟨-, expiry, h, -⟩ := timed.cached key _ (Table.mem_toList_iff.1 entry)
  exact ⟨_, Cached.expiresBy_int h clock⟩

theorem served? (timed : repository.Timed span clock) (id : String) :
    repository.served? (.int clock) (.text id) =
      .ok ((repository.cache.get? (.text id)).filter fun cached =>
        !cached.isExpired (.int clock)) := by
  have looked : repository.cached? (.text id) = repository.cache.get? (.text id) := rfl
  rw [GuildRepository.served?, if_pos (by rfl), looked]
  cases held : repository.cache.get? (.text id) with
  | none => rfl
  | some cached =>
    obtain ⟨-, expiry, h, -⟩ := timed.cached _ cached held
    dsimp only
    rw [Cached.isServed_int h, Option.filter_some, Cached.isExpired_int h]
    by_cases later : clock < expiry
    · simp [Except.map, later, Int.not_le.2 later]
    · simp [Except.map, later, Int.not_lt.1 later]

theorem remember (h : repository.lifetime = .int span) (clock : Int) (id : String)
    (settings : Option GuildSettings) :
    repository.remember (.int clock) (.text id) settings =
      .ok (repository.holding id (clock + span) settings) := by
  have sum : (Value.int clock).add repository.lifetime = .ok (.int (clock + span)) := by
    rw [h, Value.add_int]
  rw [GuildRepository.remember, sum]
  rfl

/-- **What a fetch may come to** where time is counted in integers. -/
theorem fetch_cases {motive : Outcome GuildRepository (Option GuildSettings) → Prop}
    (timed : repository.Timed span clock) (id : String)
    (served : ∀ cached expiry, repository.cache.get? (.text id) = some cached →
      cached.expiry = .int expiry → clock < expiry → motive ⟨[], repository, .ok cached.settings⟩)
    (failed : ∀ fault, repository.read (.text id) = .error fault →
      motive ⟨repository.asking (repository.lookup (.text id)),
        (repository.current clock).asked (repository.lookup (.text id)), .error fault⟩)
    (remembered : ∀ settings, repository.read (.text id) = .ok settings →
      motive ⟨repository.asking (repository.lookup (.text id)),
        ((repository.current clock).asked (repository.lookup (.text id))).holding id
          (clock + span) settings, .ok settings⟩) :
    motive (fetch (.int clock) (.text id) repository) := by
  have kept : ((repository.current clock).asked
      ((repository.current clock).lookup (.text id))).lifetime = .int span := timed.lifetime
  refine GuildRepository.fetch_cases repository (.int clock) (.text id) ?_ ?_ ?_ ?_ ?_
  · intro unconnected
    rw [timed.connected] at unconnected
    cases unconnected
  · rintro fault (refused | refused)
    · rw [timed.served?] at refused
      cases refused
    · rw [timed.evict] at refused
      cases refused
  · intro cached _ looked
    rw [timed.served?, Except.ok.injEq, Option.filter_eq_some_iff] at looked
    obtain ⟨held, unexpired⟩ := looked
    obtain ⟨-, expiry, h, -⟩ := timed.cached _ cached held
    rw [Cached.isExpired_int h] at unexpired
    exact served cached expiry held h (by simpa using unexpired)
  · intro evicted fault evicting reading
    rw [timed.evict] at evicting
    cases evicting
    rcases reading with unread | ⟨settings, -, unremembered⟩
    · exact failed fault unread
    · rw [remember kept] at unremembered
      cases unremembered
  · intro evicted settings changed evicting reading remembering
    rw [timed.evict] at evicting
    cases evicting
    rw [remember kept] at remembering
    cases remembering
    exact remembered settings reading

/-! ### How the invariant is kept -/

/-- What is not in the cache any more need not be kept track of. -/
theorem of_subset (timed : repository.Timed span clock) {repository' : GuildRepository}
    (source : ∃ engine rows failures, repository'.source = .ofRows engine rows failures)
    (lifetime : repository'.lifetime = repository.lifetime)
    (cached : ∀ key cached, repository'.cache.get? key = some cached →
      repository.cache.get? key = some cached) : repository'.Timed span clock :=
  ⟨source, lifetime.trans timed.lifetime,
    fun key held found => timed.cached key held (cached key held found)⟩

theorem current (timed : repository.Timed span clock) :
    (repository.current clock).Timed span clock := by
  refine timed.of_subset timed.source rfl fun key cached held => ?_
  rw [GuildRepository.current, Table.get?_filter, Option.filter_eq_some_iff] at held
  exact held.1

theorem asked (timed : repository.Timed span clock) (id : String) :
    (repository.asked (repository.lookup (.text id))).Timed span clock := by
  obtain ⟨engine, rows, failures, source⟩ := timed.source
  obtain ⟨failures', same⟩ := exists_asked_lookup_eq source id
  rw [same]
  exact timed.of_subset ⟨engine, rows, failures', rfl⟩ rfl fun _ _ held => held

theorem holding (timed : repository.Timed span clock) (id : String)
    (settings : Option GuildSettings) :
    (repository.holding id (clock + span) settings).Timed span clock := by
  refine ⟨timed.source, timed.lifetime, fun key cached held => ?_⟩
  rw [GuildRepository.holding, Table.get?_insert] at held
  split at held
  · rename_i same
    cases held
    exact ⟨⟨id, same.symm⟩, clock + span, rfl, Int.le_refl _⟩
  · exact timed.cached key cached held

theorem fetch (timed : repository.Timed span clock) (id : String) :
    (fetch (.int clock) (.text id) repository).state.Timed span clock := by
  refine timed.fetch_cases (motive := fun outcome => outcome.state.Timed span clock) id ?_ ?_ ?_
  · intro _ _ _ _ _
    exact timed
  · intro _ _
    exact timed.current.asked id
  · intro settings _
    exact (timed.current.asked id).holding id settings

theorem forget (timed : repository.Timed span clock) (id : String) :
    (repository.forget (.text id)).Timed span clock := by
  refine timed.of_subset timed.source rfl fun key cached held => ?_
  change (repository.cache.erase (.text id)).get? key = some cached at held
  rw [Table.get?_erase] at held
  split at held
  · cases held
  · exact held

theorem forgetAll (timed : repository.Timed span clock) :
    repository.forgetAll.Timed span clock :=
  timed.of_subset timed.source rfl fun key cached held => by cases held

theorem save (timed : repository.Timed span clock) {settings : GuildSettings} {id : String}
    (named : settings.id = .text id) : (save settings repository).state.Timed span clock := by
  obtain ⟨engine, rows, failures, source⟩ := timed.source
  cases failures with
  | nil =>
    rw [run_save_of_rows source named]
    exact (timed.forget id).of_subset ⟨_, _, _, rfl⟩ rfl fun _ _ held => held
  | cons fault later =>
    rw [(run_save_of_failing source settings).1]
    exact timed.of_subset ⟨_, _, _, rfl⟩ rfl fun _ _ held => held

/-- Time may pass. -/
theorem mono {clock' : Int} (timed : repository.Timed span clock) (h : clock ≤ clock') :
    repository.Timed span clock' := by
  refine ⟨timed.source, timed.lifetime, fun key cached held => ?_⟩
  obtain ⟨named, expiry, isExpiry, bound⟩ := timed.cached key cached held
  exact ⟨named, expiry, isExpiry, by omega⟩

end Timed

end GuildRepository

end CommandRouter
