import CommandRouter.Config
import CommandRouter.Proofs.Guild.Kinds
import CommandRouter.Proofs.Guild.Rows
import CommandRouter.Store.Memory
import CommandRouter.Proofs.Numbers

/-!
# What is left in the cache after an eviction

A fetch that has to ask the store first evicts what has expired. What is served is what expires
later than now, and what is evicted is what expires by now. For expiries with a place on the line
these are opposites, so after such a fetch the cache holds nothing but what memory would serve at
that very time, and what was just fetched.

An expiry that is not a number is neither before nor after any time. An entry with such an expiry is
never served and never evicted. Whether there are such entries is decided by the lifetime alone, as
clocks give finite readings. A configuration with a lifetime that is not a number is accepted: what
is checked is that the lifetime is not less than zero, and not that it is at least zero.

## Main definitions

* `GuildRepository.Dated` says that all expiries in the cache have a place on the line, and
  `GuildRepository.Undated` that none has.
* `GuildRepository.Occurrence.Regular` says that clocks give finite readings, and that the lifetime
  stays.
* `GuildRepository.Serves` says that memory serves all guilds of the cache but one.
* `GuildRepository.KeepsServable` says that this is so after every fetch that asks the store.

## Main results

* `Cached.isExpired_eq` says that serving and evicting are opposites.
* `GuildRepository.dated_after` is the invariant, for every history.
* `GuildRepository.Dated.serves_of_fetch` is what an eviction is for, and
  `GuildRepository.Undated.evict` where it does nothing.
* `GuildRepository.keepsServable_iff` tells for which accepted configurations it is of use.
-/

namespace CommandRouter

namespace Cached

variable {cached : Cached} {now : Value} {expiry time : Number}

/-- **What is on the line is served or it has expired**, at any time that is on the line. -/
theorem isExpired_eq (h : cached.expiry.number? = some expiry) (placed : expiry.IsPlaced)
    (hnow : now.number? = some time) (htime : time.IsPlaced) :
    cached.isServed now = .ok (!cached.isExpired now) := by
  have served : cached.isServed now = .ok (time.lt expiry) :=
    Value.compare_of_number? .greater h hnow
  have expires : cached.expiresBy now = .ok (expiry.le time) :=
    Value.compare_of_number? .atMost h hnow
  rw [served, isExpired, expires, Number.lt_eq_not_le htime placed]
  rfl

end Cached

namespace GuildRepository

variable {repository : GuildRepository} {lifetime : Value}

/-! ### The invariant -/

/-- A value that is a finite number, as a reading of a clock is. -/
def IsReading (now : Value) : Prop := ∃ time, now.number? = some time ∧ time.IsFinite

theorem isReading_int (clock : Int) : IsReading (.int clock) := ⟨_, rfl, Number.isFinite_int clock⟩

/-- A value that is a number with a place on the line. -/
def IsSpan (lifetime : Value) : Prop := ∃ span, lifetime.number? = some span ∧ span.IsPlaced

theorem isSpan_int (span : Int) : IsSpan (.int span) :=
  ⟨_, rfl, (Number.isFinite_int span).isPlaced⟩

/-- Whether settings are kept for a lifetime, and all expiries in the cache have a place on the
line. -/
structure Dated (repository : GuildRepository) (lifetime : Value) : Prop where
  /-- The lifetime is what it is to be. -/
  lifetime : repository.lifetime = lifetime
  /-- The expiries are on the line. -/
  cached : ∀ cached ∈ repository.cache.values, IsSpan cached.expiry

theorem dated_create (connected : Bool) (store : Store) (lifetime : Value) (room : Room) :
    (create connected store lifetime room).Dated lifetime :=
  ⟨rfl, fun _ held => by simp [create] at held⟩

namespace Dated

/-- Where nothing new is cached, all expiries stay on the line. -/
theorem of_subset (dated : repository.Dated lifetime) {repository' : GuildRepository}
    (same : repository'.lifetime = repository.lifetime)
    (h : ∀ cached ∈ repository'.cache.values, cached ∈ repository.cache.values) :
    repository'.Dated lifetime :=
  ⟨same.trans dated.lifetime, fun cached held => dated.cached cached (h cached held)⟩

theorem evict (dated : repository.Dated lifetime) {now : Value} {evicted : GuildRepository}
    (h : repository.evict now = .ok evicted) : evicted.Dated lifetime := by
  rw [eq_of_evict h]
  exact dated.of_subset rfl fun _ => Table.mem_values_of_mem_values_filter

theorem asked (dated : repository.Dated lifetime) (statement : Statement) :
    (repository.asked statement).Dated lifetime :=
  dated.of_subset rfl fun _ held => held

/-- What is remembered expires at a place on the line. -/
theorem remember (dated : repository.Dated lifetime) (span : IsSpan lifetime) {now : Value}
    (reading : IsReading now) {id : Value} {settings : Option GuildSettings}
    {remembered : GuildRepository}
    (h : repository.remember now id settings = .ok remembered) : remembered.Dated lifetime := by
  obtain ⟨expiry, added, same⟩ := map_eq_ok_iff.1 h
  have isSpan : IsSpan expiry := by
    rw [dated.lifetime] at added
    obtain ⟨time, isTime, finite⟩ := reading
    obtain ⟨length, isLength, placed⟩ := span
    obtain ⟨n, s, hn, sum, rfl⟩ := Value.exists_of_add isTime added
    cases isLength.symm.trans hn
    exact ⟨s, Value.number?_ofNumber s, Number.isPlaced_of_add finite placed sum⟩
  cases named : id.key? with
  | none =>
    rw [named] at same
    cases same
    exact dated
  | some key =>
    rw [named] at same
    cases same
    refine ⟨dated.lifetime, fun cached held => ?_⟩
    rcases Table.eq_or_mem_of_mem_values_insert held with rfl | old
    · exact isSpan
    · exact dated.cached cached old

theorem forget (dated : repository.Dated lifetime) (id : Value) :
    (repository.forget id).Dated lifetime := by
  rw [GuildRepository.forget]
  split
  · exact dated.of_subset rfl fun _ => Table.mem_values_of_mem_values_filter
  · exact dated

theorem invalidate (dated : repository.Dated lifetime) {id : Value} {forgotten : GuildRepository}
    (h : repository.invalidate id = .ok forgotten) : forgotten.Dated lifetime := by
  rcases eq_of_invalidate h with rfl | rfl | rfl
  · exact dated.of_subset rfl fun _ held => by simp [forgetAll] at held
  · exact dated
  · exact dated.forget id

theorem fetch (dated : repository.Dated lifetime) (span : IsSpan lifetime) {now : Value}
    (reading : IsReading now) (id : Value) : (fetch now id repository).state.Dated lifetime := by
  refine fetch_cases (motive := fun outcome => outcome.state.Dated lifetime) repository now id
    ?_ ?_ ?_ ?_ ?_
  · intro _
    exact dated
  · intro _ _
    exact dated
  · intro _ _ _
    exact dated
  · intro _ _ evicting _
    exact (dated.evict evicting).asked _
  · intro _ _ _ evicting _ remembering
    exact ((dated.evict evicting).asked _).remember span reading remembering

theorem save (dated : repository.Dated lifetime) (settings : GuildSettings) :
    (save settings repository).state.Dated lifetime := by
  cases connected : repository.source.connected with
  | false =>
    rw [run_save_of_not_connected connected]
    exact dated
  | true =>
    rw [run_save connected]
    split
    · exact dated.asked _
    · split
      · exact dated.asked _
      · rename_i forgotten forgetting
        exact (dated.asked _).invalidate forgetting

end Dated

/-! ### Histories -/

/-- Whether an occurrence reads the clock only at finite times, and leaves the lifetime. -/
def Occurrence.Regular (lifetime : Value) : Occurrence → Prop
  | .fetch now _ => IsReading now
  | .outside _ later _ => later = lifetime
  | _ => True

theorem Dated.undergo (dated : repository.Dated lifetime) (span : IsSpan lifetime)
    {occurrence : Occurrence} (regular : occurrence.Regular lifetime) :
    (repository.undergo occurrence).Dated lifetime := by
  cases occurrence with
  | fetch now id => exact dated.fetch span regular id
  | save settings => exact dated.save settings
  | invalidate id =>
    show (change _ repository).state.Dated lifetime
    rw [run_change]
    cases forgetting : repository.invalidate id with
    | error fault => exact dated
    | ok forgotten => exact dated.invalidate forgetting
  | outside source later room => exact ⟨regular, dated.cached⟩

/-- **All expiries stay on the line**, whatever happens to a repository whose lifetime is on it. -/
theorem dated_after (dated : repository.Dated lifetime) (span : IsSpan lifetime)
    {occurrences : List Occurrence}
    (regular : ∀ occurrence ∈ occurrences, occurrence.Regular lifetime) :
    (repository.after occurrences).Dated lifetime := by
  induction occurrences generalizing repository with
  | nil => exact dated
  | cons occurrence later ih =>
    obtain ⟨first, others⟩ := List.forall_mem_cons.1 regular
    exact ih (dated.undergo span first) others

/-! ### What is left after a fetch -/

/-- Whether memory serves everything that the cache holds, except for one guild. -/
def Serves (repository : GuildRepository) (now id : Value) : Prop :=
  ∀ other cached, other.key? ≠ id.key? → repository.cached? other = some cached →
    fetch now other repository = ⟨[], repository, .ok cached.settings⟩

/-- Whether a fetch that has asked the store leaves nothing in the cache but what memory serves at
that time, and what it has fetched, as long as settings are kept for a lifetime. -/
def KeepsServable (lifetime : Value) : Prop :=
  ∀ store room occurrences, (∀ occurrence ∈ occurrences, occurrence.Regular lifetime) →
    ∀ now id settings, IsReading now →
      let fetched := fetch now id ((create true store lifetime room).after occurrences)
      (∃ statement, .queried statement ∈ fetched.events) → fetched.result = .ok settings →
        fetched.state.Serves now id

/-- What names a key may be used as one. -/
theorem isKey_of_key?_eq_some {id : Value} {key : Key} (h : id.key? = some key) :
    id.isKey = true := by
  cases id with
  | list _ => cases h
  | dict _ => cases h
  | _ => rfl

/-- What the cache still holds after a fetch, the guild that was fetched apart, was not evicted. -/
theorem cached?_of_remember {now id other : Value} {settings : Option GuildSettings}
    {remembered : GuildRepository} {cached : Cached}
    (h : repository.remember now id settings = .ok remembered) (differ : other.key? ≠ id.key?)
    (held : remembered.cached? other = some cached) : repository.cached? other = some cached := by
  obtain ⟨_, _, same⟩ := map_eq_ok_iff.1 h
  cases named : id.key? with
  | none =>
    rw [named] at same
    cases same
    exact held
  | some key =>
    rw [named] at same differ
    cases same
    obtain ⟨key', names, found⟩ := Option.bind_eq_some_iff.1 held
    rw [Table.get?_insert_of_ne _ _ fun same => differ (names.trans (congrArg some same.symm))]
      at found
    exact Option.bind_eq_some_iff.2 ⟨key', names, found⟩

theorem source_of_remember {now id : Value} {settings : Option GuildSettings}
    {remembered : GuildRepository} (h : repository.remember now id settings = .ok remembered) :
    remembered.source = repository.source := by
  obtain ⟨_, _, rfl⟩ := map_eq_ok_iff.1 h
  split <;> rfl

theorem room_of_remember {now id : Value} {settings : Option GuildSettings}
    {remembered : GuildRepository} (h : repository.remember now id settings = .ok remembered) :
    remembered.room = repository.room := by
  obtain ⟨_, _, rfl⟩ := map_eq_ok_iff.1 h
  split <;> rfl

/-- What is still to be served is served without a statement. -/
theorem run_fetch_of_isServed (connected : repository.source.connected = true) {now id : Value}
    {cached : Cached} (held : repository.cached? id = some cached)
    (served : cached.isServed now = .ok true) :
    fetch now id repository = ⟨[], repository, .ok cached.settings⟩ := by
  obtain ⟨key, names, _⟩ := Option.bind_eq_some_iff.1 held
  have looked : repository.served? now id = .ok (some cached) := by
    rw [served?, if_pos (isKey_of_key?_eq_some names), held]
    dsimp only
    rw [served]
    rfl
  rw [run_fetch connected, looked]

/-- **What is not served was evicted.** After a fetch that has asked the store, memory serves
everything else that it still holds. -/
theorem Dated.serves_of_fetch (dated : repository.Dated lifetime) {now id : Value}
    (reading : IsReading now) {settings : Option GuildSettings} {statement : Statement}
    (asked : .queried statement ∈ (GuildRepository.fetch now id repository).events)
    (fetched : (GuildRepository.fetch now id repository).result = .ok settings) :
    (GuildRepository.fetch now id repository).state.Serves now id := by
  cases connected : repository.source.connected with
  | false =>
    rw [run_fetch_of_not_connected connected] at asked
    cases asked
  | true =>
    refine fetch_cases (motive := fun outcome => .queried statement ∈ outcome.events →
      outcome.result = .ok settings → outcome.state.Serves now id) repository now id
      ?_ ?_ ?_ ?_ ?_ asked fetched
    · rintro _ ⟨⟩
    · rintro _ _ ⟨⟩
    · rintro _ _ _ ⟨⟩
    · rintro _ _ _ _ _ ⟨⟩
    · intro evicted found remembered evicting _ remembering _ _ other cached differ held
      have left : (evicted.asked (evicted.lookup id)).cached? other = some cached :=
        cached?_of_remember remembering differ held
      change evicted.cached? other = some cached at left
      rw [eq_of_evict evicting] at left
      obtain ⟨key, names, kept⟩ := Option.bind_eq_some_iff.1 left
      rw [Table.get?_filter, Option.filter_eq_some_iff] at kept
      obtain ⟨old, unexpired⟩ := kept
      have served : cached.isServed now = .ok true := by
        obtain ⟨expiry, isExpiry, placed⟩ := dated.cached cached
          (List.mem_map.2 ⟨_, Table.mem_toList_iff.2 old, rfl⟩)
        obtain ⟨time, isTime, finite⟩ := reading
        rw [Cached.isExpired_eq isExpiry placed isTime finite.isPlaced, unexpired]
      have still : remembered.source.connected = true := by
        rw [source_of_remember remembering]
        show evicted.source.connected = true
        rw [source_of_evict evicting, connected]
      exact run_fetch_of_isServed still held served

/-! ### Lifetimes that are not on the line -/

/-- Whether no expiry in the cache has a place on the line. -/
def Undated (repository : GuildRepository) : Prop :=
  ∀ cached ∈ repository.cache.values, ∃ expiry, cached.expiry.number? = some expiry ∧
    expiry.point? = none

namespace Undated

variable {now : Value} {time : Number}

/-- Memory serves nothing. -/
theorem served? (undated : repository.Undated) (isTime : now.number? = some time) (id : String) :
    repository.served? now (.text id) = .ok none := by
  rw [GuildRepository.served?, if_pos (by rfl)]
  cases held : repository.cached? (.text id) with
  | none => rfl
  | some cached =>
    obtain ⟨expiry, isExpiry, nowhere⟩ := undated cached
      (List.mem_map.2 ⟨_, Table.mem_toList_iff.2 held, rfl⟩)
    have unserved : cached.isServed now = .ok (time.lt expiry) :=
      Value.compare_of_number? .greater isExpiry isTime
    dsimp only
    rw [unserved, Number.lt_eq_false_of_point?_eq_none nowhere]
    rfl

/-- Nothing is evicted. -/
theorem evict (undated : repository.Undated) (isTime : now.number? = some time) :
    repository.evict now = .ok repository := by
  have kept : ∀ cached ∈ repository.cache.values, cached.expiresBy now = .ok false := by
    intro cached held
    obtain ⟨expiry, isExpiry, nowhere⟩ := undated cached held
    have compared : cached.expiresBy now = .ok (expiry.le time) :=
      Value.compare_of_number? .atMost isExpiry isTime
    rw [compared, Number.le_eq_false_of_point?_eq_none nowhere]
  have same : (repository.cache.filter fun _ cached => !cached.isExpired now) =
      repository.cache := by
    refine Table.ext ?_
    rw [Table.toList_filter, List.filter_eq_self]
    intro entry held
    rw [Cached.isExpired, kept entry.2 (List.mem_map.2 ⟨entry, held, rfl⟩)]
    rfl
  rw [evict_eq_ok fun cached held => ⟨false, kept cached held⟩, same]

end Undated

/-- A store in memory without rows. -/
def rowless : Store := ⟨.inMemory, .empty, []⟩

/-- A repository without rows, whose lifetime is not a number, after some fetches at time zero. -/
def unplaced (payload : Nat) (ids : List String) : GuildRepository :=
  ⟨.ofRows .inMemory .empty [], .float (.nan payload),
    .ofList (ids.map fun id => (.text id, ⟨.text id, .float (.nan 0), none⟩)), .flat⟩

theorem undated_unplaced (payload : Nat) (ids : List String) : (unplaced payload ids).Undated := by
  intro cached held
  obtain ⟨entry, given, rfl⟩ := Table.exists_mem_of_mem_values_ofList held
  obtain ⟨id, -, rfl⟩ := List.mem_map.1 given
  exact ⟨_, rfl, rfl⟩

/-- All fetches of such a repository ask the store. -/
theorem run_fetch_unplaced {payload : Nat} {ids : List String} {id : String}
    {remembered : GuildRepository}
    (remembering : (unplaced payload ids).remember (.int 0) (.text id) none = .ok remembered) :
    fetch (.int 0) (.text id) (unplaced payload ids) =
      ⟨[.queried (.find "guilds" "id" (.text id))], remembered, .ok none⟩ :=
  have undated := undated_unplaced payload ids
  run_fetch_of_rows rfl (undated.served? rfl id) (undated.evict rfl) rfl remembering

/-- The guild of an earlier fetch is kept by the next one, and not served. -/
theorem not_serves_unplaced (payload : Nat) :
    fetch (.int 0) (.text "2") (unplaced payload ["1"]) =
        ⟨[.queried (.find "guilds" "id" (.text "2"))], unplaced payload ["1", "2"], .ok none⟩ ∧
      ¬(unplaced payload ["1", "2"]).Serves (.int 0) (.text "2") := by
  refine ⟨run_fetch_unplaced rfl, fun serves => ?_⟩
  have served := serves (.text "1") ⟨.text "1", .float (.nan 0), none⟩ (by decide) rfl
  rw [run_fetch_unplaced rfl] at served
  cases served

/-- The first of two fetches. -/
theorem after_fetch_nan (payload : Nat) :
    (create true rowless (.float (.nan payload)) .flat).after
        [.fetch (.int 0) (.text "1")] = unplaced payload ["1"] := by
  have first : fetch (.int 0) (.text "1") (unplaced payload []) =
      ⟨[.queried (.find "guilds" "id" (.text "1"))], unplaced payload ["1"], .ok none⟩ :=
    run_fetch_unplaced rfl
  exact congrArg Outcome.state first

theorem not_keepsServable_nan (payload : Nat) : ¬KeepsServable (.float (.nan payload)) := by
  intro keeps
  have reading := isReading_int 0
  obtain ⟨fetched, unserved⟩ := not_serves_unplaced payload
  have serves := keeps rowless .flat [.fetch (.int 0) (.text "1")]
    (List.forall_mem_singleton.2 reading) (.int 0) (.text "2") none reading
  rw [after_fetch_nan, fetched] at serves
  exact unserved (serves ⟨_, List.mem_singleton.2 rfl⟩ rfl)

/-! ### Lifetimes that are accepted -/

/-- The lifetime of accepted settings is a number that is not less than zero. -/
theorem exists_of_validate {config : Config} (accepted : config.validate = .ok ()) :
    ∃ span, config.cacheLifetime.number? = some span ∧ span.lt (.int 0) = false := by
  rw [Config.validate] at accepted
  split at accepted
  · cases accepted
  · obtain ⟨negative, compared, judged⟩ := bind_eq_ok_iff.1 accepted
    cases negative with
    | true => cases judged
    | false => exact Value.exists_of_compare rfl compared

/-- **Nothing is left that is not served, exactly if the lifetime is at least zero.** Accepted is
every lifetime that is not less than zero. -/
theorem keepsServable_iff {config : Config} (accepted : config.validate = .ok ()) :
    KeepsServable config.cacheLifetime ↔
      Value.compare .atMost (.int 0) config.cacheLifetime = .ok true := by
  obtain ⟨span, isSpan, notLess⟩ := exists_of_validate accepted
  have compared : Value.compare .atMost (.int 0) config.cacheLifetime =
      .ok ((Number.int 0).le span) := Value.compare_of_number? .atMost rfl isSpan
  rw [compared, Except.ok.injEq, Number.zero_le_iff notLess]
  constructor
  · intro keeps
    cases placed : span.point? with
    | some p => exact ⟨p, placed⟩
    | none =>
      obtain ⟨payload, lifetime⟩ := Number.exists_of_point?_eq_none isSpan placed
      rw [lifetime] at keeps
      exact absurd keeps (not_keepsServable_nan payload)
  · rintro placed store room occurrences regular now id settings reading fetched ⟨statement, asked⟩
    have dated : ((create true store config.cacheLifetime room).after occurrences).Dated
        config.cacheLifetime :=
      dated_after (dated_create true store _ room) ⟨span, isSpan, placed⟩ regular
    exact dated.serves_of_fetch reading asked

/-- Settings without an end to what is remembered are accepted. -/
theorem keepsServable_infinite :
    let config : Config := { token := .text "token", cacheLifetime := .float (.infinite false) }
    config.validate = .ok () ∧ KeepsServable config.cacheLifetime :=
  ⟨rfl, (keepsServable_iff rfl).2 rfl⟩

/-- A lifetime that is not a number is read from the environment and accepted. Of two guilds that
are fetched the first one stays in the cache, and is not served. -/
theorem not_serves_of_accepted :
    let config : Config := { token := .text "token", cacheLifetime := .float (.nan 0) }
    let repository := (create true rowless config.cacheLifetime .flat).after
      [.fetch (.int 0) (.text "1")]
    let fetched := fetch (.int 0) (.text "2") repository
    Config.ofEnvironment (.ofList [("DISCORD_TOKEN", "token"), ("GUILD_CACHE_TTL", "nan")]) =
        .ok config ∧ config.validate = .ok () ∧
      fetched.events = [.queried (.find "guilds" "id" (.text "2"))] ∧ fetched.result = .ok none ∧
        (fetched.state.cached? (.text "1")).isSome ∧
          ¬fetched.state.Serves (.int 0) (.text "2") := by
  intro config repository fetched
  have ran : fetched = ⟨[.queried (.find "guilds" "id" (.text "2"))], unplaced 0 ["1", "2"],
      .ok none⟩ := by
    show fetch _ _ ((create true rowless (.float (.nan 0)) .flat).after _) = _
    rw [after_fetch_nan, (not_serves_unplaced 0).1]
  rw [ran]
  exact ⟨by rfl, rfl, rfl, rfl, rfl, (not_serves_unplaced 0).2⟩

end GuildRepository

end CommandRouter
