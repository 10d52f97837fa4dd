import CommandRouter.Proofs.Guild.Columns
import CommandRouter.Proofs.Guild.Rows
import CommandRouter.Proofs.Numbers

/-!
# What a save leaves behind

A save has three places at which it could stop halfway: the statement, the cache, and the decoding
of what the store gives back. Only the first one fails. The guild of the settings is named by a
text, so the cache can forget it; and what was written of maps of strings is always read again,
because it has one bracket and no digits outside of its strings. So a save that fails has failed at
its statement, and nothing has happened. A save that succeeds has gone all the way.

## Main definitions

* `Json.StaysInside` says that characters inside a string do not end it.
* `Json.IsNeutral` says that a character neither counts as a digit nor opens a bracket.
* `GuildRepository.Timely` says that a time is fit for a fetch that memory does not serve.
* `GuildRepository.Saved` says that one guild was saved and nothing else was done.

## Main results

* `Json.withinLimits_writeTable` says that what is written of strings is within the limits.
* `GuildSettings.exists_ofRow_toRecord` is its consequence for settings that are stored.
* `GuildRepository.timely_of_float` says that double-precision times are always fit for a fetch.
* `GuildRepository.fetch_of_forgotten` is the fetch of a guild that memory has forgotten.
* `GuildRepository.save_all_or_nothing` puts them together.
-/

namespace CommandRouter

/-! ### What is written of strings -/

namespace Json

variable {cs rest : List Char}

/-- Whether characters inside a string do not end it. -/
def StaysInside (cs : List Char) : Prop := ∀ rest, inside (cs ++ rest) = inside rest

namespace StaysInside

theorem append {more : List Char} (first : StaysInside cs) (second : StaysInside more) :
    StaysInside (cs ++ more) := by
  intro rest
  rw [List.append_assoc, first, second]

theorem flatMap {α : Type} {f : α → List Char} (h : ∀ a, StaysInside (f a)) (items : List α) :
    StaysInside (items.flatMap f) := by
  induction items with
  | nil => exact fun _ => rfl
  | cons a later ih =>
    rw [List.flatMap_cons]
    exact (h a).append ih

theorem escape (c : Char) : StaysInside ['\x5C', c] := fun rest => inside_escape c rest

end StaysInside

theorem ne_hexDigit : ∀ n < 16, hexDigit n ≠ '\x22' ∧ hexDigit n ≠ '\x5C' := by decide +kernel

theorem staysInside_unitEscape (unit : Nat) : StaysInside (unitEscape unit) := by
  intro rest
  have digits : ∀ d ∈ hexDigits 4 unit, d ≠ '\x22' ∧ d ≠ '\x5C' := by
    rw [hexDigits_four]
    simp only [List.forall_mem_cons]
    have digit (m : Nat) := ne_hexDigit (m % 16) (Nat.mod_lt m (by decide))
    exact ⟨digit _, digit _, digit _, digit _, List.forall_mem_nil _⟩
  rw [unitEscape, List.cons_append, List.cons_append, inside_escape, inside_append digits]

/-- No character ends the string in which it is written. -/
theorem staysInside_escapeChar (c : Char) : StaysInside (escapeChar c) := by
  rw [escapeChar]
  split
  · exact .escape c
  rename_i ordinary
  iterate 5
    split
    · exact .escape _
  split
  · intro rest
    exact inside_cons_of_ne (fun h => ordinary (.inl h)) (fun h => ordinary (.inr h)) rest
  split
  · exact staysInside_unitEscape _
  · exact (staysInside_unitEscape _).append (staysInside_unitEscape _)

theorem staysInside_codeChars (code : Nat) : StaysInside (codeChars escapeChar code) := by
  rw [codeChars]
  split
  · exact staysInside_unitEscape code
  · exact staysInside_escapeChar _

/-- Of what is written of a string only its marks are outside. -/
theorem outside_marks (body : StaysInside cs) (rest : List Char) :
    outside ('\x22' :: cs ++ ['\x22'] ++ rest) = '\x22' :: '\x22' :: outside rest := by
  rw [List.cons_append, List.cons_append, outside, List.append_assoc, body]
  show '\x22' :: inside ('\x22' :: rest) = _
  rw [inside]

theorem outside_write {value : Value} (string : value.IsString) (rest : List Char) :
    outside ((write value).toList ++ rest) = '\x22' :: '\x22' :: outside rest := by
  rcases Value.isString_iff.1 string with ⟨s, rfl⟩ | ⟨codes, rfl⟩
  · rw [write, writeText, String.toList_ofList]
    exact outside_marks (.flatMap staysInside_escapeChar s.toList) rest
  · rw [write, writeCodes, String.toList_ofList]
    exact outside_marks (.flatMap staysInside_codeChars codes) rest

/-- A key is written as the string that it is. -/
theorem writeKey_toValue (label : Label) : writeKey label.toValue = write label.toValue := by
  cases label <;> rfl

/-- Outside of the strings of a member there are four marks, a colon and a blank. -/
theorem outside_memberChars {entry : Label × Value} (string : entry.2.IsString)
    (rest : List Char) :
    outside (memberChars entry ++ rest) =
      ['\x22', '\x22', ':', ' ', '\x22', '\x22'] ++ outside rest := by
  have key := outside_write (Value.isString_toValue entry.1)
    (':' :: ' ' :: ((write entry.2).toList ++ rest))
  have colon : outside (':' :: ' ' :: ((write entry.2).toList ++ rest)) =
      ':' :: ' ' :: outside ((write entry.2).toList ++ rest) := by
    rw [outside_cons_of_ne (by decide), outside_cons_of_ne (by decide)]
  rw [colon, outside_write string] at key
  rw [memberChars, writeKey_toValue, List.append_assoc]
  exact key

/-- Neither a digit nor a bracket that opens. -/
def IsNeutral (c : Char) : Prop := c.isDigit = false ∧ opens c = false

/-- Outside of the strings of some members there are no digits and no brackets. -/
theorem exists_outside_bodyChars {entries : List (Label × Value)}
    (strings : ∀ entry ∈ entries, entry.2.IsString) (rest : List Char) :
    ∃ between, outside (bodyChars entries ++ rest) = between ++ outside rest ∧
      ∀ c ∈ between, IsNeutral c := by
  have member : ∀ c ∈ ['\x22', '\x22', ':', ' ', '\x22', '\x22'], IsNeutral c := by
    simp [IsNeutral, opens]
  have separator : ∀ c ∈ [',', ' '], IsNeutral c := by simp [IsNeutral, opens]
  induction entries with
  | nil => exact ⟨[], rfl, List.forall_mem_nil _⟩
  | cons entry later ih =>
    obtain ⟨string, others⟩ := List.forall_mem_cons.1 strings
    cases later with
    | nil =>
      rw [bodyChars, List.map_singleton, List.intercalate_singleton]
      exact ⟨_, outside_memberChars string rest, member⟩
    | cons next later =>
      obtain ⟨between, split, plain⟩ := ih others
      have comma : outside (',' :: ' ' :: (bodyChars (next :: later) ++ rest)) =
          ',' :: ' ' :: (between ++ outside rest) := by
        rw [outside_cons_of_ne (by decide), outside_cons_of_ne (by decide), split]
      refine ⟨['\x22', '\x22', ':', ' ', '\x22', '\x22'] ++ ([',', ' '] ++ between), ?_, ?_⟩
      · rw [bodyChars_cons_cons, List.append_assoc, outside_memberChars string]
        exact congrArg (['\x22', '\x22', ':', ' ', '\x22', '\x22'] ++ ·) comma
      · exact List.forall_mem_append.2 ⟨member, List.forall_mem_append.2 ⟨separator, plain⟩⟩

/-- Without digits, few brackets are enough for a text to fit. -/
theorem fits_of_countP_opens_le {room : Nat} (digits : ∀ c ∈ outside cs, c.isDigit = false)
    (brackets : (outside cs).countP opens ≤ room) : Fits room cs where
  short later h := by
    have none : later.takeWhile Char.isDigit = [] := by
      rw [List.takeWhile_eq_nil_iff]
      intro nonempty
      simp [digits _ (h.mem (List.getElem_mem nonempty))]
    rw [none]
    exact Nat.zero_le _
  shallow front h := by
    have part := h.sublist.countP_le (p := opens)
    omega

/-- **What is written of a map of strings is within the limits**, as soon as there is room for one
bracket. -/
theorem withinLimits_writeTable {limit : Nat} (positive : 0 < limit) {table : Table Label Value}
    (strings : ∀ value ∈ table.values, value.IsString) : WithinLimits limit (writeTable table) := by
  have entries : ∀ entry ∈ table.toList, entry.2.IsString :=
    fun entry among => strings _ (List.mem_map.2 ⟨entry, among, rfl⟩)
  obtain ⟨between, split, plain⟩ := exists_outside_bodyChars entries ['\x7d']
  have whole : outside (writeTable table).toList = '\x7b' :: (between ++ ['\x7d']) := by
    rw [toList_writeTable, List.cons_append, outside_cons_of_ne (by decide), split]
    rfl
  refine fits_of_countP_opens_le ?_ ?_
  · rw [whole, List.forall_mem_cons, List.forall_mem_append]
    exact ⟨rfl, fun c among => (plain c among).1, List.forall_mem_singleton.2 rfl⟩
  · have none : between.countP opens = 0 :=
      List.countP_eq_zero.2 fun c among => by simp [(plain c among).2]
    have closing : ['\x7d'].countP opens = 0 := rfl
    have opening : opens '\x7b' = true := rfl
    rw [whole, List.countP_cons, List.countP_append, none, closing, if_pos opening]
    exact positive

end Json

namespace GuildSettings

variable {settings : GuildSettings}

/-- **What was stored of settings is decoded.** -/
theorem exists_ofRow_toRecord (room : Room) (strings : settings.WellKinded) {id : String}
    (named : settings.id = .text id) :
    ∃ decoded, ofRow room (.ofRecord settings.toRecord) = .ok decoded := by
  obtain ⟨prefixes, first⟩ := exists_columnMap_text room
    (Json.withinLimits_writeTable room.nesting_pos strings.prefixes)
  obtain ⟨aliases, second⟩ := exists_columnMap_text room
    (Json.withinLimits_writeTable room.nesting_pos strings.aliases)
  rw [ofRow_ofRecord_toRecord, named, Value.shown_text, ok_bind, first, ok_bind, second, ok_bind]
  exact ⟨_, rfl⟩

end GuildSettings

namespace GuildRepository

variable {repository : GuildRepository} {engine : GuildEngine} {rows : Rows} {id : String}

/-- Whether every expiry can be compared with a time, and the next one can be found. -/
structure Timely (repository : GuildRepository) (now : Value) : Prop where
  /-- The expiries can be compared. -/
  comparable : ∀ cached ∈ repository.cache.values, ∃ expired, cached.expiresBy now = .ok expired
  /-- The lifetime can be added. -/
  addable : ∃ expiry, now.add repository.lifetime = .ok expiry

/-- Double-precision numbers are fit for times, whatever they are. -/
theorem timely_of_float {lifetime time : Binary64} (span : repository.lifetime = .float lifetime)
    (dated : ∀ cached ∈ repository.cache.values, ∃ expiry, cached.expiry = .float expiry) :
    repository.Timely (.float time) where
  comparable cached held := by
    obtain ⟨expiry, isFloat⟩ := dated cached held
    rw [Cached.expiresBy, isFloat]
    exact ⟨_, Value.compare_of_number? .atMost rfl rfl⟩
  addable := by
    rw [span]
    exact ⟨_, rfl⟩

/-- A guild that memory has forgotten is fetched from the rows. -/
theorem fetch_of_forgotten (source : repository.source = .ofRows engine rows [])
    (forgotten : repository.cache.get? (.text id) = none) {now : Value}
    (timely : repository.Timely now) {settings : Option GuildSettings}
    (reading : rows.settings repository.room id = .ok settings) :
    (fetch now (.text id) repository).result = .ok settings := by
  have missed : repository.served? now (.text id) = .ok none := by
    have looked : repository.cached? (.text id) = none := forgotten
    rw [served?, if_pos (by rfl), looked]
  obtain ⟨expiry, sum⟩ := timely.addable
  have evicting := evict_eq_ok timely.comparable
  obtain ⟨remembered, remembering⟩ : ∃ remembered,
      ({ repository with
        cache := repository.cache.filter fun _ cached => !cached.isExpired now } :
          GuildRepository).remember now (.text id) settings = .ok remembered := by
    rw [remember, sum]
    exact ⟨_, rfl⟩
  rw [run_fetch_of_rows source missed evicting reading remembering]

/-- Whether settings were saved for a guild, and nothing else was done. -/
structure Saved (before after : GuildRepository) (id : String)
    (settings : Option GuildSettings) : Prop where
  /-- All rows of others are what they were. -/
  elsewhere : ∀ place, place ≠ .under (.text id) →
    after.source.store.rows.get? place = before.source.store.rows.get? place
  /-- The cache has forgotten the guild. -/
  forgotten : after.cache.get? (.text id) = none
  /-- The cache holds of others what it held. -/
  others : ∀ key, key ≠ .text id → after.cache.get? key = before.cache.get? key
  /-- A fetch gives the settings back. -/
  fetched : ∀ now, before.Timely now → (fetch now (.text id) after).result = .ok settings

/-- **A save without a fault that waits saves the guild.** -/
theorem saved_of_save (source : repository.source = .ofRows engine rows [])
    {settings : GuildSettings} (named : settings.id = .text id) (strings : settings.WellKinded) :
    ∃ decoded, (save settings repository).result = .ok (some decoded) ∧
      Saved repository (save settings repository).state id (some decoded) := by
  obtain ⟨decoded, isDecoded⟩ := GuildSettings.exists_ofRow_toRecord repository.room strings named
  have result : decode repository.room (some (.ofRecord settings.toRecord)) =
      .ok (some decoded) := by
    rw [decode, isDecoded]
    rfl
  rw [run_save_of_rows source named]
  refine ⟨decoded, result, ?_, ?_, ?_, ?_⟩
  · intro place elsewhere
    rw [source]
    exact Table.get?_insert_of_ne rows _ (Ne.symm elsewhere)
  · exact Table.get?_erase_self ..
  · intro key other
    show (repository.cache.erase (.text id)).get? key = repository.cache.get? key
    rw [Table.get?_erase, if_neg (Ne.symm other)]
  · intro now timely
    refine fetch_of_forgotten rfl (Table.get?_erase_self ..) ⟨fun cached held => ?_, ?_⟩ ?_
    · exact timely.comparable cached (Table.mem_values_of_mem_values_filter held)
    · exact timely.addable
    · exact (GuildStore.settings_put_self ⟨engine, repository.room, rows⟩ id settings).trans result

/-- **A save does everything or nothing.** Without a connection nothing is saved, and nothing
changes. With one it fails exactly if a fault waits, and then the rows and the cache stay as they
are; otherwise the guild of the settings is saved. -/
theorem save_all_or_nothing {failures : List Fault} {connected : Bool}
    (source : repository.source = { RowSource.ofRows engine rows failures with connected })
    {settings : GuildSettings} (named : settings.id = .text id) (strings : settings.WellKinded) :
    let outcome := save settings repository
    (connected = false → outcome.result = .ok none ∧ outcome.state = repository) ∧
      ((∃ fault, outcome.result = .error fault) ↔ connected = true ∧ failures ≠ []) ∧
      (∀ fault, outcome.result = .error fault →
        outcome.state.source.store.rows = repository.source.store.rows ∧
          outcome.state.cache = repository.cache) ∧
      (∀ found, connected = true → outcome.result = .ok found →
        ∃ decoded, found = some decoded ∧
          Saved repository outcome.state id (some decoded)) := by
  dsimp only
  cases connected with
  | false =>
    rw [run_save_of_not_connected (by rw [source])]
    simp
  | true =>
    cases failures with
    | nil =>
      obtain ⟨decoded, result, saved⟩ := saved_of_save source named strings
      rw [result]
      refine ⟨fun absurdity => (by cases absurdity), ?_, ?_, ?_⟩
      · simp
      · simp
      · rintro found - ⟨⟩
        exact ⟨decoded, rfl, saved⟩
    | cons fault later =>
      obtain ⟨state, result⟩ := run_save_of_failing source settings
      rw [result, state]
      refine ⟨fun absurdity => (by cases absurdity), ?_, ?_, ?_⟩
      · simp
      · rintro - -
        rw [source]
        exact ⟨rfl, rfl⟩
      · rintro found - ⟨⟩

/-- A repository that has two guilds in memory, and the row of one of them in store. -/
def remembering : GuildRepository where
  source := .ofRows .inMemory (Rows.put .empty "2" ⟨[(.text "id", .text "2")]⟩) []
  room := .flat
  lifetime := .int 300
  cache := .ofList [(.text "1", ⟨.text "1", .int 5, none⟩), (.text "2", ⟨.text "2", .int 5, none⟩)]

/-- Settings with a prefix that has to be escaped. -/
def escaping : GuildSettings := ⟨.text "1", .ofList [(.text "music", .text "\x22\u00E9")], .empty⟩

theorem save_all_or_nothing_remembering :
    escaping.WellKinded ∧ remembering.Timely (.int 4) ∧
      ∃ decoded, (save escaping remembering).result = .ok (some decoded) ∧
        (save escaping remembering).state.cache.get? (.text "2") =
          remembering.cache.get? (.text "2") ∧
        (fetch (.int 4) (.text "1") (save escaping remembering).state).result =
          .ok (some decoded) := by
  have strings : escaping.WellKinded := by
    constructor <;> simp [escaping, Table.values, Table.ofList, Table.insert, Table.insertEntry,
      Table.empty]
  have timely : remembering.Timely (.int 4) := by
    refine ⟨fun cached held => ?_, ⟨_, rfl⟩⟩
    have expiry : cached.expiry = .int 5 := by
      obtain ⟨pair, among, rfl⟩ := Table.exists_mem_of_mem_values_ofList held
      simp only [List.mem_cons, List.not_mem_nil, or_false] at among
      rcases among with rfl | rfl <;> rfl
    rw [Cached.expiresBy, expiry]
    exact ⟨_, rfl⟩
  have source : remembering.source =
      { RowSource.ofRows .inMemory (Rows.put .empty "2" ⟨[(.text "id", .text "2")]⟩) [] with
        connected := true } := rfl
  obtain ⟨-, fails, -, saves⟩ := save_all_or_nothing source rfl strings
  cases result : (save escaping remembering).result with
  | error fault => exact absurd rfl (fails.1 ⟨fault, result⟩).2
  | ok found =>
    obtain ⟨decoded, rfl, saved⟩ := saves found rfl result
    exact ⟨strings, timely, decoded, rfl, saved.others _ (by decide), saved.fetched _ timely⟩

end GuildRepository

end CommandRouter
