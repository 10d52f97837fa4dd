import CommandRouter.Proofs.Guild.Storage
import CommandRouter.Proofs.Limits

/-!
# Settings from any texts

The columns of a row are texts that anybody may have written. A text that is no JSON, or that is
JSON but no map, stands for the empty map. A map may have any keys and values; what comes out of it
has lower-case keys that are not empty, and strings as values. No key is lost but the empty one: a
key with half of a surrogate pair is as good as any other.

There are two things that are not put right: a text beyond the limits of the reader, and an id that
has no text. Their fault is that of the row, and no settings come out of it, however well the texts
are formed. What was read from a text has a text itself, so nothing else can fail.

## Main results

* `GuildSettings.columnMap_text` is the map of a column that holds a text.
* `GuildSettings.ofRow_eq_error_iff` says which faults a row of texts has, and
  `GuildSettings.exists_ofRow_iff` when it has none.
* `GuildSettings.ofRow_of_texts` says when settings come out of a row, and what is known of them.
-/

namespace CommandRouter

namespace GuildSettings

variable {room : Room} {row : Row} {id : Value} {prefixes aliases : String}
  {settings : GuildSettings}

/-! ### Columns -/

/-- Pairs that can be written are shown, and no key is lost but the empty one. -/
theorem exists_shownPairs {pairs : List (Value × Value)}
    (writable : Value.areWritablePairs pairs = true) :
    ∃ shown, shownPairs pairs = .ok shown ∧ ∀ (label : Label) (value : Value),
      (label.toValue, value) ∈ pairs → label.isEmpty = false →
        label.lowered ∈ shown.map Prod.fst := by
  induction pairs with
  | nil => exact ⟨[], rfl, fun _ _ among => nomatch among⟩
  | cons pair later ih =>
    obtain ⟨key, value⟩ := pair
    simp only [Value.areWritablePairs, Bool.and_eq_true] at writable
    obtain ⟨shown, rest, kept⟩ := ih writable.2
    rw [shownPairs, rest]
    split
    · obtain ⟨first, isFirst⟩ := Value.exists_ofShown_iff.2 writable.1.1
      obtain ⟨string, isString⟩ := Value.exists_shown_iff.2 writable.1.2
      rw [isFirst, ok_bind, isString, ok_bind, ok_bind]
      refine ⟨_, rfl, fun label other among named => ?_⟩
      rcases List.mem_cons.1 among with same | among
      · cases same
        rw [Label.ofShown_toValue] at isFirst
        cases isFirst
        exact List.mem_cons_self
      · exact List.mem_cons_of_mem _ (kept label other among named)
    · rename_i absent
      refine ⟨shown, rfl, fun label other among named => ?_⟩
      rcases List.mem_cons.1 among with same | among
      · cases same
        exact absurd (Label.truthy_toValue label ▸ by simp [named]) absent
      · exact kept label other among named

/-- What was read from a text can be decoded. -/
theorem exists_mapPairs_of_read {text : String} {value : Value}
    (read : Json.read room.nesting text = .ok value) : ∃ pairs, mapPairs value = .ok pairs := by
  have writable := Json.isWritable_of_read read
  cases value with
  | dict pairs =>
    obtain ⟨shown, same, -⟩ := exists_shownPairs writable
    exact ⟨shown, same⟩
  | _ => exact ⟨[], rfl⟩

/-- What a column of text holds is decided by how the text is read. -/
theorem columnMap_text (room : Room) (text : String) :
    columnMap room (.text text) =
      match Json.read room.nesting text with
      | .ok value => (mapPairs value).map .ofList
      | .error .malformed => .ok .empty
      | .error (.beyond fault) => .error fault := by
  rw [columnMap, columnPairs]
  split
  · rename_i empty
    rw [String.isEmpty_iff] at empty
    subst empty
    rfl
  · rcases Json.read room.nesting text with (_ | fault) | value <;> rfl

/-- A text fails to be a column exactly if it is beyond a limit of the reader. -/
theorem columnMap_text_eq_error_iff {text : String} {fault : Fault} :
    columnMap room (.text text) = .error fault ↔
      Json.read room.nesting text = .error (.beyond fault) := by
  rw [columnMap_text]
  rcases read : Json.read room.nesting text with (_ | fault) | value
  · simp
  · simp
  · obtain ⟨pairs, decoded⟩ := exists_mapPairs_of_read read
    simp [decoded, Except.map]

/-- A text within the limits holds a map. -/
theorem exists_columnMap_text (room : Room) {text : String}
    (within : Json.WithinLimits room.nesting text) :
    ∃ table, columnMap room (.text text) = .ok table := by
  cases held : columnMap room (.text text) with
  | ok table => exact ⟨table, rfl⟩
  | error fault =>
    exact absurd (columnMap_text_eq_error_iff.1 held)
      (Json.read_ne_beyond_of_withinLimits within fault)

/-- A text that is no map holds nothing. -/
theorem eq_empty_of_columnMap_text {text : String} {table : Table Label Value}
    (held : columnMap room (.text text) = .ok table)
    (other : ∀ pairs, Json.read room.nesting text ≠ .ok (.dict pairs)) : table = .empty := by
  rw [columnMap_text] at held
  rcases read : Json.read room.nesting text with (_ | fault) | value
  · rw [read] at held
    cases held
    rfl
  · rw [read] at held
    cases held
  · have nothing : mapPairs value = .ok [] := by
      rw [mapPairs]
      intro pairs same
      exact other pairs (by rw [read, same])
    rw [read] at held
    dsimp only at held
    rw [nothing] at held
    cases held
    rfl

/-- Only the empty key is lost when keys are lower-cased. -/
theorem mem_keys_lowerKeys {table : Table Label Value} {label : Label}
    (present : label ∈ table.keys) (named : label.isEmpty = false) :
    label.lowered ∈ (lowerKeys table).keys := by
  obtain ⟨entry, held, rfl⟩ := List.mem_map.1 present
  rw [lowerKeys, Table.mem_keys_ofList, List.map_map]
  exact List.mem_map.2 ⟨entry, List.mem_filter.2 ⟨held, by simp [named]⟩, rfl⟩

/-- Whether a map has all keys of the map that a text is read as, in lower case and except for the
empty one. -/
def KeepsKeys (room : Room) (text : String) (table : Table Label Value) : Prop :=
  ∀ pairs, Json.read room.nesting text = .ok (.dict pairs) → ∀ (label : Label) (value : Value),
    (label.toValue, value) ∈ pairs → label.isEmpty = false → label.lowered ∈ table.keys

theorem keepsKeys_lowerKeys {text : String} {table : Table Label Value}
    (held : columnMap room (.text text) = .ok table) : KeepsKeys room text (lowerKeys table) := by
  intro pairs read label value among named
  obtain ⟨shown, decoded, kept⟩ := exists_shownPairs (Json.isWritable_of_read read)
  have entries : table = .ofList shown := by
    rw [columnMap_text, read] at held
    dsimp only at held
    rw [mapPairs, decoded] at held
    exact (Except.ok.inj held).symm
  have listed := kept label value among named
  rw [← Label.lowered_lowered, entries]
  exact mem_keys_lowerKeys (Table.mem_keys_ofList.2 listed) (by rw [Label.isEmpty_lowered, named])

/-! ### Rows of texts -/

theorem ofRow_eq (hasId : row.get? "id" = some id)
    (hasPrefixes : row.get? "prefixes" = some (.text prefixes))
    (hasAliases : row.get? "aliases" = some (.text aliases)) :
    ofRow room row = do
      let id ← id.shown
      let prefixes ← columnMap room (.text prefixes)
      let aliases ← columnMap room (.text aliases)
      return normalized id prefixes aliases := by
  rw [ofRow, hasId, hasPrefixes, hasAliases]
  rfl

/-- **The fault of a row is that of an id without a text, or of a text beyond the limits.** That of
the id comes first, and that of the prefixes before that of the aliases. -/
theorem ofRow_eq_error_iff (room : Room) (hasId : row.get? "id" = some id)
    (hasPrefixes : row.get? "prefixes" = some (.text prefixes))
    (hasAliases : row.get? "aliases" = some (.text aliases)) (fault : Fault) :
    ofRow room row = .error fault ↔
      id.shown = .error fault ∨
        id.isWritable = true ∧
          (Json.read room.nesting prefixes = .error (.beyond fault) ∨
            (∀ other, Json.read room.nesting prefixes ≠ .error (.beyond other)) ∧
              Json.read room.nesting aliases = .error (.beyond fault)) := by
  simp only [ne_eq, ← columnMap_text_eq_error_iff, ofRow_eq hasId hasPrefixes hasAliases,
    ← Value.exists_shown_iff]
  rcases id.shown with unshown | string
  · simp
  · rcases columnMap room (.text prefixes) with first | first
    · simp
    · rcases columnMap room (.text aliases) with second | second <;> simp [pure, Except.pure]

/-- Settings come out of a row of texts exactly if its id has a text and no text is beyond the
limits. -/
theorem exists_ofRow_iff (room : Room) (hasId : row.get? "id" = some id)
    (hasPrefixes : row.get? "prefixes" = some (.text prefixes))
    (hasAliases : row.get? "aliases" = some (.text aliases)) :
    (∃ settings, ofRow room row = .ok settings) ↔
      id.isWritable = true ∧ ∀ fault, Json.read room.nesting prefixes ≠ .error (.beyond fault) ∧
        Json.read room.nesting aliases ≠ .error (.beyond fault) := by
  simp only [ne_eq, ← columnMap_text_eq_error_iff, ofRow_eq hasId hasPrefixes hasAliases,
    ← Value.exists_shown_iff]
  rcases id.shown with unshown | string
  · simp
  · rcases columnMap room (.text prefixes) with first | first
    · refine ⟨?_, fun readable => absurd rfl (readable.2 first).1⟩
      rintro ⟨settings, ⟨⟩⟩
    · rcases columnMap room (.text aliases) with second | second <;> simp [pure, Except.pure]

/-- **Settings come out of every row of texts within the limits of the reader**, and in general
exactly if the id has a text and no text is beyond them. Whatever texts they come from, their keys
are not empty and in lower case, and none of the others is lost; their values are strings, and a
text that is no map stands for none. -/
theorem ofRow_of_texts (room : Room) (hasId : row.get? "id" = some id)
    (hasPrefixes : row.get? "prefixes" = some (.text prefixes))
    (hasAliases : row.get? "aliases" = some (.text aliases)) :
    (id.isWritable = true → Json.WithinLimits room.nesting prefixes →
        Json.WithinLimits room.nesting aliases → ∃ settings, ofRow room row = .ok settings) ∧
      ((∃ settings, ofRow room row = .ok settings) ↔
        id.isWritable = true ∧ ∀ fault, Json.read room.nesting prefixes ≠ .error (.beyond fault) ∧
          Json.read room.nesting aliases ≠ .error (.beyond fault)) ∧
      ∀ settings, ofRow room row = .ok settings →
        id.shown = .ok settings.id ∧
          HasLowerKeys settings.prefixes ∧ HasLowerKeys settings.aliases ∧
          settings.WellKinded ∧
          KeepsKeys room prefixes settings.prefixes ∧ KeepsKeys room aliases settings.aliases ∧
          ((∀ pairs, Json.read room.nesting prefixes ≠ .ok (.dict pairs)) →
            settings.prefixes = .empty) ∧
          ((∀ pairs, Json.read room.nesting aliases ≠ .ok (.dict pairs)) →
            settings.aliases = .empty) := by
  have decodes := exists_ofRow_iff room hasId hasPrefixes hasAliases
  refine ⟨fun named first second => decodes.2 ⟨named, fun fault => ?_⟩, decodes,
    fun settings decoded => ?_⟩
  · exact ⟨Json.read_ne_beyond_of_withinLimits first fault,
      Json.read_ne_beyond_of_withinLimits second fault⟩
  · obtain ⟨lowerPrefixes, lowerAliases⟩ := hasLowerKeys_of_ofRow decoded
    have strings := wellKinded_of_ofRow decoded
    rw [ofRow_eq hasId hasPrefixes hasAliases] at decoded
    obtain ⟨string, shown, decoded⟩ := bind_eq_ok_iff.1 decoded
    obtain ⟨ofPrefixes, heldPrefixes, decoded⟩ := bind_eq_ok_iff.1 decoded
    obtain ⟨ofAliases, heldAliases, decoded⟩ := bind_eq_ok_iff.1 decoded
    cases decoded
    refine ⟨shown, lowerPrefixes, lowerAliases, strings, keepsKeys_lowerKeys heldPrefixes,
      keepsKeys_lowerKeys heldAliases, fun other => ?_, fun other => ?_⟩
    · rw [eq_empty_of_columnMap_text heldPrefixes other]
      rfl
    · rw [eq_empty_of_columnMap_text heldAliases other]
      rfl

/-- A row whose prefixes are a map with all sorts of keys and values, and whose aliases are no
JSON. -/
def motley : Row :=
  ⟨[(.text "id", .int 7),
    (.text "prefixes", .text "\x7b\"A\": [1, \x7b\"x\": NaN\x7d], \"\": 3, \"\\ud800\": null\x7d"),
    (.text "aliases", .text "!ping")]⟩

/-- The key with half of a surrogate pair is kept beside the other one. -/
theorem ofRow_of_texts_motley :
    motley.get? "id" = some (.int 7) ∧
      motley.get? "prefixes" =
        some (.text "\x7b\"A\": [1, \x7b\"x\": NaN\x7d], \"\": 3, \"\\ud800\": null\x7d") ∧
      motley.get? "aliases" = some (.text "!ping") ∧
      ∃ settings, ofRow { nesting := 9 } motley = .ok settings ∧
        HasLowerKeys settings.prefixes ∧ settings.WellKinded ∧
        (.text "a" ∈ settings.prefixes.keys ∧ .ragged [0xD800] ∈ settings.prefixes.keys) ∧
        settings.aliases = .empty := by
  have hasId : motley.get? "id" = some (.int 7) := rfl
  obtain ⟨decodes, -, known⟩ := ofRow_of_texts { nesting := 9 } hasId rfl rfl
  obtain ⟨settings, decoded⟩ := decodes (by decide +kernel) (by decide +kernel) (by decide +kernel)
  obtain ⟨-, lowered, -, strings, -, -, -, noAliases⟩ := known settings decoded
  have malformed : Json.read 9 "!ping" = .error .malformed := rfl
  have found : ((ofRow { nesting := 9 } motley).toOption.map fun settings =>
      settings.prefixes.keys) = some [.text "a", .ragged [0xD800]] := by
    decide +kernel
  rw [decoded] at found
  have keys : settings.prefixes.keys = [.text "a", .ragged [0xD800]] := Option.some.inj found
  refine ⟨hasId, rfl, rfl, settings, decoded, lowered, strings, ?_,
    noAliases fun pairs other => ?_⟩
  · rw [keys]
    exact ⟨List.mem_cons_self, List.mem_cons_of_mem _ List.mem_cons_self⟩
  · cases malformed.symm.trans other

/-- A text of some sevens, at least one. -/
def sevens (more : Nat) : String := String.ofList ('7' :: List.replicate more '7')

/-- A row with a number in the place of its prefixes. -/
def numbered (more : Nat) : Row :=
  ⟨[(.text "id", .text "1"), (.text "prefixes", .text (sevens more)),
    (.text "aliases", .text "\x7b\x7d")]⟩

theorem ofRow_numbered (room : Room) {more : Nat} (long : maxIntegerDigits ≤ more) :
    ofRow room (numbered more) = .error (.tooManyDigits (more + 1)) := by
  have digits : ∀ d ∈ '7' :: List.replicate more '7', d.isDigit = true := by
    simp only [List.forall_mem_cons]
    exact ⟨rfl, fun d among => List.eq_of_mem_replicate among ▸ rfl⟩
  have size : ('7' :: List.replicate more '7').length = more + 1 := by
    rw [List.length_cons, List.length_replicate]
  have beyond := Json.read_of_digits room.nesting digits (by decide) (by omega)
  rw [size] at beyond
  exact (ofRow_eq_error_iff room rfl rfl rfl _).2 (.inr ⟨rfl, .inl beyond⟩)

/-- **No settings come out of a row with a long number**, however much room there is. -/
theorem not_exists_ofRow_numbered :
    (numbered 4300).get? "id" = some (.text "1") ∧
      (numbered 4300).get? "prefixes" = some (.text (sevens 4300)) ∧
      (numbered 4300).get? "aliases" = some (.text "\x7b\x7d") ∧
      ∀ room, ofRow room (numbered 4300) = .error (.tooManyDigits 4301) ∧
        ¬∃ settings, ofRow room (numbered 4300) = .ok settings := by
  refine ⟨rfl, rfl, rfl, fun room => ?_⟩
  have failed : ofRow room (numbered 4300) = .error (.tooManyDigits 4301) :=
    ofRow_numbered room (Nat.le_refl 4300)
  refine ⟨failed, ?_⟩
  rintro ⟨settings, decoded⟩
  rw [failed] at decoded
  cases decoded

end GuildSettings

end CommandRouter
