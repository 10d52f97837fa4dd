import CommandRouter.Proofs.Registry.Winner

/-!
# The entry that a bare trigger selects

A word may also be looked up without a prefix. It is then compared with the triggers alone, and
commands of the level `ignored` are left out before the search, so that they are neither found nor
in the way of others.

## The same search

Looking up a line and looking up a bare trigger are written apart: one cuts a line into words and
asks every command for its prefix, the other does neither. They agree where they can be compared. If
the ignored entries are taken out of a table, and every other command is given the empty prefix,
then a line of one word selects there what the word selects as a bare trigger. A trigger with a
blank inside can be looked up bare, but no line selects it.

No prefix is asked for, so what a guild has set does not matter, and no ignored entry is looked at,
so neither does it matter which of them there are.

## Main definitions

* `Entry.Offers` says that an entry may be found by a bare trigger.
* `Registry.WinsBare` describes the winner by its place among the entries.
* `Registry.visible` lists the entries that are not ignored, and `Registry.bare` is the table of
  those with empty prefixes.

## Main results

* `Registry.search_decides` says what a search finds whose test decides a property.
* `Registry.resolve_bare` is the search of a line in the table with empty prefixes.
* `Roster.visible_after` says that registering ignored commands leaves the visible entries.
* `Registry.resolveBare_wins` puts them together.
-/

namespace CommandRouter

/-! ### Triggers without a prefix -/

/-- The empty text in front of a string changes nothing. -/
theorem Value.add_empty {value : Value} (h : value.IsString) :
    (text "").add value = .ok value := by
  rcases isString_iff.1 h with ⟨s, rfl⟩ | ⟨codes, rfl⟩
  · rw [add_text, String.empty_append]
  · rfl

/-- Triggers behind the empty prefix are the triggers alone. -/
theorem isFullTrigger_empty (word : Value) {triggers : List Value}
    (h : ∀ trigger ∈ triggers, trigger.IsString) :
    isFullTrigger word (.text "") triggers = isTrigger word triggers := by
  induction triggers with
  | nil => rfl
  | cons trigger later ih =>
    obtain ⟨first, others⟩ := List.forall_mem_cons.1 h
    rw [isFullTrigger, isTrigger, Value.add_empty first, ok_bind, ih others]

/-- A string is one of some triggers exactly if it is the lower case of one. -/
theorem yields_isTrigger_iff {word : Value} (hword : word.IsString) {triggers : List Value}
    (h : ∀ trigger ∈ triggers, trigger.IsString) :
    Yields (isTrigger word triggers) fun found =>
      (found = true ↔ ∃ t ∈ triggers, t.lowered = .ok word) := by
  rw [← isFullTrigger_empty word h]
  refine (yields_isFullTrigger_iff hword (Value.isString_text "") h).mono fun found hfound => ?_
  rw [hfound]
  refine exists_congr fun t => and_congr_right fun ht => ?_
  rw [Value.add_empty (h t ht), ok_bind]

theorem Rating.isIgnored_iff {rating : Rating} :
    rating.isIgnored = true ↔ rating = .level .ignored := by
  cases rating <;> simp [isIgnored]

namespace Entry

/-- Whether an entry may be found by a bare trigger: it is not ignored, and has a trigger with the
same lower case. -/
def Offers (entry : Entry) (word : String) : Prop :=
  entry.priority ≠ .level .ignored ∧
    ∃ trigger ∈ entry.triggers, trigger.lowered = .ok (.text (lower word))

/-- The test of the search by a bare trigger: ignored entries do not pass. -/
def offers (entry : Entry) (word : String) : Except Fault Bool :=
  if !entry.priority.isIgnored then entry.hasTrigger (.text (lower word)) else .ok false

theorem offers_eq_true_iff {entry : Entry} (strings : ∀ trigger ∈ entry.triggers, trigger.IsString)
    (word : String) : entry.offers word = .ok true ↔ entry.Offers word := by
  obtain ⟨found, tested, hfound⟩ := yields_isTrigger_iff (Value.isString_text (lower word)) strings
  rw [offers, Offers, Ne, ← Rating.isIgnored_iff, ← hfound, hasTrigger, tested]
  cases entry.priority.isIgnored <;> simp

/-- An entry whose command has the empty prefix everywhere. -/
def bare (entry : Entry) : Entry :=
  { entry with command := { entry.command with prefixRule := some fun _ _ => .ok (.text "") } }

@[simp] theorem priority_bare (entry : Entry) : entry.bare.priority = entry.priority := rfl

/-- With the empty prefix an entry answers to its triggers alone, in every context. -/
theorem answers_bare {entry : Entry} (strings : ∀ trigger ∈ entry.triggers, trigger.IsString)
    (context : Option Context) (word : Value) :
    entry.bare.answers context word = entry.hasTrigger word :=
  isFullTrigger_empty word strings

end Entry

namespace Registry

variable {test : Entry → Except Fault Bool} {entries : List Entry}

/-! ### What a search finds -/

/-- A search whose test decides a property finds nothing exactly if no entry has it, and else the
entry that has the place of the winner among those that have it. -/
theorem search_decides {p : Entry → Prop}
    (decides : ∀ entry ∈ entries, test entry = .ok true ↔ p entry) {found : Option Entry}
    (h : search test entries = .ok found) :
    (found = none ↔ ∀ entry ∈ entries, ¬p entry) ∧
      ∀ winner ∈ found, p winner ∧ ∃ before after, entries = before ++ winner :: after ∧
        (∀ rival ∈ before, p rival → winner.Outranks rival) ∧
          ∀ rival ∈ after, p rival → winner.AtLeast rival := by
  cases found with
  | none =>
    obtain ⟨-, empty⟩ := search_eq_none_iff.1 h
    refine ⟨iff_of_true rfl fun entry listed has => ?_, by simp⟩
    have candidate : entry ∈ candidates test entries :=
      mem_candidates_iff.2 ⟨listed, (decides entry listed).2 has⟩
    rw [empty] at candidate
    cases candidate
  | some winner =>
    obtain ⟨before, after, split, passes, above, bound⟩ := exists_split_of_search h
    have listed : winner ∈ entries := by simp [split]
    have has : p winner := (decides winner listed).1 passes
    refine ⟨iff_of_false (by simp) fun none => none winner listed has, ?_⟩
    rintro _ ⟨⟩
    refine ⟨has, before, after, split, fun rival hrival hasToo => ?_, fun rival hrival hasToo => ?_⟩
    · exact above rival hrival ((decides rival (by simp [split, hrival])).2 hasToo)
    · exact bound rival hrival ((decides rival (by simp [split, hrival])).2 hasToo)

/-- To leave items out is to let them not pass. -/
theorem selectWhere_filter {α : Type} (p : α → Except Fault Bool) (q : α → Bool) (l : List α) :
    selectWhere p (l.filter q) = selectWhere (fun a => if q a then p a else .ok false) l := by
  induction l with
  | nil => rfl
  | cons a later ih =>
    cases kept : q a with
    | true => rw [List.filter_cons_of_pos kept, selectWhere, selectWhere, kept, if_pos rfl, ih]
    | false =>
      rw [List.filter_cons_of_neg (by simp [kept]), selectWhere, kept, ih]
      cases selectWhere (fun a => if q a then p a else .ok false) later <;> rfl

/-- A search among entries whose levels were not changed finds the changed entry. -/
theorem search_map {f : Entry → Entry} (levels : ∀ entry, (f entry).priority = entry.priority)
    {found : Option Entry} (h : search (fun entry => test (f entry)) entries = .ok found) :
    search test (entries.map f) = .ok (found.map f) := by
  obtain ⟨answered, best⟩ := search_eq_ok_iff.1 h
  have changed : candidates test (entries.map f) =
      (candidates (fun entry => test (f entry)) entries).map f := List.filter_map
  refine search_eq_ok_iff.2 ⟨List.forall_mem_map.2 answered, ?_⟩
  rw [changed]
  cases found with
  | none => rw [bestOf_eq_none_iff.1 best]; rfl
  | some winner =>
    obtain ⟨before, after, level, split, rated, exceeds, bounded⟩ := bestOf_eq_some_iff.1 best
    refine bestOf_eq_some_iff.2 ⟨before.map f, after.map f, level, by simp [split], ?_, ?_, ?_⟩
    · exact (levels winner).trans rated
    · refine List.forall_mem_map.2 fun rival hrival => ?_
      rw [id_eq, levels]
      exact exceeds rival hrival
    · refine List.forall_mem_map.2 fun rival hrival => ?_
      rw [id_eq, levels]
      exact bounded rival hrival

/-- Conditions that agree on the items select the same. -/
theorem selectWhere_congr {α : Type} {p p' : α → Except Fault Bool} {l : List α}
    (agree : ∀ a ∈ l, p a = p' a) : selectWhere p l = selectWhere p' l := by
  induction l with
  | nil => rfl
  | cons a later ih =>
    obtain ⟨first, others⟩ := List.forall_mem_cons.1 agree
    rw [selectWhere, selectWhere, first, ih others]

/-! ### The visible entries -/

variable {registry : Registry}

/-- The entries that are not ignored. -/
def visible (registry : Registry) : List Entry :=
  registry.entries.filter fun entry => !entry.priority.isIgnored

/-- The table of the visible entries, with the empty prefix for each of them. -/
def bare (registry : Registry) : Registry :=
  { registry with
    table := (registry.table.filter fun _ entry => !entry.priority.isIgnored).mapValues Entry.bare }

theorem entries_bare (registry : Registry) :
    registry.bare.entries = registry.visible.map Entry.bare := by
  simp only [entries, visible, bare, Table.values_eq, Table.toList_mapValues, Table.toList_filter,
    List.filter_map, List.map_map]
  rfl

theorem resolveBare_eq_search_visible (registry : Registry) (word : String) :
    registry.resolveBare word = if word.isEmpty then .ok none else
      search (fun entry => entry.hasTrigger (.text (lower word))) registry.visible := rfl

theorem resolveBare_eq_search_offers (registry : Registry) (word : String) :
    registry.resolveBare word = if word.isEmpty then .ok none else
      search (fun entry => entry.offers word) registry.entries := by
  rw [resolveBare_eq_search, search, selectWhere_filter]
  rfl

/-- **A line of one word selects what the word selects as a bare trigger**, where every command has
the empty prefix and ignored ones are left out. -/
theorem resolve_bare (kinds : registry.WellKinded) {word : String} (nonempty : word ≠ "")
    (unbroken : ∀ c ∈ word.toList, isBlank c = false) (context : Option Context)
    {found : Option Entry} (h : registry.resolveBare word = .ok found) :
    registry.bare.resolve word context = .ok (found.map Entry.bare) := by
  have agree : ∀ entry ∈ registry.visible, entry.bare.answers context (.text (lower word)) =
      entry.hasTrigger (.text (lower word)) := fun entry listed =>
    Entry.answers_bare (kinds.entries entry (List.mem_filter.1 listed).1).triggers context _
  rw [resolveBare_eq_search_visible, if_neg (by simpa using nonempty), search,
    ← selectWhere_congr agree] at h
  rw [resolve_eq_search, firstToken_eq_lower nonempty unbroken, if_neg (by simpa using nonempty),
    entries_bare]
  exact search_map Entry.priority_bare h

end Registry

/-! ### Ignored commands -/

namespace Roster

/-- Whether an operation registers no command that can be seen: it registers an ignored one, or
adds a category. -/
def Operation.IsHidden : Operation → Prop
  | register command _ => ∀ c ∈ command, c.priority = .level .ignored
  | addCategory _ => True
  | redefine _ _ => False

theorem visible_perform {roster : Roster} (consistent : roster.registry.Consistent)
    (operation : Operation) (hidden : operation.IsHidden) :
    (perform operation roster).state.registry.visible = roster.registry.visible := by
  refine perform_cases (motive := fun operation outcome =>
    operation.IsHidden → outcome.state.registry.visible = roster.registry.visible)
    roster ?_ ?_ ?_ ?_ operation hidden
  · intro command category entry events accepted hidden
    obtain ⟨rfl, -⟩ := Registry.entryFor_eq_ok_iff.1 accepted
    have ignored : entry.priority.isIgnored = true := Rating.isIgnored_iff.2 (hidden _ rfl)
    have fresh := Registry.get?_filingKey_of_entryFor consistent accepted
    have dropped : [entry].filter (fun entry => !entry.priority.isIgnored) = [] := by
      simp [ignored]
    rw [Registry.visible, Registry.entries_file fresh, List.filter_append, dropped,
      List.append_nil, Registry.visible]
  · intro _ _ _ _ _ _
    rfl
  · rintro instanceId definition ⟨⟩
  · intro _ fault _
    rfl

/-- **Registering ignored commands leaves the visible entries as they are.** -/
theorem visible_after {roster : Roster} (consistent : roster.registry.Consistent)
    {history : List Operation} (hidden : ∀ operation ∈ history, operation.IsHidden) :
    (after roster history).registry.visible = roster.registry.visible := by
  have kept : (after roster history).registry.Consistent ∧
      (after roster history).registry.visible = roster.registry.visible := by
    refine after_induction (fun now => now.registry.Consistent ∧
      now.registry.visible = roster.registry.visible) ?_ ⟨consistent, rfl⟩ hidden
    rintro now operation hidden ⟨consistent, same⟩
    exact ⟨(consistent_perform consistent operation).1,
      (visible_perform consistent operation hidden).trans same⟩
  exact kept.2

end Roster

namespace Registry

/-! ### The winner -/

variable {registry : Registry}

/-- Whether an entry may be found by a bare trigger and has the place of the winner: it is above the
entries before it that may be found as well, and none after it is above it. -/
structure WinsBare (registry : Registry) (word : String) (winner : Entry) : Prop where
  /-- The winner may be found. -/
  offers : winner.Offers word
  /-- The winner stands where the entries are split, and the rivals on either side are not above
  it. -/
  place : ∃ before after, registry.entries = before ++ winner :: after ∧
    (∀ rival ∈ before, rival.Offers word → winner.Outranks rival) ∧
      ∀ rival ∈ after, rival.Offers word → winner.AtLeast rival

/-- The search by a bare trigger depends on the visible entries alone. -/
theorem resolveBare_congr {other : Registry} (same : other.visible = registry.visible)
    (word : String) : other.resolveBare word = registry.resolveBare word := by
  rw [resolveBare_eq_search_visible, resolveBare_eq_search_visible, same]

/-- **A bare trigger selects the winner of the entries that offer it**, and nothing exactly if none
does. No ignored entry is selected. In the table with empty prefixes a line of that one word selects
the same in every context. The other entries of the table do not matter, so registering ignored
commands changes nothing. -/
theorem resolveBare_wins (kinds : registry.WellKinded) {word : String} (nonempty : word ≠ "") :
    ∃ found, registry.resolveBare word = .ok found ∧
      (found = none ↔ ∀ entry ∈ registry.entries, ¬entry.Offers word) ∧
      (∀ winner ∈ found, registry.WinsBare word winner) ∧
      ((∀ c ∈ word.toList, isBlank c = false) → ∀ context,
        registry.bare.resolve word context = .ok (found.map Entry.bare)) ∧
      (∀ other : Registry, other.visible = registry.visible →
        other.resolveBare word = .ok found) ∧
      (registry.Consistent → ∀ nextId history, (∀ operation ∈ history, operation.IsHidden) →
        (Roster.after ⟨registry, nextId⟩ history).registry.resolveBare word = .ok found) := by
  obtain ⟨found, resolved, -⟩ := yields_resolveBare kinds word
  have searched := resolved
  rw [resolveBare_eq_search_offers, if_neg (by simpa using nonempty)] at searched
  obtain ⟨nothing, winner⟩ := search_decides (fun entry listed =>
    Entry.offers_eq_true_iff (kinds.entries entry listed).triggers word) searched
  refine ⟨found, resolved, nothing, ?_, ?_, ?_, ?_⟩
  · intro entry won
    obtain ⟨offers, place⟩ := winner entry won
    exact ⟨offers, place⟩
  · intro unbroken context
    exact resolve_bare kinds nonempty unbroken context resolved
  · intro other same
    exact (resolveBare_congr same word).trans resolved
  · intro consistent nextId history hidden
    have same : (Roster.after ⟨registry, nextId⟩ history).registry.visible = registry.visible :=
      Roster.visible_after consistent hidden
    exact (resolveBare_congr same word).trans resolved

/-- A command that is ignored, with a trigger of its name in capitals. -/
def hiddenCommand : Command :=
  let plain := Command.plain 2 "hidden" "Fun" ["PING"]
  { plain with definition := { plain.definition with priority := .level .ignored } }

/-- Two commands of one level with a trigger in common, after one that is ignored. -/
def sharedHistory : List Roster.Operation := [
  .addCategory (.ofTexts "Utility" "!"),
  .register (some hiddenCommand) (some (.ofTexts "System" ";")),
  .register (some (.plain 0 "ping" "Utility" ["ping"])) none,
  .register (some (.plain 1 "pong" "Fun" ["pong", "Ping"])) (some (.ofTexts "Fun" "?"))]

/-- The entry of the first command that is not ignored. -/
def sharedEntry : Entry :=
  ⟨.plain 0 "ping" "Utility" ["ping"], .ofTexts "Utility" "!", [.text "ping"]⟩

theorem wellKinded_of_mem_sharedHistory :
    ∀ operation ∈ sharedHistory, operation.WellKinded := by
  have texts : ∀ name leading, (Category.ofTexts name leading).WellKinded :=
    fun name leading => ⟨⟨_, rfl⟩, rfl⟩
  have hidden : hiddenCommand.WellKinded :=
    ⟨⟨⟨_, rfl⟩, ⟨_, rfl⟩⟩, by simp [hiddenCommand, Command.plain]⟩
  have plain (instanceId : Nat) (name category : String) (triggers : List String) :
      (Command.plain instanceId name category triggers).WellKinded :=
    ⟨⟨⟨_, rfl⟩, ⟨_, rfl⟩⟩, by simp [Command.plain]⟩
  simp only [sharedHistory, List.forall_mem_cons]
  refine ⟨texts _ _, ⟨?_, ?_⟩, ⟨?_, by simp⟩, ⟨?_, ?_⟩, List.forall_mem_nil _⟩
  · rintro _ ⟨⟩; exact hidden
  · rintro _ ⟨⟩; exact texts _ _
  · rintro _ ⟨⟩; exact plain _ _ _ _
  · rintro _ ⟨⟩; exact plain _ _ _ _
  · rintro _ ⟨⟩; exact texts _ _

/-- Of two commands of one level the first is selected, and the ignored one before them is passed
by. With empty prefixes a line in a guild selects the same, and a further ignored command changes
nothing. -/
theorem resolveBare_wins_shared :
    let registry := (Roster.after (.create .empty) sharedHistory).registry
    let further : List Roster.Operation :=
      [.register (some hiddenCommand) (some (.ofTexts "Help" "."))]
    registry.WellKinded ∧ registry.Consistent ∧
      registry.resolveBare "pInG" = .ok (some sharedEntry) ∧
      registry.WinsBare "pInG" sharedEntry ∧
      registry.bare.resolve "pInG" Roster.mergedContext = .ok (some sharedEntry.bare) ∧
      (Roster.after ⟨registry, 3⟩ further).registry.size = 4 ∧
      (Roster.after ⟨registry, 3⟩ further).registry.resolveBare "pInG" =
        .ok (some sharedEntry) := by
  intro registry further
  have kinds : registry.WellKinded :=
    Roster.wellKinded_after wellKinded_empty sharedHistory wellKinded_of_mem_sharedHistory
  have start : (Roster.create .empty).registry.Consistent := consistent_empty .empty
  have consistent : registry.Consistent := (Roster.consistent_after start sharedHistory).1
  have selected : registry.resolveBare "pInG" = .ok (some sharedEntry) := rfl
  have unbroken : ("pInG".toList.all fun c => isBlank c == false) = true := by decide +kernel
  have nonempty : "pInG" ≠ "" := by decide
  obtain ⟨found, resolved, -, wins, lines, -, grown⟩ := resolveBare_wins kinds nonempty
  cases selected.symm.trans resolved
  refine ⟨kinds, consistent, selected, wins _ rfl, lines ?_ Roster.mergedContext, rfl, ?_⟩
  · simpa only [List.all_eq_true, beq_iff_eq] using unbroken
  · refine grown consistent 3 further fun operation listed => ?_
    rw [List.mem_singleton.1 listed]
    rintro _ ⟨⟩
    rfl

end Registry

end CommandRouter
