import CommandRouter.Proofs.Registry.Growth

/-!
# The order of registrations

A command is compared with the entries that are in the table when it is registered, and so with
those before it only. Still the order of registrations decides almost nothing. Being apart is
symmetric and is asked of each pair of entries once, by whichever of the two comes second. So a list
of commands that would each be accepted alone is accepted as a whole exactly if any two of them are
apart, which says nothing about their order.

The table then lists the same entries in another order. What a line or a bare trigger selects
depends on that order only where several candidates share the highest level.

## Commands that are accepted alone

A command may be refused for what it is, whatever else is registered: it may have no trigger, or a
category that is not known. To say which commands are in the way of each other, such commands are
left out. Each command of a list is one that an empty table with the same categories accepts.

## Main definitions

* `Roster.Succeeds` says that no operation of a history fails.
* `Roster.registrations` is the history of some commands, and `Roster.validated` are the entries
  that they have each by itself.

## Main results

* `Registry.entryFor_eq_ok_iff_apart` is the registration of a command that is accepted alone.
* `Roster.succeeds_registrations` is the registration of several.
* `Roster.resolve_of_perm` compares two orders.
-/

namespace CommandRouter

namespace Registry

variable {registry : Registry}

/-- Where a command is accepted it is filed under its own category and triggers, so its entry is
the same in all tables with the same categories. -/
theorem entryFor_unique {registry' : Registry} {command : Option Command}
    {given : Option Category} {entry other : Entry}
    (h : registry.entryFor command given = .ok entry)
    (h' : registry'.entryFor command given = .ok other)
    (categories : registry.categories = registry'.categories) : entry = other := by
  obtain ⟨rfl, filed, -, -, listed, -⟩ := entryFor_eq_ok_iff.1 h
  obtain ⟨same, filed', -, -, listed', -⟩ := entryFor_eq_ok_iff.1 h'
  obtain ⟨command, category, triggers⟩ := entry
  obtain ⟨command', category', triggers'⟩ := other
  cases same
  unfold categoryFor at filed filed'
  rw [categories] at filed
  cases filed.symm.trans filed'
  cases listed.symm.trans listed'
  rfl

/-- **A command that is accepted alone is accepted exactly if it is apart from all entries.** -/
theorem entryFor_eq_ok_iff_apart (filled : ∀ other ∈ registry.entries, other.triggers ≠ [])
    {command : Option Command} {given : Option Category} {entry : Entry}
    (alone : (empty registry.categories).entryFor command given = .ok entry) :
    registry.entryFor command given = .ok entry ↔
      ∀ other ∈ registry.entries, entry.Apart other := by
  refine ⟨apart_of_entryFor, fun apart => ?_⟩
  obtain ⟨isCommand, filed, described, present, listed, checked, keys⟩ := entryFor_eq_ok_iff.1 alone
  refine entryFor_eq_ok_iff.2 ⟨isCommand, filed, described, present, listed, ?_, keys⟩
  refine checkTriggers_eq_ok_iff.2 fun trigger htrigger => ?_
  obtain ⟨full, added, -⟩ := checkTriggers_eq_ok_iff.1 checked trigger htrigger
  refine ⟨full, added, owner?_eq_none_iff.2 fun other registered => ?_⟩
  -- That the full trigger has a lower case is known from any trigger that it is compared with.
  obtain ⟨first, others, split⟩ := List.exists_cons_of_ne_nil (filled other registered)
  obtain ⟨low, _, hlow, -⟩ := apart other registered trigger htrigger first (by simp [split])
  have lowered : full.lowered = .ok low := by rwa [Entry.fullTrigger, added, ok_bind] at hlow
  refine ⟨low, lowered, isFullTrigger_eq_false_iff.2 fun t ht => ?_⟩
  obtain ⟨x, y, hx, hy, differ⟩ := apart other registered trigger htrigger t ht
  cases hlow.symm.trans hx
  refine ⟨y, hy, Bool.eq_false_iff.2 fun same => differ ?_⟩
  exact (Value.sameKey_eq_true_iff (Value.isString_of_lowered lowered).2).1 same

/-- Tables with the same entries select the same but for ties. -/
theorem tied_resolve_of_perm {other : Registry} (perm : registry.entries.Perm other.entries)
    (line : String) (context : Option Context) :
    Tied (fun entry => entry.answers context (.text (firstToken line))) registry.entries
      (registry.resolve line context) (other.resolve line context) := by
  rw [resolve_eq_search, resolve_eq_search]
  split
  · exact .nothing
  · exact tied_search_of_perm perm

theorem tied_resolveBare_of_perm {other : Registry} (perm : registry.entries.Perm other.entries)
    (trigger : String) :
    Tied (fun entry => entry.hasTrigger (.text (lower trigger)))
      (registry.entries.filter fun entry => !entry.priority.isIgnored)
      (registry.resolveBare trigger) (other.resolveBare trigger) := by
  rw [resolveBare_eq_search, resolveBare_eq_search]
  split
  · exact .nothing
  · exact tied_search_of_perm (perm.filter _)

end Registry

namespace Roster

variable {roster : Roster} {pairs : List (Command × Option Category)}

/-- Whether no operation of a history fails. -/
def Succeeds (roster : Roster) : List Operation → Prop
  | [] => True
  | operation :: later =>
    (∃ returned, (perform operation roster).result = .ok returned) ∧
      Succeeds (perform operation roster).state later

/-- Commands that are registered one after another, each under its category. -/
def registrations (pairs : List (Command × Option Category)) : List Operation :=
  pairs.map fun pair => .register (some pair.1) pair.2

/-- The entries that commands have each by itself. -/
def validated (categories : Categories) (pairs : List (Command × Option Category)) : List Entry :=
  pairs.filterMap fun pair =>
    ((Registry.empty categories).entryFor (some pair.1) pair.2).toOption

/-- A registration succeeds exactly if the command is accepted. -/
theorem succeeds_register_iff {command : Option Command} {given : Option Category} :
    (∃ returned, (perform (.register command given) roster).result = .ok returned) ↔
      ∃ entry, roster.registry.entryFor command given = .ok entry := by
  rw [perform, Action.run_map, run_register]
  cases roster.registry.entryFor command given <;> simp [Except.map]

/-- **Commands that are accepted alone are accepted together exactly if any two are apart.** They
are then filed one after another. -/
theorem succeeds_registrations (consistent : roster.registry.Consistent)
    (filled : ∀ entry ∈ roster.registry.entries, entry.triggers ≠ [])
    (alone : ∀ pair ∈ pairs, ∃ entry,
      (Registry.empty roster.registry.categories).entryFor (some pair.1) pair.2 = .ok entry) :
    (Succeeds roster (registrations pairs) ↔
        (roster.registry.entries ++ validated roster.registry.categories pairs).Pairwise
          Entry.Apart) ∧
      (Succeeds roster (registrations pairs) →
        (after roster (registrations pairs)).registry.entries =
          roster.registry.entries ++ validated roster.registry.categories pairs) := by
  induction pairs generalizing roster with
  | nil => simpa [Succeeds, registrations, validated, after] using consistent.apart
  | cons pair later ih =>
    obtain ⟨⟨entry, accepted⟩, others⟩ := List.forall_mem_cons.1 alone
    have split : validated roster.registry.categories (pair :: later) =
        entry :: validated roster.registry.categories later := by
      simp [validated, accepted, Except.toOption]
    have first : registrations (pair :: later) =
        .register (some pair.1) pair.2 :: registrations later := rfl
    rw [split, first]
    by_cases here : roster.registry.entryFor (some pair.1) pair.2 = .ok entry
    · -- The first command is filed, and the others find a table that has grown by its entry.
      have filed : (perform (.register (some pair.1) pair.2) roster).state =
          { roster with registry := roster.registry.file entry } := by
        rw [perform, Action.run_map, run_register, here]
      have entries : (roster.registry.file entry).entries = roster.registry.entries ++ [entry] :=
        Registry.entries_file (Registry.get?_filingKey_of_entryFor consistent here)
      have filled' : ∀ other ∈ (roster.registry.file entry).entries, other.triggers ≠ [] := by
        obtain ⟨-, -, -, present, listed, -⟩ := Registry.entryFor_eq_ok_iff.1 accepted
        exact Registry.forall_mem_entries_file filled (Registry.items_ne_nil present listed)
      obtain ⟨apart, grown⟩ :=
        @ih { roster with registry := roster.registry.file entry } (consistent.file here) filled'
          others
      rw [entries, List.append_assoc] at apart grown
      rw [Succeeds, after, filed, and_iff_right (succeeds_register_iff.2 ⟨entry, here⟩)]
      exact ⟨apart, grown⟩
    · -- The first command is not apart from some entry, so neither side holds.
      have refused :
          ¬Succeeds roster (.register (some pair.1) pair.2 :: registrations later) := by
        rintro ⟨first, -⟩
        obtain ⟨other, h⟩ := succeeds_register_iff.1 first
        have same : other = entry := Registry.entryFor_unique h accepted rfl
        exact here (by rw [h, same])
      have near : ¬(roster.registry.entries ++
          entry :: validated roster.registry.categories later).Pairwise Entry.Apart := by
        intro pairwise
        obtain ⟨-, -, across⟩ := List.pairwise_append.1 pairwise
        have apart : ∀ other ∈ roster.registry.entries, entry.Apart other :=
          fun other registered => (across other registered entry List.mem_cons_self).symm
        exact here ((Registry.entryFor_eq_ok_iff_apart filled accepted).2 apart)
      exact ⟨iff_of_false refused near, fun succeeds => absurd succeeds refused⟩

/-- **The order of registrations decides nothing but ties.** Commands that are accepted alone are
all accepted in one order exactly if they are in another. The tables then have the same entries, and
what is selected in them, by a line or by a bare trigger, is of one level, and is the same if no
other candidate is of that level. Where all values are of the right kinds there is a result. -/
theorem resolve_of_perm (categories : Categories) {pairs pairs' : List (Command × Option Category)}
    (perm : pairs.Perm pairs')
    (alone : ∀ pair ∈ pairs, ∃ entry,
      (Registry.empty categories).entryFor (some pair.1) pair.2 = .ok entry) :
    let registry := (after (create categories) (registrations pairs)).registry
    let registry' := (after (create categories) (registrations pairs')).registry
    (Succeeds (create categories) (registrations pairs) ↔
        Succeeds (create categories) (registrations pairs')) ∧
      (Succeeds (create categories) (registrations pairs) →
        registry.entries.Perm registry'.entries ∧
          (∀ line context,
            Registry.Tied (fun entry => entry.answers context (.text (firstToken line)))
              registry.entries (registry.resolve line context) (registry'.resolve line context)) ∧
          (∀ trigger,
            Registry.Tied (fun entry => entry.hasTrigger (.text (lower trigger)))
              (registry.entries.filter fun entry => !entry.priority.isIgnored)
              (registry.resolveBare trigger) (registry'.resolveBare trigger)) ∧
          (registry.WellKinded →
            (∀ line context, Context.GivesStrings context →
              ∃ found, registry.resolve line context = .ok found) ∧
            ∀ trigger, ∃ found, registry.resolveBare trigger = .ok found)) := by
  intro registry registry'
  have start : (create categories).registry.Consistent := Registry.consistent_empty categories
  have filled : ∀ entry ∈ (create categories).registry.entries, entry.triggers ≠ [] :=
    List.forall_mem_nil _
  have alone' : ∀ pair ∈ pairs', ∃ entry,
      (Registry.empty categories).entryFor (some pair.1) pair.2 = .ok entry :=
    fun pair hpair => alone pair (perm.mem_iff.2 hpair)
  have permuted : (validated categories pairs).Perm (validated categories pairs') :=
    perm.filterMap _
  obtain ⟨apart, entries⟩ := succeeds_registrations start filled alone
  obtain ⟨apart', entries'⟩ := succeeds_registrations start filled alone'
  have succeeds : Succeeds (create categories) (registrations pairs) ↔
      Succeeds (create categories) (registrations pairs') := by
    rw [apart, apart']
    exact permuted.pairwise_iff Entry.Apart.symm
  refine ⟨succeeds, fun all => ?_⟩
  have same : registry.entries.Perm registry'.entries := by
    rw [entries all, entries' (succeeds.1 all)]
    exact permuted
  refine ⟨same, Registry.tied_resolve_of_perm same, Registry.tied_resolveBare_of_perm same,
    fun kinds => ⟨fun line context strings => ?_, fun trigger => ?_⟩⟩
  · obtain ⟨found, resolved, -⟩ := Registry.yields_resolve kinds strings line
    exact ⟨found, resolved⟩
  · obtain ⟨found, resolved, -⟩ := Registry.yields_resolveBare kinds trigger
    exact ⟨found, resolved⟩

/-- Two commands that have a trigger in common, under different categories. -/
def rivals : List (Command × Option Category) := [
  (.plain 0 "ping" "Utility" ["ping"], some (.ofTexts "Utility" "!")),
  (.plain 1 "pong" "Fun" ["ping"], some (.ofTexts "Fun" "?"))]

/-- The entries of the two commands. -/
def rivalEntries : Entry × Entry :=
  (⟨.plain 0 "ping" "Utility" ["ping"], .ofTexts "Utility" "!", [.text "ping"]⟩,
    ⟨.plain 1 "pong" "Fun" ["ping"], .ofTexts "Fun" "?", [.text "ping"]⟩)

/-- In a guild that merges the two prefixes the order decides, between equals. -/
theorem resolve_of_perm_rivals :
    let registry := (after (create .empty) (registrations rivals)).registry
    let registry' := (after (create .empty) (registrations rivals.reverse)).registry
    rivals.Perm rivals.reverse ∧
      (∀ pair ∈ rivals, ∃ entry,
        (Registry.empty .empty).entryFor (some pair.1) pair.2 = .ok entry) ∧
      Succeeds (create .empty) (registrations rivals) ∧
      Succeeds (create .empty) (registrations rivals.reverse) ∧
      registry.entries.Perm registry'.entries ∧
      registry.resolve "!ping" mergedContext = .ok (some rivalEntries.1) ∧
      registry'.resolve "!ping" mergedContext = .ok (some rivalEntries.2) ∧
      ∃ level, rivalEntries.1.priority = .level level ∧ rivalEntries.2.priority = .level level := by
  intro registry registry'
  have perm : rivals.Perm rivals.reverse := (List.reverse_perm rivals).symm
  have alone : ∀ pair ∈ rivals, ∃ entry,
      (Registry.empty .empty).entryFor (some pair.1) pair.2 = .ok entry :=
    List.forall_mem_cons.2
      ⟨⟨rivalEntries.1, rfl⟩, List.forall_mem_singleton.2 ⟨rivalEntries.2, rfl⟩⟩
  have succeeds : Succeeds (create .empty) (registrations rivals) := ⟨⟨_, rfl⟩, ⟨_, rfl⟩, trivial⟩
  obtain ⟨iff, comparison⟩ := resolve_of_perm .empty perm alone
  obtain ⟨same, tied, -, -⟩ := comparison succeeds
  have first : registry.resolve "!ping" mergedContext = .ok (some rivalEntries.1) := rfl
  have second : registry'.resolve "!ping" mergedContext = .ok (some rivalEntries.2) := rfl
  refine ⟨perm, alone, succeeds, iff.1 succeeds, same, first, second, ?_⟩
  have both := tied "!ping" mergedContext
  rw [first, second] at both
  cases both with
  | found ha hb _ => exact ⟨_, ha, hb⟩

end Roster

end CommandRouter
