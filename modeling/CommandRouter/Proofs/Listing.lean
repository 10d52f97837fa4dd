import CommandRouter.Bot.Status
import CommandRouter.Proofs.Registry.Registration
import Mathlib.Data.List.Lex
import Mathlib.Data.List.Perm.Basic
import Mathlib.Data.List.Sort
import Mathlib.Data.Prod.Lex

/-!
# The listing of commands

The listing describes each command of the table once, in an order that does not depend on the order
of registration, as far as the order of two commands can be told from what they are called. Where
two commands are called the same, the one that was registered first comes first.

Two facts are put together. The description goes entry by entry, so it loses nothing and adds
nothing. And the sorting is stable and by a total order, so it is determined by what is sorted: a
list that is in order, and in which no two items have the same place, is the only one of its items.

## Main definitions

* `Listing.Describes` says that a description is that of an entry.
* `Listing.place` is where a command belongs: its category and its name, by code points.
* `Registry.HasNames` says that commands and categories are called by strings.

## Main results

* `Listing.sorted_of_isNamed` is the sorting of commands that are called by strings.
* `Listing.filter_mergeSort_place` says that the sorting is stable.
* `Registry.listing_complete_and_canonical` is what the listing is.
-/

namespace CommandRouter

namespace Listing

variable {item : Listing} {commands described : List Listing} {entry : Entry}

/-! ### Descriptions -/

/-- Whether a description is that of an entry. -/
structure Describes (item : Listing) (entry : Entry) : Prop where
  /-- The name is that of the command. -/
  name : item.name = entry.name.value
  /-- The category is named. -/
  category : item.category = entry.category.name
  /-- The prefix is that of the category. -/
  defaultPrefix : item.defaultPrefix = entry.defaultPrefix
  /-- The triggers are those that were registered. -/
  triggers : item.triggers = entry.triggers
  /-- The priority is a level, and it is that level. -/
  priority : entry.priority = .level item.priority

theorem ofEntry_eq_ok_iff : ofEntry entry = .ok item ↔ item.Describes entry := by
  rw [ofEntry]
  constructor
  · intro h
    obtain ⟨level, isLevel, rfl⟩ := map_eq_ok_iff.1 h
    cases rating : entry.priority with
    | level priority =>
      rw [rating] at isLevel
      cases isLevel
      exact ⟨rfl, rfl, rfl, rfl, rating⟩
    | other value =>
      rw [rating] at isLevel
      cases isLevel
  · rintro ⟨name, category, leading, triggers, priority⟩
    obtain ⟨name', category', leading', triggers', priority'⟩ := item
    rw [priority]
    cases name
    cases category
    cases leading
    cases triggers
    rfl

/-- Entries are described one by one. -/
theorem mapM_ofEntry_eq_ok_iff {entries : List Entry} :
    entries.mapM ofEntry = .ok described ↔ List.Forall₂ Describes described entries := by
  induction entries generalizing described with
  | nil =>
    rw [List.mapM_nil]
    constructor
    · rintro ⟨⟩
      exact .nil
    · rintro ⟨⟩
      rfl
  | cons entry later ih =>
    rw [List.mapM_cons, bind_eq_ok_iff]
    constructor
    · rintro ⟨item, first, h⟩
      obtain ⟨items, others, same⟩ := bind_eq_ok_iff.1 h
      cases same
      exact .cons (ofEntry_eq_ok_iff.1 first) (ih.1 others)
    · rintro (_ | ⟨first, others⟩)
      refine ⟨_, ofEntry_eq_ok_iff.2 first, ?_⟩
      rw [ih.2 others]
      rfl

/-! ### Places -/

/-- Whether a command and its category are called by strings. -/
def IsNamed (item : Listing) : Prop := item.category.IsString ∧ item.name.IsString

/-- Where a command belongs in the listing: by the code points of its category, and then by those of
its name. -/
def place (item : Listing) : List Nat ×ₗ List Nat :=
  toLex (item.category.codes?.getD [], item.name.codes?.getD [])

/-- The code points of the category and the name of a command. -/
def codes (item : Listing) : Option (List Nat) × Option (List Nat) :=
  (item.category.codes?, item.name.codes?)

/-- Commands that are called by strings are called what their places say. -/
theorem codes_of_isNamed (named : item.IsNamed) :
    item.codes = (some (ofLex item.place).1, some (ofLex item.place).2) := by
  obtain ⟨category, isCategory⟩ := Option.isSome_iff_exists.1 named.1
  obtain ⟨name, isName⟩ := Option.isSome_iff_exists.1 named.2
  rw [codes, place, isCategory, isName]
  rfl

theorem heading?_of_isNamed (named : item.IsNamed) : item.heading? = some (ofLex item.place) := by
  obtain ⟨category, name⟩ := Prod.ext_iff.1 (codes_of_isNamed named)
  rw [heading?, show item.category.codes? = _ from category, show item.name.codes? = _ from name]
  rfl

theorem headingAtMost_eq (a b : List Nat ×ₗ List Nat) :
    headingAtMost (ofLex a) (ofLex b) = decide (a ≤ b) := by
  rw [headingAtMost, Bool.eq_iff_iff]
  simp [Prod.Lex.le_iff]

/-- Whether one command may stand in front of another. -/
def atMost (a b : Listing) : Bool := decide (a.place ≤ b.place)

theorem atMost_trans (a b c : Listing) (hab : a.atMost b = true) (hbc : b.atMost c = true) :
    a.atMost c = true :=
  decide_eq_true ((of_decide_eq_true hab).trans (of_decide_eq_true hbc))

theorem atMost_total (a b : Listing) : (a.atMost b || b.atMost a) = true := by
  simpa [atMost] using le_total a.place b.place

/-- **Commands that are called by strings are sorted by their places.** -/
theorem sorted_of_isNamed (named : ∀ command ∈ commands, command.IsNamed) :
    sorted commands = .ok (commands.mergeSort atMost) := by
  have headed : (commands.mapM fun command =>
      command.heading?.map fun heading => (heading, command)) =
        some (commands.map fun command => (ofLex command.place, command)) := by
    induction commands with
    | nil => rfl
    | cons command later ih =>
      obtain ⟨first, others⟩ := List.forall_mem_cons.1 named
      rw [List.mapM_cons, heading?_of_isNamed first, ih others]
      rfl
  have sameOrder : ∀ a ∈ commands.map fun command => (ofLex command.place, command),
      ∀ b ∈ commands.map fun command => (ofLex command.place, command),
        headingAtMost a.1 b.1 = a.2.atMost b.2 := by
    simp only [List.forall_mem_map]
    intro a _ b _
    exact headingAtMost_eq a.place b.place
  rw [sorted, headed]
  dsimp only
  rw [List.map_mergeSort sameOrder, List.map_map]
  exact congrArg (fun items => Except.ok (List.mergeSort items atMost)) (List.map_id commands)

theorem pairwise_mergeSort_place (commands : List Listing) :
    (commands.mergeSort atMost).Pairwise fun a b => a.place ≤ b.place :=
  (List.pairwise_mergeSort atMost_trans atMost_total commands).imp of_decide_eq_true

/-- **The sorting is stable**: commands of one place stay in their order. -/
theorem filter_mergeSort_place (commands : List Listing) (place : List Nat ×ₗ List Nat) :
    ((commands.mergeSort atMost).filter fun item => item.place = place) =
      commands.filter fun item => item.place = place := by
  have inOrder : (commands.filter fun item => item.place = place).Pairwise
      fun a b => a.atMost b = true := by
    refine List.Pairwise.imp_of_mem ?_ (List.pairwise_of_forall fun _ _ => trivial)
    intro a b ha hb _
    have samePlace : a.place = b.place :=
      (of_decide_eq_true (List.mem_filter.1 ha).2).trans
        (of_decide_eq_true (List.mem_filter.1 hb).2).symm
    exact decide_eq_true samePlace.le
  -- What is in order already is a sublist of the sorted list, and the filter takes no more than it.
  have kept := (List.sublist_mergeSort atMost_trans atMost_total inOrder
    List.filter_sublist).filter fun item => item.place = place
  simp only [List.filter_filter, Bool.and_self] at kept
  have perm := (List.mergeSort_perm commands atMost).filter fun item => item.place = place
  exact (kept.eq_of_length perm.length_eq.symm).symm

/-- **What is in order is determined by what it holds**, if no two items have one place. -/
theorem eq_of_perm_of_nodup_place {items items' : List Listing}
    (sorted : items.Pairwise fun a b => a.place ≤ b.place)
    (sorted' : items'.Pairwise fun a b => a.place ≤ b.place) (perm : items.Perm items')
    (apart : (items.map place).Nodup) : items = items' := by
  refine List.Perm.eq_of_pairwise (fun a b ha hb hab hba => ?_) sorted sorted' perm
  exact List.inj_on_of_nodup_map apart ha (perm.mem_iff.2 hb) (le_antisymm hab hba)

end Listing

/-! ### Tables -/

/-- How much a report counts. -/
theorem Status.commands_of_health {status : Status} {now : Value} {databaseOpen : Bool}
    {registry : Option Registry} {report : Health}
    (made : status.health now databaseOpen registry = .ok report) :
    report.commands = (registry.map Registry.size).getD 0 := by
  obtain ⟨uptime, -, made⟩ := bind_eq_ok_iff.1 made
  split at made
  · cases made
  · cases made
    rfl

/-- The code points of the category and the name of a command that is registered. -/
def Entry.codes (entry : Entry) : Option (List Nat) × Option (List Nat) :=
  (entry.category.name.codes?, entry.name.value.codes?)

namespace Registry

variable {registry : Registry} {items described : List Listing}

/-- Whether all commands of a table and their categories are called by strings. -/
def HasNames (registry : Registry) : Prop :=
  ∀ entry ∈ registry.entries, entry.category.name.IsString ∧ entry.name.value.IsString

/-- Whether no two commands of a table agree in their categories and in their names. -/
def HasPlaces (registry : Registry) : Prop := (registry.entries.map Entry.codes).Nodup

/-- Descriptions are called as the entries are. -/
theorem map_codes_of_describes {entries : List Entry}
    (describes : List.Forall₂ Listing.Describes described entries) :
    described.map Listing.codes = entries.map Entry.codes := by
  induction describes with
  | nil => rfl
  | cons first _ ih =>
    rw [List.map_cons, List.map_cons, ih, Listing.codes, first.category, first.name, Entry.codes]

theorem isNamed_of_describes (named : registry.HasNames)
    (describes : List.Forall₂ Listing.Describes described registry.entries) :
    ∀ item ∈ described, item.IsNamed := by
  intro item among
  have called : item.codes ∈ registry.entries.map Entry.codes := by
    rw [← map_codes_of_describes describes]
    exact List.mem_map_of_mem among
  obtain ⟨entry, listed, same⟩ := List.mem_map.1 called
  obtain ⟨category, name⟩ := Prod.ext_iff.1 same
  exact ⟨(congrArg Option.isSome category).symm.trans (named entry listed).1,
    (congrArg Option.isSome name).symm.trans (named entry listed).2⟩

/-- Commands that are called differently have different places. -/
theorem nodup_place_of_describes (named : registry.HasNames) (apart : registry.HasPlaces)
    (describes : List.Forall₂ Listing.Describes described registry.entries) :
    (described.map Listing.place).Nodup := by
  have isNamed := isNamed_of_describes named describes
  have apart' : (described.map Listing.codes).Nodup := by
    rw [map_codes_of_describes describes]
    exact apart
  refine apart'.of_map.map_on fun a ha b hb same => ?_
  refine List.inj_on_of_nodup_map apart' ha hb ?_
  rw [Listing.codes_of_isNamed (isNamed a ha), Listing.codes_of_isNamed (isNamed b hb), same]

/-- The listing is the sorted list of the descriptions. -/
theorem listing_eq_ok_iff (named : registry.HasNames) :
    registry.listing = .ok items ↔
      ∃ described, List.Forall₂ Listing.Describes described registry.entries ∧
        described.mergeSort Listing.atMost = items := by
  rw [listing, bind_eq_ok_iff]
  constructor
  · rintro ⟨described, each, sorted⟩
    have describes := Listing.mapM_ofEntry_eq_ok_iff.1 each
    rw [Listing.sorted_of_isNamed (isNamed_of_describes named describes)] at sorted
    exact ⟨described, describes, Except.ok.inj sorted⟩
  · rintro ⟨described, describes, rfl⟩
    exact ⟨described, Listing.mapM_ofEntry_eq_ok_iff.2 describes,
      Listing.sorted_of_isNamed (isNamed_of_describes named describes)⟩

/-- Entries can be described if their priorities are levels. -/
theorem exists_describes_iff {entries : List Entry} :
    (∃ described, List.Forall₂ Listing.Describes described entries) ↔
      ∀ entry ∈ entries, ∃ level, entry.priority = .level level := by
  induction entries with
  | nil => exact iff_of_true ⟨[], .nil⟩ (List.forall_mem_nil _)
  | cons entry later ih =>
    rw [List.forall_mem_cons, ← ih]
    constructor
    · rintro ⟨_, _ | ⟨first, others⟩⟩
      exact ⟨⟨_, first.priority⟩, ⟨_, others⟩⟩
    · rintro ⟨⟨level, isLevel⟩, described, others⟩
      exact ⟨⟨entry.name.value, entry.category.name, entry.defaultPrefix, entry.triggers, level⟩ ::
        described, .cons ⟨rfl, rfl, rfl, rfl, isLevel⟩ others⟩

/-- **The listing does not depend on the order of registration**, if no two commands are called the
same. -/
theorem listing_of_perm (named : registry.HasNames) (apart : registry.HasPlaces) {other : Registry}
    (perm : registry.entries.Perm other.entries) (listed : registry.listing = .ok items) :
    other.listing = .ok items := by
  have named' : other.HasNames := fun entry among => named entry (perm.mem_iff.2 among)
  obtain ⟨described, describes, rfl⟩ := (listing_eq_ok_iff named).1 listed
  -- The other table has the same descriptions, in another order.
  obtain ⟨described', describes', shuffled⟩ := List.perm_comp_forall₂ perm.symm describes.flip
  refine (listing_eq_ok_iff named').2 ⟨described', describes'.flip, ?_⟩
  have sorted := Listing.pairwise_mergeSort_place described
  have sorted' := Listing.pairwise_mergeSort_place described'
  refine (Listing.eq_of_perm_of_nodup_place sorted sorted' ?_ ?_).symm
  · exact (List.mergeSort_perm _ _).trans (shuffled.symm.trans (List.mergeSort_perm _ _).symm)
  · exact ((List.mergeSort_perm described _).map Listing.place).nodup_iff.2
      (nodup_place_of_describes named apart describes)

/-- **The listing describes each command once, in a canonical order.** There is one if all
priorities are levels. It has one item for each entry and no other, sorted by category and name;
items of one place stay in the order of registration. It counts as many commands as the table, the
report of health and the registrations that succeeded. Another table of the same entries has the
same listing, unless two commands are called the same. -/
theorem listing_complete_and_canonical (named : registry.HasNames) :
    ((∃ items, registry.listing = .ok items) ↔
        ∀ entry ∈ registry.entries, ∃ level, entry.priority = .level level) ∧
      ∀ items, registry.listing = .ok items →
        (∃ described, List.Forall₂ Listing.Describes described registry.entries ∧
            items.Perm described ∧
            ∀ place, (items.filter fun item => item.place = place) =
              described.filter fun item => item.place = place) ∧
          (items.Pairwise fun a b => a.place ≤ b.place) ∧
          items.length = registry.size ∧
          (∀ (status : Status) now databaseOpen report,
            status.health now databaseOpen (some registry) = .ok report →
              report.commands = items.length) ∧
          (∀ categories history,
            registry = (Roster.after (.create categories) history).registry →
              items.length = (Roster.registered (.create categories) history).length) ∧
          ∀ other : Registry, registry.entries.Perm other.entries → registry.HasPlaces →
            other.listing = .ok items := by
  have exists_iff : (∃ items, registry.listing = .ok items) ↔
      ∀ entry ∈ registry.entries, ∃ level, entry.priority = .level level := by
    rw [← exists_describes_iff]
    constructor
    · rintro ⟨items, listed⟩
      obtain ⟨described, describes, -⟩ := (listing_eq_ok_iff named).1 listed
      exact ⟨described, describes⟩
    · rintro ⟨described, describes⟩
      exact ⟨_, (listing_eq_ok_iff named).2 ⟨described, describes, rfl⟩⟩
  refine ⟨exists_iff, fun items listed => ?_⟩
  have canonical : ∀ other : Registry, registry.entries.Perm other.entries → registry.HasPlaces →
      other.listing = .ok items :=
    fun other perm apart => listing_of_perm named apart perm listed
  obtain ⟨described, describes, rfl⟩ := (listing_eq_ok_iff named).1 listed
  have perm := List.mergeSort_perm described Listing.atMost
  have size : (described.mergeSort Listing.atMost).length = registry.size :=
    perm.length_eq.trans (describes.length_eq.trans registry.length_entries)
  refine ⟨⟨described, describes, perm, Listing.filter_mergeSort_place described⟩,
    Listing.pairwise_mergeSort_place described, size, ?_, ?_, canonical⟩
  · intro status now databaseOpen report made
    rw [Status.commands_of_health made, size]
    rfl
  · rintro categories history rfl
    have start : (Roster.create categories).registry.Consistent := consistent_empty categories
    obtain ⟨-, grown⟩ := Roster.consistent_after start history
    rw [size, ← Registry.length_entries, grown]
    exact Nat.zero_add _

/-- An entry of a name, whose trigger is the same. -/
def titled (instanceId : Nat) (category name : String) : Entry :=
  ⟨.plain instanceId name category [name], .ofTexts category "!", [.text name]⟩

/-- A table of three commands, two of which are of one category. -/
def shelf : Registry :=
  (((empty .empty).file (titled 0 "Music" "play")).file (titled 1 "Fun" "joke")).file
    (titled 2 "Fun" "dice")

/-- The same commands in another order. -/
def reshelved : Registry :=
  (((empty .empty).file (titled 1 "Fun" "joke")).file (titled 2 "Fun" "dice")).file
    (titled 0 "Music" "play")

theorem listing_complete_and_canonical_shelf :
    shelf.HasNames ∧ shelf.HasPlaces ∧ shelf.entries.Perm reshelved.entries ∧
      ∃ items, shelf.listing = .ok items ∧ reshelved.listing = .ok items ∧
        items.length = shelf.size := by
  have entries : shelf.entries =
      [titled 0 "Music" "play", titled 1 "Fun" "joke", titled 2 "Fun" "dice"] := rfl
  have entries' : reshelved.entries =
      [titled 1 "Fun" "joke", titled 2 "Fun" "dice", titled 0 "Music" "play"] := rfl
  have named : shelf.HasNames := by
    rw [HasNames, entries]
    simp [titled, Command.plain, Category.ofTexts, Entry.name, Command.name, Name.ofText]
  have apart : shelf.HasPlaces := by
    rw [HasPlaces, entries]
    decide +kernel
  have perm : shelf.entries.Perm reshelved.entries := by
    rw [entries, entries']
    exact (List.perm_append_singleton _ [titled 1 "Fun" "joke", titled 2 "Fun" "dice"]).symm
  obtain ⟨exists_iff, known⟩ := listing_complete_and_canonical named
  obtain ⟨items, listed⟩ := exists_iff.2 (by
    rw [entries]
    simp [titled, Command.plain, Entry.priority, Command.priority])
  obtain ⟨-, -, size, -, -, canonical⟩ := known items listed
  exact ⟨named, apart, perm, items, listed, canonical _ perm apart, size⟩

end Registry

end CommandRouter
