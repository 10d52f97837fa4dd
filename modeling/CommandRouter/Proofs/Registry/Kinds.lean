import CommandRouter.Proofs.Guild.Decoding
import CommandRouter.Proofs.Registry.History
import CommandRouter.Registry.Resolve

/-!
# Resolution where all values are of the right kinds

The resolution of a line is not guarded: a fault there ends the dispatching of the message. So it
has to be known that none arises as long as commands, categories and guilds are what they are meant
to be.

That is little. A category is named by a text and has a string for its prefix, a command has a level
for its priority and triggers that can be gone through, and a rule of its own for its prefix gives
strings. Nothing is asked of the triggers themselves: registration puts each of them behind the
prefix, and only a string can stand there. Of a guild it is asked that its prefixes and its aliases
stand for strings, which they do if they were read from a row.

## Main definitions

* `Category.WellKinded`, `Definition.WellKinded` and `Command.WellKinded` say what is asked.
* `Registry.WellKinded` is the invariant of the command table.
* `Context.GivesStrings` says that prefixes are strings in a context, and `Guild.aliasesOf` lists
  the aliases that may be followed.

## Main results

* `Roster.wellKinded_after` is the invariant, for every history of well-kinded operations.
* `Registry.yields_resolveWithAlias` says that the resolution ends with a result.
-/

namespace CommandRouter

/-- Whether a category is named by a text and has a string for its prefix. -/
structure Category.WellKinded (category : Category) : Prop where
  /-- The name is a text. -/
  name : ∃ s, category.name = .text s
  /-- The prefix is a string. -/
  defaultPrefix : category.defaultPrefix.IsString

/-- Whether a definition has a level for its priority, and triggers that can be gone through. -/
structure Definition.WellKinded (definition : Definition) : Prop where
  /-- The priority is a level. -/
  priority : ∃ level, definition.priority = .level level
  /-- The triggers have items. -/
  triggers : ∃ items, definition.triggers.items = .ok items

/-- Whether a rule gives a string for a prefix, in every context and for every category. -/
def PrefixRule.GivesStrings (rule : PrefixRule) : Prop :=
  ∀ context category, Yields (rule context category) Value.IsString

/-- Whether the definition of a command is well-kinded, and a rule for its prefix gives strings. -/
structure Command.WellKinded (command : Command) : Prop where
  /-- The definition is well-kinded. -/
  definition : command.definition.WellKinded
  /-- A rule for its prefix gives strings. -/
  prefixRule : ∀ rule ∈ command.prefixRule, rule.GivesStrings

/-- Whether an entry has a well-kinded command and category, and strings for triggers. -/
structure Entry.WellKinded (entry : Entry) : Prop where
  /-- The command is well-kinded. -/
  command : entry.command.WellKinded
  /-- The category is well-kinded. -/
  category : entry.category.WellKinded
  /-- The triggers are strings. -/
  triggers : ∀ trigger ∈ entry.triggers, trigger.IsString

/-- Whether the categories and the entries of a table are well-kinded. -/
structure Registry.WellKinded (registry : Registry) : Prop where
  /-- The categories are well-kinded. -/
  categories : ∀ category ∈ registry.categories.table.values, category.WellKinded
  /-- The entries are well-kinded. -/
  entries : ∀ entry ∈ registry.entries, entry.WellKinded

/-! ### The invariant of the command table -/

namespace Categories

variable {categories categories' : Categories} {category : Category}

/-- A category that is looked up is one of the categories. -/
theorem mem_values_of_get? {name : Value} (h : categories.get? name = .ok (some category)) :
    category ∈ categories.table.values := by
  rw [get?] at h
  split at h
  · obtain ⟨name, -, found⟩ := bind_eq_ok_iff.1 h
    rw [Table.values_eq]
    exact List.mem_map.2 ⟨_, Table.mem_toList_iff.2 (Except.ok.inj found), rfl⟩
  · cases h

/-- The categories after one was added are that one and old ones. -/
theorem eq_or_mem_of_add (h : categories.add category = .ok categories') :
    ∀ other ∈ categories'.table.values, other = category ∨ other ∈ categories.table.values := by
  obtain ⟨name, -, rfl⟩ := map_eq_ok_iff.1 h
  intro other
  exact Table.eq_or_mem_of_mem_values_insert

end Categories

namespace Registry

variable {registry : Registry}

theorem wellKinded_empty : (empty .empty).WellKinded :=
  ⟨fun _ h => by simp [empty, Categories.empty] at h, fun _ h => by simp [empty, entries] at h⟩

/-- A command is accepted only with strings for triggers, because they stand behind a prefix. -/
theorem WellKinded.entryFor (wellKinded : registry.WellKinded) {command : Option Command}
    {category : Option Category} {entry : Entry} (hcommand : ∀ c ∈ command, c.WellKinded)
    (hcategory : ∀ c ∈ category, c.WellKinded)
    (accepted : registry.entryFor command category = .ok entry) : entry.WellKinded := by
  obtain ⟨rfl, named, -, -, -, checked, -⟩ := entryFor_eq_ok_iff.1 accepted
  have filedUnder : entry.category.WellKinded := by
    cases category with
    | some category =>
      cases named
      exact hcategory entry.category rfl
    | none => exact wellKinded.categories _ (Categories.mem_values_of_get? named)
  refine ⟨hcommand entry.command rfl, filedUnder, ?_⟩
  intro trigger htrigger
  obtain ⟨full, added, -⟩ := checkTriggers_eq_ok_iff.1 checked trigger htrigger
  exact Value.isString_of_add filedUnder.defaultPrefix added

theorem WellKinded.file (wellKinded : registry.WellKinded) {entry : Entry}
    (hentry : entry.WellKinded) : (registry.file entry).WellKinded :=
  ⟨wellKinded.categories, forall_mem_entries_file wellKinded.entries hentry⟩

theorem WellKinded.redefine (wellKinded : registry.WellKinded) (instanceId : Nat)
    {definition : Definition} (hdefinition : definition.WellKinded) :
    (registry.redefine instanceId definition).WellKinded := by
  refine ⟨wellKinded.categories, forall_mem_entries_redefine wellKinded.entries ?_⟩
  intro entry old
  exact ⟨⟨hdefinition, old.command.prefixRule⟩, old.category, old.triggers⟩

end Registry

namespace Roster

/-- Whether the command and the categories of an operation are well-kinded. -/
def Operation.WellKinded : Operation → Prop
  | register command category =>
    (∀ c ∈ command, c.WellKinded) ∧ ∀ c ∈ category, c.WellKinded
  | addCategory category => category.WellKinded
  | redefine _ definition => definition.WellKinded

theorem wellKinded_perform {roster : Roster} (wellKinded : roster.registry.WellKinded)
    (operation : Operation) (h : operation.WellKinded) :
    (perform operation roster).state.registry.WellKinded := by
  refine perform_cases (motive := fun operation outcome =>
    operation.WellKinded → outcome.state.registry.WellKinded) roster ?_ ?_ ?_ ?_ operation h
  · rintro command category entry events accepted ⟨hcommand, hcategory⟩
    exact wellKinded.file (wellKinded.entryFor hcommand hcategory accepted)
  · intro category categories events result added hcategory
    refine ⟨fun other known => ?_, wellKinded.entries⟩
    rcases Categories.eq_or_mem_of_add added other known with rfl | old
    · exact hcategory
    · exact wellKinded.categories other old
  · intro instanceId definition hdefinition
    exact wellKinded.redefine instanceId hdefinition
  · intro _ fault _
    exact wellKinded

/-- The invariant is preserved by every history of well-kinded operations. -/
theorem wellKinded_after {roster : Roster} (wellKinded : roster.registry.WellKinded)
    (history : List Operation) (h : ∀ operation ∈ history, operation.WellKinded) :
    (after roster history).registry.WellKinded :=
  after_induction (fun roster => roster.registry.WellKinded)
    (fun _ operation h start => wellKinded_perform start operation h) wellKinded h

end Roster

/-- Whether a command table may come about by well-kinded operations. -/
def Registry.Reached (registry : Registry) : Prop :=
  ∃ history : List Roster.Operation, (∀ operation ∈ history, operation.WellKinded) ∧
    registry = (Roster.after (.create .empty) history).registry

theorem Registry.Reached.wellKinded {registry : Registry} (reached : registry.Reached) :
    registry.WellKinded := by
  obtain ⟨history, kinds, rfl⟩ := reached
  exact Roster.wellKinded_after wellKinded_empty history kinds

/-! ### Prefixes, aliases and triggers in a guild -/

theorem Category.WellKinded.yields_prefixIn {category : Category} (h : category.WellKinded)
    {settings : Option GuildSettings} (hsettings : ∀ s ∈ settings, s.WellKinded) :
    Yields (category.prefixIn (settings.map Guild.settled)) Value.IsString := by
  cases settings with
  | none => exact .ok h.defaultPrefix
  | some settings =>
    obtain ⟨name, named⟩ := h.name
    have custom : Guild.customPrefix? (.settled settings) category.lowerName =
        .ok (settings.prefixes.get? (.text (lower name))) := by
      rw [Category.lowerName, named]
      rfl
    show Yields (Guild.customPrefix? _ category.lowerName >>= _) _
    rw [custom, ok_bind]
    cases found : settings.prefixes.get? (.text (lower name)) with
    | none => exact .ok h.defaultPrefix
    | some custom =>
      have string : custom.IsString := (hsettings settings rfl).prefixes custom
        (List.mem_map.2 ⟨_, Table.mem_toList_iff.2 found, rfl⟩)
      dsimp only
      split
      · exact .ok string
      · exact .ok h.defaultPrefix

/-- Whether the prefixes that well-kinded categories have in a context are strings. -/
def Context.GivesStrings (context : Option Context) : Prop :=
  ∀ c ∈ context, ∀ category : Category, category.WellKinded →
    Yields (category.prefixIn c.guild) Value.IsString

theorem Context.givesStrings_settled {settings : Option GuildSettings}
    (hsettings : ∀ s ∈ settings, s.WellKinded) (message : Option Message) :
    GivesStrings (some ⟨message, settings.map Guild.settled⟩) := by
  rintro context ⟨⟩ category h
  exact h.yields_prefixIn hsettings

/-- The aliases that may be followed, if there is a guild. -/
def Guild.aliasesOf (guild : Option Guild) : List (Value × Value) :=
  (guild.map Guild.aliasPairs).getD []

theorem Guild.isString_of_mem_aliasesOf_settled {settings : Option GuildSettings}
    (hsettings : ∀ s ∈ settings, s.WellKinded) :
    ∀ pair ∈ aliasesOf (settings.map .settled), pair.1.IsString ∧ pair.2.IsString := by
  cases settings with
  | none => exact List.forall_mem_nil _
  | some settings =>
    refine List.forall_mem_map.2 fun pair hpair => ⟨Value.isString_toValue pair.1, ?_⟩
    exact (hsettings settings rfl).aliases pair.2 (List.mem_map.2 ⟨pair, hpair, rfl⟩)

theorem yields_isFullTrigger {leading : Value} (hleading : leading.IsString) (token : Value)
    {triggers : List Value} (h : ∀ trigger ∈ triggers, trigger.IsString) :
    Yields (isFullTrigger token leading triggers) fun _ => True := by
  induction triggers with
  | nil => exact .ok trivial
  | cons trigger later ih =>
    obtain ⟨first, others⟩ := List.forall_mem_cons.1 h
    refine (Value.yields_add hleading first).bind fun sum hsum => ?_
    refine (Value.yields_lowered hsum).bind fun full _ => ?_
    split
    · exact .ok trivial
    · exact ih others

theorem yields_isTrigger (word : Value) {triggers : List Value}
    (h : ∀ trigger ∈ triggers, trigger.IsString) :
    Yields (isTrigger word triggers) fun _ => True := by
  induction triggers with
  | nil => exact .ok trivial
  | cons trigger later ih =>
    obtain ⟨first, others⟩ := List.forall_mem_cons.1 h
    refine (Value.yields_lowered first).bind fun low _ => ?_
    split
    · exact .ok trivial
    · exact ih others

namespace Entry.WellKinded

variable {entry : Entry} {context : Option Context}

theorem yields_prefixIn (h : entry.WellKinded) (strings : Context.GivesStrings context) :
    Yields (entry.prefixIn context) Value.IsString := by
  rw [prefixIn]
  unfold Command.prefixIn
  split
  · rename_i rule own
    exact h.command.prefixRule rule own context entry.category
  · split
    · exact .ok h.category.defaultPrefix
    · rename_i context
      exact strings context rfl entry.category h.category

theorem yields_answers (h : entry.WellKinded) (strings : Context.GivesStrings context)
    (token : Value) : Yields (entry.answers context token) fun _ => True :=
  (h.yields_prefixIn strings).bind fun _ hstring => yields_isFullTrigger hstring token h.triggers

end Entry.WellKinded

/-! ### Candidates -/

theorem yields_selectWhere {α : Type} {p : α → Except Fault Bool} {l : List α}
    (h : ∀ a ∈ l, Yields (p a) fun _ => True) :
    Yields (selectWhere p l) fun selected => ∀ a ∈ selected, a ∈ l := by
  induction l with
  | nil => exact .ok (by simp)
  | cons a later ih =>
    obtain ⟨first, others⟩ := List.forall_mem_cons.1 h
    refine first.bind fun kept _ => (ih others).bind fun selected hselected => .ok ?_
    intro b hb
    cases kept with
    | true =>
      rcases List.mem_cons.1 hb with rfl | hb
      · exact List.mem_cons_self
      · exact List.mem_cons_of_mem _ (hselected b hb)
    | false => exact List.mem_cons_of_mem _ (hselected b hb)

theorem mem_of_best {α : Type} {priority : α → Priority} {l : List α} {a : α}
    (h : best priority l = some a) : a ∈ l := by
  obtain ⟨before, later, rfl, -⟩ := best_eq_some_iff.1 h
  simp

namespace Registry

/-- Candidates with levels have a best one among them, if there are any. -/
theorem yields_bestOf {α : Type} {entry : α → Entry} {candidates : List α}
    (h : ∀ c ∈ candidates, (entry c).WellKinded) :
    Yields (bestOf entry candidates) fun found => ∀ c ∈ found, c ∈ candidates := by
  refine Yields.bind (p := fun ranked => ∀ r ∈ ranked, r.1 ∈ candidates) ?_ ?_
  · refine .mapM fun c hc => ?_
    obtain ⟨level, hlevel⟩ := (h c hc).command.definition.priority
    show Yields (((entry c).command.definition.priority).rank.map _) _
    rw [hlevel]
    exact .ok hc
  · intro ranked hranked
    refine .ok fun c hc => ?_
    obtain ⟨winner, won, rfl⟩ := Option.map_eq_some_iff.1 hc
    exact hranked winner (mem_of_best won)

/-! ### Resolution -/

variable {registry : Registry} {context : Option Context}

theorem yields_resolveToken (wellKinded : registry.WellKinded)
    (strings : Context.GivesStrings context) (token : Value) :
    Yields (registry.resolveToken token context)
      fun found => ∀ entry ∈ found, entry ∈ registry.entries := by
  have selected := yields_selectWhere fun entry registered =>
    (wellKinded.entries entry registered).yields_answers strings token
  refine selected.bind fun candidates registered => ?_
  refine (yields_bestOf fun c hc => wellKinded.entries c (registered c hc)).mono ?_
  intro found hfound entry hentry
  exact registered entry (hfound entry hentry)

theorem yields_resolve (wellKinded : registry.WellKinded)
    (strings : Context.GivesStrings context) (line : String) :
    Yields (registry.resolve line context)
      fun found => ∀ entry ∈ found, entry ∈ registry.entries := by
  rw [resolve]
  split
  · exact .ok (by simp)
  · exact yields_resolveToken wellKinded strings _

theorem yields_resolveBare (wellKinded : registry.WellKinded) (trigger : String) :
    Yields (registry.resolveBare trigger)
      fun found => ∀ entry ∈ found, entry ∈ registry.entries := by
  rw [resolveBare]
  split
  · exact .ok (by simp)
  have known : ∀ entry ∈ registry.entries.filter fun entry => !entry.priority.isIgnored,
      entry ∈ registry.entries := fun entry kept => (List.mem_filter.1 kept).1
  have selected := yields_selectWhere fun entry kept =>
    yields_isTrigger (.text (lower trigger)) (wellKinded.entries entry (known entry kept)).triggers
  refine selected.bind fun candidates kept => ?_
  refine (yields_bestOf fun c hc => wellKinded.entries c (known c (kept c hc))).mono ?_
  intro found hfound entry hentry
  exact known entry (kept entry (hfound entry hentry))

theorem yields_resolveWord (wellKinded : registry.WellKinded)
    (strings : Context.GivesStrings context) {word : Value} (hword : word.IsString) :
    Yields (registry.resolveWord word context)
      fun found => ∀ entry ∈ found, entry ∈ registry.entries := by
  rcases Value.isString_iff.1 hword with ⟨s, rfl⟩ | ⟨codes, rfl⟩
  · exact yields_resolve wellKinded strings s
  · exact yields_resolveToken wellKinded strings _

theorem yields_target? (wellKinded : registry.WellKinded)
    (strings : Context.GivesStrings context) {target : Value} (htarget : target.IsString) :
    Yields (registry.target? context target)
      fun found => ∀ t ∈ found, t.1 ∈ registry.entries := by
  refine (Value.yields_wordsOf htarget).bind fun parts hparts => ?_
  cases parts with
  | nil => exact .ok (by simp)
  | cons word arguments =>
    have string : word.IsString := hparts word (by simp)
    refine (yields_resolveWord wellKinded strings string).bind fun found hfound => .ok ?_
    intro t ht
    obtain ⟨entry, hentry, rfl⟩ := Option.map_eq_some_iff.1 ht
    exact hfound entry hentry

/-- Whether a value is a text that a token starts with, and not the empty one. -/
def Begins (token : String) (word : Value) : Prop :=
  ∃ key, word = .text key ∧ key ≠ "" ∧ key.toList <+: token.toList

theorem yields_aliasApplies (token : String) {word : Value} (hword : word.IsString) :
    Yields (aliasApplies token word) fun applies => (applies = true ↔ Begins token word) := by
  rcases Value.isString_iff.1 hword with ⟨s, rfl⟩ | ⟨codes, rfl⟩
  · exact .ok (by simp [Begins])
  · exact .ok (by simp [Begins])

theorem yields_aliasTargets (wellKinded : registry.WellKinded)
    (strings : Context.GivesStrings context) (token : String) {aliases : List (Value × Value)}
    (h : ∀ pair ∈ aliases, pair.1.IsString ∧ pair.2.IsString) :
    Yields (registry.aliasTargets context token aliases)
      fun found => ∀ t ∈ found, t.1 ∈ registry.entries := by
  induction aliases with
  | nil => exact .ok (by simp)
  | cons pair later ih =>
    obtain ⟨⟨key, target⟩, others⟩ := List.forall_mem_cons.1 h
    refine (yields_aliasApplies token key).bind fun applies _ => ?_
    cases applies with
    | false => exact ih others
    | true =>
      refine (yields_target? wellKinded strings target).bind fun found hfound => ?_
      refine (ih others).bind fun targets htargets => .ok ?_
      intro t ht
      rcases List.mem_append.1 ht with ht | ht
      · exact hfound t (by simpa using ht)
      · exact htargets t ht

theorem yields_reached {entry : Entry} (h : entry.WellKinded) (arguments : List Value) :
    Yields (reached entry arguments) fun found => found.entry = entry := by
  rw [reached]
  split
  · exact .ok rfl
  · obtain ⟨items, listed⟩ := h.command.definition.triggers
    show Yields (entry.command.definition.triggers.items.map _) _
    rw [listed]
    exact .ok rfl

theorem yields_resolveAlias (wellKinded : registry.WellKinded)
    (strings : Context.GivesStrings context) (line : String) {guild : Option Guild}
    (h : ∀ pair ∈ Guild.aliasesOf guild, pair.1.IsString ∧ pair.2.IsString) :
    Yields (registry.resolveAlias line context guild)
      fun found => ∀ m ∈ found, m.entry ∈ registry.entries := by
  cases guild with
  | none => exact .ok (by simp)
  | some guild =>
    show Yields (if (firstToken line).isEmpty then .ok none else _) _
    split
    · exact .ok (by simp)
    have targets := yields_aliasTargets wellKinded strings (firstToken line) h
    refine targets.bind fun candidates registered => ?_
    have winner := yields_bestOf fun c hc => wellKinded.entries _ (registered c hc)
    refine winner.bind fun found hfound => ?_
    cases found with
    | none => exact .ok (by simp)
    | some found =>
      have known : found.1 ∈ registry.entries := registered found (hfound found rfl)
      refine (yields_reached (wellKinded.entries _ known) found.2).bind fun m hm => .ok ?_
      intro m' hm'
      rw [← Option.some.inj hm', hm]
      exact known

/-- **The resolution of a line ends with a result**, which is an entry of the table if it is
anything. -/
theorem yields_resolveWithAlias (wellKinded : registry.WellKinded)
    (strings : Context.GivesStrings context) (line : String) {guild : Option Guild}
    (h : ∀ pair ∈ Guild.aliasesOf guild, pair.1.IsString ∧ pair.2.IsString) :
    Yields (registry.resolveWithAlias line context guild)
      fun found => ∀ m ∈ found, m.entry ∈ registry.entries := by
  refine (yields_resolve wellKinded strings line).bind fun found hfound => ?_
  cases found with
  | none => exact yields_resolveAlias wellKinded strings line h
  | some entry => exact .ok fun m hm => by rw [← Option.some.inj hm]; exact hfound entry rfl

end Registry

end CommandRouter
