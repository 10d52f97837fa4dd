import CommandRouter.Proofs.Registry.Registration
import CommandRouter.Proofs.Registry.Search

/-!
# What the aliases of a guild select

Resolution through aliases is a search with an order of its own, and here is what it finds. Every
alias that begins the token and whose target starts with a word proposes what that word selects,
together with the words after it. The proposals stand in the order of the aliases. The first one
whose level none exceeds is taken, with its own words and no others.

An alias proposes what the word selects *directly*. Its word is looked up in the command table and
not among the aliases, so no alias leads to another one.

## Which triggers an alias goes by

A match that carries words shows the triggers that the command has now, and not those that it was
registered with. The two are the same unless the definition has been changed since. A direct match
keeps the triggers of its entry.

## Main definitions

* `Registry.Proposals` lists what some aliases propose.
* `Registry.Chosen` is the match that comes of it, and `Registry.Selects` what a line selects.
* `Registry.Reaches` says how a token reaches a match.

## Main results

* `Registry.aliasTargets_eq_ok_iff` and `Registry.pick_eq_ok_iff` are the two halves of the search.
* `Registry.resolveWithAlias_eq_ok_iff` puts them together, and `Registry.resolveWithAlias_selects`
  adds that there is a result where all values are of the right kinds, and what triggers it has.
* `Registry.reaches_of_resolveWithAlias` says where a match and its arguments come from, of whatever
  kinds the values are.
-/

namespace CommandRouter

namespace Registry

variable {registry : Registry} {context : Option Context} {token : String}

/-! ### What the aliases propose -/

/-- Whether an alias begins a token and has a target that starts with a word, which the arguments
follow. -/
structure Leads (token : String) (pair : Value × Value) (word : Value) (arguments : List Value) :
    Prop where
  /-- The alias begins the token. -/
  begins : Begins token pair.1
  /-- The target is put together from the word and the arguments. -/
  target : pair.2.wordsOf = .ok (word :: arguments)

/-- What some aliases propose for a token, in their order. An alias that leads to no command
proposes nothing. -/
inductive Proposals (registry : Registry) (context : Option Context) (token : String) :
    List (Value × Value) → List (Entry × List Value) → Prop
  /-- No aliases propose nothing. -/
  | nil : Proposals registry context token [] []
  /-- The word of an alias selects an entry directly. -/
  | proposing {pair : Value × Value} {later : List (Value × Value)} {word : Value}
      {arguments : List Value} {entry : Entry} {proposals : List (Entry × List Value)}
      (leads : Leads token pair word arguments)
      (found : registry.resolveWord word context = .ok (some entry))
      (others : Proposals registry context token later proposals) :
      Proposals registry context token (pair :: later) ((entry, arguments) :: proposals)
  /-- An alias leads to no word, or to one that selects nothing. -/
  | passing {pair : Value × Value} {later : List (Value × Value)}
      {proposals : List (Entry × List Value)}
      (nothing : ∀ word arguments, Leads token pair word arguments →
        registry.resolveWord word context = .ok none)
      (others : Proposals registry context token later proposals) :
      Proposals registry context token (pair :: later) proposals

/-- The empty token is begun by no alias. -/
theorem proposals_empty (aliases : List (Value × Value)) :
    Proposals registry context "" aliases [] := by
  induction aliases with
  | nil => exact .nil
  | cons pair later ih =>
    refine .passing (fun word arguments leads => ?_) ih
    obtain ⟨key, -, nonempty, begins⟩ := leads.begins
    exact absurd (by simpa using begins) nonempty

/-- An alias that leads to a word is followed to what that word selects. -/
theorem aliasTargets_cons_of_leads {pair : Value × Value} {word : Value}
    {arguments : List Value} (leads : Leads token pair word arguments)
    (later : List (Value × Value)) :
    registry.aliasTargets context token (pair :: later) = do
      let found ← registry.resolveWord word context
      let others ← registry.aliasTargets context token later
      return (found.map fun entry => (entry, arguments)).toList ++ others := by
  have hkey : pair.1.IsString := by
    obtain ⟨key, same, -⟩ := leads.begins
    simp [same]
  obtain ⟨applies, tested, hbegins⟩ := yields_aliasApplies token hkey
  rw [aliasTargets, tested, ok_bind, hbegins.2 leads.begins, if_pos rfl, target?, leads.target,
    ok_bind]
  dsimp only
  cases registry.resolveWord word context <;> rfl

/-- An alias that leads to no word is passed by. -/
theorem aliasTargets_cons_of_not_leads {pair : Value × Value} (hkey : pair.1.IsString)
    (htarget : pair.2.IsString) (h : ∀ word arguments, ¬Leads token pair word arguments)
    (later : List (Value × Value)) :
    registry.aliasTargets context token (pair :: later) =
      registry.aliasTargets context token later := by
  obtain ⟨applies, tested, hbegins⟩ := yields_aliasApplies token hkey
  rw [aliasTargets, tested, ok_bind]
  cases applies with
  | false => rfl
  | true =>
    obtain ⟨parts, cut, -⟩ := Value.yields_wordsOf htarget
    cases parts with
    | nil =>
      rw [if_pos rfl, target?, cut]
      cases registry.aliasTargets context token later <;> rfl
    | cons word arguments => exact absurd ⟨hbegins.1 rfl, cut⟩ (h word arguments)

/-- **The aliases are searched for what they propose.** -/
theorem aliasTargets_eq_ok_iff {aliases : List (Value × Value)}
    (strings : ∀ pair ∈ aliases, pair.1.IsString ∧ pair.2.IsString)
    {proposals : List (Entry × List Value)} :
    registry.aliasTargets context token aliases = .ok proposals ↔
      Proposals registry context token aliases proposals := by
  induction aliases generalizing proposals with
  | nil =>
    constructor
    · rintro ⟨⟩
      exact .nil
    · rintro ⟨⟩
      rfl
  | cons pair later ih =>
    obtain ⟨⟨hkey, htarget⟩, rest⟩ := List.forall_mem_cons.1 strings
    -- An alias leads to one word at most. If there is one, what it selects decides; if there is
    -- none, the alias is passed by in the search and in the relation alike.
    by_cases h : ∃ word arguments, Leads token pair word arguments
    · obtain ⟨word, arguments, leads⟩ := h
      have only : ∀ word' arguments', Leads token pair word' arguments' →
          word' = word ∧ arguments' = arguments := by
        intro word' arguments' leads'
        simpa using leads'.target.symm.trans leads.target
      rw [aliasTargets_cons_of_leads leads]
      constructor
      · intro found
        obtain ⟨selected, looked, found⟩ := bind_eq_ok_iff.1 found
        obtain ⟨others, hothers, found⟩ := bind_eq_ok_iff.1 found
        cases found
        cases selected with
        | some entry => exact .proposing leads looked ((ih rest).1 hothers)
        | none =>
          refine .passing (fun word' arguments' leads' => ?_) ((ih rest).1 hothers)
          rw [(only word' arguments' leads').1, looked]
      · intro proposed
        cases proposed with
        | proposing leads' looked others =>
          obtain ⟨rfl, rfl⟩ := only _ _ leads'
          rw [looked, ok_bind, (ih rest).2 others]
          rfl
        | passing nothing others =>
          rw [nothing word arguments leads, ok_bind, (ih rest).2 others]
          rfl
    · have nothing : ∀ word arguments, ¬Leads token pair word arguments :=
        fun word arguments leads => h ⟨word, arguments, leads⟩
      rw [aliasTargets_cons_of_not_leads hkey htarget nothing, ih rest]
      constructor
      · intro others
        exact .passing (fun word arguments leads => absurd leads (nothing word arguments)) others
      · intro proposed
        cases proposed with
        | proposing leads' looked others => exact absurd leads' (nothing _ _)
        | passing _ others => exact others

/-! ### The match that comes of it -/

/-- How an entry is matched through an alias: directly if no arguments come with it, and else with
the arguments and with the triggers that its command has now. -/
inductive Matched (entry : Entry) : List Value → Match → Prop
  /-- There are no arguments. -/
  | direct : Matched entry [] (.direct entry)
  /-- There are arguments. -/
  | aliased {arguments triggers : List Value} (nonempty : arguments ≠ [])
      (listed : entry.command.triggers.items = .ok triggers) :
      Matched entry arguments (.aliased entry triggers arguments)

theorem reached_eq_ok_iff {entry : Entry} {arguments : List Value} {found : Match} :
    reached entry arguments = .ok found ↔ Matched entry arguments found := by
  cases arguments with
  | nil =>
    constructor
    · rintro ⟨⟩
      exact .direct
    · rintro (_ | ⟨nonempty, -⟩)
      · rfl
      · exact absurd rfl nonempty
  | cons argument arguments =>
    rw [reached, if_neg (by simp), Match.throughAlias, map_eq_ok_iff]
    constructor
    · rintro ⟨triggers, listed, rfl⟩
      exact .aliased (List.cons_ne_nil _ _) listed
    · rintro (_ | ⟨-, listed⟩)
      exact ⟨_, listed, rfl⟩

/-- The match that comes of some proposals: the first one whose level exceeds all levels before it
and is exceeded by none after it, with its own arguments. -/
inductive Chosen : List (Entry × List Value) → Option Match → Prop
  /-- Nothing is proposed. -/
  | nothing : Chosen [] none
  /-- The first of the proposals with the highest level is taken. -/
  | winner {before after : List (Entry × List Value)} {entry : Entry} {arguments : List Value}
      {level : Priority} {found : Match} (rated : entry.priority = .level level)
      (exceeds : ∀ p ∈ before, ∃ less, p.1.priority = .level less ∧ less.rank < level.rank)
      (bounded : ∀ p ∈ after, ∃ other, p.1.priority = .level other ∧ other.rank ≤ level.rank)
      (reached : Matched entry arguments found) :
      Chosen (before ++ (entry, arguments) :: after) (some found)

/-- The match of the best proposal. -/
def pick (proposals : List (Entry × List Value)) : Except Fault (Option Match) := do
  match ← bestOf Prod.fst proposals with
  | none => return none
  | some (entry, arguments) => return some (← reached entry arguments)

/-- **Of the proposals the best one is taken, with its own arguments.** -/
theorem pick_eq_ok_iff {proposals : List (Entry × List Value)} {found : Option Match} :
    pick proposals = .ok found ↔ Chosen proposals found := by
  constructor
  · intro h
    obtain ⟨best, searched, h⟩ := bind_eq_ok_iff.1 h
    cases best with
    | none =>
      cases h
      rw [bestOf_eq_none_iff.1 searched]
      exact .nothing
    | some best =>
      obtain ⟨m, hm, h⟩ := bind_eq_ok_iff.1 h
      cases h
      obtain ⟨before, after, level, rfl, rated, exceeds, bounded⟩ := bestOf_eq_some_iff.1 searched
      exact .winner rated exceeds bounded (reached_eq_ok_iff.1 hm)
  · intro chosen
    cases chosen with
    | nothing => rfl
    | @winner before after entry arguments level m rated exceeds bounded matched =>
      have searched : bestOf Prod.fst (before ++ (entry, arguments) :: after) =
          .ok (some (entry, arguments)) :=
        bestOf_eq_some_iff.2 ⟨before, after, level, rfl, rated, exceeds, bounded⟩
      rw [pick, searched, ok_bind]
      dsimp only
      rw [reached_eq_ok_iff.2 matched]
      rfl

/-- Following the aliases is to search them and to take the best of what they propose. -/
theorem resolveAlias_eq (line : String) {guild : Option Guild}
    (strings : ∀ pair ∈ Guild.aliasesOf guild, pair.1.IsString ∧ pair.2.IsString) :
    registry.resolveAlias line context guild =
      (registry.aliasTargets context (firstToken line) (Guild.aliasesOf guild) >>= pick) := by
  cases guild with
  | none => rfl
  | some guild =>
    show (if (firstToken line).isEmpty then Except.ok none else _) = _
    split
    · rename_i empty
      rw [String.isEmpty_iff.1 empty,
        (aliasTargets_eq_ok_iff strings).2 (proposals_empty (Guild.aliasesOf (some guild)))]
      rfl
    · rfl

/-- What a line selects: the entry of its token, or else what the aliases propose. -/
inductive Selects (registry : Registry) (line : String) (context : Option Context)
    (aliases : List (Value × Value)) : Option Match → Prop
  /-- The token selects an entry directly. -/
  | directly {entry : Entry} (found : registry.resolve line context = .ok (some entry)) :
      Selects registry line context aliases (some (.direct entry))
  /-- The token selects nothing, and the aliases are followed. -/
  | throughAliases {proposals : List (Entry × List Value)} {found : Option Match}
      (nothing : registry.resolve line context = .ok none)
      (proposed : Proposals registry context (firstToken line) aliases proposals)
      (chosen : Chosen proposals found) :
      Selects registry line context aliases found

/-- The search finds what a line selects, and nothing else. -/
theorem resolveWithAlias_eq_ok_iff {line : String} {guild : Option Guild}
    (strings : ∀ pair ∈ Guild.aliasesOf guild, pair.1.IsString ∧ pair.2.IsString)
    {found : Option Match} :
    registry.resolveWithAlias line context guild = .ok found ↔
      registry.Selects line context (Guild.aliasesOf guild) found := by
  constructor
  · intro h
    obtain ⟨resolved, looked, h⟩ := bind_eq_ok_iff.1 h
    cases resolved with
    | some entry =>
      cases h
      exact .directly looked
    | none =>
      rw [resolveAlias_eq line strings] at h
      obtain ⟨proposals, searched, picked⟩ := bind_eq_ok_iff.1 h
      exact .throughAliases looked ((aliasTargets_eq_ok_iff strings).1 searched)
        (pick_eq_ok_iff.1 picked)
  · intro selects
    cases selects with
    | directly looked => exact bind_eq_ok_iff.2 ⟨_, looked, rfl⟩
    | throughAliases nothing proposed chosen =>
      refine bind_eq_ok_iff.2 ⟨none, nothing, ?_⟩
      dsimp only
      rw [resolveAlias_eq line strings, (aliasTargets_eq_ok_iff strings).2 proposed, ok_bind,
        pick_eq_ok_iff.2 chosen]

/-- A match goes by the triggers of its entry, unless the command has others by now. -/
theorem Matched.triggers_eq {entry : Entry} {arguments : List Value} {found : Match}
    (h : Matched entry arguments found)
    (unchanged : found.entry.command.triggers.items = .ok found.entry.triggers) :
    found.triggers = found.entry.triggers := by
  cases h with
  | direct => rfl
  | aliased nonempty listed => exact Except.ok.inj (listed.symm.trans unchanged)

theorem Selects.triggers_eq {line : String} {aliases : List (Value × Value)} {found : Match}
    (h : registry.Selects line context aliases (some found))
    (unchanged : found.entry.command.triggers.items = .ok found.entry.triggers) :
    found.triggers = found.entry.triggers := by
  cases h with
  | directly looked => rfl
  | throughAliases nothing proposed chosen =>
    cases chosen with
    | winner rated exceeds bounded matched => exact matched.triggers_eq unchanged

/-- **A line selects what the search finds, and nothing else.** Where all values are of the right
kinds there is a result. The triggers of a match are those of its entry, unless the command was
changed. -/
theorem resolveWithAlias_selects (registry : Registry) (line : String)
    (context : Option Context) (guild : Option Guild)
    (strings : ∀ pair ∈ Guild.aliasesOf guild, pair.1.IsString ∧ pair.2.IsString) :
    (∀ found, registry.resolveWithAlias line context guild = .ok found ↔
        registry.Selects line context (Guild.aliasesOf guild) found) ∧
      (registry.WellKinded → Context.GivesStrings context →
        ∃ found, registry.resolveWithAlias line context guild = .ok found) ∧
      ∀ found, registry.resolveWithAlias line context guild = .ok (some found) →
        found.entry.command.triggers.items = .ok found.entry.triggers →
          found.triggers = found.entry.triggers := by
  have exact : ∀ found, registry.resolveWithAlias line context guild = .ok found ↔
      registry.Selects line context (Guild.aliasesOf guild) found := fun found =>
    resolveWithAlias_eq_ok_iff strings
  refine ⟨exact, fun wellKinded gives => ?_, fun found resolved unchanged => ?_⟩
  · obtain ⟨found, resolved, -⟩ := yields_resolveWithAlias wellKinded gives line strings
    exact ⟨found, resolved⟩
  · exact ((exact (some found)).1 resolved).triggers_eq unchanged

/-! ### Where a match comes from -/

/-- How a token reaches a match: it selects an entry, which has no arguments of its own, or it
selects nothing and one of the aliases that begin it leads to the entry and brings the arguments. -/
inductive Reaches (registry : Registry) (context : Option Context)
    (aliases : List (Value × Value)) (token : String) : Match → Prop
  /-- The token selects the entry. -/
  | directly {entry : Entry}
      (found : registry.resolveToken (.text token) context = .ok (some entry)) :
      Reaches registry context aliases token (.direct entry)
  /-- An alias begins the token, and the first word of its target selects the entry. The other words
  of the target are the arguments. -/
  | throughAlias {key target word : Value} {found : Match}
      (nothing : registry.resolveToken (.text token) context = .ok none)
      (listed : (key, target) ∈ aliases) (begins : aliasApplies token key = .ok true)
      (cut : target.wordsOf = .ok (word :: found.aliasArguments))
      (selected : registry.resolveWord word context = .ok (some found.entry)) :
      Reaches registry context aliases token found

/-- Every target that was found belongs to an alias that begins the token. -/
theorem exists_alias_of_mem_aliasTargets {aliases : List (Value × Value)}
    {targets : List (Entry × List Value)}
    (h : registry.aliasTargets context token aliases = .ok targets) :
    ∀ target ∈ targets, ∃ pair ∈ aliases, aliasApplies token pair.1 = .ok true ∧
      ∃ word, pair.2.wordsOf = .ok (word :: target.2) ∧
        registry.resolveWord word context = .ok (some target.1) := by
  induction aliases generalizing targets with
  | nil =>
    cases h
    exact List.forall_mem_nil _
  | cons pair later ih =>
    obtain ⟨applies, tested, h⟩ := bind_eq_ok_iff.1 h
    have among {others : List (Entry × List Value)}
        (searched : registry.aliasTargets context token later = .ok others) :
        ∀ target ∈ others, ∃ other ∈ pair :: later, aliasApplies token other.1 = .ok true ∧
          ∃ word, other.2.wordsOf = .ok (word :: target.2) ∧
            registry.resolveWord word context = .ok (some target.1) := by
      intro target htarget
      obtain ⟨other, listed, rest⟩ := ih searched target htarget
      exact ⟨other, List.mem_cons_of_mem _ listed, rest⟩
    cases applies with
    | false => exact among h
    | true =>
      obtain ⟨found, looked, h⟩ := bind_eq_ok_iff.1 h
      obtain ⟨others, searched, h⟩ := bind_eq_ok_iff.1 h
      cases h
      refine List.forall_mem_append.2 ⟨fun target htarget => ?_, among searched⟩
      obtain ⟨parts, cut, looked⟩ := bind_eq_ok_iff.1 looked
      cases parts with
      | nil =>
        cases looked
        cases htarget
      | cons word arguments =>
        obtain ⟨selected, resolved, looked⟩ := bind_eq_ok_iff.1 looked
        cases looked
        obtain ⟨entry, rfl, rfl⟩ :=
          Option.map_eq_some_iff.1 (Option.mem_toList.1 htarget)
        exact ⟨pair, List.mem_cons_self, tested, word, cut, resolved⟩

/-- A match that was reached has the entry and the arguments it was made of. -/
theorem entry_and_arguments_of_reached {entry : Entry} {arguments : List Value} {found : Match}
    (h : reached entry arguments = .ok found) :
    found.entry = entry ∧ found.aliasArguments = arguments := by
  cases reached_eq_ok_iff.1 h with
  | direct => exact ⟨rfl, rfl⟩
  | aliased _ _ => exact ⟨rfl, rfl⟩

/-- **A line is resolved by the token that its first word is in lower case**, both among the
commands and among the aliases. -/
theorem reaches_of_resolveWithAlias {line : String} {guild : Option Guild} {found : Match}
    (h : registry.resolveWithAlias line context guild = .ok (some found)) :
    firstToken line ≠ "" ∧
      registry.Reaches context (Guild.aliasesOf guild) (firstToken line) found := by
  obtain ⟨resolved, looked, h⟩ := bind_eq_ok_iff.1 h
  rw [resolve] at looked
  by_cases empty : firstToken line = ""
  · -- Without a token neither the commands nor the aliases are searched.
    rw [if_pos (String.isEmpty_iff.2 empty)] at looked
    cases looked
    cases guild with
    | none => cases h
    | some guild =>
      rw [resolveAlias] at h
      dsimp only at h
      rw [if_pos (String.isEmpty_iff.2 empty)] at h
      cases h
  refine ⟨empty, ?_⟩
  rw [if_neg (by simpa using empty)] at looked
  cases resolved with
  | some entry =>
    cases h
    exact .directly looked
  | none =>
    cases guild with
    | none => cases h
    | some guild =>
      rw [resolveAlias] at h
      dsimp only at h
      rw [if_neg (by simpa using empty)] at h
      obtain ⟨targets, searched, h⟩ := bind_eq_ok_iff.1 h
      obtain ⟨best, won, h⟩ := bind_eq_ok_iff.1 h
      cases best with
      | none => cases h
      | some winner =>
        obtain ⟨m, hm, h⟩ := bind_eq_ok_iff.1 h
        cases h
        obtain ⟨before, after, -, rfl, -⟩ := bestOf_eq_some_iff.1 won
        obtain ⟨⟨key, target⟩, listed, begins, word, cut, selected⟩ :=
          exists_alias_of_mem_aliasTargets searched winner (by simp)
        obtain ⟨same, arguments⟩ := entry_and_arguments_of_reached hm
        exact .throughAlias looked listed begins (by rw [arguments, cut]) (by rw [same, selected])

/-- **A match that is found is of an entry of the table.** -/
theorem mem_of_resolveWithAlias {line : String} {guild : Option Guild} {found : Match}
    (h : registry.resolveWithAlias line context guild = .ok (some found)) :
    found.entry ∈ registry.entries := by
  obtain ⟨-, reaches⟩ := reaches_of_resolveWithAlias h
  cases reaches with
  | directly selected => exact mem_of_resolveToken selected
  | throughAlias _ _ _ _ selected => exact mem_of_resolveWord selected

/-! ### Aliases that overlap, and triggers that were changed -/

/-- Two commands of one priority, the first of which gets another trigger after it was
registered. -/
def changedHistory : List Roster.Operation := [
  .addCategory (.ofTexts "Utility" "!"),
  .register (some (.plain 0 "ping" "Utility" ["ping"])) none,
  .register (some (.plain 1 "pong" "Utility" ["pong"])) none,
  .redefine 0 (Command.plain 0 "ping" "Utility" ["ping", "p"]).definition]

/-- The entry of the command that was changed: it keeps its one trigger. -/
def changedEntry : Entry :=
  ⟨.plain 0 "ping" "Utility" ["ping", "p"], .ofTexts "Utility" "!", [.text "ping"]⟩

/-- A guild with aliases that begin one another. The target of the first one is blank. -/
def overlapping : Guild :=
  .settled (.normalized (.text "1") .empty (.ofList [
    (.text "p", .text " "), (.text "pi", .text "!PING 1"), (.text "pin", .text "!pong 2"),
    (.text "po", .text "!pong 3")]))

/-- The history brings in nothing of a wrong kind. -/
theorem wellKinded_of_mem_changedHistory :
    ∀ operation ∈ changedHistory, operation.WellKinded := by
  have plain (instanceId : Nat) (name category : String) (triggers : List String) :
      (Command.plain instanceId name category triggers).WellKinded :=
    ⟨⟨⟨_, rfl⟩, ⟨_, rfl⟩⟩, by simp [Command.plain]⟩
  have utility : (Category.ofTexts "Utility" "!").WellKinded := ⟨⟨_, rfl⟩, rfl⟩
  simp only [changedHistory, List.forall_mem_cons]
  refine ⟨utility, ⟨?_, by simp⟩, ⟨?_, by simp⟩, (plain 0 _ _ _).definition, List.forall_mem_nil _⟩
  · rintro command ⟨⟩
    exact plain 0 _ _ _
  · rintro command ⟨⟩
    exact plain 1 _ _ _

/-- Of two aliases with equal priorities the first one is followed, and its words come with it. The
triggers are those of the entry for the command that was left as it was. -/
theorem resolveWithAlias_overlapping :
    let registry := (Roster.after (.create .empty) changedHistory).registry
    (∀ pair ∈ Guild.aliasesOf (some overlapping), pair.1.IsString ∧ pair.2.IsString) ∧
      registry.WellKinded ∧ Context.GivesStrings none ∧
      registry.Selects "Pinger x" none (Guild.aliasesOf (some overlapping))
        (some (.aliased changedEntry [.text "ping", .text "p"] [.text "1"])) ∧
      (∃ found, registry.resolveWithAlias "Pinger x" none (some overlapping) = .ok found) ∧
      ∃ found, registry.resolveWithAlias "POX" none (some overlapping) = .ok (some found) ∧
        found.aliasArguments = [.text "3"] ∧ found.triggers = found.entry.triggers := by
  intro registry
  have strings : ∀ pair ∈ Guild.aliasesOf (some overlapping),
      pair.1.IsString ∧ pair.2.IsString := by decide
  have wellKinded : registry.WellKinded :=
    Roster.wellKinded_after wellKinded_empty changedHistory wellKinded_of_mem_changedHistory
  have gives : Context.GivesStrings none := by
    rintro context ⟨⟩
  obtain ⟨ping, total, -⟩ := resolveWithAlias_selects registry "Pinger x" none _ strings
  obtain ⟨-, -, unchanged⟩ := resolveWithAlias_selects registry "POX" none _ strings
  refine ⟨strings, wellKinded, gives, (ping _).1 rfl, total wellKinded gives, ?_⟩
  exact ⟨.aliased ⟨.plain 1 "pong" "Utility" ["pong"], .ofTexts "Utility" "!", [.text "pong"]⟩
    [.text "pong"] [.text "3"], rfl, rfl, unchanged _ rfl rfl⟩

/-- A match that carries words need not have the triggers of its entry. -/
theorem aliased_triggers_ne :
    let registry := (Roster.after (.create .empty) changedHistory).registry
    registry.resolve "pinger" none = .ok none ∧
      registry.resolve "!PING" none = .ok (some changedEntry) ∧
      ∃ found, registry.resolveWithAlias "pinger" none (some overlapping) = .ok (some found) ∧
        found.entry = changedEntry ∧ found.aliasArguments = [.text "1"] ∧
        found.triggers ≠ changedEntry.triggers := by
  refine ⟨rfl, rfl, .aliased changedEntry [.text "ping", .text "p"] [.text "1"], rfl, rfl, rfl, ?_⟩
  simp [Match.triggers, changedEntry]

end Registry

end CommandRouter
