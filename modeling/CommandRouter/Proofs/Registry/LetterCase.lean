import CommandRouter.Proofs.LetterContext
import CommandRouter.Proofs.Registry.Aliases
import CommandRouter.Proofs.Registry.Spelling

/-!
# Lines and aliases in any case

A line is resolved by its token, which is in lower case whatever the line is written in. So a line
and its lower case select the same, in every guild and through every alias. That takes more than
that the token is lower-cased: the line has to fall into the same words before and after.

## An alias at the beginning of a token

An alias is kept in lower case as well, and it applies if the token begins with it. But it was
lower-cased by itself, while the token is lower-cased as a whole. What is typed may then begin with
an alias as it was configured, and the token may not begin with the alias as it is kept. That
happens to an alias that ends in a sigma: by itself it has a final one, and in front of a letter an
ordinary one. Such an alias is followed only where no letter comes next.

## Main results

* `firstToken_lower` is the token of a line in lower case.
* `Registry.resolve_lower` says that a line selects the same in lower case.
* `Registry.aliasApplies_append` says when an alias applies that begins a word.
* `Registry.exists_resolveWithAlias_append` says that something is selected then.
-/

namespace CommandRouter

/-- A line has the same token in lower case. -/
@[simp] theorem firstToken_lower (line : String) : firstToken (lower line) = firstToken line := by
  rw [firstToken, firstToken, words_lower]
  cases words line with
  | nil => rfl
  | cons word later => exact lower_lower word

/-- The aliases of settings that are made of strings are strings. -/
theorem Guild.isString_of_mem_aliasesOf_normalized {aliases : Table Label Value}
    (values : ∀ value ∈ aliases.values, value.IsString) (id : Value)
    (prefixes : Table Label Value) :
    ∀ pair ∈ aliasesOf (some (.settled (.normalized id prefixes aliases))),
      pair.1.IsString ∧ pair.2.IsString := by
  refine List.forall_mem_map.2 fun pair hpair => ⟨Value.isString_toValue pair.1, values _ ?_⟩
  exact GuildSettings.mem_values_of_mem_values_lowerKeys (List.mem_map.2 ⟨pair, hpair, rfl⟩)

namespace Registry

variable {registry : Registry} {context : Option Context}

/-- **A line selects the same in lower case.** Its words are lower-cased each by itself, and the
first one of them is the token. -/
theorem resolve_lower (line : String) :
    words (lower line) = (words line).map lower ∧ firstToken (lower line) = firstToken line ∧
      ∀ (registry : Registry) (context : Option Context),
        registry.resolve (lower line) context = registry.resolve line context ∧
          ∀ guild : Option Guild, registry.resolveWithAlias (lower line) context guild =
            registry.resolveWithAlias line context guild := by
  refine ⟨words_lower line, firstToken_lower line, fun registry context => ?_⟩
  have direct : registry.resolve (lower line) context = registry.resolve line context := by
    rw [resolve, resolve, firstToken_lower]
  refine ⟨direct, fun guild => ?_⟩
  have aliased : registry.resolveAlias (lower line) context guild =
      registry.resolveAlias line context guild := by
    simp only [resolveAlias, firstToken_lower]
  rw [resolveWithAlias, resolveWithAlias, direct, aliased]

/-! ### An alias that begins a word -/

/-- **An alias applies to a word that begins with it**, unless it ends in a sigma that is final by
itself and a letter comes next. -/
theorem aliasApplies_append {key rest : String} (nonempty : key ≠ "")
    (unbroken : ∀ c ∈ (key ++ rest).toList, isBlank c = false) :
    aliasApplies (firstToken (key ++ rest)) (.text (lower key)) =
      .ok (!(endsInFinalSigma key && startsCased rest.toList)) := by
  have typed : key ++ rest ≠ "" := by simp [nonempty]
  have present : (!(lower key).isEmpty) = true := by simp [nonempty]
  rw [firstToken_eq_lower typed unbroken, aliasApplies, present, Bool.true_and, Except.ok.injEq,
    Bool.eq_iff_iff, List.isPrefixOf_iff_prefix, isPrefix_lower_append_iff, Bool.not_eq_true']

/-- An alias that leads to an entry is among the proposals. -/
theorem Proposals.mem_of_leads {token : String} {aliases : List (Value × Value)}
    {proposals : List (Entry × List Value)}
    (proposed : Proposals registry context token aliases proposals) {pair : Value × Value}
    (listed : pair ∈ aliases) {word : Value} {arguments : List Value}
    (leads : Leads token pair word arguments) {entry : Entry}
    (found : registry.resolveWord word context = .ok (some entry)) :
    (entry, arguments) ∈ proposals := by
  induction proposed with
  | nil => cases listed
  | proposing leads' found' _ ih =>
    rcases List.mem_cons.1 listed with rfl | later
    · cases leads.target.symm.trans leads'.target
      cases found.symm.trans found'
      exact List.mem_cons_self
    · exact List.mem_cons_of_mem _ (ih later)
  | passing nothing _ ih =>
    rcases List.mem_cons.1 listed with rfl | later
    · cases found.symm.trans (nothing word arguments leads)
    · exact ih later

/-- Where something is proposed, something is chosen. -/
theorem Chosen.exists_of_mem {proposals : List (Entry × List Value)} {found : Option Match}
    (chosen : Chosen proposals found) {proposal : Entry × List Value}
    (listed : proposal ∈ proposals) : ∃ m, found = some m := by
  cases chosen with
  | nothing => cases listed
  | winner => exact ⟨_, rfl⟩

/-- **A word that begins with an alias selects something**, in whatever case the alias was
configured, if its target leads to an entry. The alias applies unless it ends in a sigma that is
final by itself and a letter comes next. -/
theorem exists_resolveWithAlias_append (kinds : registry.WellKinded)
    (strings : Context.GivesStrings context) {aliases : Table Label Value}
    (values : ∀ value ∈ aliases.values, value.IsString) (id : Value)
    (prefixes : Table Label Value) {key rest : String} (nonempty : key ≠ "")
    (unbroken : ∀ c ∈ (key ++ rest).toList, isBlank c = false) {target word : Value}
    {arguments : List Value} {entry : Entry}
    (stored : (GuildSettings.normalized id prefixes aliases).aliases.get? (.text (lower key)) =
      some target)
    (cut : target.wordsOf = .ok (word :: arguments))
    (found : registry.resolveWord word context = .ok (some entry)) :
    aliasApplies (firstToken (key ++ rest)) (.text (lower key)) =
        .ok (!(endsInFinalSigma key && startsCased rest.toList)) ∧
      ((endsInFinalSigma key && startsCased rest.toList) = false →
        ∃ m, registry.resolveWithAlias (key ++ rest) context
          (some (.settled (.normalized id prefixes aliases))) = .ok (some m)) := by
  have applies := aliasApplies_append nonempty unbroken
  refine ⟨applies, fun ordinary => ?_⟩
  have pairs := Guild.isString_of_mem_aliasesOf_normalized values id prefixes
  have listed : (Value.text (lower key), target) ∈
      Guild.aliasesOf (some (.settled (.normalized id prefixes aliases))) :=
    List.mem_map.2 ⟨(.text (lower key), target), Table.mem_toList_iff.2 stored, rfl⟩
  have begins : Begins (firstToken (key ++ rest)) (.text (lower key)) := by
    obtain ⟨passes, tested, iff⟩ :=
      yields_aliasApplies (firstToken (key ++ rest)) (Value.isString_text (lower key))
    rw [applies, ordinary] at tested
    exact iff.1 (Except.ok.inj tested).symm
  obtain ⟨result, resolved, -⟩ := yields_resolveWithAlias kinds strings (key ++ rest) pairs
  obtain ⟨m, rfl⟩ : ∃ m, result = some m := by
    cases (resolveWithAlias_eq_ok_iff pairs).1 resolved with
    | directly direct => exact ⟨_, rfl⟩
    | throughAliases nothing proposed chosen =>
      exact chosen.exists_of_mem (proposed.mem_of_leads listed ⟨begins, cut⟩ found)
  exact ⟨m, resolved⟩

/-! ### An alias that ends in a sigma -/

/-- The settings of a guild with an alias that ends in a sigma. -/
def sigmaSettings : GuildSettings :=
  .normalized (.text "1") .empty (.ofList [(.text "ΑΣ", .text "!pong 1")])

theorem toList_aliases_sigmaSettings :
    sigmaSettings.aliases.toList = [(.text (lower "ΑΣ"), .text "!pong 1")] := rfl

/-- The target is stored for the lower case of the alias. -/
theorem get?_sigmaSettings :
    sigmaSettings.aliases.get? (.text (lower "ΑΣ")) = some (.text "!pong 1") := by
  rw [← Table.mem_toList_iff, toList_aliases_sigmaSettings]
  exact List.mem_singleton_self _

/-- In front of a character that is no letter the sigma stays final, and the alias is followed. -/
theorem exists_resolveWithAlias_append_dashed :
    let registry := (Roster.after (.create .empty) changedHistory).registry
    registry.WellKinded ∧ Context.GivesStrings none ∧
      sigmaSettings.aliases.get? (.text (lower "ΑΣ")) = some (.text "!pong 1") ∧
      endsInFinalSigma "ΑΣ" = true ∧ startsCased "-Α".toList = false ∧
      ∃ m, registry.resolveWithAlias ("ΑΣ" ++ "-Α") none (some (.settled sigmaSettings)) =
        .ok (some m) := by
  intro registry
  have kinds : registry.WellKinded :=
    Roster.wellKinded_after wellKinded_empty changedHistory wellKinded_of_mem_changedHistory
  have strings : Context.GivesStrings none := by
    rintro context ⟨⟩
  have final : endsInFinalSigma "ΑΣ" = true := by decide +kernel
  have dashed : startsCased "-Α".toList = false := by decide +kernel
  have unbroken : ("ΑΣ" ++ "-Α").toList.all (fun c => isBlank c == false) = true := by
    decide +kernel
  have cut : (Value.text "!pong 1").wordsOf = .ok [.text "!pong", .text "1"] := rfl
  obtain ⟨-, follows⟩ := exists_resolveWithAlias_append kinds strings
    (by decide) (.text "1") .empty (by decide)
    (by simpa only [List.all_eq_true, beq_iff_eq] using unbroken) get?_sigmaSettings cut rfl
  exact ⟨kinds, strings, get?_sigmaSettings, final, dashed,
    follows (by rw [dashed, Bool.and_false])⟩

/-- In front of a letter the sigma is an ordinary one. The alias is not followed, although its
target selects an entry. -/
theorem not_followed_lettered :
    let registry := (Roster.after (.create .empty) changedHistory).registry
    sigmaSettings.aliases.get? (.text (lower "ΑΣ")) = some (.text "!pong 1") ∧
      (∃ entry, registry.resolve "!pong" none = .ok (some entry)) ∧
      registry.resolve ("ΑΣ" ++ "Α") none = .ok none ∧
      registry.resolveWithAlias ("ΑΣ" ++ "Α") none (some (.settled sigmaSettings)) =
        .ok none := by
  intro registry
  have token : firstToken ("ΑΣ" ++ "Α") = "ασα" := by decide +kernel
  have direct : registry.resolve ("ΑΣ" ++ "Α") none = .ok none := by
    rw [resolve, token]
    rfl
  have unbroken : ("ΑΣ" ++ "Α").toList.all (fun c => isBlank c == false) = true := by
    decide +kernel
  have lettered : (endsInFinalSigma "ΑΣ" && startsCased "Α".toList) = true := by decide +kernel
  have passed : aliasApplies (firstToken ("ΑΣ" ++ "Α")) (.text (lower "ΑΣ")) = .ok false := by
    rw [aliasApplies_append (by decide)
      (by simpa only [List.all_eq_true, beq_iff_eq] using unbroken), lettered]
    rfl
  have targets : registry.aliasTargets none (firstToken ("ΑΣ" ++ "Α"))
      (Guild.aliasesOf (some (.settled sigmaSettings))) = .ok [] := by
    show registry.aliasTargets none _ [(.text (lower "ΑΣ"), .text "!pong 1")] = _
    rw [aliasTargets, passed]
    rfl
  have pairs : ∀ pair ∈ Guild.aliasesOf (some (.settled sigmaSettings)),
      pair.1.IsString ∧ pair.2.IsString :=
    Guild.isString_of_mem_aliasesOf_normalized (by decide) _ _
  refine ⟨get?_sigmaSettings, ⟨_, rfl⟩, direct, ?_⟩
  rw [resolveWithAlias, direct, ok_bind]
  dsimp only
  rw [resolveAlias_eq _ pairs, targets]
  rfl

end Registry

end CommandRouter
