import CommandRouter.Proofs.Invocation
import CommandRouter.Proofs.Registry.Aliases

/-!
# What arguments reach a handler

A message is cleaned as a whole, its first word is looked up, and the words after it are handed to
the handler behind those that come from an alias. The line is cut twice, once for the token and once
for the arguments, and both times it is the cleaned line that is cut.

## Where a word ends

A few control characters are blanks and are deleted as well: the vertical tab, the form feed, the
four separators of files, groups, records and units, and the next-line character. They are gone when
the line is cut, so they join what stands on their sides. A word ends only at a blank that is kept.
So the words of a message can be read off it without cleaning it first: cut it at the blanks that
are kept, delete in every piece what is deleted, and leave out the pieces of which nothing is left.

## Main definitions

* `visibleWords` are the words of a message, said in this way.
* `Value.IsWord` says that a value is a word.

## Main results

* `pieces_filter` exchanges cutting and deleting, and `words_clean` is what comes of it.
* `Registry.Reaches.isWord` is about the arguments that an alias brings.
* `Dispatcher.calls_handle` lists the calls of handlers, with their arguments.
-/

namespace CommandRouter

/-! ### Cutting what was cleaned -/

/-- **Cutting after deleting is deleting after cutting**, if a separator that is deleted does not
cut. -/
theorem pieces_filter {α : Type} (p q : α → Bool) (cs : List α) :
    pieces p (cs.filter q) = (pieces (fun c => p c && q c) cs).map (List.filter q) := by
  induction cs with
  | nil => rfl
  | cons c cs ih =>
    obtain ⟨first, later, cut⟩ :=
      List.exists_cons_of_ne_nil (pieces_ne_nil (fun c => p c && q c) cs)
    rw [cut, List.map_cons] at ih
    cases kept : q c with
    | false =>
      rw [List.filter_cons_of_neg (by simp [kept]), ih, pieces, kept, Bool.and_false,
        if_neg Bool.false_ne_true, cut, List.modifyHead_cons, List.map_cons,
        List.filter_cons_of_neg (by simp [kept])]
    | true =>
      rw [List.filter_cons_of_pos kept, pieces, pieces, ih, kept, Bool.and_true, cut]
      split
      · rfl
      · rw [List.modifyHead_cons, List.modifyHead_cons, List.map_cons,
          List.filter_cons_of_pos kept]

/-- Blanks at the end belong to no word. -/
theorem wordChars_append_blanks (cs : List Char) {blanks : List Char}
    (h : ∀ c ∈ blanks, isBlank c = true) : wordChars (cs ++ blanks) = wordChars cs := by
  cases blanks with
  | nil => rw [List.append_nil]
  | cons c blanks =>
    obtain ⟨first, others⟩ := List.forall_mem_cons.1 h
    rw [wordChars_append_cons first, wordChars_eq_nil_iff.2 others, List.append_nil]

/-- What is dropped at the ends of a line belongs to no word. -/
theorem wordChars_trimChars (cs : List Char) : wordChars (trimChars isBlank cs) = wordChars cs := by
  have blank (ds : List Char) : ∀ c ∈ ds.takeWhile isBlank, isBlank c = true :=
    List.all_eq_true.1 List.all_takeWhile
  have front := wordChars_append_of_blank (blank cs) (cs.dropWhile isBlank)
  rw [List.takeWhile_append_dropWhile] at front
  rw [trimChars, front]
  generalize cs.dropWhile isBlank = ds
  have split : (ds.reverse.dropWhile isBlank).reverse ++ (ds.reverse.takeWhile isBlank).reverse =
      ds := by
    rw [← List.reverse_append, List.takeWhile_append_dropWhile, List.reverse_reverse]
  have back := wordChars_append_blanks (ds.reverse.dropWhile isBlank).reverse
    fun c hc => blank ds.reverse c (List.mem_reverse.1 hc)
  rw [← back, split]

/-- The pieces of a message between the blanks that are kept, without what is deleted. Pieces of
which nothing is left are left out. -/
def visibleWords (s : String) : List String :=
  (((pieces (fun c => isBlank c && !isDeleted c) s.toList).map
    (List.filter fun c => !isDeleted c)).filter fun piece => !piece.isEmpty).map String.ofList

/-- **The words of the cleaned line are the visible words.** -/
theorem words_clean (s : String) : words (clean s) = visibleWords s := by
  rw [words, clean, trim, String.toList_ofList, wordChars_trimChars, deleteInvisible,
    String.toList_ofList, wordChars, pieces_filter]
  rfl

example : visibleWords " \u000B!Pi\u200Bng\u001C A\u0085a\t\u0000 b\u2003C " =
    ["!Ping", "Aa", "b", "C"] := by decide +kernel

theorem firstToken_clean {s word : String} {rest : List String}
    (h : visibleWords s = word :: rest) : firstToken (clean s) = lower word := by
  rw [firstToken, words_clean, h]

/-! ### Words among values -/

/-- Whether a value is a word: a string with something in it, but no blank. -/
def Value.IsWord (value : Value) : Prop :=
  ∃ codes, value.codes? = some codes ∧ codes ≠ [] ∧
    ∀ code ∈ codes, blankCodes.contains code = false

theorem Value.isWord_text {s : String} (nonempty : s ≠ "")
    (unbroken : ∀ c ∈ s.toList, isBlank c = false) : (text s).IsWord :=
  ⟨_, rfl, by simpa using nonempty, List.forall_mem_map.2 unbroken⟩

/-- A visible word is a word, and nothing in it is deleted. -/
theorem isWord_of_mem_visibleWords {s word : String} (h : word ∈ visibleWords s) :
    (Value.text word).IsWord ∧ ∀ c ∈ word.toList, isDeleted c = false := by
  obtain ⟨cs, hcs, rfl⟩ := List.mem_map.1 h
  obtain ⟨listed, nonempty⟩ := List.mem_filter.1 hcs
  obtain ⟨piece, cut, rfl⟩ := List.mem_map.1 listed
  have kept : ∀ c ∈ piece.filter (fun c => !isDeleted c),
      isBlank c = false ∧ isDeleted c = false := by
    intro c hc
    obtain ⟨member, visible⟩ := List.mem_filter.1 hc
    have uncut := mem_pieces cut c member
    simp only [Bool.not_eq_true'] at visible
    rw [visible] at uncut
    exact ⟨by simpa using uncut, visible⟩
  rw [String.toList_ofList]
  refine ⟨Value.isWord_text (by simpa using nonempty) ?_, fun c hc => (kept c hc).2⟩
  rw [String.toList_ofList]
  exact fun c hc => (kept c hc).1

/-- The string of code points without a blank has no blank. -/
theorem Value.isWord_ofCodes {codes : List Nat} (nonempty : codes ≠ [])
    (unbroken : ∀ code ∈ codes, blankCodes.contains code = false) : (ofCodes codes).IsWord := by
  rw [ofCodes, textOfCodes?]
  split
  · rename_i s spelled
    split at spelled
    · cases spelled
    cases spelled
    refine isWord_text (by simpa using nonempty) ?_
    rw [String.toList_ofList]
    refine List.forall_mem_map.2 fun code hcode => ?_
    by_cases valid : code.isValidChar
    · rw [isBlank, toNat_ofNat_of_isValidChar valid]
      exact unbroken code hcode
    · have invalid : Char.ofNat code = '\u0000' := by rw [Char.ofNat, dif_neg valid]; rfl
      rw [invalid]
      decide
  · exact ⟨codes, rfl, nonempty, unbroken⟩

/-- What a string is cut into are words. -/
theorem Value.isWord_of_mem_wordsOf {value : Value} {parts : List Value}
    (h : value.wordsOf = .ok parts) : ∀ part ∈ parts, part.IsWord := by
  unfold wordsOf at h
  split at h
  · cases h
    refine List.forall_mem_map.2 fun word hword => ?_
    obtain ⟨cs, hcs, rfl⟩ := List.mem_map.1 hword
    obtain ⟨nonempty, unbroken⟩ := mem_wordChars hcs
    exact isWord_text (by simpa using nonempty) (by rwa [String.toList_ofList])
  · cases h
    refine List.forall_mem_map.2 fun piece hpiece => ?_
    obtain ⟨cut, nonempty⟩ := List.mem_filter.1 hpiece
    exact isWord_ofCodes (by simpa using nonempty) (mem_pieces cut)
  · cases h

/-! ### The arguments that an alias brings -/

namespace Registry

variable {registry : Registry} {context : Option Context} {token : String}

/-- The arguments that an alias brings are words. -/
theorem Reaches.isWord {aliases : List (Value × Value)} {found : Match}
    (h : registry.Reaches context aliases token found) :
    ∀ argument ∈ found.aliasArguments, argument.IsWord := by
  cases h with
  | directly _ => exact List.forall_mem_nil _
  | throughAlias _ _ _ cut _ =>
    exact fun argument hargument =>
      Value.isWord_of_mem_wordsOf cut argument (List.mem_cons_of_mem _ hargument)

end Registry

/-! ### The calls of handlers -/

namespace Dispatcher

/-- Whether a match is what a message means where its guild has certain settings, and some words are
what the message adds to it. -/
structure Means (dispatcher : Dispatcher) (message : Message) (guild : Option GuildSettings)
    (found : Match) (rest : List String) : Prop where
  /-- The cleaned line resolves to the match. -/
  resolved : dispatcher.registry.resolveWithAlias (clean message.content)
    (some ⟨some message, guild.map .settled⟩) (guild.map .settled) = .ok (some found)
  /-- The lower case of the first visible word reaches the match, and the words are those after
  it. -/
  visible : ∃ word, visibleWords message.content = word :: rest ∧
    dispatcher.registry.Reaches (some ⟨some message, guild.map .settled⟩)
      (Guild.aliasesOf (guild.map .settled)) (lower word) found
  /-- What the alias brings and what the message adds are words. -/
  words : ∀ argument ∈ found.aliasArguments ++ rest.map Value.text, argument.IsWord
  /-- Nothing in the words of the message is deleted. -/
  kept : ∀ word ∈ rest, ∀ c ∈ word.toList, isDeleted c = false

/-- A line that resolves means the match with the words after its first one. -/
theorem exists_means {dispatcher : Dispatcher} {message : Message}
    {guild : Option GuildSettings} {found : Match}
    (resolved : dispatcher.registry.resolveWithAlias (clean message.content)
      (some ⟨some message, guild.map .settled⟩) (guild.map .settled) = .ok (some found)) :
    ∃ rest, dispatcher.Means message guild found rest ∧
      found.argumentsOf (clean message.content) = found.aliasArguments ++ rest.map Value.text := by
  obtain ⟨nonempty, reaches⟩ := Registry.reaches_of_resolveWithAlias resolved
  cases split : visibleWords message.content with
  | nil =>
    rw [firstToken, words_clean, split] at nonempty
    exact absurd rfl nonempty
  | cons word rest =>
    rw [firstToken_clean split] at reaches
    have each : ∀ argument ∈ rest, (Value.text argument).IsWord ∧
        ∀ c ∈ argument.toList, isDeleted c = false := fun argument hargument =>
      isWord_of_mem_visibleWords (split ▸ List.mem_cons_of_mem word hargument)
    have words : ∀ argument ∈ found.aliasArguments ++ rest.map Value.text, argument.IsWord :=
      List.forall_mem_append.2 ⟨reaches.isWord, List.forall_mem_map.2 fun argument hargument =>
        (each argument hargument).1⟩
    refine ⟨rest, ⟨resolved, ⟨word, split, reaches⟩, words,
      fun argument hargument => (each argument hargument).2⟩, ?_⟩
    rw [Match.argumentsOf, Match.typedArguments, words_clean, split]
    rfl

/-- **The arguments reach the handler exactly.** A message calls no handler, or that of the match
that its first visible word reaches in lower case. The arguments are those of the match and then the
other visible words, as they are. -/
theorem calls_handle (dispatcher : Dispatcher) (now : Value) (message : Message)
    (repository : GuildRepository) :
    (dispatcher.handle now message repository).events.filterMap Event.call? = [] ∨
      ∃ guild found rest, (dispatcher.loadGuild now message repository).result = .ok guild ∧
        dispatcher.Means message guild found rest ∧
        (dispatcher.handle now message repository).events.filterMap Event.call? =
          [⟨found.entry.command.handler.name, message,
            found.aliasArguments ++ rest.map Value.text, guild⟩] := by
  rcases dispatcher.calls_handle_cases now message repository with none | ⟨guild, after, loaded, eq⟩
  · exact .inl none
  rw [eq]
  rcases dispatcher.calls_respond_cases message (clean message.content) guild after with
    none | ⟨found, resolved, called⟩
  · exact .inl none
  obtain ⟨rest, means, arguments⟩ := exists_means resolved
  refine .inr ⟨guild, found, rest, loaded, means, ?_⟩
  rw [called, callOf, arguments]

/-- A store in which one guild has an alias that brings an argument. -/
def bringingStore : GuildStore :=
  ⟨.inMemory, .flat, Rows.put .empty "7"
    ⟨[(.text "id", .text "7"), (.text "aliases", .dict [(.text "P", .text "!ping  Deep")])]⟩⟩

/-- A message that begins with the alias, with characters in it that are deleted. -/
def bringingMessage : Message :=
  ⟨.person, " P\u200Bx A\u0085a\t\u0000 b ", some (.ok "7"), .working⟩

/-- The argument of the alias comes first, and a deleted blank joins what stands on its sides. -/
theorem calls_handle_bringing :
    let repository := (Session.start bringingStore 300 0).repository
    let outcome := steadyDispatcher.handle (.int 0) bringingMessage repository
    (outcome.events.filterMap Event.call?).map (fun call => call.arguments.map Value.display) =
        [["Deep", "Aa", "b"]] ∧
      ∃ guild found, steadyDispatcher.Means bringingMessage guild found ["Aa", "b"] := by
  intro repository outcome
  have called : (outcome.events.filterMap Event.call?).map
      (fun call => call.arguments.map Value.display) = [["Deep", "Aa", "b"]] := by
    decide +kernel
  have split : visibleWords bringingMessage.content = ["Px", "Aa", "b"] := by decide +kernel
  rcases steadyDispatcher.calls_handle (.int 0) bringingMessage repository with
    none | ⟨guild, found, rest, -, means, -⟩
  · rw [show outcome.events.filterMap Event.call? = [] from none] at called
    cases called
  · obtain ⟨word, cut, -⟩ := means.visible
    cases split.symm.trans cut
    exact ⟨called, guild, found, means⟩

end Dispatcher

end CommandRouter
