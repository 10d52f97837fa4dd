import CommandRouter.Proofs.Results
import CommandRouter.Registry.Resolve

/-!
# The search for the best entry

A token and a bare trigger are looked up by one search. The entries are tested in registration
order. Those that pass are the candidates, and the first candidate of the highest level is found.

## What the order of the entries decides

A test that ends with a fault ends the search, even if another entry would have won, and so does a
candidate without a level. Hence there is a result exactly if every test has an answer and every
candidate has a level, and the order of the entries does not occur in that. Nor does it occur in the
level of the result. All that it decides is which of several candidates of the highest level is
found, and which of several faults ends the search.

For the same reason one more entry at the end changes little: it is found only if it passes and is
above the entry that was found without it.

## Main definitions

* `Entry.Outranks` and `Entry.AtLeast` compare entries by their levels.
* `Registry.search` is the search, and `Registry.candidates` are the entries that pass.
* `Registry.Tied` relates results that differ at most in a choice among equals.

## Main results

* `bestOf_eq_some_iff` describes the best of several candidates by its place among them.
* `search_eq_ok_iff` and `exists_search_iff` say when there is a result.
* `search_append_singleton` is the search with one more entry, and `tied_search_of_perm` the search
  in another order.
-/

namespace CommandRouter

theorem Rating.rank_eq_ok_iff {rating : Rating} {level : Priority} :
    rating.rank = .ok level ↔ rating = .level level := by
  cases rating <;> simp [rank, levelFor]

/-- Levels of one rank are the same. -/
theorem Priority.rank_injective {a b : Priority} (h : a.rank = b.rank) : a = b := by
  cases a <;> cases b <;> first | rfl | cases h

/-- Whether two entries have levels, and that of the first one is higher. -/
def Entry.Outranks (a b : Entry) : Prop :=
  ∃ higher lower, a.priority = .level higher ∧ b.priority = .level lower ∧ lower.rank < higher.rank

/-- Whether two entries have levels, and that of the first one is not lower. -/
def Entry.AtLeast (a b : Entry) : Prop :=
  ∃ level other, a.priority = .level level ∧ b.priority = .level other ∧ other.rank ≤ level.rank

namespace Registry

/-! ### The best candidate -/

section Best

variable {α : Type} {entry : α → Entry} {candidates : List α}

/-- Candidates are ranked exactly by their levels. -/
theorem mapM_rank_eq_ok_iff {ranked : List (α × Priority)} :
    (candidates.mapM fun candidate =>
        (entry candidate).priority.rank.map fun level => (candidate, level)) = .ok ranked ↔
      ranked.map Prod.fst = candidates ∧
        ∀ r ∈ ranked, (entry r.1).priority = .level r.2 := by
  induction candidates generalizing ranked with
  | nil =>
    rw [List.mapM_nil, List.map_eq_nil_iff]
    constructor
    · rintro ⟨⟩
      exact ⟨rfl, List.forall_mem_nil _⟩
    · rintro ⟨rfl, -⟩
      rfl
  | cons candidate later ih =>
    rw [List.mapM_cons]
    constructor
    · intro h
      obtain ⟨first, rated, rest⟩ := bind_eq_ok_iff.1 h
      obtain ⟨others, hothers, whole⟩ := bind_eq_ok_iff.1 rest
      obtain ⟨level, hlevel, rfl⟩ := map_eq_ok_iff.1 rated
      obtain ⟨rfl, levels⟩ := ih.1 hothers
      cases whole
      exact ⟨rfl, List.forall_mem_cons.2 ⟨Rating.rank_eq_ok_iff.1 hlevel, levels⟩⟩
    · rintro ⟨same, levels⟩
      obtain ⟨⟨_, level⟩, others, rfl, rfl, rest⟩ := List.map_eq_cons_iff.1 same
      obtain ⟨first, others'⟩ := List.forall_mem_cons.1 levels
      refine bind_eq_ok_iff.2 ⟨_, map_eq_ok_iff.2 ⟨level, Rating.rank_eq_ok_iff.2 first, rfl⟩, ?_⟩
      exact bind_eq_ok_iff.2 ⟨others, ih.2 ⟨rest, others'⟩, rfl⟩

/-- Candidates whose levels satisfy a condition, with their levels. -/
theorem exists_ranked {q : Priority → Prop}
    (h : ∀ c ∈ candidates, ∃ level, (entry c).priority = .level level ∧ q level) :
    ∃ ranked : List (α × Priority), ranked.map Prod.fst = candidates ∧
      ∀ r ∈ ranked, (entry r.1).priority = .level r.2 ∧ q r.2 := by
  induction candidates with
  | nil => exact ⟨[], rfl, List.forall_mem_nil _⟩
  | cons candidate later ih =>
    obtain ⟨⟨level, first⟩, others⟩ := List.forall_mem_cons.1 h
    obtain ⟨ranked, rfl, rest⟩ := ih others
    exact ⟨(candidate, level) :: ranked, rfl, List.forall_mem_cons.2 ⟨first, rest⟩⟩

theorem bestOf_eq_none_iff : bestOf entry candidates = .ok none ↔ candidates = [] := by
  constructor
  · intro h
    obtain ⟨ranked, hranked, h⟩ := bind_eq_ok_iff.1 h
    have none : best Prod.snd ranked = none := Option.map_eq_none_iff.1 (Except.ok.inj h)
    rw [← (mapM_rank_eq_ok_iff.1 hranked).1, best_eq_none_iff.1 none, List.map_nil]
  · rintro rfl
    rfl

/-- The best candidate exceeds all candidates before it, and none after it exceeds it. -/
theorem bestOf_eq_some_iff {candidate : α} :
    bestOf entry candidates = .ok (some candidate) ↔
      ∃ before after level, candidates = before ++ candidate :: after ∧
        (entry candidate).priority = .level level ∧
        (∀ c ∈ before, ∃ less, (entry c).priority = .level less ∧ less.rank < level.rank) ∧
        ∀ c ∈ after, ∃ other, (entry c).priority = .level other ∧ other.rank ≤ level.rank := by
  constructor
  · intro h
    obtain ⟨ranked, hranked, h⟩ := bind_eq_ok_iff.1 h
    obtain ⟨⟨_, level⟩, won, rfl⟩ := Option.map_eq_some_iff.1 (Except.ok.inj h)
    obtain ⟨before, after, rfl, exceeds, bounded⟩ := best_eq_some_iff.1 won
    obtain ⟨rfl, levels⟩ := mapM_rank_eq_ok_iff.1 hranked
    obtain ⟨earlier, ⟨here, later⟩⟩ := by
      simpa only [List.forall_mem_append, List.forall_mem_cons] using levels
    refine ⟨before.map Prod.fst, after.map Prod.fst, level, by simp, here, ?_, ?_⟩
    · exact List.forall_mem_map.2 fun r hr => ⟨r.2, earlier r hr, exceeds r hr⟩
    · exact List.forall_mem_map.2 fun r hr => ⟨r.2, later r hr, bounded r hr⟩
  · -- That every candidate has a level is part of the conditions, so the ranking can be put
    -- together from them.
    rintro ⟨before, after, level, rfl, here, exceeds, bounded⟩
    obtain ⟨earlier, rfl, hearlier⟩ := exists_ranked exceeds
    obtain ⟨later, rfl, hlater⟩ := exists_ranked bounded
    refine bind_eq_ok_iff.2 ⟨earlier ++ (candidate, level) :: later, ?_, ?_⟩
    · refine mapM_rank_eq_ok_iff.2 ⟨by simp, ?_⟩
      rw [List.forall_mem_append, List.forall_mem_cons]
      exact ⟨fun r hr => (hearlier r hr).1, here, fun r hr => (hlater r hr).1⟩
    · have wins : WinsBetween Prod.snd earlier (candidate, level) later :=
        ⟨fun r hr => (hearlier r hr).2, fun r hr => (hlater r hr).2⟩
      rw [best_eq_of_winsBetween wins]
      rfl

/-- There is a best candidate, or none, exactly if all candidates have levels. -/
theorem exists_bestOf_iff :
    (∃ found, bestOf entry candidates = .ok found) ↔
      ∀ c ∈ candidates, ∃ level, (entry c).priority = .level level := by
  constructor
  · rintro ⟨found, h⟩
    obtain ⟨ranked, hranked, -⟩ := bind_eq_ok_iff.1 h
    obtain ⟨rfl, levels⟩ := mapM_rank_eq_ok_iff.1 hranked
    exact List.forall_mem_map.2 fun r hr => ⟨r.2, levels r hr⟩
  · intro h
    obtain ⟨ranked, same, levels⟩ := exists_ranked (q := fun _ => True) fun c hc =>
      (h c hc).imp fun _ rated => ⟨rated, trivial⟩
    exact ⟨_, bind_eq_ok_iff.2
      ⟨ranked, mapM_rank_eq_ok_iff.2 ⟨same, fun r hr => (levels r hr).1⟩, rfl⟩⟩

end Best

/-! ### The search among entries -/

variable {test : Entry → Except Fault Bool} {entries : List Entry}

/-- The entries that pass a test. One whose test fails is not among them. -/
def candidates (test : Entry → Except Fault Bool) (entries : List Entry) : List Entry :=
  entries.filter fun entry => (test entry).toOption.getD false

theorem mem_candidates_iff {entry : Entry} :
    entry ∈ candidates test entries ↔ entry ∈ entries ∧ test entry = .ok true := by
  rw [candidates, List.mem_filter]
  cases test entry <;> simp [Except.toOption]

/-- The entries that pass are selected exactly if every test has an answer. -/
theorem selectWhere_eq_ok_iff {selected : List Entry} :
    selectWhere test entries = .ok selected ↔
      (∀ entry ∈ entries, ∃ passes, test entry = .ok passes) ∧
        candidates test entries = selected := by
  constructor
  · intro h
    induction entries generalizing selected with
    | nil =>
      cases h
      exact ⟨List.forall_mem_nil _, rfl⟩
    | cons entry later ih =>
      obtain ⟨passes, tested, h⟩ := bind_eq_ok_iff.1 h
      obtain ⟨others, searched, h⟩ := bind_eq_ok_iff.1 h
      obtain ⟨answered, rfl⟩ := ih searched
      cases h
      refine ⟨List.forall_mem_cons.2 ⟨⟨passes, tested⟩, answered⟩, ?_⟩
      cases passes <;> simp [candidates, tested, Except.toOption]
  · rintro ⟨answered, rfl⟩
    refine selectWhere_eq_ok fun entry registered => ?_
    obtain ⟨passes, tested⟩ := answered entry registered
    rw [tested]
    rfl

/-- The first entry of the highest level among those that pass a test. -/
def search (test : Entry → Except Fault Bool) (entries : List Entry) :
    Except Fault (Option Entry) := do
  bestOf id (← selectWhere test entries)

theorem resolve_eq_search (registry : Registry) (line : String) (context : Option Context) :
    registry.resolve line context =
      if (firstToken line).isEmpty then .ok none
      else search (fun entry => entry.answers context (.text (firstToken line)))
        registry.entries := rfl

theorem resolveBare_eq_search (registry : Registry) (trigger : String) :
    registry.resolveBare trigger =
      if trigger.isEmpty then .ok none
      else search (fun entry => entry.hasTrigger (.text (lower trigger)))
        (registry.entries.filter fun entry => !entry.priority.isIgnored) := rfl

/-- The search finds the best of the candidates, provided that every test has an answer. -/
theorem search_eq_ok_iff {found : Option Entry} :
    search test entries = .ok found ↔
      (∀ entry ∈ entries, ∃ passes, test entry = .ok passes) ∧
        bestOf id (candidates test entries) = .ok found := by
  rw [search, bind_eq_ok_iff]
  constructor
  · rintro ⟨selected, passed, best⟩
    obtain ⟨answered, rfl⟩ := selectWhere_eq_ok_iff.1 passed
    exact ⟨answered, best⟩
  · rintro ⟨answered, best⟩
    exact ⟨_, selectWhere_eq_ok_iff.2 ⟨answered, rfl⟩, best⟩

/-- **There is a result exactly if every test has an answer and every candidate has a level.** -/
theorem exists_search_iff :
    (∃ found, search test entries = .ok found) ↔
      (∀ entry ∈ entries, ∃ passes, test entry = .ok passes) ∧
        ∀ entry ∈ candidates test entries, ∃ level, entry.priority = .level level := by
  simp only [search_eq_ok_iff, exists_and_left, exists_bestOf_iff, id_eq]

theorem search_eq_none_iff :
    search test entries = .ok none ↔
      (∀ entry ∈ entries, ∃ passes, test entry = .ok passes) ∧ candidates test entries = [] := by
  rw [search_eq_ok_iff, bestOf_eq_none_iff]

/-- What is found passes, and no candidate is above it. -/
theorem atLeast_of_search {found : Entry} (h : search test entries = .ok (some found)) :
    found ∈ candidates test entries ∧ ∀ entry ∈ candidates test entries, found.AtLeast entry := by
  obtain ⟨-, best⟩ := search_eq_ok_iff.1 h
  obtain ⟨before, after, level, split, rated, exceeds, bounded⟩ := bestOf_eq_some_iff.1 best
  rw [split]
  refine ⟨by simp, ?_⟩
  rw [List.forall_mem_append, List.forall_mem_cons]
  refine ⟨fun entry earlier => ?_, ⟨level, level, rated, rated, Nat.le_refl _⟩,
    fun entry later => ?_⟩
  · obtain ⟨less, hless, below⟩ := exceeds entry earlier
    exact ⟨level, less, rated, hless, Nat.le_of_lt below⟩
  · obtain ⟨other, hother, bound⟩ := bounded entry later
    exact ⟨level, other, rated, hother, bound⟩

section Members

variable {registry : Registry} {context : Option Context} {found : Entry}

theorem mem_of_resolveToken {token : Value}
    (h : registry.resolveToken token context = .ok (some found)) : found ∈ registry.entries :=
  (mem_candidates_iff.1 (atLeast_of_search h).1).1

/-- What a word selects is an entry of the table. -/
theorem mem_of_resolveWord {word : Value}
    (h : registry.resolveWord word context = .ok (some found)) : found ∈ registry.entries := by
  rw [resolveWord.eq_def] at h
  split at h
  · rw [resolve] at h
    split at h
    · cases h
    · exact mem_of_resolveToken h
  · obtain ⟨_, -, h⟩ := bind_eq_ok_iff.1 h
    exact mem_of_resolveToken h

end Members

/-! ### One more entry -/

/-- **One more entry at the end is found only if it passes and is above what was found.** -/
theorem search_append_singleton {found entry : Entry} {passes : Bool}
    (h : search test entries = .ok (some found)) (tested : test entry = .ok passes)
    (rated : ∃ level, entry.priority = .level level) :
    ∃ now, search test (entries ++ [entry]) = .ok (some now) ∧
      (now = found ∨ passes = true ∧ now = entry ∧ entry.Outranks found) := by
  obtain ⟨answered, best⟩ := search_eq_ok_iff.1 h
  have answered' : ∀ e ∈ entries ++ [entry], ∃ passes, test e = .ok passes :=
    List.forall_mem_append.2 ⟨answered, by simp [tested]⟩
  cases passes with
  | false =>
    have same : candidates test (entries ++ [entry]) = candidates test entries := by
      simp [candidates, tested, Except.toOption]
    exact ⟨found, search_eq_ok_iff.2 ⟨answered', by rw [same, best]⟩, .inl rfl⟩
  | true =>
    have grown : candidates test (entries ++ [entry]) = candidates test entries ++ [entry] := by
      simp [candidates, tested, Except.toOption]
    obtain ⟨before, after, level, split, hlevel, exceeds, bounded⟩ := bestOf_eq_some_iff.1 best
    obtain ⟨new, hnew⟩ := rated
    -- The new entry stands last. So it wins if it is above the winner, and hence above all, and
    -- else it is one more entry behind the winner that does not exceed it.
    by_cases above : level.rank < new.rank
    · have outranks : entry.Outranks found := ⟨new, level, hnew, hlevel, above⟩
      refine ⟨entry, search_eq_ok_iff.2 ⟨answered', ?_⟩, .inr ⟨rfl, rfl, outranks⟩⟩
      rw [grown]
      refine bestOf_eq_some_iff.2 ⟨candidates test entries, [], new, rfl, hnew, fun e he => ?_,
        List.forall_mem_nil _⟩
      obtain ⟨same, other, hsame, hother, bound⟩ := (atLeast_of_search h).2 e he
      cases hlevel.symm.trans hsame
      exact ⟨other, hother, Nat.lt_of_le_of_lt bound above⟩
    · refine ⟨found, search_eq_ok_iff.2 ⟨answered', ?_⟩, .inl rfl⟩
      rw [grown, split]
      refine bestOf_eq_some_iff.2 ⟨before, after ++ [entry], level, by simp, hlevel, exceeds, ?_⟩
      refine List.forall_mem_append.2 ⟨bounded, fun e he => ?_⟩
      rw [List.mem_singleton.1 he]
      exact ⟨new, hnew, Nat.le_of_not_lt above⟩

/-! ### The entries in another order -/

/-- Whether two results among the same entries differ at most in a choice among equals: there is
none in both, or nothing was found in both, or what was found is of one level. In the last case it
is the same if no other candidate is of that level. -/
inductive Tied (test : Entry → Except Fault Bool) (entries : List Entry) :
    Except Fault (Option Entry) → Except Fault (Option Entry) → Prop
  /-- There is no result in either order. -/
  | failing (fault fault' : Fault) : Tied test entries (.error fault) (.error fault')
  /-- Nothing is found in either order. -/
  | nothing : Tied test entries (.ok none) (.ok none)
  /-- What is found is of one level, and it is the same unless there is a tie. -/
  | found {a b : Entry} {level : Priority} (ha : a.priority = .level level)
      (hb : b.priority = .level level)
      (same : (∀ entry ∈ candidates test entries, entry.priority = .level level → entry = a) →
        b = a) :
      Tied test entries (.ok (some a)) (.ok (some b))

/-- **The order of the entries decides nothing but ties.** -/
theorem tied_search_of_perm {entries' : List Entry} (perm : entries.Perm entries') :
    Tied test entries (search test entries) (search test entries') := by
  have permuted : (candidates test entries).Perm (candidates test entries') := perm.filter _
  have answered : (∀ entry ∈ entries, ∃ passes, test entry = .ok passes) ↔
      ∀ entry ∈ entries', ∃ passes, test entry = .ok passes := by
    simp only [perm.mem_iff]
  have results : (∃ found, search test entries = .ok found) ↔
      ∃ found, search test entries' = .ok found := by
    rw [exists_search_iff, exists_search_iff, answered]
    simp only [permuted.mem_iff]
  have nothing : search test entries = .ok none ↔ search test entries' = .ok none := by
    have empty : candidates test entries = [] ↔ candidates test entries' = [] := by
      rw [List.eq_nil_iff_length_eq_zero, List.eq_nil_iff_length_eq_zero, permuted.length_eq]
    rw [search_eq_none_iff, search_eq_none_iff, answered, empty]
  cases here : search test entries with
  | error fault =>
    cases there : search test entries' with
    | error fault' => exact .failing fault fault'
    | ok found =>
      obtain ⟨_, found⟩ := results.2 ⟨found, there⟩
      cases here.symm.trans found
  | ok found =>
    obtain ⟨found', there⟩ := results.1 ⟨found, here⟩
    rw [there]
    cases found with
    | none =>
      cases there.symm.trans (nothing.1 here)
      exact .nothing
    | some a =>
      cases found' with
      | none => cases here.symm.trans (nothing.2 there)
      | some b =>
        -- Each of the two is a candidate in both orders, so neither is above the other.
        obtain ⟨passesA, boundB⟩ := atLeast_of_search here
        obtain ⟨passesB, boundA⟩ := atLeast_of_search there
        obtain ⟨level, other, ha, hb, below⟩ := boundB b (permuted.mem_iff.2 passesB)
        obtain ⟨other, level, hb', ha', above⟩ := boundA a (permuted.mem_iff.1 passesA)
        cases hb.symm.trans hb'
        cases ha.symm.trans ha'
        cases Priority.rank_injective (Nat.le_antisymm below above)
        exact .found ha hb fun only => only b (permuted.mem_iff.2 passesB) hb

end Registry

end CommandRouter
