import CommandRouter.Proofs.Guild.Fetch
import CommandRouter.Proofs.Separated
import CommandRouter.Proofs.Statements
import CommandRouter.Table.Lemmas
import Mathlib.Data.List.Nodup

/-!
# What an insertion says to the database

An insertion is sent as a text with a list of parameters, and the database takes it apart again: it
finds the columns, the placeholders that stand for their values, the columns by which a conflict is
recognised, and the columns that are assigned when there is one. A database that is to do what is
meant must find every column of the record once, with a placeholder that stands for its value, and
it refuses a statement that assigns a column twice.

## The column that is not in the record

Whatever the record holds, the time of the update is assigned to the column `updated_at`. The other
assignments are chosen among the columns of the record, so that none of them takes part in the
conflict and none comes twice. The time of the update is added without a look at the record. So
everything is as it should be as long as the record has no such column, and never if it has one: a
conflict column is then assigned, or a column is assigned twice. Rows that are read from the table
of guilds do have this column, the records that are made of settings do not.

## Names that cannot be read

What a statement says whose names are not read as one word is up to the database. That it is written
in the same way, and which columns it is meant to list and to assign, does not depend on that.

## Main definitions

* `Upsert.Clauses` are the parts of an insertion, with `Upsert.Clauses.text` and
  `Upsert.Clauses.ofText?` to write and to read them.
* `Upsert.Clauses.Binds` and `Upsert.Clauses.Updates` are what is asked of the parts.

## Main results

* `Upsert.Clauses.ofText?_text` reads what was written.
* `Upsert.count_assigned` counts the assignments of every column.
* `Upsert.updates_clauses_iff` says when the assignments are as they should be.
* `RowSource.binds_and_updates_iff` puts them together for the statement that is sent.
-/

namespace CommandRouter

/-! ### The parts of an insertion -/

namespace Upsert

/-- The parts of an insertion. -/
structure Clauses where
  /-- The table. -/
  table : String
  /-- The columns that are inserted. -/
  columns : List String
  /-- The placeholders for their values. -/
  values : List String
  /-- The columns by which a conflict is recognised. -/
  conflict : List String
  /-- The columns that are assigned if there is a conflict, with their new values. -/
  assignments : List (String × Update)
  deriving Repr, DecidableEq

/-- The parts that an insertion is meant to have. -/
def clauses (upsert : Upsert) : Clauses :=
  ⟨upsert.table, upsert.columns, upsert.placeholders, upsert.conflict.listed, upsert.assignments⟩

namespace Clauses

open Statement

/-- The columns that are assigned. -/
def assigned (clauses : Clauses) : List String := clauses.assignments.map Prod.fst

/-- The text in which the parts are written. -/
def text (clauses : Clauses) : String :=
  clauseLines [
    "INSERT INTO " ++ clauses.table ++ " (" ++ ", ".intercalate clauses.columns ++ ")",
    "VALUES (" ++ ", ".intercalate clauses.values ++ ")",
    "ON CONFLICT (" ++ ", ".intercalate clauses.conflict ++ ")",
    "DO UPDATE SET " ++ ", ".intercalate (clauses.assignments.map assignmentText),
    "RETURNING *"]

/-- The list in brackets with which a list begins, and what comes after it. -/
def bracketed? : List String → Option (List String × List String)
  | "(" :: rest => some (rest.takeWhile (· != ")"), (rest.dropWhile (· != ")")).tail)
  | _ => none

/-- The names between commas. -/
def names? (inside : List String) : Option (List String) :=
  (pieces (· == ",") inside).mapM fun
    | [name] => some name
    | _ => none

/-- The assignment that is written in some words. A value that was to be inserted is assigned to its
own column only. -/
def assignment? : List String → Option (String × Update)
  | [column, "=", "EXCLUDED", ".", source] =>
    if source = column then some (column, .inserted) else none
  | [column, "=", "CURRENT_TIMESTAMP"] => some (column, .currentTime)
  | _ => none

/-- The parts that a database reads in a text. -/
def ofText? (text : String) : Option Clauses := do
  let rest ← ["INSERT", "INTO"].isPrefixOf? (tokens text)
  let table ← rest.head?
  let (columns, rest) ← bracketed? rest.tail
  let (values, rest) ← (["VALUES"].isPrefixOf? rest).bind bracketed?
  let (conflict, rest) ← (["ON", "CONFLICT"].isPrefixOf? rest).bind bracketed?
  let rest ← ["DO", "UPDATE", "SET"].isPrefixOf? rest
  let assignments ← ["RETURNING", "*"].isSuffixOf? rest
  return ⟨table, ← names? columns, ← names? values, ← names? conflict,
    ← (pieces (· == ",") assignments).mapM assignment?⟩

/-! ### Reading what was written -/

/-- Whether all names can be read. -/
structure IsPlain (clauses : Clauses) : Prop where
  /-- The table has a name. -/
  table : IsName clauses.table
  /-- So have the columns, and there are some. -/
  columns : clauses.columns ≠ [] ∧ ∀ column ∈ clauses.columns, IsName column
  /-- The placeholders are words. -/
  values : clauses.values ≠ [] ∧ ∀ value ∈ clauses.values, IsName value
  /-- There are columns by which a conflict is recognised. -/
  conflict : clauses.conflict ≠ [] ∧ ∀ column ∈ clauses.conflict, IsName column
  /-- Something is assigned. -/
  assigned : clauses.assignments ≠ [] ∧ ∀ column ∈ clauses.assigned, IsName column

theorem isPrefixOf?_append (front rest : List String) :
    front.isPrefixOf? (front ++ rest) = some rest :=
  List.isPrefixOf?_eq_some_iff_append_eq.2 rfl

theorem isSuffixOf?_append (rest back : List String) :
    back.isSuffixOf? (rest ++ back) = some rest :=
  List.isSuffixOf?_eq_some_iff_append_eq.2 rfl

theorem bracketed?_append {inside : List String} (closed : ")" ∉ inside) (rest : List String) :
    bracketed? ("(" :: (inside ++ ")" :: rest)) = some (inside, rest) := by
  have open' : ∀ word ∈ inside, (word != ")") = true := fun word member => by
    simpa using fun same : word = ")" => closed (same ▸ member)
  rw [bracketed?, List.takeWhile_append_of_pos open', List.dropWhile_append_of_pos open']
  simp

/-- A mark other than the comma does not occur where names are listed. -/
theorem not_mem_listed {names : List String} (plain : ∀ name ∈ names, IsName name) {c : Char}
    (mark : isMark c = true) (other : c ≠ ',') : String.singleton c ∉ listed names := by
  have ne_comma : String.singleton c ≠ "," := by
    intro same
    exact other (by simpa using congrArg String.toList same)
  induction names with
  | nil => exact List.not_mem_nil
  | cons first later ih =>
    obtain ⟨here, others⟩ := List.forall_mem_cons.1 plain
    have ne_first := (here.ne_of_isMark mark).symm
    cases later with
    | nil => simpa [listed] using ne_first
    | cons second rest =>
      have rest_free := ih others
      rw [listed, List.map_cons, List.map_cons, List.intercalate_cons_cons]
      simp only [List.mem_append, List.mem_singleton, not_or]
      exact ⟨⟨ne_first, ne_comma⟩, rest_free⟩

theorem names?_listed {names : List String} (nonempty : names ≠ [])
    (plain : ∀ name ∈ names, IsName name) : names? (listed names) = some names := by
  have whole : ∀ item ∈ names.map fun name => [name], "," ∉ item := by
    refine List.forall_mem_map.2 fun name member => ?_
    simpa using ((plain name member).ne_of_isMark (c := ',') (by decide)).symm
  rw [names?, listed, pieces_intercalate (by simpa using nonempty) whole, List.mapM_map]
  clear nonempty plain whole
  induction names with
  | nil => rfl
  | cons first later ih =>
    rw [List.mapM_cons, ih]
    rfl

theorem bracketed?_listed {names : List String} (plain : ∀ name ∈ names, IsName name)
    (rest : List String) :
    bracketed? ("(" :: (listed names ++ ")" :: rest)) = some (listed names, rest) :=
  bracketed?_append (not_mem_listed plain (c := ')') (by decide) (by decide)) rest

/-- The words of an assignment. -/
def assignmentTokens : String × Update → List String
  | (column, .inserted) => [column, "=", "EXCLUDED", ".", column]
  | (column, .currentTime) => [column, "=", "CURRENT_TIMESTAMP"]

theorem tokens_assignmentText {assignment : String × Update} (plain : IsName assignment.1) :
    tokens (assignmentText assignment) = assignmentTokens assignment := by
  obtain ⟨column, update⟩ := assignment
  have word : tokens column = [column] := tokens_of_isName plain
  cases update with
  | inserted =>
    have between : tokens " = EXCLUDED." = ["=", "EXCLUDED", "."] := by decide +kernel
    rw [assignmentText, tokens_append (.inl (endsApart_append _ (by decide))),
      tokens_append (.inr (by decide)), word, between]
    rfl
  | currentTime =>
    have after : tokens " = CURRENT_TIMESTAMP" = ["=", "CURRENT_TIMESTAMP"] := by decide +kernel
    rw [assignmentText, tokens_append (.inr (by decide)), word, after]
    rfl

theorem assignment?_assignmentTokens (assignment : String × Update) :
    assignment? (assignmentTokens assignment) = some assignment := by
  obtain ⟨column, update⟩ := assignment
  cases update with
  | inserted => exact if_pos rfl
  | currentTime => rfl

/-- Assignments are read one by one. -/
theorem mapM_assignment? {assignments : List (String × Update)} (nonempty : assignments ≠ [])
    (plain : ∀ column ∈ assignments.map Prod.fst, IsName column) :
    (pieces (· == ",") ([","].intercalate (assignments.map assignmentTokens))).mapM assignment? =
      some assignments := by
  have whole : ∀ item ∈ assignments.map assignmentTokens, "," ∉ item := by
    refine List.forall_mem_map.2 fun assignment member => ?_
    have name := plain assignment.1 (List.mem_map_of_mem member)
    have ne_comma : "," ≠ assignment.1 := (name.ne_of_isMark (c := ',') (by decide)).symm
    obtain ⟨column, update⟩ := assignment
    cases update <;> simpa [assignmentTokens] using ne_comma
  rw [pieces_intercalate (by simpa using nonempty) whole, List.mapM_map]
  clear nonempty plain whole
  induction assignments with
  | nil => rfl
  | cons first later ih =>
    rw [List.mapM_cons, ih, Function.comp_apply, assignment?_assignmentTokens]
    rfl

theorem tokens_text {clauses : Clauses} (plain : clauses.IsPlain) :
    tokens clauses.text =
      ["INSERT", "INTO"] ++ clauses.table :: "(" :: (listed clauses.columns ++ ")" ::
        (["VALUES"] ++ "(" :: (listed clauses.values ++ ")" ::
          (["ON", "CONFLICT"] ++ "(" :: (listed clauses.conflict ++ ")" ::
            (["DO", "UPDATE", "SET"] ++
              ([","].intercalate (clauses.assignments.map assignmentTokens) ++
                ["RETURNING", "*"]))))))) := by
  have insert : tokens "INSERT INTO " = ["INSERT", "INTO"] := by decide +kernel
  have bracket : tokens " (" = ["("] := by decide +kernel
  have close : tokens ")" = [")"] := by decide +kernel
  have values : tokens "VALUES (" = ["VALUES", "("] := by decide +kernel
  have conflict : tokens "ON CONFLICT (" = ["ON", "CONFLICT", "("] := by decide +kernel
  have update : tokens "DO UPDATE SET " = ["DO", "UPDATE", "SET"] := by decide +kernel
  have returning : tokens "RETURNING *" = ["RETURNING", "*"] := by decide +kernel
  have assignments : tokens (", ".intercalate (clauses.assignments.map assignmentText)) =
      [","].intercalate (clauses.assignments.map assignmentTokens) := by
    rw [tokens_intercalate, List.map_map]
    exact congrArg _ (List.map_congr_left fun assignment member =>
      tokens_assignmentText (plain.assigned.2 _ (List.mem_map_of_mem member)))
  have inserting : tokens ("INSERT INTO " ++ clauses.table ++ " (" ++
      ", ".intercalate clauses.columns ++ ")") =
      ["INSERT", "INTO", clauses.table, "("] ++ listed clauses.columns ++ [")"] := by
    rw [tokens_append (.inr (by decide)), tokens_append (.inl (endsApart_append _ (by decide))),
      tokens_append (.inr (by decide)), tokens_append (.inl (by decide)), insert,
      tokens_of_isName plain.table, bracket, tokens_intercalate_names plain.columns.2, close]
    rfl
  rw [text, tokens_clauseLines]
  simp only [List.flatMap_cons, List.flatMap_nil, List.append_nil]
  rw [inserting, tokens_append (.inr (by decide)), tokens_append (.inl (by decide)),
    tokens_append (.inr (by decide)), tokens_append (.inl (by decide)),
    tokens_append (.inl (by decide)), values, conflict, update, returning, close, assignments,
    tokens_intercalate_names plain.values.2, tokens_intercalate_names plain.conflict.2]
  simp only [List.append_assoc, List.cons_append, List.nil_append]

/-- **A database reads what was written**, if all names can be read. -/
theorem ofText?_text {clauses : Clauses} (plain : clauses.IsPlain) :
    ofText? clauses.text = some clauses := by
  rw [ofText?, tokens_text plain]
  simp only [isPrefixOf?_append, isSuffixOf?_append, bracketed?_listed plain.columns.2,
    bracketed?_listed plain.values.2, bracketed?_listed plain.conflict.2, Option.bind_eq_bind,
    Option.bind_some, List.head?_cons, List.tail_cons,
    names?_listed plain.columns.1 plain.columns.2, names?_listed plain.values.1 plain.values.2,
    names?_listed plain.conflict.1 plain.conflict.2,
    mapM_assignment? plain.assigned.1 plain.assigned.2]
  rfl

/-! ### What is asked of the parts -/

/-- Whether every column of a record is listed once, with the placeholder of its number and its
value as the parameter of that number. -/
structure Binds (clauses : Clauses) (record : Record) (sent : List Value) : Prop where
  /-- No column is listed twice. -/
  once : clauses.columns.Nodup
  /-- The columns are those of the record. -/
  all : ∀ column, column ∈ clauses.columns ↔ column ∈ record.keys
  /-- There are as many placeholders as columns. -/
  placeholders : clauses.values.length = clauses.columns.length
  /-- There are as many parameters as columns. -/
  parameters : sent.length = clauses.columns.length
  /-- The placeholders are numbered from one, and stand for the values of their columns. -/
  bound : ∀ i column, clauses.columns[i]? = some column →
    clauses.values[i]? = some ("$" ++ toString (i + 1)) ∧
      ∃ value, record.get? column = some value ∧ sent[i]? = some value

/-- Whether the columns that do not take part in a conflict are assigned, and each of them once. -/
structure Updates (clauses : Clauses) (record : Record) (conflict : List String) : Prop where
  /-- No column is assigned twice. -/
  once : clauses.assigned.Nodup
  /-- No column that takes part in the conflict is assigned. -/
  apart : ∀ column ∈ clauses.assigned, column ∉ conflict
  /-- Every other column of the record is assigned, to the value that was to be inserted. -/
  others : ∀ column ∈ record.keys, column ∉ conflict → (column, .inserted) ∈ clauses.assignments

instance (clauses : Clauses) (record : Record) (conflict : List String) :
    Decidable (clauses.Updates record conflict) :=
  decidable_of_iff
    (clauses.assigned.Nodup ∧ (∀ column ∈ clauses.assigned, column ∉ conflict) ∧
      ∀ column ∈ record.keys, column ∉ conflict → (column, .inserted) ∈ clauses.assignments)
    ⟨fun ⟨once, apart, others⟩ => ⟨once, apart, others⟩,
      fun ⟨once, apart, others⟩ => ⟨once, apart, others⟩⟩

end Clauses

open Statement

/-- The parts of an insertion are what its text is made of. -/
theorem text_eq (upsert : Upsert) : (Statement.upsert upsert).text = upsert.clauses.text := rfl

/-! ### Placeholders -/

theorem isSeparator_of_isDigit {c : Char} (digit : c.isDigit = true) : isSeparator c = false := by
  have bounds : 48 ≤ c.toNat ∧ c.toNat ≤ 57 := by
    simpa [Char.isDigit, UInt32.le_iff_toNat_le] using digit
  rw [isSeparator, Bool.or_eq_false_iff]
  constructor
  · simp [isBlank, blankCodes, CodeSet.contains, CodeRange.contains]
    omega
  · simp only [isMark, List.contains_eq_mem, List.mem_cons, List.not_mem_nil, or_false,
      decide_eq_false_iff_not, not_or]
    refine ⟨?_, ?_, ?_, ?_, ?_⟩ <;> (rintro rfl; cases digit)

/-- A placeholder is one word. -/
theorem isName_placeholder (number : Nat) : IsName ("$" ++ toString number) := by
  refine ⟨by simp, fun c member => ?_⟩
  rw [String.toList_append, Nat.toString_eq_repr, Nat.toList_repr, List.mem_append] at member
  rcases member with sign | digit
  · rw [List.mem_singleton.1 sign]
    decide
  · exact isSeparator_of_isDigit (Nat.isDigit_of_mem_toDigits (by decide) (by decide) digit)

theorem length_placeholders (upsert : Upsert) :
    upsert.placeholders.length = upsert.columns.length := by
  simp [placeholders, columns, Table.values, Table.keys]

theorem isPlain_clauses {upsert : Upsert} (table : IsName upsert.table)
    (columns : ∀ column ∈ upsert.record.keys, IsName column) (nonempty : upsert.record.keys ≠ [])
    (recognised : upsert.conflict.listed ≠ [])
    (conflict : ∀ column ∈ upsert.conflict.listed, IsName column) : upsert.clauses.IsPlain := by
  refine ⟨table, ⟨nonempty, columns⟩, ⟨?_, ?_⟩, ⟨recognised, conflict⟩, ?_, ?_⟩
  · intro none
    have count := length_placeholders upsert
    rw [show upsert.placeholders = [] from none] at count
    exact nonempty (List.length_eq_zero_iff.1 count.symm)
  · exact List.forall_mem_map.2 fun i _ => isName_placeholder (i + 1)
  · simp [clauses, assignments]
  · intro column member
    obtain ⟨assignment, assigned, rfl⟩ := List.mem_map.1 member
    rcases List.mem_append.1 assigned with inserted | time
    · obtain ⟨column, kept, rfl⟩ := List.mem_map.1 inserted
      exact columns column (List.mem_filter.1 kept).1
    · rw [List.mem_singleton.1 time]
      decide

/-! ### The columns that are listed -/

/-- **Every column of the record is listed once**, and bound to its value. -/
theorem binds_clauses (upsert : Upsert) :
    upsert.clauses.Binds upsert.record (Statement.upsert upsert).parameters := by
  refine ⟨upsert.record.nodup_keys, fun column => Iff.rfl, length_placeholders upsert, ?_, ?_⟩
  · simp [Statement.parameters, clauses, columns, Table.values, Table.keys]
  · intro i column listed
    obtain ⟨⟨column, value⟩, entry, rfl⟩ :=
      Option.map_eq_some_iff.1 (List.getElem?_map.symm.trans listed)
    have inside : i < upsert.record.values.length := by
      rw [Table.values, List.length_map]
      exact (List.getElem?_eq_some_iff.1 entry).1
    refine ⟨?_, value, Table.mem_toList_iff.1 (List.mem_of_getElem? entry), ?_⟩
    · have counted : (List.range upsert.record.values.length)[i]? = some i := by
        rw [List.getElem?_range inside]
      rw [clauses, placeholders, List.getElem?_map, counted]
      rfl
    · rw [Statement.parameters, Table.values, List.getElem?_map, entry]
      rfl

/-! ### The columns that are assigned -/

section Assigned

variable {table : String} {record : Record} {conflict : List String}

theorem assigned_clauses :
    (clauses ⟨table, record, .ofList conflict⟩).assigned =
      (record.keys.filter fun column => !conflict.contains column) ++ ["updated_at"] := by
  rw [Clauses.assigned, clauses, assignments, List.map_append, List.map_map]
  congr 1
  exact List.map_id' _

/-- **How often a column is assigned**: once if it is a column of the record that takes no part in
the conflict, and once more if it is the one for the time of the update. -/
theorem count_assigned (column : String) :
    (clauses ⟨table, record, .ofList conflict⟩).assigned.count column =
      (if column ∈ record.keys ∧ column ∉ conflict then 1 else 0) +
        if column = "updated_at" then 1 else 0 := by
  have distinct : (record.keys.filter fun column => !conflict.contains column).Nodup :=
    record.nodup_keys.filter _
  have listed : column ∈ record.keys.filter (fun column => !conflict.contains column) ↔
      column ∈ record.keys ∧ column ∉ conflict := by simp
  have time : ("updated_at" == column) = true ↔ column = "updated_at" := by
    rw [beq_iff_eq, eq_comm]
  rw [assigned_clauses, List.count_append, distinct.count, List.count_singleton]
  simp only [listed, time]

/-- **The assignments are as they should be exactly if the record has no column for the time of the
update.** -/
theorem updates_clauses_iff (among : ∀ column ∈ conflict, column ∈ record.keys) :
    (clauses ⟨table, record, .ofList conflict⟩).Updates record conflict ↔
      "updated_at" ∉ record.keys := by
  constructor
  · rintro ⟨once, apart, -⟩ listed
    have assigned : "updated_at" ∈ (clauses ⟨table, record, .ofList conflict⟩).assigned := by
      rw [assigned_clauses]
      exact List.mem_append_right _ List.mem_cons_self
    have counted := List.nodup_iff_count_le_one.1 once "updated_at"
    rw [count_assigned, if_pos ⟨listed, apart _ assigned⟩, if_pos rfl] at counted
    omega
  · intro absent
    refine ⟨List.nodup_iff_count_le_one.2 fun column => ?_, fun column assigned taking => ?_, ?_⟩
    · rw [count_assigned]
      by_cases time : column = "updated_at"
      · have inserted : ¬(column ∈ record.keys ∧ column ∉ conflict) :=
          fun both => absent (time ▸ both.1)
        simp only [if_neg inserted, if_pos time, Nat.zero_add, Nat.le_refl]
      · rw [if_neg time]
        split <;> omega
    · rw [assigned_clauses, List.mem_append, List.mem_singleton] at assigned
      rcases assigned with kept | rfl
      · simp [taking] at kept
      · exact absent (among _ taking)
    · intro column listed free
      refine List.mem_append_left _ (List.mem_map_of_mem (List.mem_filter.2 ⟨listed, ?_⟩))
      simpa [ConflictColumns.ofList] using free

end Assigned

end Upsert

/-- The settings of a guild are stored by a statement that is as it should be. -/
theorem GuildSettings.updates_toRecord (settings : GuildSettings) :
    (Upsert.clauses ⟨"guilds", settings.toRecord, .ofList ["id"]⟩).Updates settings.toRecord
      ["id"] := by
  have columns := settings.keys_toRecord
  refine (Upsert.updates_clauses_iff ?_).2 ?_ <;> rw [columns] <;> decide

namespace RowSource

open Statement

/-- A connected source sends the insertion first. -/
theorem head?_events_upsert {source : RowSource} (connected : source.connected = true)
    (record : Record) (conflict : List String) :
    (upsert record conflict source).events.head? =
      some (.queried (.upsert ⟨source.table, record, .ofList conflict⟩)) := by
  rw [run_upsert connected record conflict]
  rfl

/-- **What an insertion says is right up to the column for the time of the update.** The statement
that is sent for a record lists every column of the record once, each with the placeholder of its
number, for which its value is sent as the parameter of that number. It assigns every column once
that does not take part in the conflict, and no other column of the record, exactly if the record
has no column for the time of the update. A database reads this from the text of the statement, if
table and columns have names that can be read. -/
theorem binds_and_updates_iff (source : RowSource) (record : Record) (conflict : List String)
    (nonempty : conflict ≠ []) (among : ∀ column ∈ conflict, column ∈ record.keys) :
    let insertion : Upsert := ⟨source.table, record, .ofList conflict⟩
    let statement := Statement.upsert insertion
    let clauses := insertion.clauses
    (source.connected = true →
        (upsert record conflict source).events.head? = some (.queried statement)) ∧
      statement.text = clauses.text ∧
      (IsName source.table → (∀ column ∈ record.keys, IsName column) →
        Upsert.Clauses.ofText? statement.text = some clauses) ∧
      clauses.Binds record statement.parameters ∧
      (clauses.Updates record conflict ↔ "updated_at" ∉ record.keys) := by
  intro insertion statement clauses
  refine ⟨fun connected => head?_events_upsert connected record conflict, insertion.text_eq,
    fun table columns => ?_, insertion.binds_clauses, Upsert.updates_clauses_iff among⟩
  obtain ⟨column, taking⟩ := List.exists_mem_of_ne_nil conflict nonempty
  have plain : clauses.IsPlain :=
    Upsert.isPlain_clauses table columns (List.ne_nil_of_mem (among column taking)) nonempty
      fun column taking => columns column (among column taking)
  rw [insertion.text_eq]
  exact Upsert.Clauses.ofText?_text plain

/-- The prefixes and aliases of a guild are written as they should be. -/
theorem updates_prefixes :
    let source : RowSource := ⟨"GuildRepository", "guilds", "id", true, .absent⟩
    let record : Record := .ofList [("id", .text "7"), ("prefixes", .text "{}"),
      ("aliases", .text "{}")]
    let insertion : Upsert := ⟨"guilds", record, .ofList ["id"]⟩
    let clauses := insertion.clauses
    (upsert record ["id"] source).events.head? = some (.queried (.upsert insertion)) ∧
      Upsert.Clauses.ofText? clauses.text = some clauses ∧
      clauses.Binds record [.text "7", .text "{}", .text "{}"] ∧
      clauses.Updates record ["id"] := by
  intro source record insertion clauses
  have ⟨sent, written, read, binds, updates⟩ :=
    binds_and_updates_iff source record ["id"] (by decide) (by decide)
  exact ⟨sent rfl, written ▸ read (by decide) (by decide), binds, updates.2 (by decide)⟩

/-- A row with the time of its last update is written with two assignments to that column. -/
theorem not_updates_timestamped :
    let record : Record := .ofList [("id", .text "7"), ("prefixes", .text "{}"),
      ("updated_at", .text "x")]
    let clauses := Upsert.clauses ⟨"guilds", record, .ofList ["id"]⟩
    (∀ column ∈ ["id"], column ∈ record.keys) ∧
      Upsert.Clauses.ofText? clauses.text = some clauses ∧
      clauses.assignments = [("prefixes", .inserted), ("updated_at", .inserted),
        ("updated_at", .currentTime)] ∧
      ¬clauses.Updates record ["id"] := by
  refine ⟨by decide, Upsert.Clauses.ofText?_text ?_, by decide, by decide⟩
  exact Upsert.isPlain_clauses (by decide) (by decide) (by decide) (by decide) (by decide)

end RowSource

end CommandRouter
