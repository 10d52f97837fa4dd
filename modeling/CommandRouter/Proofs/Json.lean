import CommandRouter.Json.Reader
import CommandRouter.Json.Writer
import CommandRouter.Proofs.Results
import CommandRouter.Table.Lemmas

/-!
# Reading what was written

A map of texts that is written as JSON is read back as it was, in the same order.

A text is written in ASCII, so a character beyond it becomes one escape of sixteen bits, or two if
it needs more than sixteen. The reader does not know which escapes belong together until the string
has ended. So the round trip has two steps: the escapes give back the units, and the units, joined
in pairs, give back the characters. No character is a half of a pair, so no unit of one character
joins with a unit of the next.

## Main definitions

* `Json.units` lists the sixteen-bit units of a character.
* `Json.memberChars` and `Json.bodyChars` are a member of a map and its members as they are written.

## Main results

* `Json.readString_flatMap_escapeChar` is the round trip of a text.
* `Json.read_writeTable` is the round trip of a table of texts.
-/

namespace CommandRouter

/-! ### Hexadecimal digits -/

theorem hexValue?_hexDigit : ∀ n < 16, hexValue? (hexDigit n) = some n := by decide +kernel

theorem hexDigits_four (n : Nat) :
    hexDigits 4 n = [hexDigit (n / 16 / 16 / 16 % 16), hexDigit (n / 16 / 16 % 16),
      hexDigit (n / 16 % 16), hexDigit (n % 16)] := rfl

/-- Four digits give back a number of sixteen bits. -/
theorem hexValues?_hexDigits_four {n : Nat} (h : n < 0x10000) :
    hexValues? (hexDigits 4 n) = some n := by
  have digit (m : Nat) : hexValue? (hexDigit (m % 16)) = some (m % 16) :=
    hexValue?_hexDigit _ (Nat.mod_lt m (by decide))
  simp only [hexDigits_four, hexValues?, List.foldl_cons, List.foldl_nil, digit,
    Option.bind_eq_bind, Option.bind_some, Option.pure_def, Option.some.injEq]
  omega

namespace Json

/-! ### Strings -/

/-- The sixteen-bit units of a character: one, or the two halves of a pair. -/
def units (c : Char) : List Nat :=
  if c.toNat < 0x10000 then [c.toNat]
  else [0xD800 + (c.toNat - 0x10000) / 0x400, 0xDC00 + (c.toNat - 0x10000) % 0x400]

variable {rest after : List Char} {codes : List Nat}

theorem scanString_unitEscape {unit : Nat} (h : unit < 0x10000)
    (read : scanString rest = .ok (codes, after)) :
    scanString (unitEscape unit ++ rest) = .ok (unit :: codes, after) := by
  have value := hexValues?_hexDigits_four h
  rw [hexDigits_four] at value
  rw [unitEscape, hexDigits_four]
  simp only [List.cons_append, List.nil_append, scanString, value, read]
  rfl

theorem scanString_of_plain {c : Char} (quote : c ≠ '\x22') (backslash : c ≠ '\x5C')
    (visible : 0x20 ≤ c.toNat) (read : scanString rest = .ok (codes, after)) :
    scanString (c :: rest) = .ok (c.toNat :: codes, after) := by
  rw [scanString]
  · rw [if_neg (Nat.not_lt.2 visible), read]
    rfl
  · exact quote
  · intro a b c' d later h
    cases h
    exact absurd rfl backslash
  · intro c' later h
    cases h
    exact absurd rfl backslash

theorem scanString_of_simpleEscape {c d : Char} (escape : simpleEscape? c = some d)
    (read : scanString rest = .ok (codes, after)) :
    scanString ('\x5C' :: c :: rest) = .ok (d.toNat :: codes, after) := by
  rw [scanString]
  · rw [escape]
    simp only [read]
    rfl
  · -- What follows the mark is not the letter of an escape with digits.
    intro a b c' d' later h
    cases h
    cases escape

/-- An escaped character gives back its units. -/
theorem scanString_escapeChar (c : Char) (read : scanString rest = .ok (codes, after)) :
    scanString (escapeChar c ++ rest) = .ok (units c ++ codes, after) := by
  have bound : c.toNat.isValidChar := c.valid
  rw [escapeChar]
  split
  · rename_i special
    rcases special with rfl | rfl <;> exact scanString_of_simpleEscape rfl read
  rename_i ordinary
  iterate 5
    split
    · rename_i same
      subst same
      exact scanString_of_simpleEscape rfl read
  split
  · rename_i visible
    have low : 0x20 ≤ c.toNat := visible.1
    have high : c.toNat ≤ 0x7E := visible.2
    rw [units, if_pos (by omega)]
    exact scanString_of_plain (fun h => ordinary (.inl h)) (fun h => ordinary (.inr h)) low read
  split
  · rename_i small
    rw [units, if_pos small]
    exact scanString_unitEscape small read
  · rename_i large
    simp only [Nat.isValidChar] at bound
    rw [units, if_neg large, List.append_assoc]
    refine scanString_unitEscape (by omega) ?_
    exact scanString_unitEscape (by omega) read

theorem scanString_flatMap_escapeChar (cs after : List Char) :
    scanString (cs.flatMap escapeChar ++ '\x22' :: after) = .ok (cs.flatMap units, after) := by
  induction cs with
  | nil => simp [scanString]
  | cons c cs ih =>
    rw [List.flatMap_cons, List.flatMap_cons, List.append_assoc]
    exact scanString_escapeChar c ih

/-! ### Units and characters -/

theorem joinPairs_cons_of_not_high {code : Nat} (h : isHighSurrogate code = false)
    (codes : List Nat) : joinPairs (code :: codes) = code :: joinPairs codes := by
  cases codes with
  | nil => rfl
  | cons next codes => rw [joinPairs, h, Bool.false_and, if_neg Bool.false_ne_true]

/-- The units of a character are joined to its code point. -/
theorem joinPairs_units_append (c : Char) (codes : List Nat) :
    joinPairs (units c ++ codes) = c.toNat :: joinPairs codes := by
  have valid : c.toNat.isValidChar := c.valid
  simp only [Nat.isValidChar] at valid
  rw [units]
  split
  · refine joinPairs_cons_of_not_high ?_ codes
    simp only [isHighSurrogate, Bool.and_eq_false_iff, decide_eq_false_iff_not]
    omega
  · have high : isHighSurrogate (0xD800 + (c.toNat - 0x10000) / 0x400) = true := by
      rw [isHighSurrogate, Bool.and_eq_true, decide_eq_true_eq, decide_eq_true_eq]
      omega
    have low : isLowSurrogate (0xDC00 + (c.toNat - 0x10000) % 0x400) = true := by
      rw [isLowSurrogate, Bool.and_eq_true, decide_eq_true_eq, decide_eq_true_eq]
      omega
    have whole : pairCode (0xD800 + (c.toNat - 0x10000) / 0x400)
        (0xDC00 + (c.toNat - 0x10000) % 0x400) = c.toNat := by
      unfold pairCode
      omega
    rw [List.cons_append, List.cons_append, List.nil_append, joinPairs, high, low, Bool.and_self,
      if_pos rfl, whole]

theorem joinPairs_flatMap_units (cs : List Char) :
    joinPairs (cs.flatMap units) = cs.map Char.toNat := by
  induction cs with
  | nil => rfl
  | cons c cs ih => rw [List.flatMap_cons, joinPairs_units_append, ih, List.map_cons]

/-- The code points of a text spell the text. -/
theorem ofCodes_map_toNat (cs : List Char) :
    Value.ofCodes (cs.map Char.toNat) = .text (String.ofList cs) := by
  have whole : (cs.map Char.toNat).any isSurrogate = false := by
    rw [List.any_map, List.any_eq_false]
    intro c _
    simp [isSurrogate_toNat c]
  have chars : (cs.map Char.toNat).map Char.ofNat = cs := by
    rw [List.map_map]
    exact List.map_id'' Char.ofNat_toNat cs
  rw [Value.ofCodes, textOfCodes?, if_neg (by simp [whole]), chars]

/-- **A text is read back.** -/
theorem readString_flatMap_escapeChar (cs after : List Char) :
    readString (cs.flatMap escapeChar ++ '\x22' :: after) =
      .ok (.text (String.ofList cs), after) := by
  rw [readString, scanString_flatMap_escapeChar, ok_bind]
  simp only [stringValue, joinPairs_flatMap_units, ofCodes_map_toNat]
  rfl

/-! ### Members -/

/-- A member of a map as it is written. -/
def memberChars (entry : Label × Value) : List Char :=
  (writeKey entry.1.toValue).toList ++ ':' :: ' ' :: (write entry.2).toList

/-- The members of a map as they are written. -/
def bodyChars (entries : List (Label × Value)) : List Char :=
  [',', ' '].intercalate (entries.map memberChars)

theorem toList_writeTable (table : Table Label Value) :
    (writeTable table).toList = '\x7b' :: bodyChars table.toList ++ ['\x7d'] := by
  have members : (table.toList.map fun entry =>
      writeKey entry.1.toValue ++ ": " ++ write entry.2).map String.toList =
        table.toList.map memberChars := by
    rw [List.map_map]
    refine List.map_congr_left fun entry _ => ?_
    simp [memberChars]
  rw [writeTable, Value.bracketed, String.toList_append, String.toList_append,
    String.toList_intercalate, members]
  rfl

theorem bodyChars_cons_cons (entry next : Label × Value) (later : List (Label × Value)) :
    bodyChars (entry :: next :: later) =
      memberChars entry ++ ',' :: ' ' :: bodyChars (next :: later) := by
  rw [bodyChars, List.map_cons, List.map_cons, List.intercalate_cons_cons, bodyChars, List.map_cons]
  simp

/-- A member starts with the mark of its key. -/
theorem exists_memberChars_eq_cons (entry : Label × Value) :
    ∃ body, memberChars entry = '\x22' :: body := by
  have key : ∃ body, (writeKey entry.1.toValue).toList = '\x22' :: body := by
    cases entry.1 with
    | text s =>
      exact ⟨s.toList.flatMap escapeChar ++ ['\x22'],
        by simp [writeKey, keyText, writeText, stringChars]⟩
    | ragged codes =>
      exact ⟨codes.flatMap (codeChars escapeChar) ++ ['\x22'],
        by rw [Label.toValue, writeKey, writeCodes, String.toList_ofList]; rfl⟩
  obtain ⟨body, start⟩ := key
  exact ⟨_, by rw [memberChars, start, List.cons_append]⟩

/-- The members start with the mark of the first key. -/
theorem exists_bodyChars_eq_cons (entry : Label × Value) (later : List (Label × Value)) :
    ∃ body, bodyChars (entry :: later) = '\x22' :: body := by
  obtain ⟨body, start⟩ := exists_memberChars_eq_cons entry
  cases later with
  | nil => exact ⟨body, by rw [bodyChars, List.map_singleton, List.intercalate_singleton, start]⟩
  | cons next later => exact ⟨_, by rw [bodyChars_cons_cons, start, List.cons_append]⟩

/-- Whether the key and the value of an entry are texts. -/
def IsTextual (entry : Label × Value) : Prop :=
  (∃ key, entry.1 = .text key) ∧ ∃ text, entry.2 = .text text

/-- A member that is made of texts is read before whatever follows it. -/
theorem readMembers_memberChars {entry : Label × Value} (textual : IsTextual entry)
    (limit fuel depth : Nat) (rest : List Char) :
    readMembers limit (fuel + 2) depth (memberChars entry ++ rest) =
      match skipSpace rest with
      | '\x7d' :: rest => .ok ([(entry.1.toValue, entry.2)], rest)
      | ',' :: rest => do
        let (pairs, rest) ← readMembers limit (fuel + 1) depth (skipSpace rest)
        return ((entry.1.toValue, entry.2) :: pairs, rest)
      | _ => .error .malformed := by
  obtain ⟨⟨key, isKey⟩, text, isText⟩ := textual
  have written : memberChars entry ++ rest =
      '\x22' :: (key.toList.flatMap escapeChar ++ '\x22' :: (':' :: ' ' :: '\x22' ::
        (text.toList.flatMap escapeChar ++ '\x22' :: rest))) := by
    simp [memberChars, stringChars, isKey, isText, write, writeKey, writeText, keyText]
  have read : readValue limit (fuel + 1) depth (skipSpace
      (' ' :: '\x22' :: (text.toList.flatMap escapeChar ++ '\x22' :: rest))) =
        .ok (entry.2, rest) := by
    show readValue limit (fuel + 1) depth ('\x22' :: _) = _
    rw [readValue, readString_flatMap_escapeChar, String.ofList_toList, isText]
  rw [written, readMembers, readString_flatMap_escapeChar, ok_bind, String.ofList_toList, isKey]
  show (readValue limit (fuel + 1) depth _ >>= _) = _
  rw [read, ok_bind]
  rfl

/-- The members of a map of texts are read up to the closing brace. -/
theorem readMembers_bodyChars {entry : Label × Value} {later : List (Label × Value)}
    (texts : ∀ e ∈ entry :: later, IsTextual e) {fuel : Nat} (enough : later.length + 2 ≤ fuel)
    (limit depth : Nat) (after : List Char) :
    readMembers limit fuel depth (bodyChars (entry :: later) ++ '\x7d' :: after) =
      .ok ((entry :: later).map fun e => (e.1.toValue, e.2), after) := by
  induction later generalizing entry fuel with
  | nil =>
    obtain ⟨fuel, rfl⟩ := Nat.exists_eq_add_of_le' enough
    rw [bodyChars, List.map_singleton, List.intercalate_singleton, List.length_nil,
      readMembers_memberChars (texts entry List.mem_cons_self)]
    rfl
  | cons next later ih =>
    obtain ⟨fuel, rfl⟩ := Nat.exists_eq_add_of_le' (Nat.le_trans (Nat.le_add_left 2 _) enough)
    obtain ⟨textual, others⟩ := List.forall_mem_cons.1 texts
    obtain ⟨body, start⟩ := exists_bodyChars_eq_cons next later
    have rest : readMembers limit (fuel + 1) depth (skipSpace (' ' :: (bodyChars (next :: later) ++
        '\x7d' :: after))) = .ok ((next :: later).map fun e => (e.1.toValue, e.2), after) := by
      rw [start]
      show readMembers limit (fuel + 1) depth ('\x22' :: body ++ _) = _
      rw [← start]
      exact ih others (by simp only [List.length_cons] at enough; omega)
    rw [bodyChars_cons_cons, List.append_assoc, readMembers_memberChars textual, List.cons_append,
      List.cons_append]
    show (readMembers limit (fuel + 1) depth (skipSpace _) >>= _) = _
    rw [rest]
    rfl

theorem length_le_length_bodyChars (entries : List (Label × Value)) :
    entries.length ≤ (bodyChars entries).length := by
  cases entries with
  | nil => exact Nat.zero_le _
  | cons entry later =>
    induction later generalizing entry with
    | nil =>
      obtain ⟨body, start⟩ := exists_bodyChars_eq_cons entry []
      simp [start]
    | cons next later ih =>
      have rest := ih next
      rw [bodyChars_cons_cons]
      simp only [List.length_append, List.length_cons] at rest ⊢
      omega

/-! ### Tables -/

/-- Labels name the same key only if they are equal. -/
theorem sameKey_toValue (a b : Label) : a.toValue.sameKey b.toValue = decide (a = b) := by
  cases a <;> cases b <;> simp [Label.toValue, Value.sameKey, Value.key?]

/-- Among keys that are strings a pair is inserted as an entry is. -/
theorem insertPair_map_toValue (key : Label) (value : Value) (entries : List (Label × Value)) :
    Value.insertPair key.toValue value (entries.map fun e => (e.1.toValue, e.2)) =
      (Table.insertEntry key value entries).map fun e => (e.1.toValue, e.2) := by
  induction entries with
  | nil => rfl
  | cons entry later ih =>
    rw [List.map_cons, Value.insertPair, Table.insertEntry, sameKey_toValue, ih]
    by_cases same : entry.1 = key <;> simp [same]

/-- The pairs of a table are the pairs of a map as they are. -/
theorem insertedPairs_toList (table : Table Label Value) :
    Value.insertedPairs (table.toList.map fun e => (e.1.toValue, e.2)) =
      table.toList.map fun e => (e.1.toValue, e.2) := by
  have inserted (entries : List (Label × Value)) (t : Table Label Value) :
      (entries.map fun e => (e.1.toValue, e.2)).foldl
          (fun ps pair => Value.insertPair pair.1 pair.2 ps)
          (t.toList.map fun e => (e.1.toValue, e.2)) =
        (entries.foldl (fun t e => t.insert e.1 e.2) t).toList.map
          fun e => (e.1.toValue, e.2) := by
    induction entries generalizing t with
    | nil => rfl
    | cons entry later ih =>
      rw [List.map_cons, List.foldl_cons, insertPair_map_toValue]
      exact ih (t.insert entry.1 entry.2)
  have whole := inserted table.toList .empty
  rw [← Table.ofList, Table.ofList_toList] at whole
  exact whole

/-- The members of a table between braces are read as a map. -/
theorem readValue_braces {table : Table Label Value}
    (texts : ∀ e ∈ table.toList, IsTextual e) {limit fuel : Nat} (roomy : 0 < limit)
    (enough : table.toList.length + 1 ≤ fuel) :
    readValue limit (fuel + 1) 0 ('\x7b' :: bodyChars table.toList ++ ['\x7d']) =
      .ok (.dict (table.toList.map fun e => (e.1.toValue, e.2)), []) := by
  have pairs := insertedPairs_toList table
  have fits : ¬limit ≤ 0 := Nat.not_le.2 roomy
  cases entries : table.toList with
  | nil =>
    show readValue limit (fuel + 1) 0 ['\x7b', '\x7d'] = _
    rw [readValue, if_neg fits]
    rfl
  | cons entry later =>
    rw [entries] at pairs texts enough
    obtain ⟨body, start⟩ := exists_bodyChars_eq_cons entry later
    have members := readMembers_bodyChars texts enough limit 1 []
    rw [start, List.cons_append] at members
    rw [start, List.cons_append, List.cons_append, readValue, if_neg fits]
    show (readMembers limit fuel 1 _ >>= _) = _
    rw [members, ok_bind]
    show Except.ok (Value.dict (Value.insertedPairs _), _) = _
    rw [pairs]

/-- **A table of texts is read back**, its entries in their order. -/
theorem read_writeTable {table : Table Label Value} (texts : ∀ e ∈ table.toList, IsTextual e)
    {limit : Nat} (roomy : 0 < limit) :
    read limit (writeTable table) =
      .ok (.dict (table.toList.map fun e => (e.1.toValue, e.2))) := by
  have size := length_le_length_bodyChars table.toList
  have value : readValue limit (2 * (writeTable table).toList.length + 2) 0
      (skipSpace (writeTable table).toList) =
        .ok (.dict (table.toList.map fun e => (e.1.toValue, e.2)), []) := by
    rw [toList_writeTable]
    refine readValue_braces texts roomy ?_
    simp only [List.length_append, List.length_cons]
    omega
  have front : (writeTable table).toList.head? ≠ some '\uFEFF' := by
    rw [toList_writeTable, List.cons_append, List.head?_cons]
    decide
  rw [read]
  dsimp only
  rw [if_neg front, value]
  rfl

end Json

end CommandRouter
