import CommandRouter.Json.Reader
import CommandRouter.Proofs.Results
import CommandRouter.Proofs.Strings

/-!
# What comes of reading a text

A text is read, or it is malformed, or it is beyond a limit of the reader. If it is beyond a limit,
the fault is an ordinary one. If it is read, the value can be written: a value is shown as a text
unless an integer in it has too many digits, and the reader refuses integers of too many digits. A
text column of a row therefore fails to be decoded only where its text cannot be read.

Values, items and members are read by one recursion, and what is known of them is known of all three
together. So both facts are carried by one induction.

## Main definitions

* `Json.Gives` says what is known of a reading.

## Main results

* `Value.exists_shown_iff` says which values have a text, and `ofDigits_lt` bounds a number by its
  digits.
* `Json.gives_readValue_readItems_readMembers` is the induction.
* `Json.isOrdinary_of_read` and `Json.isWritable_of_read` are the two facts.
-/

namespace CommandRouter

/-! ### Digits -/

theorem foldl_digit_lt {digits : List Nat} (h : ∀ digit ∈ digits, digit < 10) (start : Nat) :
    digits.foldl (fun value digit => 10 * value + digit) start <
      (start + 1) * Nat.pow 10 digits.length := by
  induction digits generalizing start with
  | nil =>
    show start < (start + 1) * 1
    omega
  | cons digit later ih =>
    obtain ⟨small, others⟩ := List.forall_mem_cons.1 h
    have rest := ih others (10 * start + digit)
    calc _ < (10 * start + digit + 1) * Nat.pow 10 later.length := rest
      _ ≤ ((start + 1) * 10) * Nat.pow 10 later.length := Nat.mul_le_mul_right _ (by omega)
      _ = (start + 1) * (Nat.pow 10 later.length * 10) := by rw [Nat.mul_assoc, Nat.mul_comm 10]

/-- A number has no more digits than spell it. -/
theorem ofDigits_lt {digits : List Nat} (h : ∀ digit ∈ digits, digit < 10) {most : Nat}
    (few : digits.length ≤ most) : ofDigits digits < Nat.pow 10 most := by
  have bound := foldl_digit_lt h 0
  rw [Nat.zero_add, Nat.one_mul] at bound
  exact Nat.lt_of_lt_of_le bound (Nat.pow_le_pow_right (Nat.succ_pos 9) few)

/-- An integer that few digits spell can be written, whatever its sign is. -/
theorem isTooLong_eq_false_of_ofDigits {digits : List Nat} (small : ∀ digit ∈ digits, digit < 10)
    (few : digits.length ≤ maxIntegerDigits) {n : Int} (spelled : n.natAbs = ofDigits digits) :
    isTooLong n = false := by
  rw [isTooLong, decide_eq_false_iff_not, Nat.not_le, spelled]
  exact ofDigits_lt small few

theorem lt_ten_of_isDigit {c : Char} (h : c.isDigit = true) : c.toNat - 48 < 10 := by
  rw [Char.isDigit, Bool.and_eq_true, decide_eq_true_eq, decide_eq_true_eq] at h
  have above : c.toNat ≤ 57 := h.2
  omega

/-! ### Values -/

namespace Value

theorem isWritable_of_isString {value : Value} (h : value.IsString) : value.isWritable = true := by
  rcases isString_iff.1 h with ⟨s, rfl⟩ | ⟨codes, rfl⟩ <;> rfl

/-- A value is shown as a label exactly if every integer in it can be written. -/
theorem exists_ofShown_iff {value : Value} :
    (∃ label, Label.ofShown value = .ok label) ↔ value.isWritable = true := by
  cases value with
  | text s => simp [isWritable]
  | ragged codes => simp [Label.ofShown, isWritable]
  | _ => simp only [Label.ofShown, printed]; split <;> simp_all [Except.map]

theorem exists_shown_iff {value : Value} :
    (∃ string, value.shown = .ok string) ↔ value.isWritable = true := by
  rw [← exists_ofShown_iff, shown]
  cases Label.ofShown value <;> simp [Except.map]

theorem isWritable_ofCodes (codes : List Nat) : (ofCodes codes).isWritable = true :=
  isWritable_of_isString (isString_ofCodes codes)

theorem areWritablePairs_insertPair {key value : Value} {pairs : List (Value × Value)}
    (hkey : key.isWritable = true) (hvalue : value.isWritable = true)
    (h : areWritablePairs pairs = true) :
    areWritablePairs (insertPair key value pairs) = true := by
  induction pairs with
  | nil => simp [insertPair, areWritablePairs, hkey, hvalue]
  | cons pair later ih =>
    obtain ⟨k, v⟩ := pair
    rw [areWritablePairs, Bool.and_eq_true, Bool.and_eq_true] at h
    rw [insertPair]
    split <;> simp [areWritablePairs, h.1.1, h.1.2, h.2, hvalue, ih h.2]

theorem isWritable_dictOf {pairs : List (Value × Value)} (h : areWritablePairs pairs = true) :
    (dictOf pairs).isWritable = true := by
  have inserted (held : List (Value × Value)) (writable : areWritablePairs held = true) :
      areWritablePairs
        (pairs.foldl (fun ps pair => insertPair pair.1 pair.2 ps) held) = true := by
    induction pairs generalizing held with
    | nil => exact writable
    | cons pair later ih =>
      rw [areWritablePairs, Bool.and_eq_true, Bool.and_eq_true] at h
      exact ih h.2 _ (areWritablePairs_insertPair h.1.1 h.1.2 writable)
  exact inserted [] rfl

end Value

/-! ### Readings -/

namespace Json

variable {α β : Type}

/-- What is known of a reading. -/
structure Gives (reading : Except Failure (α × List Char)) (p : α → Prop) : Prop where
  /-- If it goes beyond a limit, it does so with an ordinary fault. -/
  ordinary : ∀ fault, reading = .error (.beyond fault) → fault.isOrdinary = true
  /-- What it gives satisfies a condition. -/
  holds : ∀ a rest, reading = .ok (a, rest) → p a

namespace Gives

variable {p : α → Prop} {q : β → Prop}

theorem of_ok {a : α} (h : p a) (rest : List Char) : Gives (.ok (a, rest)) p := by
  constructor
  · rintro _ ⟨⟩
  · rintro _ _ ⟨⟩
    exact h

theorem of_malformed : Gives (.error .malformed : Except Failure (α × List Char)) p := by
  constructor
  · rintro _ ⟨⟩
  · rintro _ _ ⟨⟩

theorem of_beyond {fault : Fault} (h : fault.isOrdinary = true) :
    Gives (.error (.beyond fault) : Except Failure (α × List Char)) p := by
  constructor
  · rintro _ ⟨⟩
    exact h
  · rintro _ _ ⟨⟩

theorem bind {reading : Except Failure (α × List Char)}
    {f : α × List Char → Except Failure (β × List Char)} (h : Gives reading p)
    (hf : ∀ a rest, p a → Gives (f (a, rest)) q) : Gives (reading >>= f) q := by
  rcases reading with (_ | fault) | ⟨a, rest⟩
  · exact .of_malformed
  · exact .of_beyond (h.ordinary fault rfl)
  · exact hf a rest (h.holds a rest rfl)

end Gives

theorem gives_scanString (cs : List Char) : Gives (scanString cs) fun _ => True := by
  fun_induction scanString cs with
  | case1 => exact .of_malformed
  | case2 rest => exact .of_ok trivial _
  | case3 => exact .of_malformed
  | case4 a b c d rest unit read ih => exact ih.bind fun _ _ _ => .of_ok trivial _
  | case5 => exact .of_malformed
  | case6 c rest _ escaped read ih => exact ih.bind fun _ _ _ => .of_ok trivial _
  | case7 => exact .of_malformed
  | case8 c rest _ _ _ visible ih => exact ih.bind fun _ _ _ => .of_ok trivial _

theorem gives_readString (cs : List Char) :
    Gives (readString cs) fun value => value.isWritable = true :=
  (gives_scanString cs).bind fun codes rest _ =>
    .of_ok (a := stringValue codes) (Value.isWritable_ofCodes _) rest

/-- The whole part of a number is a run of digits. -/
theorem splitWhole_eq_some {cs whole rest : List Char}
    (h : splitWhole cs = some (whole, rest)) :
    cs = whole ++ rest ∧ ∀ c ∈ whole, c.isDigit = true := by
  unfold splitWhole at h
  split at h
  · cases h
    exact ⟨rfl, List.forall_mem_singleton.2 rfl⟩
  · split at h
    · cases h
      exact ⟨List.takeWhile_append_dropWhile.symm, List.all_eq_true.1 List.all_takeWhile⟩
    · cases h
  · cases h

theorem gives_readNumber (negative : Bool) (cs : List Char) :
    Gives (readNumber negative cs) fun value => value.isWritable = true := by
  rw [readNumber]
  split
  · exact .of_malformed
  · rename_i whole afterWhole found
    dsimp only
    split
    · rename_i isInteger
      split
      · exact .of_beyond rfl
      · rename_i short
        refine .of_ok ?_ _
        have noFraction : (splitFraction afterWhole).1 = [] := by
          rw [Bool.and_eq_true, List.isEmpty_iff] at isInteger
          exact isInteger.1
        have digits : ∀ d ∈ (whole ++ (splitFraction afterWhole).1).map fun d => d.toNat - 48,
            d < 10 := by
          rw [noFraction, List.append_nil]
          intro d held
          obtain ⟨c, among, rfl⟩ := List.mem_map.1 held
          exact lt_ten_of_isDigit ((splitWhole_eq_some found).2 c among)
        have few : ((whole ++ (splitFraction afterWhole).1).map fun d =>
            d.toNat - 48).length ≤ maxIntegerDigits := by
          rw [List.length_map, noFraction, List.append_nil]
          exact Nat.not_lt.1 short
        rw [Value.isWritable, Bool.not_eq_true']
        refine isTooLong_eq_false_of_ofDigits digits few ?_
        split
        · rw [Int.natAbs_neg, Int.natAbs_natCast]
        · rw [Int.natAbs_natCast]
    · exact .of_ok (by rfl) _

theorem gives_readScalar (cs : List Char) :
    Gives (readScalar cs) fun value => value.isWritable = true := by
  unfold readScalar
  dsimp only
  split
  · rename_i found named
    obtain ⟨entry, among, matched⟩ := List.exists_of_findSome?_eq_some named
    obtain ⟨rest, -, rfl⟩ := Option.map_eq_some_iff.1 matched
    refine .of_ok ?_ rest
    simp only [List.mem_cons, List.not_mem_nil, or_false] at among
    rcases among with rfl | rfl | rfl | rfl | rfl | rfl <;> rfl
  · split <;> exact gives_readNumber _ _

/-- Values, items and members are read by one recursion, so what they give is known together. -/
theorem gives_readValue_readItems_readMembers (limit fuel : Nat) :
    (∀ depth cs, Gives (readValue limit fuel depth cs) fun value => value.isWritable = true) ∧
      (∀ depth cs, Gives (readItems limit fuel depth cs) fun items =>
        Value.areWritable items = true) ∧
      ∀ depth cs, Gives (readMembers limit fuel depth cs) fun pairs =>
        Value.areWritablePairs pairs = true := by
  induction fuel with
  | zero =>
    refine ⟨fun depth cs => ?_, fun depth cs => ?_, fun depth cs => ?_⟩
    · rw [readValue]; exact .of_malformed
    · rw [readItems]; exact .of_malformed
    · rw [readMembers]; exact .of_malformed
  | succ fuel ih =>
    obtain ⟨value, items, members⟩ := ih
    refine ⟨fun depth cs => ?_, fun depth cs => ?_, fun depth cs => ?_⟩
    · unfold readValue
      split
      · exact gives_readString _
      · split
        · exact .of_beyond rfl
        · split
          · exact .of_ok (by rfl) _
          · refine (items _ _).bind fun read rest writable => ?_
            exact .of_ok (a := .list read) (p := fun value : Value => value.isWritable = true)
              writable rest
      · split
        · exact .of_beyond rfl
        · split
          · exact .of_ok (by rfl) _
          · refine (members _ _).bind fun read rest writable => ?_
            exact .of_ok (p := fun value : Value => value.isWritable = true)
              (Value.isWritable_dictOf writable) rest
      · exact gives_readScalar cs
    · rw [readItems]
      refine (value depth cs).bind fun item rest writable => ?_
      dsimp only
      split
      · exact .of_ok (by simp [Value.areWritable, writable]) _
      · exact (items _ _).bind fun others rest' writable' =>
          .of_ok (by simp [Value.areWritable, writable, writable']) rest'
      · exact .of_malformed
    · unfold readMembers
      split
      · refine (gives_readString _).bind fun key rest hkey => ?_
        dsimp only
        split
        · refine (value _ _).bind fun item rest' hitem => ?_
          dsimp only
          split
          · exact .of_ok (by simp [Value.areWritablePairs, hkey, hitem]) _
          · exact (members _ _).bind fun others rest'' writable =>
              .of_ok (by simp [Value.areWritablePairs, hkey, hitem, writable]) rest''
          · exact .of_malformed
        · exact .of_malformed
      · exact .of_malformed

/-- A text that is beyond a limit of the reader is an ordinary fault. -/
theorem isOrdinary_of_read {limit : Nat} {s : String} {fault : Fault}
    (h : read limit s = .error (.beyond fault)) : fault.isOrdinary = true := by
  rw [read] at h
  dsimp only at h
  split at h
  · cases h
  · have known := (gives_readValue_readItems_readMembers limit (2 * s.toList.length + 2)).1 0
      (skipSpace s.toList)
    cases reading : readValue limit (2 * s.toList.length + 2) 0 (skipSpace s.toList) with
    | error failure =>
      rw [reading] at h
      cases h
      exact known.ordinary fault reading
    | ok found =>
      rw [reading, ok_bind] at h
      split at h <;> cases h

/-- **Every value that is read can be written.** -/
theorem isWritable_of_read {limit : Nat} {s : String} {value : Value}
    (h : read limit s = .ok value) : value.isWritable = true := by
  rw [read] at h
  dsimp only at h
  split at h
  · cases h
  · obtain ⟨⟨found, rest⟩, readable, h⟩ := bind_eq_ok_iff.1 h
    have writable := ((gives_readValue_readItems_readMembers _ _).1 _ _).holds found rest readable
    split at h
    · cases h
      exact writable
    · cases h

end Json

end CommandRouter
