import CommandRouter.Proofs.Readings
import Mathlib.Data.List.Infix
import Mathlib.Data.List.TakeWhile

/-!
# Texts within the limits of the reader

A text is read or turned away as malformed, unless it is beyond a limit of the reader. Whether it
could be beyond one is seen without reading it: its digits and its brackets have to be counted.
Digits and brackets inside strings do not count, so the strings are emptied first. If then no run of
digits is too long, and nowhere are too many brackets open, the reader stays within its limits,
whether or not the text is JSON.

## The invariant

The reader is between two tokens whenever it begins to read a value, an item or a member. What is
left there is again a text whose strings can be emptied, and it may open as many brackets more as
the reader may still go down. So the depth of the reader and the room that is left for what follows
add up to the limit. A bracket that opens takes one from the room and gives it to the depth, one
that closes gives it back, and every other token leaves both as they are.

## Main definitions

* `Json.outside` empties the strings of a text.
* `Json.Fits` says that digits and brackets are few enough, with some room for brackets.
* `Json.Leaves` says that a reading stays within the limits, and what is known of what follows.

## Main results

* `Json.Fits.advance` is how the room changes when characters are passed.
* `Json.leaves_readValue_readItems_readMembers` is the invariant.
* `Json.read_ne_beyond_of_withinLimits` is what it is for.
* `Json.read_of_digits` is the number that is too long.
-/

namespace CommandRouter

namespace Json

/-! ### What is outside the strings -/

mutual

/-- The characters outside the strings of a text, with the marks of the strings. -/
def outside : List Char → List Char
  | [] => []
  | '\x22' :: cs => '\x22' :: inside cs
  | c :: cs => c :: outside cs

/-- The characters outside the strings of a text that begins inside of one. -/
def inside : List Char → List Char
  | [] => []
  | '\x22' :: cs => '\x22' :: outside cs
  | '\x5C' :: _ :: cs => inside cs
  | _ :: cs => inside cs

end

/-- Whether a character opens a list or a map. -/
def opens (c : Char) : Bool := c == '[' || c == '\x7b'

/-- Whether a character closes a list or a map. -/
def closes (c : Char) : Bool := c == ']' || c == '\x7d'

/-- Whether a text has no long run of digits and opens few brackets, when strings do not count. -/
structure Fits (room : Nat) (cs : List Char) : Prop where
  /-- No digit is followed by too many. -/
  short : ∀ rest, rest <:+ outside cs →
    (rest.takeWhile Char.isDigit).length ≤ maxIntegerDigits
  /-- Nowhere are more brackets open than there is room for. -/
  shallow : ∀ front, front <+: outside cs → front.countP opens ≤ front.countP closes + room

instance (room : Nat) (cs : List Char) : Decidable (Fits room cs) :=
  decidable_of_iff
    ((∀ rest ∈ (outside cs).tails, (rest.takeWhile Char.isDigit).length ≤ maxIntegerDigits) ∧
      ∀ front ∈ (outside cs).inits, front.countP opens ≤ front.countP closes + room)
    ⟨fun ⟨short, shallow⟩ => ⟨fun rest h => short rest ((List.mem_tails _ _).2 h),
        fun front h => shallow front ((List.mem_inits _ _).2 h)⟩,
      fun ⟨short, shallow⟩ => ⟨fun rest h => short rest ((List.mem_tails _ _).1 h),
        fun front h => shallow front ((List.mem_inits _ _).1 h)⟩⟩

/-- Whether the digits and brackets of a text are few enough for a reader that has room for `limit`
lists and maps inside each other. -/
def WithinLimits (limit : Nat) (s : String) : Prop := Fits limit s.toList

instance (limit : Nat) (s : String) : Decidable (WithinLimits limit s) :=
  inferInstanceAs (Decidable (Fits limit s.toList))

example : Fits 1 "[\"[[\", 12]".toList := by decide +kernel

variable {room : Nat} {c : Char} {cs rest : List Char}

theorem outside_cons_of_ne (h : c ≠ '\x22') (cs : List Char) :
    outside (c :: cs) = c :: outside cs := by
  rw [outside]
  exact h

theorem inside_cons_of_ne (quote : c ≠ '\x22') (backslash : c ≠ '\x5C') (cs : List Char) :
    inside (c :: cs) = inside cs := by
  rw [inside]
  · exact quote
  · intro escaped later h
    cases h
    exact absurd rfl backslash

/-! ### Passing characters -/

/-- **The room after some characters**: the brackets that they open are taken from it, and those
that they close are given back. -/
theorem Fits.advance {passed : List Char} {room' : Nat} (fits : Fits room cs)
    (split : outside cs = passed ++ outside rest)
    (balance : room + passed.countP closes = room' + passed.countP opens) : Fits room' rest where
  short later h := by
    refine fits.short later ?_
    rw [split]
    exact h.trans (List.suffix_append _ _)
  shallow front h := by
    have whole := fits.shallow (passed ++ front) (by
      rw [split]
      exact (List.prefix_append_right_inj passed).2 h)
    rw [List.countP_append, List.countP_append] at whole
    omega

/-- Whether a character is neither a mark nor a bracket. -/
def Plain (c : Char) : Prop := c ≠ '\x22' ∧ opens c = false ∧ closes c = false

instance (c : Char) : Decidable (Plain c) := inferInstanceAs (Decidable (_ ∧ _ ∧ _))

/-- Whether a text is left when plain characters are passed. -/
def Passes (cs rest : List Char) : Prop :=
  ∃ front, cs = front ++ rest ∧ ∀ c ∈ front, Plain c

theorem outside_append (plain : ∀ c ∈ cs, Plain c) (rest : List Char) :
    outside (cs ++ rest) = cs ++ outside rest := by
  induction cs with
  | nil => rfl
  | cons c later ih =>
    obtain ⟨here, there⟩ := List.forall_mem_cons.1 plain
    rw [List.cons_append, outside_cons_of_ne here.1, ih there, List.cons_append]

namespace Passes

theorem refl (cs : List Char) : Passes cs cs := ⟨[], rfl, List.forall_mem_nil _⟩

theorem append (plain : ∀ c ∈ cs, Plain c) (rest : List Char) : Passes (cs ++ rest) rest :=
  ⟨cs, rfl, plain⟩

theorem cons (plain : Plain c) (rest : List Char) : Passes (c :: rest) rest :=
  ⟨[c], rfl, by simpa using plain⟩

theorem trans {after : List Char} (first : Passes cs rest) (second : Passes rest after) :
    Passes cs after := by
  obtain ⟨front, rfl, plain⟩ := first
  obtain ⟨next, rfl, plain'⟩ := second
  exact ⟨front ++ next, (List.append_assoc _ _ _).symm, List.forall_mem_append.2 ⟨plain, plain'⟩⟩

theorem dropWhile {p : Char → Bool} (plain : ∀ c, p c = true → Plain c) (cs : List Char) :
    Passes cs (cs.dropWhile p) :=
  ⟨cs.takeWhile p, List.takeWhile_append_dropWhile.symm,
    fun _ h => plain _ (List.mem_takeWhile_imp h)⟩

end Passes

theorem Fits.passes (fits : Fits room cs) (passes : Passes cs rest) : Fits room rest := by
  obtain ⟨front, rfl, plain⟩ := passes
  have noneOpens : front.countP opens = 0 :=
    List.countP_eq_zero.2 fun c h => by simp [(plain c h).2.1]
  have noneCloses : front.countP closes = 0 :=
    List.countP_eq_zero.2 fun c h => by simp [(plain c h).2.2]
  exact fits.advance (outside_append plain rest) (by rw [noneOpens, noneCloses])

/-- A bracket that opens takes from the room, so there was some. -/
theorem Fits.of_opens (fits : Fits room (c :: cs)) (h : opens c = true) :
    ∃ less, room = less + 1 ∧ Fits less cs := by
  have mark : c ≠ '\x22' := by
    rintro rfl
    cases h
  have apart : closes c = false := by
    simp only [opens, Bool.or_eq_true, beq_iff_eq] at h
    rcases h with rfl | rfl <;> rfl
  have split : outside (c :: cs) = [c] ++ outside cs := outside_cons_of_ne mark cs
  have enough := fits.shallow [c] ⟨outside cs, split.symm⟩
  simp only [List.countP_singleton, h, apart, if_true, Bool.false_eq_true, if_false] at enough
  obtain ⟨less, rfl⟩ := Nat.exists_eq_add_of_le' (show 1 ≤ room by omega)
  exact ⟨less, rfl, fits.advance split (by simp [h, apart])⟩

/-- A bracket that closes gives back to the room. -/
theorem Fits.of_closes (fits : Fits room (c :: cs)) (h : closes c = true) :
    Fits (room + 1) cs := by
  have mark : c ≠ '\x22' := by
    rintro rfl
    cases h
  have apart : opens c = false := by
    simp only [closes, Bool.or_eq_true, beq_iff_eq] at h
    rcases h with rfl | rfl <;> rfl
  have split : outside (c :: cs) = [c] ++ outside cs := outside_cons_of_ne mark cs
  exact fits.advance split (by simp [h, apart])

/-! ### Readings within the limits -/

variable {α β : Type}

/-- Whether a reading stays within the limits, and what follows what it read satisfies a
condition. -/
def Leaves (reading : Except Failure (α × List Char)) (p : List Char → Prop) : Prop :=
  match reading with
  | .ok (_, rest) => p rest
  | .error failure => failure = .malformed

namespace Leaves

variable {p q : List Char → Prop}

theorem of_malformed : Leaves (.error .malformed : Except Failure (α × List Char)) p := rfl

theorem of_ok {a : α} (h : p rest) : Leaves (.ok (a, rest)) p := h

theorem bind {reading : Except Failure (α × List Char)}
    {f : α × List Char → Except Failure (β × List Char)} (h : Leaves reading p)
    (hf : ∀ a rest, p rest → Leaves (f (a, rest)) q) : Leaves (reading >>= f) q := by
  match reading with
  | .ok (a, rest) => exact hf a rest h
  | .error failure => exact h

end Leaves

/-! ### Strings -/

theorem ne_of_hexValue? {value : Nat} (h : hexValue? c = some value) :
    c ≠ '\x22' ∧ c ≠ '\x5C' := by
  constructor <;> (rintro rfl; cases h)

/-- Four digits are all digits. -/
theorem ne_of_hexValues? {a b c d : Char} {value : Nat} (h : hexValues? [a, b, c, d] = some value) :
    ∀ digit ∈ [a, b, c, d], digit ≠ '\x22' ∧ digit ≠ '\x5C' := by
  simp only [hexValues?, List.foldl_cons, List.foldl_nil, Option.bind_eq_bind, Option.bind_some,
    Option.bind_eq_some_iff] at h
  obtain ⟨abc, ⟨ab, ⟨a', ⟨_, ha, _⟩, _, hb, _⟩, _, hc, _⟩, _, hd, _⟩ := h
  simp only [List.forall_mem_cons]
  exact ⟨ne_of_hexValue? ha, ne_of_hexValue? hb, ne_of_hexValue? hc, ne_of_hexValue? hd,
    List.forall_mem_nil _⟩

theorem inside_append (plain : ∀ c ∈ cs, c ≠ '\x22' ∧ c ≠ '\x5C') (rest : List Char) :
    inside (cs ++ rest) = inside rest := by
  induction cs with
  | nil => rfl
  | cons c later ih =>
    obtain ⟨here, there⟩ := List.forall_mem_cons.1 plain
    rw [List.cons_append, inside_cons_of_ne here.1 here.2, ih there]

theorem inside_escape (c : Char) (cs : List Char) : inside ('\x5C' :: c :: cs) = inside cs := by
  rw [inside]

/-- **A string is passed up to its mark**: what is outside of the strings goes on behind it. -/
theorem leaves_scanString (cs : List Char) :
    Leaves (scanString cs) fun rest => inside cs = '\x22' :: outside rest := by
  fun_induction scanString cs with
  | case1 => exact .of_malformed
  | case2 rest => exact .of_ok (by rw [inside])
  | case3 => exact .of_malformed
  | case4 a b c d later unit digits ih =>
    refine ih.bind fun codes rest ends => .of_ok ?_
    rw [inside_escape]
    exact (inside_append (ne_of_hexValues? digits) later).trans ends
  | case5 => exact .of_malformed
  | case6 c later _ escaped known ih =>
    refine ih.bind fun codes rest ends => .of_ok ?_
    rw [inside_escape, ends]
  | case7 => exact .of_malformed
  | case8 c later quote noDigits noEscape visible ih =>
    refine ih.bind fun codes rest ends => .of_ok ?_
    rw [inside, ends]
    · exact quote
    · intro escaped other isMark h
      exact noEscape escaped other isMark h

theorem leaves_readString (fits : Fits room ('\x22' :: cs)) :
    Leaves (readString cs) (Fits room) := by
  refine (leaves_scanString cs).bind fun codes rest ends => .of_ok ?_
  have split : outside ('\x22' :: cs) = ['\x22', '\x22'] ++ outside rest := by
    rw [outside, ends]
    rfl
  exact fits.advance split rfl

/-! ### Numbers and names -/

theorem plain_of_isDigit (h : c.isDigit = true) : Plain c := by
  refine ⟨?_, ?_, ?_⟩
  · rintro rfl
    cases h
  · rw [opens, Bool.or_eq_false_iff, beq_eq_false_iff_ne, beq_eq_false_iff_ne]
    constructor <;> (rintro rfl; cases h)
  · rw [closes, Bool.or_eq_false_iff, beq_eq_false_iff_ne, beq_eq_false_iff_ne]
    constructor <;> (rintro rfl; cases h)

theorem plain_of_isSpace (h : isSpace c = true) : Plain c := by
  simp only [isSpace, Bool.or_eq_true, beq_iff_eq] at h
  rcases h with ((rfl | rfl) | rfl) | rfl <;> decide

theorem passes_skipSpace (cs : List Char) : Passes cs (skipSpace cs) :=
  .dropWhile (fun _ => plain_of_isSpace) cs

theorem passes_splitFraction (cs : List Char) : Passes cs (splitFraction cs).2 := by
  unfold splitFraction
  split
  · rename_i d later
    split
    · rename_i digit
      exact (Passes.cons (by decide) _).trans
        ((Passes.cons (plain_of_isDigit digit) _).trans
          (.dropWhile (fun _ => plain_of_isDigit) later))
    · exact .refl _
  · exact .refl _

theorem passes_splitSign (cs : List Char) : Passes cs (splitSign cs).2 := by
  unfold splitSign
  split
  · exact .cons (by decide) _
  · exact .cons (by decide) _
  · exact .refl _

theorem passes_splitExponent (cs : List Char) : Passes cs (splitExponent cs).2 := by
  unfold splitExponent
  split
  · exact .refl _
  · rename_i e later
    split
    · rename_i letter
      dsimp only
      split
      · exact .refl _
      · have plain : Plain e := by
          rcases letter with rfl | rfl <;> decide
        exact (Passes.cons plain _).trans
          ((passes_splitSign later).trans (.dropWhile (fun _ => plain_of_isDigit) _))
    · exact .refl _

theorem leaves_readNumber (negative : Bool) (fits : Fits room cs) :
    Leaves (readNumber negative cs) (Fits room) := by
  rw [readNumber]
  split
  · exact .of_malformed
  · rename_i whole later found
    obtain ⟨rfl, digits⟩ := splitWhole_eq_some found
    have plain : ∀ c ∈ whole, Plain c := fun c h => plain_of_isDigit (digits c h)
    have short : whole.length ≤ maxIntegerDigits := by
      have bound := fits.short _ (List.suffix_refl _)
      rw [outside_append plain, List.takeWhile_append_of_pos digits, List.length_append] at bound
      omega
    have left : Passes (whole ++ later) (splitExponent (splitFraction later).2).2 :=
      (Passes.append plain later).trans
        ((passes_splitFraction later).trans (passes_splitExponent _))
    dsimp only
    split
    · rw [if_neg (Nat.not_lt.2 short)]
      exact .of_ok (fits.passes left)
    · exact .of_ok (fits.passes left)

theorem stripName_eq_some {name : List Char} (h : stripName name cs = some rest) :
    cs = name ++ rest := by
  fun_induction stripName name cs with
  | case1 cs =>
    cases h
    rfl
  | case2 => cases h
  | case3 n name cs ih => rw [ih h, List.cons_append]
  | case4 => cases h

theorem leaves_readScalar (fits : Fits room cs) : Leaves (readScalar cs) (Fits room) := by
  have plain : ∀ name ∈ ["null", "true", "false", "NaN", "Infinity", "-Infinity"],
      name.toList.all fun c => decide (Plain c) := by decide +kernel
  unfold readScalar
  dsimp only
  split
  · rename_i result found
    obtain ⟨⟨name, value⟩, among, named⟩ := List.exists_of_findSome?_eq_some found
    obtain ⟨rest, stripped, rfl⟩ := Option.map_eq_some_iff.1 named
    have isName := List.mem_map_of_mem (f := Prod.fst) among
    rw [stripName_eq_some stripped] at fits
    have allPlain : ∀ c ∈ name.toList, Plain c :=
      fun c among => of_decide_eq_true (List.all_eq_true.1 (plain name isName) c among)
    exact .of_ok (fits.passes (.append allPlain rest))
  · split
    · exact leaves_readNumber true (fits.passes (.cons (by decide) _))
    · exact leaves_readNumber false fits

/-! ### Values -/

/-- **The reader stays within its limits** as long as its depth and the room that is left add up to
the limit. Values, items and members are read by one recursion, so they are followed together; items
and members end with a bracket that closes what was opened before them. -/
theorem leaves_readValue_readItems_readMembers (limit fuel : Nat) :
    (∀ {depth room cs}, depth + room = limit → Fits room cs →
        Leaves (readValue limit fuel depth cs) (Fits room)) ∧
      (∀ {depth room cs}, depth + room = limit → Fits room cs →
        Leaves (readItems limit fuel depth cs) (Fits (room + 1))) ∧
      ∀ {depth room cs}, depth + room = limit → Fits room cs →
        Leaves (readMembers limit fuel depth cs) (Fits (room + 1)) := by
  induction fuel with
  | zero =>
    refine ⟨fun _ _ => ?_, fun _ _ => ?_, fun _ _ => ?_⟩
    · rw [readValue]; exact .of_malformed
    · rw [readItems]; exact .of_malformed
    · rw [readMembers]; exact .of_malformed
  | succ fuel ih =>
    obtain ⟨value, items, members⟩ := ih
    refine ⟨fun {depth room cs} sum fits => ?_, fun {depth room cs} sum fits => ?_,
      fun {depth room cs} sum fits => ?_⟩
    · unfold readValue
      split
      · exact leaves_readString fits
      · rename_i later
        obtain ⟨less, rfl, inner⟩ := fits.of_opens rfl
        rw [if_neg (by omega)]
        have next := inner.passes (passes_skipSpace later)
        split
        · rename_i rest closed
          rw [closed] at next
          exact .of_ok (next.of_closes rfl)
        · exact (items (by omega) next).bind fun _ _ left => .of_ok left
      · rename_i later
        obtain ⟨less, rfl, inner⟩ := fits.of_opens rfl
        rw [if_neg (by omega)]
        have next := inner.passes (passes_skipSpace later)
        split
        · rename_i rest closed
          rw [closed] at next
          exact .of_ok (next.of_closes rfl)
        · exact (members (by omega) next).bind fun _ _ left => .of_ok left
      · exact leaves_readScalar fits
    · rw [readItems]
      refine (value sum fits).bind fun item rest left => ?_
      have next := left.passes (passes_skipSpace rest)
      dsimp only
      split
      · rename_i after closed
        rw [closed] at next
        exact .of_ok (next.of_closes rfl)
      · rename_i after comma
        rw [comma] at next
        have start := (next.passes (.cons (by decide) _)).passes (passes_skipSpace after)
        exact (items sum start).bind fun _ _ left => .of_ok left
      · exact .of_malformed
    · unfold readMembers
      split
      · refine (leaves_readString fits).bind fun key rest left => ?_
        have next := left.passes (passes_skipSpace rest)
        dsimp only
        split
        · rename_i afterColon colon
          rw [colon] at next
          have start := (next.passes (.cons (by decide) _)).passes (passes_skipSpace afterColon)
          refine (value sum start).bind fun item rest left => ?_
          have next := left.passes (passes_skipSpace rest)
          dsimp only
          split
          · rename_i after closed
            rw [closed] at next
            exact .of_ok (next.of_closes rfl)
          · rename_i after comma
            rw [comma] at next
            have start := (next.passes (.cons (by decide) _)).passes (passes_skipSpace after)
            exact (members sum start).bind fun _ _ left => .of_ok left
          · exact .of_malformed
        · exact .of_malformed
      · exact .of_malformed

/-- **A text within the limits is read or malformed.** -/
theorem read_ne_beyond_of_withinLimits {limit : Nat} {s : String} (within : WithinLimits limit s)
    (fault : Fault) : read limit s ≠ .error (.beyond fault) := by
  have start := Fits.passes within (passes_skipSpace s.toList)
  have value := (leaves_readValue_readItems_readMembers limit (2 * s.toList.length + 2)).1
    (Nat.zero_add limit) start
  rw [read]
  dsimp only
  split
  · simp [throw, throwThe, MonadExceptOf.throw]
  · cases found : readValue limit (2 * s.toList.length + 2) 0 (skipSpace s.toList) with
    | error failure =>
      rw [found] at value
      rw [show failure = .malformed from value]
      simp
    | ok result =>
      rw [ok_bind]
      split <;> simp [throw, throwThe, MonadExceptOf.throw, pure, Except.pure]

/-! ### Beyond the limits -/

/-- What begins with a digit is a number, if it is no string, no list and no map. -/
theorem readScalar_of_isDigit (digit : c.isDigit = true) (cs : List Char) :
    readScalar (c :: cs) = readNumber false (c :: cs) := by
  have fronts : ∀ name ∈ ["null", "true", "false", "NaN", "Infinity", "-Infinity"],
      name.toList.head?.any (fun n => !n.isDigit) := by decide +kernel
  unfold readScalar
  dsimp only
  split
  · rename_i result found
    obtain ⟨⟨name, value⟩, among, named⟩ := List.exists_of_findSome?_eq_some found
    obtain ⟨rest, stripped, -⟩ := Option.map_eq_some_iff.1 named
    have isName := List.mem_map_of_mem (f := Prod.fst) among
    have front := fronts name isName
    have split := stripName_eq_some stripped
    cases spelled : name.toList with
    | nil =>
      rw [spelled] at front
      cases front
    | cons n later =>
      rw [spelled] at front split
      cases split
      simp [digit] at front
  · split
    · rename_i h
      cases h
      cases digit
    · rfl

/-- **A number that is too long is not read**, although it is well formed. -/
theorem read_of_digits (limit : Nat) (digits : ∀ d ∈ c :: cs, d.isDigit = true) (front : c ≠ '0')
    (long : maxIntegerDigits < (c :: cs).length) :
    read limit (String.ofList (c :: cs)) = .error (.beyond (.tooManyDigits (c :: cs).length)) := by
  have digit : c.isDigit = true := digits c List.mem_cons_self
  have whole : splitWhole (c :: cs) = some (c :: cs, []) := by
    rw [splitWhole, if_pos digit, List.takeWhile_eq_self_iff.2 digits,
      List.dropWhile_eq_nil_iff.2 digits]
    exact front
  have number : readNumber false (c :: cs) =
      .error (.beyond (.tooManyDigits (c :: cs).length)) := by
    rw [readNumber, whole]
    exact if_pos long
  have start : skipSpace (c :: cs) = c :: cs := by
    rw [skipSpace, List.dropWhile_cons_of_neg]
    intro space
    simp only [isSpace, Bool.or_eq_true, beq_iff_eq] at space
    rcases space with ((rfl | rfl) | rfl) | rfl <;> cases digit
  have value (fuel : Nat) : readValue limit (fuel + 1) 0 (c :: cs) =
      .error (.beyond (.tooManyDigits (c :: cs).length)) := by
    rw [readValue, readScalar_of_isDigit digit, number]
    all_goals
      rintro later h
      cases h
      cases digit
  rw [read, String.toList_ofList, start]
  dsimp only
  rw [if_neg, value]
  · rfl
  · intro mark
    cases mark
    cases digit

end Json

end CommandRouter
