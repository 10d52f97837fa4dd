import CommandRouter.Number.Reading
import CommandRouter.Text.Blank
import CommandRouter.Text.LetterCase
import CommandRouter.Value.Operators

/-!
# Strings among values

A string may hold halves of surrogate pairs, and is then no text of characters. It is lower-cased
and cut into words all the same. A half is no letter and no blank, so lower-casing treats the texts
between the halves one by one, and no word ends at a half. A word of a string that is no text may
well be a text.

## Main definitions

* `Value.lowered` is the lower case of a string.
* `Value.wordsOf` lists the words of a string.
* `Value.printed` is the text that a value is shown as, `Value.enclosed` the one as which it stands
  inside another value, and `Value.shown` the string that it is shown as; they fail if an integer in
  the value has too many digits to be written.
* `Label` is a string that is the key of an entry in a map of settings.

## Main results

* `Value.lowered_text` and `Value.wordsOf_text` are the operations on texts.
-/

namespace CommandRouter

/-- The lower case of a text given by its code points, none of which is a half. -/
def lowerTextCodes (codes : List Nat) : List Nat :=
  (lower (String.ofList (codes.map Char.ofNat))).toList.map Char.toNat

/-- The lower case of a string of code points. The second argument holds the code points since the
last half, latest first. -/
def lowerCodes : List Nat → List Nat → List Nat
  | [], passed => lowerTextCodes passed.reverse
  | code :: codes, passed =>
    if isSurrogate code then lowerTextCodes passed.reverse ++ code :: lowerCodes codes []
    else lowerCodes codes (code :: passed)

/-- The words of a string of code points. -/
def wordCodes (codes : List Nat) : List (List Nat) :=
  (pieces blankCodes.contains codes).filter fun piece => !piece.isEmpty

namespace Value

/-- The lower case of a string. -/
def lowered : Value → Except Fault Value
  | text s => .ok (text (lower s))
  | ragged codes => .ok (ragged (lowerCodes codes []))
  | value => .error (.lacks value.kindName "lower")

/-- The words of a string. -/
def wordsOf : Value → Except Fault (List Value)
  | text s => .ok ((words s).map text)
  | ragged codes => .ok ((wordCodes codes).map ofCodes)
  | value => .error (.lacks value.kindName "split")

@[simp] theorem lowered_text (s : String) : (text s).lowered = .ok (text (lower s)) := rfl

@[simp] theorem wordsOf_text (s : String) : (text s).wordsOf = .ok ((words s).map text) := rfl

/-! ### The text of a value

A value is shown as a text. An integer of too many digits has no text, and neither has a list or a
map that holds one. -/

mutual

/-- Whether every integer in a value can be written. -/
def isWritable : Value → Bool
  | int n => !isTooLong n
  | list items => areWritable items
  | dict pairs => areWritablePairs pairs
  | _ => true

/-- Whether every integer in some values can be written. -/
def areWritable : List Value → Bool
  | [] => true
  | item :: items => item.isWritable && areWritable items

/-- Whether every integer in the pairs of a map can be written. -/
def areWritablePairs : List (Value × Value) → Bool
  | [] => true
  | (key, value) :: pairs => key.isWritable && value.isWritable && areWritablePairs pairs

end

/-- The text that a value is shown as, if it has one. -/
def printed (value : Value) : Except Fault String :=
  if value.isWritable then .ok value.display else .error .tooLongToWrite

/-- The text as which a value stands inside another one, if it has one. -/
def enclosed (value : Value) : Except Fault String :=
  if value.isWritable then .ok value.inner else .error .tooLongToWrite

@[simp] theorem printed_text (s : String) : (text s).printed = .ok s := rfl

end Value

/-! ### Labels -/

/-- The string that is the key of an entry in a map of settings. -/
inductive Label where
  /-- A text. -/
  | text (s : String)
  /-- A string of code points that is no text. -/
  | ragged (codes : List Nat)
  deriving DecidableEq

namespace Label

/-- The value that a label is. -/
def toValue : Label → Value
  | text s => .text s
  | ragged codes => .ragged codes

/-- Whether a label is empty. -/
def isEmpty : Label → Bool
  | text s => s.isEmpty
  | ragged codes => codes.isEmpty

/-- The lower case of a label. -/
def lowered : Label → Label
  | text s => text (lower s)
  | ragged codes => ragged (lowerCodes codes [])

/-- A string as a label; other values lack the feature of strings for which it is needed. -/
def ofString (feature : String) : Value → Except Fault Label
  | .text s => .ok (text s)
  | .ragged codes => .ok (ragged codes)
  | value => .error (.lacks value.kindName feature)

/-- The label that a value is shown as: itself if it is a string, and else its text. -/
def ofShown : Value → Except Fault Label
  | .text s => .ok (text s)
  | .ragged codes => .ok (ragged codes)
  | value => value.printed.map text

@[simp] theorem toValue_text (s : String) : (text s).toValue = .text s := rfl

@[simp] theorem lowered_text (s : String) : (text s).lowered = text (lower s) := rfl

@[simp] theorem ofString_text (feature s : String) : ofString feature (.text s) = .ok (text s) :=
  rfl

@[simp] theorem ofShown_text (s : String) : ofShown (.text s) = .ok (text s) := rfl

theorem ofShown_toValue (label : Label) : ofShown label.toValue = .ok label := by
  cases label <;> rfl

theorem truthy_toValue (label : Label) : label.toValue.truthy = !label.isEmpty := by
  cases label <;> rfl

end Label

/-- The string that a value is shown as: itself if it is a string, and else its text. -/
def Value.shown (value : Value) : Except Fault Value := (Label.ofShown value).map Label.toValue

@[simp] theorem Value.shown_text (s : String) : (Value.text s).shown = .ok (.text s) := rfl

end CommandRouter
