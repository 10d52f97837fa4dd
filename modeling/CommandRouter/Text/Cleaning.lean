import CommandRouter.Text.Blank

/-!
# Cleaning a chat line

Before a line is matched against commands, invisible characters are deleted from it: zero-width
characters and control characters. Tab, line feed and carriage return are kept, because they
separate words.

## Main definitions

* `isDeleted` decides whether a character is removed from a line.
* `clean` is the line without those characters and without blanks at its ends.
-/

namespace CommandRouter

/-- The code points of the zero-width and control characters that are deleted. -/
def deletedCodes : CodeSet := [
  ⟨0x0000, 0x0008⟩, ⟨0x000B, 0x000C⟩, ⟨0x000E, 0x001F⟩, ⟨0x007F, 0x009F⟩, ⟨0x200B, 0x200D⟩,
  ⟨0xFEFF, 0xFEFF⟩]

/-- Whether a character is removed from a line. -/
def isDeleted (c : Char) : Bool :=
  deletedCodes.contains c.toNat

/-- The text without the characters that cleaning removes. -/
def deleteInvisible (s : String) : String :=
  String.ofList (s.toList.filter fun c => !isDeleted c)

/-- The line that is matched against commands: nothing invisible in it, no blanks at its ends. -/
def clean (s : String) : String :=
  trim (deleteInvisible s)

example : clean " \u200Bpi\x00ng\u00A0" = "ping" := by decide +kernel

end CommandRouter
