import CommandRouter.Fault

/-!
# Messages

## Main definitions

* `Message` is a chat message, as far as dispatching depends on it.
* `Channel` is where it was written, and `Channel.delivery` says how sending there turns out.
-/

namespace CommandRouter

/-- Who wrote a message. -/
inductive Author where
  /-- Nobody that is known. -/
  | nobody
  /-- A person. -/
  | person
  /-- A bot. -/
  | bot
  deriving Repr, DecidableEq

/-- Where a message was written, and how sending there turns out. -/
inductive Channel where
  /-- Texts are delivered. -/
  | working
  /-- Every attempt to send fails with a fault. -/
  | failing (fault : Fault)
  /-- There is no channel. -/
  | absent
  /-- There is no way to send to the channel. -/
  | mute

/-- A chat message. -/
structure Message where
  /-- Who wrote the message. -/
  author : Author
  /-- The text of the message; empty if it has none. -/
  content : String
  /-- The id of the guild in which the message was written, if it was written in one. The id may be
  something that cannot be read. -/
  guild : Option (Except Fault String)
  /-- The channel in which it was written. -/
  channel : Channel

/-- How an attempt to send to a channel turns out. -/
def Channel.delivery : Channel → Except Fault Unit
  | working => .ok ()
  | failing fault => .error fault
  | absent => .error (.lacks "NoneType" "send")
  | mute => .error (.lacks "types.SimpleNamespace" "send")

end CommandRouter
