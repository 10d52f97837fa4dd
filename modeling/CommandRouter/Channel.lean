import CommandRouter.Action

/-!
# Channels

## Main definitions

* `Channel.send` sends something and may fail; `Channel.sendSafely` shortens it, logs a failure and
  goes on.

## Main results

* `Channel.fitted_text` is the shortening of a text.
-/

namespace CommandRouter

namespace Channel

variable {σ : Type}

/-- The number of characters a channel accepts. -/
def maxLength : Nat := 2000

/-- A text that a channel accepts: shortened, with dots at its end, if it is too long. -/
def shortened (text : String) : String :=
  if maxLength < text.length then String.ofList (text.toList.take (maxLength - 3)) ++ "..."
  else text

/-- What a channel accepts of a value. Only a text can be shortened; whatever has no length is not
accepted at all. -/
def fitted : Value → Except Fault Value
  | .text s => .ok (.text (shortened s))
  | .ragged codes =>
    .ok (.ragged (if maxLength < codes.length then
      codes.take (maxLength - 3) ++ "...".toList.map Char.toNat else codes))
  | .list items =>
    if maxLength < items.length then .error (.cannotAppend "list" "str") else .ok (.list items)
  | .dict pairs =>
    if maxLength < pairs.length then .error (.notAKey "slice") else .ok (.dict pairs)
  | value => .error (.noLength value.kindName)

@[simp] theorem fitted_text (s : String) : fitted (.text s) = .ok (.text (shortened s)) := rfl

/-- Send something as it is. -/
def send (channel : Channel) (content : Value) : Action σ Unit :=
  match channel.delivery with
  | .ok () => Action.emit (.sent content)
  | .error fault => Action.raise fault

/-- What a channel has taken of what was sent. Where there is no channel, nothing can say what it
has taken. -/
def taken (channel : Channel) (sent : List Value) : Except Fault (List Value) :=
  match channel with
  | absent => .error (.lacks "NoneType" "sent")
  | _ => .ok sent

/-- Whether there is a way to send to the channel at all. -/
def canSend : Channel → Bool
  | working | failing _ => true
  | absent | mute => false

/-- Send something, shortened if necessary. A failure to send is logged; the result is what was
sent, if anything was. -/
def sendSafely (channel : Channel) (content : Value) : Action σ (Option Value) :=
  if channel.canSend then do
    let content ← Action.ofExcept (fitted content)
    Action.recover
      (do
        channel.send content
        return some content)
      fun fault => do
        Action.logFault (fun message =>
          .debug "DiscordUtils" ("Failed to send message: " ++ message)) fault
        return none
  else return none

end Channel

end CommandRouter
