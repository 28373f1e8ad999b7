import ArithmeticCloud.Service.Controller
import ArithmeticCloud.Transport.Channel

/-!
Contract: a session over a channel, from the first request to the logout.

Owns: the loop that receives a line, handles it and sends the response; the ways
in which it ends, which are the end of the stream, a failed channel, a stopped
actor and a stop from outside; and the logout at its end.

Does not own: what a request does.
-/

namespace ArithmeticCloud.Service

open Transport

structure Conversation where
  channel : Channel
  session : Session
  /-- How it ended, once it has. -/
  ended : Option (Except Fault Unit)

namespace Conversation

variable {σ : Type}

/-- A conversation in which nothing has been said. -/
def fresh : Conversation := ⟨.fresh, .anonymous, none⟩

/-- Ends the conversation and logs the user out. -/
def finish (link : Link σ) (controller : Controller σ) (conversation : Conversation)
    (result : Except Fault Unit) : Controller σ × Conversation :=
  let (_, controller) := controller.run link conversation.session.leave
  (controller, { conversation with session := .anonymous, ended := some result })

/-- Handles one line and sends the response. The conversation goes on if both
succeed. -/
def respond (link : Link σ) (controller : Controller σ) (conversation : Conversation)
    (line : String) : Controller σ × Conversation :=
  match controller.run link (conversation.session.handle line) with
  | (.error fault, controller) => conversation.finish link controller (.error fault)
  | (.ok (response, session), controller) =>
      match conversation.channel.sendText response.text with
      | (.ok (), channel) =>
          (controller, { conversation with channel := channel, session := session })
      | (.error fault, channel) =>
          finish link controller { conversation with channel := channel, session := session }
            (.error fault)

/-- Receives and handles what has arrived, as long as a line is complete. The
bound counts the lines. -/
def advance (link : Link σ) : Nat → Controller σ → Conversation → Controller σ × Conversation
  | 0, controller, conversation => (controller, conversation)
  | bound + 1, controller, conversation =>
      if conversation.ended.isSome then
        (controller, conversation)
      else
        match conversation.channel.receiveText with
        | (.message line, channel) =>
            let (controller, conversation) :=
              respond link controller { conversation with channel := channel } line
            advance link bound controller conversation
        | (.ended, channel) =>
            finish link controller { conversation with channel := channel } (.ok ())
        | (.failed fault, channel) =>
            finish link controller { conversation with channel := channel } (.error fault)
        | (.waiting, channel) => (controller, { conversation with channel := channel })

/-- Serves until the session waits for more bytes or has ended. Every line takes
at least one byte. -/
def serve (link : Link σ) (controller : Controller σ) (conversation : Conversation) :
    Controller σ × Conversation :=
  advance link (conversation.channel.incoming.length + 1) controller conversation

/-- Stops a conversation that waits for a request. -/
def stop (link : Link σ) (controller : Controller σ) (conversation : Conversation) :
    Controller σ × Conversation :=
  if conversation.ended.isSome then
    (controller, conversation)
  else
    conversation.finish link controller (.ok ())

end Conversation

end ArithmeticCloud.Service
