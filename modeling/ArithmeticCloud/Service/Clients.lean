import ArithmeticCloud.Service.Conversation

/-!
Contract: a controller with its clients, each of which has a conversation of its
own.

Owns: what happens when a client speaks, hangs up or is stopped, and what the
client reads. A client takes no further part once it has hung up, has been
stopped or has read all that was said before the conversation ended.

Does not own: connections, and how many clients are served at once.
-/

namespace ArithmeticCloud.Service

open Transport

structure Ending where
  result : Except Fault Unit
  /-- Bytes that the session received, line ends left out. -/
  received : UInt64
  /-- Bytes that the session sent, line ends left out. -/
  sent : UInt64
  user : Option String

def Conversation.ending? (conversation : Conversation) : Option Ending :=
  conversation.ended.map fun result =>
    ⟨result, conversation.channel.received, conversation.channel.sent, conversation.session.user⟩

inductive Hearing where
  | line (content : Bytes)
  | ended (ending : Ending)
  | silence

def Conversation.hear (conversation : Conversation) : Hearing × Conversation :=
  let channel := conversation.channel
  match receive conversation.ended.isSome channel.outgoing, conversation.ending? with
  | .message content rest, _ =>
      (.line content, { conversation with channel := { channel with outgoing := rest } })
  | _, some ending => (.ended ending, conversation)
  | _, none => (.silence, conversation)

structure Client where
  conversation : Conversation
  /-- Whether the client takes part no longer. -/
  gone : Bool

/-- What becomes of a client that hangs up or is stopped. -/
inductive Departure where
  | neverCame
  | alreadyGone
  /-- It goes now, and the conversation has ended. -/
  | leaves (ending : Option Ending)

/-- A controller as its clients meet it. -/
structure Frontend (σ : Type) where
  controller : Controller σ
  clients : List (String × Client)

namespace Frontend

variable {σ : Type}

def find? (frontend : Frontend σ) (name : String) : Option Client := frontend.clients.lookup name

def set (frontend : Frontend σ) (name : String) (client : Client) : Frontend σ :=
  { frontend with
    clients := (name, client) :: frontend.clients.filter fun entry => entry.1 != name }

/-- Applies a step of one conversation to the controller and that client. -/
def step (frontend : Frontend σ) (name : String) (gone : Bool)
    (action : Controller σ → Controller σ × Conversation) : Conversation × Frontend σ :=
  let (controller, conversation) := action frontend.controller
  (conversation, { frontend with controller := controller }.set name ⟨conversation, gone⟩)

/-- The conversation of a client, a new one if it has none. Gives nothing if the
client is gone. -/
def conversation? (frontend : Frontend σ) (name : String) : Option Conversation :=
  match frontend.find? name with
  | none => some .fresh
  | some client => if client.gone then none else some client.conversation

/-- A client speaks and reads the next response. -/
def speak (link : Link σ) (frontend : Frontend σ) (name : String) (data : Bytes) :
    Option (Hearing × Frontend σ) :=
  (frontend.conversation? name).map fun conversation =>
    let channel := conversation.channel.arrive data
    let (conversation, frontend) :=
      frontend.step name false ({ conversation with channel := channel }.serve link)
    let (heard, conversation) := conversation.hear
    (heard, frontend.set name ⟨conversation, heard matches .ended _⟩)

/-- A client speaks for the last time and reads all the responses. -/
def speakLast (link : Link σ) (frontend : Frontend σ) (name : String) (data : Bytes) :
    Option (List Bytes × Option Ending × Frontend σ) :=
  (frontend.conversation? name).map fun conversation =>
    let channel := (conversation.channel.arrive data).closeIncoming
    let (conversation, frontend) :=
      frontend.step name true ({ conversation with channel := channel }.serve link)
    (messages conversation.channel.outgoing, conversation.ending?, frontend)

/-- Takes a client that is there away by a last step of its conversation. -/
def depart (frontend : Frontend σ) (name : String)
    (action : Conversation → Controller σ → Controller σ × Conversation) :
    Departure × Frontend σ :=
  match frontend.find? name with
  | none => (.neverCame, frontend)
  | some client =>
      if client.gone then
        (.alreadyGone, frontend)
      else
        let (conversation, frontend) := frontend.step name true (action client.conversation)
        (.leaves conversation.ending?, frontend)

def hangUp (link : Link σ) (frontend : Frontend σ) (name : String) : Departure × Frontend σ :=
  frontend.depart name fun conversation controller =>
    { conversation with channel := conversation.channel.close }.serve link controller

def stopSession (link : Link σ) (frontend : Frontend σ) (name : String) :
    Departure × Frontend σ :=
  frontend.depart name fun conversation controller => conversation.stop link controller

end Frontend

end ArithmeticCloud.Service
