import ArithmeticCloud.Billing.Accounts

/-!
Contract: the delivery of notifications to registered receivers.

Owns: routes from the number of a handle to a receiver, and the queue of each
receiver. A route and its receiver go away independently of each other: what was
delivered stays readable after the route is removed, and a route whose receiver
is gone delivers nothing.

Does not own: the choice of numbers. Whoever registers picks one without a
route.
-/

namespace ArithmeticCloud.Billing

/-- The receiving end of one registration. -/
structure Inbox where
  /-- Whether the receiver still exists. -/
  isOpen : Bool
  queue : List Notification
deriving DecidableEq, Repr

structure Notifier where
  /-- Numbers with a route, and the position of each one's inbox. -/
  routes : List (UInt64 × Nat)
  /-- One inbox for each registration, in order. -/
  inboxes : List Inbox
deriving DecidableEq, Repr

namespace Notifier

def empty : Notifier := ⟨[], []⟩

/-- Adds a route to a new inbox; the position of the inbox is the number of
registrations before. -/
def register (notifier : Notifier) (id : UInt64) : Notifier :=
  ⟨(id, notifier.inboxes.length) :: notifier.routes, notifier.inboxes ++ [⟨true, []⟩]⟩

def route? (notifier : Notifier) (handle : CallbackHandle) : Option Nat :=
  notifier.routes.lookup handle.id

/-- Removes the route of a handle and tells whether there was one. -/
def unregister (notifier : Notifier) (handle : CallbackHandle) : Bool × Notifier :=
  ((notifier.route? handle).isSome,
    { notifier with routes := notifier.routes.filter fun route => route.1 != handle.id })

def drop (notifier : Notifier) (position : Nat) : Notifier :=
  { notifier with inboxes := notifier.inboxes.modify position fun _ => ⟨false, []⟩ }

/-- Delivers a notification by the number of its handle and tells whether it
arrived. -/
def notify (notifier : Notifier) (notification : Notification) : Bool × Notifier :=
  match notifier.route? notification.handle with
  | none => (false, notifier)
  | some position =>
      match notifier.inboxes[position]? with
      | some ⟨true, queue⟩ =>
          (true, { notifier with
            inboxes := notifier.inboxes.set position ⟨true, queue ++ [notification]⟩ })
      | _ => (false, notifier)

/-- Takes the oldest notification that an inbox holds. -/
def receive (notifier : Notifier) (position : Nat) : Option Notification × Notifier :=
  match notifier.inboxes[position]? with
  | some ⟨true, notification :: others⟩ =>
      (some notification,
        { notifier with inboxes := notifier.inboxes.set position ⟨true, others⟩ })
  | _ => (none, notifier)

/-- Takes all that an inbox holds; a receiver that is gone reads nothing. -/
def read (notifier : Notifier) (position : Nat) : Option (List Notification) × Notifier :=
  match notifier.inboxes[position]? with
  | some ⟨true, queue⟩ =>
      (some queue, { notifier with inboxes := notifier.inboxes.set position ⟨true, []⟩ })
  | _ => (none, notifier)

end Notifier

end ArithmeticCloud.Billing
