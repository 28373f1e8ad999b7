import ArithmeticCloud.Billing.Notifier

/-!
Contract: receivers of notifications by name.

Owns: one registration for each name, whose number is the count of registrations
before it, and the reading of all that was delivered.

Does not own: delivery.
-/

namespace ArithmeticCloud.Billing

structure Registration where
  handle : CallbackHandle
  position : Nat
deriving DecidableEq, Repr

structure Directory where
  notifier : Notifier
  registrations : List (String × Registration)
deriving DecidableEq, Repr

namespace Directory

def empty : Directory := ⟨.empty, []⟩

def find? (directory : Directory) (name : String) : Option Registration :=
  directory.registrations.lookup name

/-- Makes a new registration. An earlier one of the name loses its receiver and
keeps its route. -/
def register (directory : Directory) (name : String) : Registration × Directory :=
  let notifier := match directory.find? name with
    | some earlier => directory.notifier.drop earlier.position
    | none => directory.notifier
  let position := notifier.inboxes.length
  let registration : Registration := ⟨⟨UInt64.ofNat position, name⟩, position⟩
  (registration, ⟨notifier.register registration.handle.id,
    (name, registration) :: directory.registrations.filter fun entry => entry.1 != name⟩)

/-- Registers a name unless it is registered. -/
def obtain (directory : Directory) (name : String) : Registration × Directory :=
  match directory.find? name with
  | some registration => (registration, directory)
  | none => directory.register name

def unregister (directory : Directory) (name : String) : Bool × Directory :=
  match directory.find? name with
  | none => (false, directory)
  | some registration =>
      let (removed, notifier) := directory.notifier.unregister registration.handle
      (removed, { directory with notifier := notifier })

def drop (directory : Directory) (name : String) : Directory :=
  match directory.find? name with
  | none => directory
  | some registration =>
      { directory with notifier := directory.notifier.drop registration.position }

def notify (directory : Directory) (name user : String) (threshold : Int64) :
    Bool × Directory :=
  match directory.find? name with
  | none => (false, directory)
  | some registration =>
      let (delivered, notifier) :=
        directory.notifier.notify ⟨registration.handle, user, threshold⟩
      (delivered, { directory with notifier := notifier })

/-- Reads what was delivered to a name, if its receiver exists. -/
def read (directory : Directory) (name : String) : Option (List Notification) × Directory :=
  match directory.find? name with
  | none => (none, directory)
  | some registration =>
      let (found, notifier) := directory.notifier.read registration.position
      (found, { directory with notifier := notifier })

/-- Reads what was delivered to each of some names. -/
def readAll : List String → Directory → List (String × Notification) × Directory
  | [], directory => ([], directory)
  | name :: others, directory =>
      let (found, directory) := directory.read name
      let (rest, directory) := readAll others directory
      ((found.getD []).map (name, ·) ++ rest, directory)

/-- Reads all that was delivered, with the names in order. -/
def drain (directory : Directory) : List (String × Notification) × Directory :=
  readAll ((directory.registrations.map Prod.fst).mergeSort fun left right => left ≤ right)
    directory

end Directory

end ArithmeticCloud.Billing
