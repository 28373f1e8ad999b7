import ArithmeticCloud.Billing.Notifier

/-!
Contract: which notifications each receiver reads, over any requests to a notifier.

Owns:
- the requests, what each is answered with, and the notifier after them;
- the registration that holds a number, and the receivers that are gone, in terms of the
  requests alone;
- what a receiver has read so far, what was delivered to it, and that the one is always the
  beginning of the other.

Does not own: the choice of numbers. A registration may draw any number; one that is in use
passes from the registration that held it to the new one.
-/

namespace ArithmeticCloud.Billing

/-! ## Requests -/

inductive NotifierRequest where
  /-- Makes a receiver for a handle. -/
  | register (handle : CallbackHandle)
  | unregister (handle : CallbackHandle)
  /-- The receiver goes away. -/
  | drop (position : Nat)
  | notify (notification : Notification)
  /-- Reads one notification. -/
  | receive (position : Nat)
  /-- Reads all notifications. -/
  | read (position : Nat)
deriving DecidableEq, Repr

inductive NotifierAnswer where
  | noted
  /-- The position of the receiver. -/
  | registered (position : Nat)
  | told (answer : Bool)
  | received (notifications : List Notification)
deriving DecidableEq, Repr

/-- The notifications that an answer hands over. -/
def NotifierAnswer.notifications : NotifierAnswer → List Notification
  | .received notifications => notifications
  | _ => []

/-- The receiver that a request reads from. -/
def NotifierRequest.reader? : NotifierRequest → Option Nat
  | .receive position | .read position => some position
  | _ => none

namespace Notifier

def handle (notifier : Notifier) : NotifierRequest → NotifierAnswer × Notifier
  | .register handle => (.registered notifier.inboxes.length, notifier.register handle.id)
  | .unregister handle =>
      let (removed, notifier) := notifier.unregister handle
      (.told removed, notifier)
  | .drop position => (.noted, notifier.drop position)
  | .notify notification =>
      let (delivered, notifier) := notifier.notify notification
      (.told delivered, notifier)
  | .receive position =>
      let (found, notifier) := notifier.receive position
      (.received found.toList, notifier)
  | .read position =>
      let (found, notifier) := notifier.read position
      (.received (found.getD []), notifier)

/-- The notifier after these requests, the latest of which comes first. -/
def after : List NotifierRequest → Notifier
  | [] => .empty
  | request :: earlier => ((after earlier).handle request).2

/-- What a request is answered with after these, the latest of which comes first. -/
def answer (earlier : List NotifierRequest) (request : NotifierRequest) : NotifierAnswer :=
  ((after earlier).handle request).1

/-! ## The past in terms of the requests

In each of these lists of requests the latest comes first. -/

/-- The handles that were registered, in order; each has the receiver at its position. -/
def registered : List NotifierRequest → List CallbackHandle
  | [] => []
  | .register handle :: earlier => registered earlier ++ [handle]
  | _ :: earlier => registered earlier

/-- The position of the registration that holds a number: the latest with this number, if the
number has not been unregistered since. -/
def holder? (id : UInt64) : List NotifierRequest → Option Nat
  | [] => none
  | .register handle :: earlier =>
      if handle.id = id then some (registered earlier).length else holder? id earlier
  | .unregister handle :: earlier => if handle.id = id then none else holder? id earlier
  | _ :: earlier => holder? id earlier

/-- Whether the number of a registration has not been unregistered since. -/
def stands (position : Nat) : List NotifierRequest → Bool
  | [] => false
  | .register _ :: earlier => position == (registered earlier).length || stands position earlier
  | .unregister handle :: earlier =>
      stands position earlier && (registered earlier)[position]?.all (·.id != handle.id)
  | _ :: earlier => stands position earlier

/-- Whether every registration drew a number that none held. -/
def drawsUnused : List NotifierRequest → Bool
  | [] => true
  | .register handle :: earlier => (holder? handle.id earlier).isNone && drawsUnused earlier
  | _ :: earlier => drawsUnused earlier

/-- Whether a receiver was dropped, after it had been made. -/
def isGone (position : Nat) : List NotifierRequest → Bool
  | [] => false
  | .drop dropped :: earlier =>
      decide (dropped = position ∧ position < (registered earlier).length) ||
        isGone position earlier
  | _ :: earlier => isGone position earlier

/-- The notifications that were told to have arrived, oldest first, each with the registration
that held its number at the time. -/
def arrivals : List NotifierRequest → List (Option Nat × Notification)
  | [] => []
  | .notify notification :: earlier =>
      arrivals earlier ++
        if answer earlier (.notify notification) = .told true then
          [(holder? notification.handle.id earlier, notification)]
        else
          []
  | _ :: earlier => arrivals earlier

/-- The notifications that arrived for the registration of a receiver. -/
def addressed (position : Nat) (past : List NotifierRequest) : List Notification :=
  ((arrivals past).filter fun arrival => arrival.1 = some position).map Prod.snd

/-- The notifications that were read from a receiver, oldest first. -/
def delivered (position : Nat) : List NotifierRequest → List Notification
  | [] => []
  | request :: earlier =>
      delivered position earlier ++
        if request.reader? = some position then (answer earlier request).notifications else []

/-! ## One request -/

section Handling

variable (notifier : Notifier)

/-- Replaces what an inbox holds. -/
def fill (position : Nat) (queue : List Notification) : Notifier :=
  { notifier with inboxes := notifier.inboxes.set position ⟨true, queue⟩ }

/-- The inbox at a position, which is empty if there is none yet. -/
def inbox (position : Nat) : Inbox := notifier.inboxes[position]?.getD ⟨true, []⟩

theorem inbox_eq_of_getElem? {position : Nat} {inbox : Inbox}
    (found : notifier.inboxes[position]? = some inbox) : notifier.inbox position = inbox := by
  rw [Notifier.inbox, found, Option.getD_some]

theorem inbox_register (id : UInt64) (position : Nat) :
    (notifier.register id).inbox position = notifier.inbox position := by
  unfold inbox register
  rcases Nat.lt_trichotomy position notifier.inboxes.length with old | rfl | unknown
  · rw [List.getElem?_append_left old]
  · simp
  · rw [List.getElem?_eq_none (by simp; omega), List.getElem?_eq_none (by omega)]

theorem inbox_drop (dropped position : Nat) :
    (notifier.drop dropped).inbox position =
      if dropped = position ∧ position < notifier.inboxes.length then ⟨false, []⟩
      else notifier.inbox position := by
  unfold inbox drop
  rw [List.getElem?_modify]
  by_cases same : dropped = position
  · by_cases known : position < notifier.inboxes.length
    · simp [same, known]
    · simp [same, known]
  · simp [same]

theorem inbox_fill {filled : Nat} {old : Inbox} (found : notifier.inboxes[filled]? = some old)
    (queue : List Notification) (position : Nat) :
    (notifier.fill filled queue).inbox position =
      if filled = position then ⟨true, queue⟩ else notifier.inbox position := by
  obtain ⟨known, -⟩ := List.getElem?_eq_some_iff.mp found
  unfold inbox fill
  by_cases same : filled = position
  · subst same
    rw [List.getElem?_set_self known, if_pos rfl, Option.getD_some]
  · rw [List.getElem?_set_ne same, if_neg same]

/-- A notification either does not arrive and changes nothing, or it is added to the open
inbox that its number leads to. -/
theorem handle_notify_cases (notification : Notification) :
    (notifier.handle (.notify notification) = (.told false, notifier) ∧
      ∀ position queue, notifier.routes.lookup notification.handle.id = some position →
        notifier.inboxes[position]? ≠ some ⟨true, queue⟩) ∨
    ∃ position queue, notifier.routes.lookup notification.handle.id = some position ∧
      notifier.inboxes[position]? = some ⟨true, queue⟩ ∧
      notifier.handle (.notify notification) =
        (.told true, notifier.fill position (queue ++ [notification])) := by
  simp only [handle, notify, route?]
  cases route : notifier.routes.lookup notification.handle.id with
  | none =>
      refine .inl ⟨rfl, ?_⟩
      rintro position queue ⟨⟩
  | some position =>
      dsimp only
      split
      · next queue found => exact .inr ⟨position, queue, rfl, found, rfl⟩
      · next closed =>
          refine .inl ⟨rfl, ?_⟩
          rintro _ queue ⟨⟩ found
          exact closed queue found

/-- A reader either gets nothing and changes nothing, or it takes the front of the open inbox
at its position. -/
theorem handle_reader_cases {request : NotifierRequest} {position : Nat}
    (reads : request.reader? = some position) :
    ((notifier.handle request).1.notifications = [] ∧ (notifier.handle request).2 = notifier) ∨
    ∃ taken rest, notifier.inboxes[position]? = some ⟨true, taken ++ rest⟩ ∧
      notifier.handle request = (.received taken, notifier.fill position rest) := by
  cases request with
  | receive asked =>
      obtain rfl := Option.some.inj reads
      simp only [handle, receive]
      split
      · next first others found => exact .inr ⟨[first], others, found, rfl⟩
      · exact .inl ⟨rfl, rfl⟩
  | read asked =>
      obtain rfl := Option.some.inj reads
      simp only [handle, read]
      split
      · next queue found =>
          exact .inr ⟨queue, [], by rw [List.append_nil]; exact found, rfl⟩
      · exact .inl ⟨rfl, rfl⟩
  | register _ | unregister _ | drop _ | notify _ => cases reads

/-- Notifications and readers leave the routes and the number of inboxes. -/
theorem handle_keeps {request : NotifierRequest}
    (moves : request.reader?.isSome ∨ ∃ notification, request = .notify notification) :
    (notifier.handle request).2.routes = notifier.routes ∧
      (notifier.handle request).2.inboxes.length = notifier.inboxes.length := by
  have filled (position : Nat) (queue : List Notification) :
      (notifier.fill position queue).routes = notifier.routes ∧
        (notifier.fill position queue).inboxes.length = notifier.inboxes.length :=
    ⟨rfl, List.length_set⟩
  rcases moves with reads | ⟨notification, rfl⟩
  · obtain ⟨position, reads⟩ := Option.isSome_iff_exists.mp reads
    rcases notifier.handle_reader_cases reads with ⟨-, handled⟩ | ⟨taken, rest, -, handled⟩
    · rw [handled]
      exact ⟨rfl, rfl⟩
    · rw [handled]
      exact filled position rest
  · rcases notifier.handle_notify_cases notification with
      ⟨handled, -⟩ | ⟨position, queue, -, -, handled⟩
    · rw [handled]
      exact ⟨rfl, rfl⟩
    · rw [handled]
      exact filled position (queue ++ [notification])

end Handling

/-! ## Routes after any requests -/

theorem lookup_filter_ne (routes : List (UInt64 × Nat)) (removed id : UInt64) :
    (routes.filter fun route => route.1 != removed).lookup id =
      if removed = id then none else routes.lookup id := by
  induction routes with
  | nil => simp
  | cons route others inductionHypothesis =>
      by_cases same : route.1 = removed
      · rw [List.filter_cons_of_neg (by simpa using same), inductionHypothesis]
        by_cases asked : removed = id
        · rw [if_pos asked, if_pos asked]
        · have other : (id == route.1) = false := by
            rw [beq_eq_false_iff_ne, same]
            exact Ne.symm asked
          rw [if_neg asked, if_neg asked, List.lookup_cons, other]
      · rw [List.filter_cons_of_pos (by simpa using same), List.lookup_cons, List.lookup_cons,
          inductionHypothesis]
        by_cases asked : removed = id
        · have other : (id == route.1) = false := by
            rw [beq_eq_false_iff_ne, ← asked]
            exact Ne.symm same
          rw [if_pos asked, if_pos asked, other]
        · rw [if_neg asked, if_neg asked]

theorem length_inboxes_after (past : List NotifierRequest) :
    (after past).inboxes.length = (registered past).length := by
  induction past with
  | nil => rfl
  | cons request earlier inductionHypothesis =>
      cases request with
      | register handle =>
          rw [registered, List.length_append, ← inductionHypothesis]
          exact List.length_append
      | unregister handle => exact inductionHypothesis
      | drop position => exact (List.length_modify _ _ _).trans inductionHypothesis
      | notify notification =>
          exact ((after earlier).handle_keeps (.inr ⟨_, rfl⟩)).2.trans inductionHypothesis
      | receive _ | read _ =>
          exact ((after earlier).handle_keeps (.inl rfl)).2.trans inductionHypothesis

/-- The routes lead to the registrations that hold their numbers. -/
theorem lookup_routes_after (past : List NotifierRequest) (id : UInt64) :
    (after past).routes.lookup id = holder? id past := by
  induction past with
  | nil => rfl
  | cons request earlier inductionHypothesis =>
      cases request with
      | register handle =>
          show ((handle.id, (after earlier).inboxes.length) :: (after earlier).routes).lookup id = _
          rw [List.lookup_cons, holder?, length_inboxes_after, inductionHypothesis]
          by_cases same : handle.id = id
          · rw [if_pos same, beq_iff_eq.mpr same.symm]
          · rw [if_neg same, beq_eq_false_iff_ne.mpr (Ne.symm same)]
      | unregister handle =>
          show ((after earlier).routes.filter fun route => route.1 != handle.id).lookup id = _
          rw [lookup_filter_ne, holder?, inductionHypothesis]
      | drop position => exact inductionHypothesis
      | notify notification =>
          rw [after, ((after earlier).handle_keeps (.inr ⟨_, rfl⟩)).1]
          exact inductionHypothesis
      | receive _ | read _ =>
          rw [after, ((after earlier).handle_keeps (.inl rfl)).1]
          exact inductionHypothesis

theorem getElem?_registered_of_register {earlier : List NotifierRequest} {position : Nat}
    {known : CallbackHandle} (found : (registered earlier)[position]? = some known)
    (handle : CallbackHandle) :
    (registered (.register handle :: earlier))[position]? = some known := by
  obtain ⟨inside, -⟩ := List.getElem?_eq_some_iff.mp found
  rw [registered, List.getElem?_append_left inside, found]

/-- Whoever holds a number was registered with it and stands. -/
theorem registered_of_holder? {past : List NotifierRequest} {id : UInt64} {position : Nat}
    (holds : holder? id past = some position) :
    ∃ handle, (registered past)[position]? = some handle ∧ handle.id = id ∧
      stands position past = true := by
  induction past with
  | nil => cases holds
  | cons request earlier inductionHypothesis =>
      cases request with
      | register handle =>
          rw [holder?] at holds
          split at holds
          · next same =>
              obtain rfl := Option.some.inj holds
              refine ⟨handle, List.getElem?_concat_length, same, ?_⟩
              rw [stands, beq_self_eq_true, Bool.true_or]
          · obtain ⟨known, found, same, standing⟩ := inductionHypothesis holds
            refine ⟨known, getElem?_registered_of_register found handle, same, ?_⟩
            rw [stands, standing, Bool.or_true]
      | unregister handle =>
          rw [holder?] at holds
          split at holds
          · cases holds
          · next other =>
              obtain ⟨known, found, same, standing⟩ := inductionHypothesis holds
              refine ⟨known, found, same, ?_⟩
              rw [stands, standing, found, Option.all_some, Bool.true_and, bne_iff_ne, same]
              exact Ne.symm other
      | drop _ | notify _ | receive _ | read _ => exact inductionHypothesis holds

/-- As long as unused numbers are drawn, a registration that stands holds its number. -/
theorem holder?_of_stands {past : List NotifierRequest} (unused : drawsUnused past = true)
    {position : Nat} {known : CallbackHandle} (found : (registered past)[position]? = some known)
    (standing : stands position past = true) : holder? known.id past = some position := by
  induction past with
  | nil => cases standing
  | cons request earlier inductionHypothesis =>
      cases request with
      | register handle =>
          rw [drawsUnused, Bool.and_eq_true, Option.isNone_iff_eq_none] at unused
          rw [holder?]
          by_cases newest : position = (registered earlier).length
          · subst newest
            rw [registered, List.getElem?_concat_length] at found
            rw [if_pos (congrArg CallbackHandle.id (Option.some.inj found))]
          · have inside : position < (registered earlier).length := by
              obtain ⟨inside, -⟩ := List.getElem?_eq_some_iff.mp found
              rw [registered, List.length_append, List.length_singleton] at inside
              omega
            rw [registered, List.getElem?_append_left inside] at found
            rw [stands, Bool.or_eq_true, beq_iff_eq, or_iff_right newest] at standing
            have holds := inductionHypothesis unused.2 found standing
            have other : handle.id ≠ known.id := by
              intro same
              rw [same, holds] at unused
              cases unused.1
            rw [if_neg other, holds]
      | unregister handle =>
          rw [stands, Bool.and_eq_true] at standing
          have named : (registered earlier)[position]? = some known := found
          rw [named, Option.all_some, bne_iff_ne] at standing
          rw [holder?, if_neg (Ne.symm standing.2)]
          exact inductionHypothesis unused named standing.1
      | drop _ | notify _ | receive _ | read _ => exact inductionHypothesis unused found standing

/-! ## Inboxes after any requests -/

/-- An inbox is open as long as its receiver exists. What was read from it and what it still
holds are, in this order, the notifications that arrived for it, or the beginning of them if
the receiver is gone. -/
structure Agrees (past : List NotifierRequest) (position : Nat) (inbox : Inbox) : Prop where
  isOpen : inbox.isOpen = !isGone position past
  front : delivered position past ++ inbox.queue <+: addressed position past
  whole : inbox.isOpen = true → delivered position past ++ inbox.queue = addressed position past

section Step

variable {earlier : List NotifierRequest} {position : Nat}

theorem delivered_of_other {request : NotifierRequest} (other : request.reader? ≠ some position) :
    delivered position (request :: earlier) = delivered position earlier := by
  rw [delivered, if_neg other, List.append_nil]

theorem delivered_of_reader {request : NotifierRequest} (reads : request.reader? = some position) :
    delivered position (request :: earlier) =
      delivered position earlier ++ (answer earlier request).notifications := by
  rw [delivered, if_pos reads]

theorem addressed_of_lost {notification : Notification}
    (lost : answer earlier (.notify notification) = .told false) :
    addressed position (.notify notification :: earlier) = addressed position earlier := by
  have untold : answer earlier (.notify notification) ≠ .told true := by
    rw [lost]
    decide
  rw [addressed, arrivals, if_neg untold, List.append_nil]
  rfl

theorem addressed_of_arrived (position : Nat) {notification : Notification} {holder : Nat}
    (arrived : answer earlier (.notify notification) = .told true)
    (holds : holder? notification.handle.id earlier = some holder) :
    addressed position (.notify notification :: earlier) =
      addressed position earlier ++ if holder = position then [notification] else [] := by
  rw [addressed, arrivals, if_pos arrived, holds, List.filter_append, List.map_append]
  congr 1
  by_cases same : holder = position <;> simp [same]

/-- A request that leaves an inbox, and adds nothing to what was read from it or arrived for
it, leaves it in agreement. -/
theorem Agrees.congr {request : NotifierRequest} {inbox : Inbox}
    (agrees : Agrees earlier position inbox)
    (gone : isGone position (request :: earlier) = isGone position earlier)
    (read : delivered position (request :: earlier) = delivered position earlier)
    (arrived : addressed position (request :: earlier) = addressed position earlier) :
    Agrees (request :: earlier) position inbox := by
  refine ⟨?_, ?_, ?_⟩
  · rw [gone]
    exact agrees.isOpen
  · rw [read, arrived]
    exact agrees.front
  · rw [read, arrived]
    exact agrees.whole

theorem agrees_drop {inbox : Inbox} (agrees : Agrees earlier position inbox) (dropped : Nat) :
    Agrees (.drop dropped :: earlier) position
      (if dropped = position ∧ position < (registered earlier).length then ⟨false, []⟩
      else inbox) := by
  have read : delivered position (.drop dropped :: earlier) = delivered position earlier :=
    delivered_of_other nofun
  split
  · next goes =>
      -- What the inbox held is lost, so what was read is only the beginning.
      refine ⟨?_, ?_, nofun⟩
      · rw [isGone, decide_eq_true goes]
        rfl
      · rw [read, List.append_nil]
        exact (List.prefix_append _ _).trans agrees.front
  · next stays =>
      refine agrees.congr ?_ read rfl
      rw [isGone, decide_eq_false stays, Bool.false_or]

theorem agrees_notify {notification : Notification}
    (agrees : Agrees earlier position ((after earlier).inbox position)) :
    Agrees (.notify notification :: earlier) position
      ((after (.notify notification :: earlier)).inbox position) := by
  have read : delivered position (.notify notification :: earlier) = delivered position earlier :=
    delivered_of_other nofun
  rcases (after earlier).handle_notify_cases notification with
    ⟨handled, -⟩ | ⟨holder, queue, route, found, handled⟩
  · rw [after, handled]
    exact agrees.congr rfl read (addressed_of_lost (congrArg Prod.fst handled))
  · have holds : holder? notification.handle.id earlier = some holder := by
      rw [← lookup_routes_after]
      exact route
    have arrived := addressed_of_arrived position (congrArg Prod.fst handled) holds
    rw [after, handled, inbox_fill _ found]
    by_cases same : holder = position
    · subst same
      rw [inbox_eq_of_getElem? _ found] at agrees
      rw [if_pos rfl] at arrived ⊢
      have whole : delivered holder (.notify notification :: earlier) ++ (queue ++ [notification]) =
          addressed holder (.notify notification :: earlier) := by
        rw [read, arrived, ← List.append_assoc, agrees.whole rfl]
      refine ⟨agrees.isOpen, ?_, fun _ => whole⟩
      exact whole ▸ List.prefix_rfl
    · rw [if_neg same] at arrived ⊢
      rw [List.append_nil] at arrived
      exact agrees.congr rfl read arrived

theorem agrees_reader {request : NotifierRequest} {asked : Nat}
    (reads : request.reader? = some asked)
    (agrees : Agrees earlier position ((after earlier).inbox position)) :
    Agrees (request :: earlier) position ((after (request :: earlier)).inbox position) := by
  have gone : isGone position (request :: earlier) = isGone position earlier := by
    cases request with
    | drop _ => cases reads
    | _ => rfl
  have arrived : addressed position (request :: earlier) = addressed position earlier := by
    cases request with
    | notify _ => cases reads
    | _ => rfl
  have other (different : asked ≠ position) :
      delivered position (request :: earlier) = delivered position earlier := by
    apply delivered_of_other
    rw [reads]
    exact fun same => different (Option.some.inj same)
  rcases (after earlier).handle_reader_cases reads with
    ⟨nothing, handled⟩ | ⟨taken, rest, found, handled⟩
  · rw [after, handled]
    refine agrees.congr gone ?_ arrived
    by_cases same : asked = position
    · subst same
      rw [delivered_of_reader reads, answer, nothing, List.append_nil]
    · exact other same
  · rw [after, handled, inbox_fill _ found]
    by_cases same : asked = position
    · subst same
      rw [inbox_eq_of_getElem? _ found] at agrees
      have read : delivered asked (request :: earlier) = delivered asked earlier ++ taken := by
        rw [delivered_of_reader reads, answer, handled]
        rfl
      have whole : delivered asked (request :: earlier) ++ rest =
          addressed asked (request :: earlier) := by
        rw [read, arrived, List.append_assoc, agrees.whole rfl]
      rw [if_pos rfl]
      refine ⟨?_, whole ▸ List.prefix_rfl, fun _ => whole⟩
      rw [gone]
      exact agrees.isOpen
    · rw [if_neg same]
      exact agrees.congr gone (other same) arrived

end Step

theorem agrees_after (past : List NotifierRequest) (position : Nat) :
    Agrees past position ((after past).inbox position) := by
  induction past with
  | nil => exact ⟨rfl, List.prefix_rfl, fun _ => rfl⟩
  | cons request earlier inductionHypothesis =>
      cases request with
      | register handle =>
          show Agrees _ _ (((after earlier).register handle.id).inbox position)
          rw [inbox_register]
          exact inductionHypothesis.congr rfl (delivered_of_other nofun) rfl
      | unregister handle => exact inductionHypothesis.congr rfl (delivered_of_other nofun) rfl
      | drop dropped =>
          show Agrees _ _ (((after earlier).drop dropped).inbox position)
          rw [inbox_drop, length_inboxes_after]
          exact agrees_drop inductionHypothesis dropped
      | notify notification => exact agrees_notify inductionHypothesis
      | receive asked => exact agrees_reader rfl inductionHypothesis
      | read asked => exact agrees_reader rfl inductionHypothesis

/-- As long as a receiver exists, its inbox holds what arrived for it and has not been read. -/
theorem exists_queue_of_present {past : List NotifierRequest} {position : Nat}
    {known : CallbackHandle} (found : (registered past)[position]? = some known)
    (present : isGone position past = false) :
    ∃ queue, (after past).inboxes[position]? = some ⟨true, queue⟩ ∧
      delivered position past ++ queue = addressed position past := by
  obtain ⟨inside, -⟩ := List.getElem?_eq_some_iff.mp found
  rw [← length_inboxes_after] at inside
  have entry := List.getElem?_eq_getElem inside
  have agrees := agrees_after past position
  rw [inbox_eq_of_getElem? _ entry] at agrees
  have isOpen : (after past).inboxes[position].isOpen = true := by
    rw [agrees.isOpen, present]
    rfl
  refine ⟨(after past).inboxes[position].queue, ?_, agrees.whole isOpen⟩
  rw [entry, ← isOpen]

/-! ## What arrives where -/

/-- A notification arrives exactly if a registration holds its number and the receiver of
this registration still exists. -/
theorem told_notify_iff (past : List NotifierRequest) (notification : Notification) :
    answer past (.notify notification) = .told true ↔
      ∃ position, holder? notification.handle.id past = some position ∧
        isGone position past = false := by
  rw [answer]
  rcases (after past).handle_notify_cases notification with
    ⟨handled, closed⟩ | ⟨holder, queue, route, found, handled⟩
  · refine iff_of_false (by rw [handled]; nofun) ?_
    rintro ⟨position, holds, present⟩
    obtain ⟨handle, known, -⟩ := registered_of_holder? holds
    obtain ⟨queue, found, -⟩ := exists_queue_of_present known present
    rw [← lookup_routes_after] at holds
    exact closed position queue holds found
  · refine iff_of_true (by rw [handled]) ⟨holder, ?_, ?_⟩
    · rw [← lookup_routes_after]
      exact route
    · have isOpen := (agrees_after past holder).isOpen
      rw [inbox_eq_of_getElem? _ found] at isOpen
      exact Bool.not_eq_true' _ ▸ isOpen.symm

/-- A handle can be unregistered exactly if a registration holds its number. -/
theorem told_unregister_iff (past : List NotifierRequest) (handle : CallbackHandle) :
    answer past (.unregister handle) = .told true ↔
      ∃ position, holder? handle.id past = some position := by
  show NotifierAnswer.told ((after past).routes.lookup handle.id).isSome = .told true ↔ _
  rw [lookup_routes_after, NotifierAnswer.told.injEq, Option.isSome_iff_exists]

/-- What arrives was held by a registration with the number that it was sent to. -/
theorem registered_of_arrival {past : List NotifierRequest} {arrival : Option Nat × Notification}
    (member : arrival ∈ arrivals past) :
    ∃ position handle, arrival.1 = some position ∧ (registered past)[position]? = some handle ∧
      handle.id = arrival.2.handle.id := by
  induction past with
  | nil => cases member
  | cons request earlier inductionHypothesis =>
      cases request with
      | notify notification =>
          rw [arrivals, List.mem_append] at member
          rcases member with before | now
          · exact inductionHypothesis before
          · split at now
            · next told =>
                obtain rfl := List.mem_singleton.mp now
                obtain ⟨position, holds, -⟩ := (told_notify_iff earlier notification).mp told
                obtain ⟨handle, found, same, -⟩ := registered_of_holder? holds
                exact ⟨position, handle, holds, found, same⟩
            · cases now
      | register handle =>
          obtain ⟨position, known, held, found, same⟩ := inductionHypothesis member
          exact ⟨position, known, held, getElem?_registered_of_register found handle, same⟩
      | unregister _ | drop _ | receive _ | read _ => exact inductionHypothesis member

theorem id_of_mem_addressed {past : List NotifierRequest} {position : Nat} {known : CallbackHandle}
    (found : (registered past)[position]? = some known) {notification : Notification}
    (member : notification ∈ addressed position past) : notification.handle.id = known.id := by
  obtain ⟨arrival, arrived, rfl⟩ := List.mem_map.mp member
  obtain ⟨inArrivals, held⟩ := List.mem_filter.mp arrived
  obtain ⟨holder, handle, isHolder, handleFound, same⟩ := registered_of_arrival inArrivals
  rw [decide_eq_true_eq, isHolder] at held
  obtain rfl := Option.some.inj held
  rw [found] at handleFound
  rw [← same, Option.some.inj handleFound]

/-- If no number was drawn twice, what arrived for a registration is what arrived with its
number. -/
theorem addressed_of_nodup {past : List NotifierRequest}
    (distinct : ((registered past).map CallbackHandle.id).Nodup) {position : Nat}
    {known : CallbackHandle} (found : (registered past)[position]? = some known) :
    addressed position past =
      ((arrivals past).map Prod.snd).filter
        fun notification => notification.handle.id = known.id := by
  rw [addressed, List.filter_map]
  congr 1
  apply List.filter_congr
  intro arrival member
  obtain ⟨holder, handle, isHolder, handleFound, same⟩ := registered_of_arrival member
  show decide (arrival.1 = some position) = decide (arrival.2.handle.id = known.id)
  rw [decide_eq_decide, isHolder, ← same, Option.some.injEq]
  constructor
  · rintro rfl
    rw [found] at handleFound
    rw [Option.some.inj handleFound]
  · intro sameId
    have ids (index : Nat) (entry : CallbackHandle)
        (known : (registered past)[index]? = some entry) :
        ((registered past).map CallbackHandle.id)[index]? = some entry.id := by
      rw [List.getElem?_map, known, Option.map_some]
    have first := ids holder handle handleFound
    have second := ids position known found
    obtain ⟨inside, -⟩ := List.getElem?_eq_some_iff.mp first
    apply (List.getElem?_inj inside distinct).mp
    rw [first, second, sameId]

/-- A receiver that exists reads what arrived for it and has not been read, or the first of
it. -/
theorem exists_pending {past : List NotifierRequest} {position : Nat} {known : CallbackHandle}
    (found : (registered past)[position]? = some known) (present : isGone position past = false) :
    ∃ pending, delivered position past ++ pending = addressed position past ∧
      answer past (.read position) = .received pending ∧
      answer past (.receive position) = .received pending.head?.toList := by
  obtain ⟨queue, entry, whole⟩ := exists_queue_of_present found present
  refine ⟨queue, whole, ?_, ?_⟩
  · simp only [answer, handle, read, entry, Option.getD_some]
  · cases queue <;> simp only [answer, handle, receive, entry] <;> rfl

/-- Registering makes the next receiver. A notification arrives exactly if a registration
holds its number and this registration's receiver still exists; a handle can be unregistered
exactly if a registration holds its number. If every registration draws a number that is not
in use, the registrations that hold a number are those that were made with it and have not
been unregistered since.

A receiver never reads anything but the beginning of what arrived for its registration, in the
order of arrival, and as long as it exists it can read all of that, whether its handle has
been unregistered or not. What arrives for a registration carries the number of its handle,
whatever the endpoints are; if no number was drawn twice, it is all that arrived with this
number. -/
theorem notifications_reach_their_receivers (past : List NotifierRequest) :
    (∀ handle, answer past (.register handle) = .registered (registered past).length) ∧
    (∀ notification, answer past (.notify notification) = .told true ↔
      ∃ position, holder? notification.handle.id past = some position ∧
        isGone position past = false) ∧
    (∀ handle, answer past (.unregister handle) = .told true ↔
      ∃ position, holder? handle.id past = some position) ∧
    (drawsUnused past = true → ∀ id position, holder? id past = some position ↔
      ∃ handle, (registered past)[position]? = some handle ∧ handle.id = id ∧
        stands position past = true) ∧
    ∀ position handle, (registered past)[position]? = some handle →
      delivered position past <+: addressed position past ∧
      (isGone position past = false →
        ∃ pending, delivered position past ++ pending = addressed position past ∧
          answer past (.read position) = .received pending ∧
          answer past (.receive position) = .received pending.head?.toList) ∧
      (∀ notification ∈ addressed position past, notification.handle.id = handle.id) ∧
      (((registered past).map CallbackHandle.id).Nodup →
        addressed position past =
          ((arrivals past).map Prod.snd).filter
            fun notification => notification.handle.id = handle.id) := by
  refine ⟨?_, told_notify_iff past, told_unregister_iff past, ?_, ?_⟩
  · intro handle
    exact congrArg NotifierAnswer.registered (length_inboxes_after past)
  · intro unused id position
    constructor
    · exact registered_of_holder?
    · rintro ⟨handle, found, rfl, standing⟩
      exact holder?_of_stands unused found standing
  · intro position handle found
    have front := (agrees_after past position).front
    exact ⟨(List.prefix_append _ _).trans front, exists_pending found,
      fun _ member => id_of_mem_addressed found member,
      fun distinct => addressed_of_nodup distinct found⟩

/-- Two handles for the same endpoint. The first is unregistered with a notification unread,
the receiver of the second goes away. -/
def sameEndpoint : List NotifierRequest :=
  let first : CallbackHandle := ⟨7, "admin"⟩
  let second : CallbackHandle := ⟨8, "admin"⟩
  [.notify ⟨second, "bob", 40⟩, .drop 1, .unregister first, .receive 0,
    .notify ⟨first, "carol", 30⟩, .notify ⟨second, "bob", 20⟩, .notify ⟨first, "alice", 10⟩,
    .register second, .register first]

theorem notifications_reach_their_receivers_sameEndpoint :
    drawsUnused sameEndpoint = true ∧
    ((registered sameEndpoint).map CallbackHandle.id).Nodup ∧
    (registered sameEndpoint)[0]? = some ⟨7, "admin"⟩ ∧
    isGone 0 sameEndpoint = false ∧ isGone 1 sameEndpoint = true ∧
    stands 0 sameEndpoint = false ∧ stands 1 sameEndpoint = true ∧
    (holder? 8 sameEndpoint = some 1 ↔
      ∃ handle, (registered sameEndpoint)[1]? = some handle ∧ handle.id = 8 ∧
        stands 1 sameEndpoint = true) ∧
    delivered 0 sameEndpoint = [⟨⟨7, "admin"⟩, "alice", 10⟩] ∧
    addressed 0 sameEndpoint =
      [⟨⟨7, "admin"⟩, "alice", 10⟩, ⟨⟨7, "admin"⟩, "carol", 30⟩] ∧
    (∃ pending, delivered 0 sameEndpoint ++ pending = addressed 0 sameEndpoint ∧
      answer sameEndpoint (.read 0) = .received pending ∧
      answer sameEndpoint (.receive 0) = .received pending.head?.toList) ∧
    (∀ notification ∈ addressed 0 sameEndpoint, notification.handle.id = 7) ∧
    addressed 0 sameEndpoint =
      ((arrivals sameEndpoint).map Prod.snd).filter
        fun notification => notification.handle.id = 7 := by
  have unused : drawsUnused sameEndpoint = true := by decide
  have distinct : ((registered sameEndpoint).map CallbackHandle.id).Nodup := by decide
  have found : (registered sameEndpoint)[0]? = some ⟨7, "admin"⟩ := rfl
  have present : isGone 0 sameEndpoint = false := by decide
  obtain ⟨-, -, -, holds, receivers⟩ := notifications_reach_their_receivers sameEndpoint
  obtain ⟨-, reads, own, all⟩ := receivers 0 _ found
  exact ⟨unused, distinct, found, present, by decide, by decide, by decide, holds unused 8 1,
    by decide, by decide, reads present, own, all distinct⟩

/-- A number that is drawn again after it was unregistered. Each of the two receivers gets
what arrived while its registration held the number. -/
def drawnAgain : List NotifierRequest :=
  let handle : CallbackHandle := ⟨7, "admin"⟩
  [.notify ⟨handle, "bob", 20⟩, .register handle, .unregister handle,
    .notify ⟨handle, "alice", 10⟩, .register handle]

example : drawsUnused drawnAgain = true ∧
    (addressed 0 drawnAgain).map Notification.user = ["alice"] ∧
    (addressed 1 drawnAgain).map Notification.user = ["bob"] := by
  decide

end Notifier

end ArithmeticCloud.Billing
