import ArithmeticCloud.Proofs.Joining.Coherence
import Mathlib.Data.List.Induction

/-!
Contract: joiners whose rounds run at the same time over nodes that they share.

Owns:
- `Crossing.step?`: one of the joiners takes a step, or has a line handled at a node
  in the state that all of them have left it in;
- what a log of lines, each with the number of its round, does to the levels of a
  node. It has one slot for staged shares, and any commit promotes what is in it;
- whose share a node has committed in any run: that of a round which decided to
  commit, or one that crossed it at this node.

Does not own: nodes that do not vote, and the levels of the joiners.
-/

namespace ArithmeticCloud.Joining

open Network Node Transport Wire

/-! ## Logs of one node -/

/-- The requests that a node has handled, oldest first, each with the number of the
round that it belongs to. -/
abbrev Log := List (Nat × NodeRequest)

namespace Log

/-- The levels of a node that has handled the requests of a log. -/
def levels (initial : Levels) (log : Log) : Levels :=
  (log.map Prod.snd).foldl Levels.handle initial

variable {initial : Levels} {log : Log}

theorem levels_append_singleton (initial : Levels) (log : Log) (number : Nat)
    (request : NodeRequest) :
    levels initial (log ++ [(number, request)]) = (levels initial log).handle request := by
  simp only [levels, List.map_append, List.map_cons, List.map_nil, List.foldl_append,
    List.foldl_cons, List.foldl_nil]

theorem minimum_levels (initial : Levels) (log : Log) :
    (levels initial log).minimum = initial.minimum := by
  induction log using List.reverseRecOn with
  | nil => rfl
  | append_singleton log line inductionHypothesis =>
      rw [levels_append_singleton, Levels.minimum_handle, inductionHypothesis]

/-- Every commit was preceded by the share of its round, which the node accepted. -/
def Answered (minimum : UInt64) (log : Log) : Prop :=
  ∀ before number share later, log = before ++ (number, .commit share) :: later →
    (number, .share share) ∈ before ∧ minimum ≤ share

theorem Answered.of_append {minimum : UInt64} {more : Log}
    (answered : Answered minimum (log ++ more)) : Answered minimum log := by
  intro before number share later same
  exact answered before number share (later ++ more) (by rw [same]; simp)

/-- Another round's share was handled between the share of a round and its commit. -/
def Crosses (log : Log) (number : Nat) (share : UInt64) (other : Nat) (value : UInt64) : Prop :=
  ∃ before between rest later, log = before ++ (number, .share share) ::
    (between ++ (other, .share value) :: (rest ++ (number, .commit share) :: later))

theorem Crosses.append {number other : Nat} {share value : UInt64}
    (crosses : Crosses log number share other value) (more : Log) :
    Crosses (log ++ more) number share other value := by
  rcases crosses with ⟨before, between, rest, later, rfl⟩
  exact ⟨before, between, rest, later ++ more, by simp⟩

theorem Crosses.mem {number other : Nat} {share value : UInt64}
    (crosses : Crosses log number share other value) : (other, .share value) ∈ log := by
  rcases crosses with ⟨before, between, rest, later, rfl⟩
  simp

/-- A commit in the log promotes a value: the share of its own round, or an accepted
one that has crossed it. -/
def Promotes (minimum : UInt64) (log : Log) (value : UInt64) : Prop :=
  ∃ number share, (number, .commit share) ∈ log ∧
    (value = share ∨
      ∃ other, other ≠ number ∧ minimum ≤ value ∧ Crosses log number share other value)

theorem Promotes.append {minimum value : UInt64} (promotes : Promotes minimum log value)
    (more : Log) : Promotes minimum (log ++ more) value := by
  rcases promotes with ⟨number, share, member, own | ⟨other, different, accepts, crosses⟩⟩
  · exact ⟨number, share, List.mem_append_left _ member, .inl own⟩
  · exact ⟨number, share, List.mem_append_left _ member,
      .inr ⟨other, different, accepts, crosses.append more⟩⟩

/-- After a node has accepted a share, that share is staged or one accepted since,
unless nothing is staged that is not committed. -/
theorem settled_or_staged {share : UInt64} (accepted : initial.minimum ≤ share) (before : Log)
    (number : Nat) (later : Log) :
    (levels initial (before ++ (number, .share share) :: later)).Settled ∨
    ∃ other value, (other, .share value) ∈ (number, .share share) :: later ∧
      initial.minimum ≤ value ∧
      (levels initial (before ++ (number, .share share) :: later)).proposed = value := by
  induction later using List.reverseRecOn with
  | nil =>
      have least : (levels initial before).minimum ≤ share := by
        rw [minimum_levels]
        exact accepted
      rw [levels_append_singleton, Levels.handle_share_of_le least]
      exact .inr ⟨number, share, List.mem_singleton_self _, accepted, rfl⟩
  | append_singleton later line inductionHypothesis =>
      rcases line with ⟨other, request⟩
      rw [← List.cons_append, ← List.append_assoc, levels_append_singleton]
      have least := minimum_levels initial (before ++ (number, .share share) :: later)
      generalize levels initial (before ++ (number, .share share) :: later) = reached
        at inductionHypothesis least
      rcases Levels.handle_cases reached request with
        same | ⟨value, rfl, accepts, same⟩ | ⟨value, -, same⟩ | ⟨-, same⟩
      · rw [same]
        rcases inductionHypothesis with settled | ⟨origin, value, member, accepts, staged⟩
        · exact .inl settled
        · exact .inr ⟨origin, value, List.mem_append_left _ member, accepts, staged⟩
      · rw [same]
        exact .inr ⟨other, value, List.mem_append_right _ (List.mem_singleton_self _),
          least ▸ accepts, rfl⟩
      · rw [same]
        exact .inl rfl
      · rw [same]
        exact .inl rfl

/-- What a commit finds staged is committed already, or the commit promotes it. -/
theorem settled_or_promotes {number : Nat} {share : UInt64}
    (shared : (number, .share share) ∈ log) (accepted : initial.minimum ≤ share)
    (single : ∀ value, (number, .share value) ∈ log → value = share) :
    (levels initial log).Settled ∨
    Promotes initial.minimum (log ++ [(number, .commit share)]) (levels initial log).proposed := by
  rcases List.append_of_mem shared with ⟨before, later, rfl⟩
  have isCommitted : (number, NodeRequest.commit share) ∈
      before ++ (number, .share share) :: later ++ [(number, .commit share)] :=
    List.mem_append_right _ (List.mem_singleton_self _)
  rcases settled_or_staged accepted before number later with
    settled | ⟨other, value, member, accepts, staged⟩
  · exact .inl settled
  · refine .inr ⟨number, share, isCommitted, ?_⟩
    rw [staged]
    by_cases same : other = number
    · subst other
      exact .inl (single value (List.mem_append_right before member))
    · rcases List.mem_cons.mp member with own | since
      · exact absurd (Prod.mk.inj own).1 same
      · rcases List.append_of_mem since with ⟨between, rest, rfl⟩
        exact .inr ⟨other, same, accepts, before, between, rest, [], by simp⟩

/-- What is committed was committed before, or a commit has promoted it. -/
theorem committed_or_promotes (answered : Answered initial.minimum log)
    (single : ∀ number share value, (number, .share share) ∈ log →
      (number, .share value) ∈ log → value = share) :
    (levels initial log).committed = initial.committed ∨
    Promotes initial.minimum log (levels initial log).committed := by
  induction log using List.reverseRecOn with
  | nil => exact .inl rfl
  | append_singleton log line inductionHypothesis =>
      rcases line with ⟨number, request⟩
      have earlier : (levels initial log).committed = initial.committed ∨
          Promotes initial.minimum (log ++ [(number, request)]) (levels initial log).committed := by
        refine (inductionHypothesis answered.of_append ?_).imp_right (·.append _)
        intro origin share value first second
        exact single origin share value (List.mem_append_left _ first)
          (List.mem_append_left _ second)
      rw [levels_append_singleton]
      rcases Levels.handle_cases (levels initial log) request with
        same | ⟨value, -, -, same⟩ | ⟨share, rfl, same⟩ | ⟨-, same⟩
      · rw [same]
        exact earlier
      · rw [same]
        exact earlier
      · rw [same]
        rcases answered log number share [] rfl with ⟨shared, accepted⟩
        have only : ∀ value, (number, .share value) ∈ log → value = share := fun value member =>
          single number share value (List.mem_append_left _ shared) (List.mem_append_left _ member)
        rcases settled_or_promotes shared accepted only with settled | promotes
        · rw [Levels.commit_settled settled]
          exact earlier
        · exact .inr promotes
      · rw [same]
        exact earlier

end Log

/-! ## Nodes that several rounds share -/

namespace Negotiation

def servers (negotiation : Negotiation) (endpoint : Endpoint) : Server :=
  (negotiation.peers endpoint).server

/-- The negotiation when its peers have been left in another state. -/
def withServers (negotiation : Negotiation) (servers : Endpoint → Server) : Negotiation :=
  { negotiation with
    peers := fun endpoint => { negotiation.peers endpoint with server := servers endpoint } }

variable {minimum : Endpoint → UInt64} {snapshot : Snapshot} {negotiation : Negotiation}
  {servers : Endpoint → Server}

theorem Idle.withServers (idle : negotiation.Idle minimum)
    (least : ∀ endpoint, (servers endpoint).levels.minimum = minimum endpoint) :
    (negotiation.withServers servers).Idle minimum :=
  ⟨idle.stage, idle.attempts, least, idle.handled, idle.reply⟩

theorem Coherent.withServers (coherent : negotiation.Coherent minimum snapshot)
    (least : ∀ endpoint, (servers endpoint).levels.minimum = minimum endpoint) :
    (negotiation.withServers servers).Coherent minimum snapshot :=
  ⟨coherent.stage, fun endpoint =>
    { coherent.peers endpoint with least := least endpoint }⟩

/-- What holds of a negotiation at any time. -/
def Sound (minimum : Endpoint → UInt64) (negotiation : Negotiation) : Prop :=
  negotiation.Idle minimum ∨ ∃ snapshot, negotiation.Coherent minimum snapshot

theorem Sound.withServers (sound : negotiation.Sound minimum)
    (least : ∀ endpoint, (servers endpoint).levels.minimum = minimum endpoint) :
    (negotiation.withServers servers).Sound minimum := by
  rcases sound with idle | ⟨snapshot, coherent⟩
  · exact .inl (idle.withServers least)
  · exact .inr ⟨snapshot, coherent.withServers least⟩

theorem Sound.step {after : Negotiation} (sound : negotiation.Sound minimum)
    {event : NegotiationEvent} (stepped : negotiation.step? event = some after) :
    after.Sound minimum := by
  rcases sound with idle | ⟨snapshot, coherent⟩
  · rcases idle.step stepped with ⟨snapshot, rfl⟩
    exact .inr ⟨snapshot, idle.adopt stepped⟩
  · exact .inr ⟨snapshot, coherent.step stepped⟩

/-- A round proposes one share only. -/
theorem Sound.share_unique (sound : negotiation.Sound minimum) {first second : Attempt}
    {endpoint : Endpoint} {share value : UInt64} (firstMember : first ∈ negotiation.attempts)
    (firstLine : first.line? = some (endpoint, .share share))
    (secondMember : second ∈ negotiation.attempts)
    (secondLine : second.line? = some (endpoint, .share value)) : share = value := by
  rcases sound with idle | ⟨snapshot, coherent⟩
  · rw [idle.attempts] at firstMember
    cases firstMember
  · have proposed {attempt : Attempt} {content : UInt64} (member : attempt ∈ negotiation.attempts)
        (line : attempt.line? = some (endpoint, .share content)) :
        content = snapshot.proposedShare := by
      rcases coherent.stage.line member line with same | ⟨-, agreed, same, -⟩
      · exact NodeRequest.share.inj same
      · exact absurd same.symm (JoinRound.notice_ne_share _ content)
    rw [proposed firstMember firstLine, proposed secondMember secondLine]

/-- A line with a share is the offer of that share. -/
theorem Sound.exists_offer (sound : negotiation.Sound minimum) {attempt : Attempt}
    {endpoint : Endpoint} {value : UInt64} (member : attempt ∈ negotiation.attempts)
    (line : attempt.line? = some (endpoint, .share value)) :
    ∃ position, .share position endpoint value ∈ negotiation.attempts := by
  rcases sound with idle | ⟨snapshot, coherent⟩
  · rw [idle.attempts] at member
    cases member
  · cases attempt with
    | share position peer content =>
        obtain ⟨rfl, same⟩ := Prod.mk.inj (Option.some.inj line)
        obtain rfl := NodeRequest.share.inj same
        exact ⟨position, member⟩
    | notice position peer notice =>
        obtain ⟨rfl, rfl⟩ := Prod.mk.inj (Option.some.inj line)
        rcases coherent.stage.notice member with ⟨-, agreed, same, -⟩
        exact absurd same.symm (JoinRound.notice_ne_share _ value)
    | alive => cases line

/-- A voter that is sent a commit has accepted the share. -/
theorem Sound.accepted_of_commit (sound : negotiation.Sound minimum) {attempt : Attempt}
    {endpoint : Endpoint} {share : UInt64} (member : attempt ∈ negotiation.attempts)
    (line : attempt.line? = some (endpoint, .commit share))
    (votes : (negotiation.peers endpoint).conduct = .votes) :
    .share share ∈ (negotiation.peers endpoint).handled ∧ minimum endpoint ≤ share := by
  rcases sound with idle | ⟨snapshot, coherent⟩
  · rw [idle.attempts] at member
    cases member
  · rcases coherent.stage.line member line with same | ⟨isPeer, agreed, same, agrees⟩
    · cases same
    · cases agreed with
      | false => cases same
      | true =>
          obtain rfl := NodeRequest.commit.inj same
          have consents := agrees rfl endpoint isPeer
          unfold Peer.Consents at consents
          rw [votes] at consents
          exact consents

end Negotiation

/-- Joiners, each with a round of its own, and the nodes in the state that the
rounds have left them in. -/
structure Crossing where
  servers : Endpoint → Server
  rounds : List Negotiation

namespace Crossing

/-- Joiners with these levels, before they adopt a snapshot. All nodes vote. -/
def start (joiners : List Levels) (servers : Endpoint → Server) : Crossing :=
  ⟨servers, joiners.map fun levels => .start levels (fun _ => .votes) servers⟩

/-- An event of one of the rounds, if it can happen. -/
def step? (crossing : Crossing) (number : Nat) (event : NegotiationEvent) : Option Crossing :=
  crossing.rounds[number]?.bind fun round =>
    ((round.withServers crossing.servers).step? event).map fun after =>
      ⟨after.servers, crossing.rounds.set number after⟩

/-- Takes events in turn, each with the number of its round. -/
def run? : Crossing → List (Nat × NegotiationEvent) → Option Crossing
  | crossing, [] => some crossing
  | crossing, (number, event) :: others =>
      (crossing.step? number event).bind fun after => after.run? others

/-- The log of a node. -/
def logAt (endpoint : Endpoint) (events : List (Nat × NegotiationEvent)) : Log :=
  events.filterMap fun event => (event.2.requestTo? endpoint).map (event.1, ·)

/-- A round has decided to commit a share: it has told some peer so. -/
def Commits (crossing : Crossing) (number : Nat) (share : UInt64) : Prop :=
  ∃ round position peer, crossing.rounds[number]? = some round ∧
    .notice position peer (.commit share) ∈ round.attempts

/-- A round has proposed a share to a peer. -/
def Offers (crossing : Crossing) (number : Nat) (endpoint : Endpoint) (share : UInt64) : Prop :=
  ∃ round position, crossing.rounds[number]? = some round ∧
    .share position endpoint share ∈ round.attempts

/-! ## The invariant -/

/-- What holds after these events. -/
structure Consistent (initial : Endpoint → Server) (events : List (Nat × NegotiationEvent))
    (crossing : Crossing) : Prop where
  levels : ∀ endpoint, (crossing.servers endpoint).levels =
    Log.levels (initial endpoint).levels (logAt endpoint events)
  sound : ∀ round ∈ crossing.rounds,
    round.Sound fun endpoint => (initial endpoint).levels.minimum
  votes : ∀ round ∈ crossing.rounds, ∀ endpoint, (round.peers endpoint).conduct = .votes
  logged : ∀ number round, crossing.rounds[number]? = some round → ∀ endpoint,
    ∀ request ∈ (round.peers endpoint).handled, (number, request) ∈ logAt endpoint events
  attempted : ∀ endpoint number request, (number, request) ∈ logAt endpoint events →
    ∃ round, crossing.rounds[number]? = some round ∧
      ∃ attempt ∈ round.attempts, attempt.line? = some (endpoint, request)
  answered : ∀ endpoint,
    Log.Answered (initial endpoint).levels.minimum (logAt endpoint events)

theorem consistent_start (joiners : List Levels) (servers : Endpoint → Server) :
    Consistent servers [] (start joiners servers) := by
  refine ⟨fun _ => rfl, fun round member => ?_, fun round member endpoint => ?_,
    fun number round found endpoint request handled => ?_, nofun, fun _ => ?_⟩
  · rcases List.mem_map.mp member with ⟨levels, -, rfl⟩
    exact .inl (Negotiation.idle_start levels _ servers)
  · rcases List.mem_map.mp member with ⟨levels, -, rfl⟩
    rfl
  · rcases List.mem_map.mp (List.mem_of_getElem? found) with ⟨levels, -, rfl⟩
    cases handled
  · intro before number share later same
    simp [logAt] at same

section Step

variable {initial : Endpoint → Server} {events : List (Nat × NegotiationEvent)}
  {crossing after : Crossing} {number : Nat} {event : NegotiationEvent}

theorem Consistent.least (consistent : Consistent initial events crossing) (endpoint : Endpoint) :
    (crossing.servers endpoint).levels.minimum = (initial endpoint).levels.minimum := by
  rw [consistent.levels, Log.minimum_levels]

theorem logAt_append_singleton (endpoint : Endpoint) (events : List (Nat × NegotiationEvent))
    (number : Nat) (event : NegotiationEvent) :
    logAt endpoint (events ++ [(number, event)]) =
      logAt endpoint events ++ ((event.requestTo? endpoint).map (number, ·)).toList := by
  unfold logAt
  rw [List.filterMap_append]
  cases request : event.requestTo? endpoint <;> simp [request]

variable {round next : Negotiation}

/-- The log grows by a line that the round has attempted, and the node handles it; or
neither changes. -/
theorem log_step (advanced : (round.withServers crossing.servers).step? event = some next)
    (endpoint : Endpoint) :
    (logAt endpoint (events ++ [(number, event)]) = logAt endpoint events ∧
      (next.peers endpoint).handled = (round.peers endpoint).handled ∧
      next.servers endpoint = crossing.servers endpoint) ∨
    ∃ now request, logAt endpoint (events ++ [(number, event)]) =
        logAt endpoint events ++ [(number, request)] ∧
      (∃ attempt ∈ round.attempts, attempt.line? = some (endpoint, request)) ∧
      (next.peers endpoint).handled = (round.peers endpoint).handled ++ [request] ∧
      next.servers endpoint = ((crossing.servers endpoint).handleLine now request.encode).2 := by
  rw [logAt_append_singleton]
  rcases Negotiation.peers_step advanced endpoint with
    ⟨nothing, same⟩ | ⟨now, request, handled, attempted, same⟩
  · rw [nothing, Negotiation.servers, same]
    exact .inl ⟨List.append_nil _, rfl, rfl⟩
  · rw [handled, Negotiation.servers, same]
    exact .inr ⟨now, request, rfl, attempted, rfl, rfl⟩

/-- A round never takes back what it has attempted. -/
theorem exists_round_after
    (advanced : (round.withServers crossing.servers).step? event = some next)
    (found : crossing.rounds[number]? = some round) {position : Nat} {earlier : Negotiation}
    (isAt : crossing.rounds[position]? = some earlier) :
    ∃ later, (crossing.rounds.set number next)[position]? = some later ∧
      earlier.attempts ⊆ later.attempts := by
  have more : (round.withServers crossing.servers).attempts ⊆ next.attempts :=
    Negotiation.attempts_step advanced
  by_cases same : number = position
  · subst position
    obtain rfl : round = earlier := Option.some.inj (found.symm.trans isAt)
    refine ⟨next, ?_, more⟩
    rw [List.getElem?_set_self (List.getElem?_eq_some_iff.mp found).1]
  · refine ⟨earlier, ?_, List.Subset.refl _⟩
    rw [List.getElem?_set_ne same]
    exact isAt

section Consistency

variable (consistent : Consistent initial events crossing)
  (found : crossing.rounds[number]? = some round)
  (advanced : (round.withServers crossing.servers).step? event = some next)
include consistent found advanced

omit found in
theorem Consistent.levels_step (endpoint : Endpoint) :
    (next.servers endpoint).levels =
      Log.levels (initial endpoint).levels (logAt endpoint (events ++ [(number, event)])) := by
  rcases log_step advanced endpoint with
    ⟨log, -, server⟩ | ⟨now, request, log, -, -, server⟩
  · rw [log, server, consistent.levels]
  · rw [log, server, Server.handleLine_encode, Server.levels_handle, consistent.levels,
      Log.levels_append_singleton]

/-- A commit is handled after the share of its round, which the node has accepted. -/
theorem Consistent.answered_step (endpoint : Endpoint) :
    Log.Answered (initial endpoint).levels.minimum
      (logAt endpoint (events ++ [(number, event)])) := by
  rcases log_step advanced endpoint with
    ⟨log, -, -⟩ | ⟨now, request, log, ⟨attempt, attempted, line⟩, -, -⟩
  · rw [log]
    exact consistent.answered endpoint
  · rw [log]
    intro before origin share later same
    rcases List.eq_nil_or_concat later with rfl | ⟨front, last, rfl⟩
    · obtain ⟨rfl, one⟩ := List.append_inj' same rfl
      obtain ⟨rfl, rfl⟩ := Prod.mk.inj (List.cons.inj one).1
      have member := List.mem_of_getElem? found
      rcases (consistent.sound round member).accepted_of_commit attempted line
        (consistent.votes round member endpoint) with ⟨shared, accepted⟩
      exact ⟨consistent.logged number round found endpoint _ shared, accepted⟩
    · rw [List.concat_eq_append, ← List.cons_append, ← List.append_assoc] at same
      exact consistent.answered endpoint before origin share front (List.append_inj' same rfl).1

theorem Consistent.logged_step {position : Nat} {other : Negotiation}
    (isAt : (crossing.rounds.set number next)[position]? = some other) {endpoint : Endpoint}
    {request : NodeRequest} (handled : request ∈ (other.peers endpoint).handled) :
    (position, request) ∈ logAt endpoint (events ++ [(number, event)]) := by
  by_cases same : number = position
  · subst position
    rw [List.getElem?_set_self (List.getElem?_eq_some_iff.mp found).1] at isAt
    obtain rfl := Option.some.inj isAt
    rcases log_step advanced endpoint with
      ⟨log, unchanged, -⟩ | ⟨now, last, log, -, more, -⟩
    · rw [unchanged] at handled
      rw [log]
      exact consistent.logged number round found endpoint request handled
    · rw [more] at handled
      rw [log]
      rcases List.mem_append.mp handled with before | isLast
      · exact List.mem_append_left _
          (consistent.logged number round found endpoint request before)
      · rw [List.mem_singleton.mp isLast]
        exact List.mem_append_right _ (List.mem_singleton_self _)
  · rw [List.getElem?_set_ne same] at isAt
    rw [logAt_append_singleton]
    exact List.mem_append_left _ (consistent.logged position other isAt endpoint request handled)

theorem Consistent.attempted_step {endpoint : Endpoint} {position : Nat} {request : NodeRequest}
    (inLog : (position, request) ∈ logAt endpoint (events ++ [(number, event)])) :
    ∃ other, (crossing.rounds.set number next)[position]? = some other ∧
      ∃ attempt ∈ other.attempts, attempt.line? = some (endpoint, request) := by
  have known : ∃ other, crossing.rounds[position]? = some other ∧
      ∃ attempt ∈ other.attempts, attempt.line? = some (endpoint, request) := by
    rcases log_step advanced endpoint with ⟨log, -, -⟩ | ⟨now, last, log, attempted, -, -⟩
    · rw [log] at inLog
      exact consistent.attempted endpoint position request inLog
    · rw [log] at inLog
      rcases List.mem_append.mp inLog with before | isLast
      · exact consistent.attempted endpoint position request before
      · obtain ⟨rfl, rfl⟩ := Prod.mk.inj (List.mem_singleton.mp isLast)
        exact ⟨round, found, attempted⟩
  rcases known with ⟨earlier, isAt, attempt, member, line⟩
  rcases exists_round_after advanced found isAt with ⟨later, isNow, more⟩
  exact ⟨later, isNow, attempt, more member, line⟩

theorem Consistent.step : Consistent initial (events ++ [(number, event)])
    ⟨next.servers, crossing.rounds.set number next⟩ := by
  have member := List.mem_of_getElem? found
  refine ⟨consistent.levels_step advanced, fun other isRound => ?_,
    fun other isRound endpoint => ?_, fun position other isAt endpoint request =>
    consistent.logged_step found advanced isAt, fun endpoint position request =>
    consistent.attempted_step found advanced, consistent.answered_step found advanced⟩
  · rcases List.mem_or_eq_of_mem_set isRound with before | rfl
    · exact consistent.sound other before
    · exact ((consistent.sound round member).withServers consistent.least).step advanced
  · rcases List.mem_or_eq_of_mem_set isRound with before | rfl
    · exact consistent.votes other before endpoint
    · exact (Negotiation.conduct_step advanced endpoint).trans
        (consistent.votes round member endpoint)

end Consistency

end Step

theorem Consistent.run {initial : Endpoint → Server} {events : List (Nat × NegotiationEvent)}
    {crossing final : Crossing} (consistent : Consistent initial events crossing)
    {more : List (Nat × NegotiationEvent)} (ran : crossing.run? more = some final) :
    Consistent initial (events ++ more) final := by
  induction more generalizing events crossing with
  | nil =>
      obtain rfl := Option.some.inj ran
      rw [List.append_nil]
      exact consistent
  | cons event others inductionHypothesis =>
      rcases event with ⟨number, event⟩
      rcases Option.bind_eq_some_iff.mp ran with ⟨after, stepped, rest⟩
      rcases Option.bind_eq_some_iff.mp stepped with ⟨round, found, mapped⟩
      rcases Option.map_eq_some_iff.mp mapped with ⟨next, advanced, rfl⟩
      rw [List.append_cons]
      exact inductionHypothesis (consistent.step found advanced) rest

theorem Consistent.commits {initial : Endpoint → Server} {events : List (Nat × NegotiationEvent)}
    {crossing : Crossing} (consistent : Consistent initial events crossing) {endpoint : Endpoint}
    {number : Nat} {share : UInt64} (inLog : (number, .commit share) ∈ logAt endpoint events) :
    crossing.Commits number share := by
  rcases consistent.attempted endpoint number _ inLog with ⟨round, isAt, attempt, member, line⟩
  cases attempt with
  | share position peer value => cases line
  | notice position peer notice =>
      obtain ⟨rfl, rfl⟩ := Prod.mk.inj (Option.some.inj line)
      exact ⟨round, position, _, isAt, member⟩
  | alive => cases line

theorem Consistent.offers {initial : Endpoint → Server} {events : List (Nat × NegotiationEvent)}
    {crossing : Crossing} (consistent : Consistent initial events crossing) {endpoint : Endpoint}
    {number : Nat} {share : UInt64} (inLog : (number, .share share) ∈ logAt endpoint events) :
    crossing.Offers number endpoint share := by
  rcases consistent.attempted endpoint number _ inLog with ⟨round, isAt, attempt, member, line⟩
  rcases (consistent.sound round (List.mem_of_getElem? isAt)).exists_offer member line with
    ⟨position, offered⟩
  exact ⟨round, position, isAt, offered⟩

/-! ## What is committed -/

/-- In any run, the committed level of a node is what it was at the beginning, or the
share of a round that decided to commit, or a share that another round has staged over
it: one that was accepted after the share and before the commit of a round that decided
to commit. -/
theorem committed_comes_from_rounds (joiners : List Levels) (servers : Endpoint → Server)
    (events : List (Nat × NegotiationEvent)) {final : Crossing}
    (ran : (start joiners servers).run? events = some final) (endpoint : Endpoint) :
    (final.servers endpoint).levels.committed = (servers endpoint).levels.committed ∨
    ∃ number share, final.Commits number share ∧
      ((final.servers endpoint).levels.committed = share ∨
        ∃ other, other ≠ number ∧
          final.Offers other endpoint (final.servers endpoint).levels.committed ∧
          (servers endpoint).levels.minimum ≤ (final.servers endpoint).levels.committed ∧
          (logAt endpoint events).Crosses number share other
            (final.servers endpoint).levels.committed) := by
  have consistent : Consistent servers events final := (consistent_start joiners servers).run ran
  have single : ∀ number share value, (number, .share share) ∈ logAt endpoint events →
      (number, .share value) ∈ logAt endpoint events → value = share := by
    intro number share value first second
    rcases consistent.attempted endpoint number _ first with ⟨round, isAt, one, isFirst, line⟩
    rcases consistent.attempted endpoint number _ second with ⟨again, isAtAgain, two, isSecond, also⟩
    obtain rfl : round = again := Option.some.inj (isAt.symm.trans isAtAgain)
    exact (consistent.sound round (List.mem_of_getElem? isAt)).share_unique isSecond also isFirst
      line
  have origin := Log.committed_or_promotes (consistent.answered endpoint) single
  rw [← consistent.levels] at origin
  rcases origin with before | ⟨number, share, inLog, own | ⟨other, different, accepts, crosses⟩⟩
  · exact .inl before
  · exact .inr ⟨number, share, consistent.commits inLog, .inl own⟩
  · exact .inr ⟨number, share, consistent.commits inLog,
      .inr ⟨other, different, consistent.offers crosses.mem, accepts, crosses⟩⟩

/-! ## Two rounds that cross -/

/-- A node that accepts any share, among nodes that accept none below 80. -/
def twoNodes (endpoint : Endpoint) : Server :=
  if endpoint = .v4 .loopback 7001 then .initial 0 16 else .initial 80 16

/-- Round `0` offers 100 to the first node, and round `1` offers 50 to both. The first
node has handled both shares when the commit of round `0` comes. Round `1` is refused
by the second node and rolled back. -/
def crossed : List (Nat × NegotiationEvent) :=
  [(0, .adopt ⟨[.v4 .loopback 7001], 200⟩),
    (1, .adopt ⟨[.v4 .loopback 7001, .v4 .loopback 7002], 150⟩),
    (0, .deliver (.share 0 (.v4 .loopback 7001) 100) 0), (0, .shareEnds 0),
    (1, .deliver (.share 0 (.v4 .loopback 7001) 50) 0), (1, .shareEnds 0),
    (1, .deliver (.share 1 (.v4 .loopback 7002) 50) 0), (1, .shareEnds 1),
    (0, .decide), (1, .decide),
    (0, .deliver (.notice 0 (.v4 .loopback 7001) (.commit 100)) 0), (0, .noticeEnds 0),
    (1, .deliver (.notice 0 (.v4 .loopback 7001) .rollback) 0), (1, .noticeEnds 0),
    (1, .deliver (.notice 1 (.v4 .loopback 7002) .rollback) 0), (1, .noticeEnds 1),
    (0, .publish), (1, .publish)]

theorem run?_crossed : ∃ final, (start [.initial 0, .initial 0] twoNodes).run? crossed = some final ∧
    final.rounds.map (·.agent.stage) = [.published true, .published false] ∧
    (final.servers (.v4 .loopback 7001)).levels = ⟨50, 50, 0⟩ ∧
    final.Offers 1 (.v4 .loopback 7001) 50 ∧ ∀ number, ¬ final.Commits number 50 := by
  have possible : ((start [.initial 0, .initial 0] twoNodes).run? crossed).any (fun final => decide
      (final.rounds.map (·.agent.stage) = [.published true, .published false] ∧
        (final.servers (.v4 .loopback 7001)).levels = ⟨50, 50, 0⟩ ∧
        final.rounds.map (·.attempts) =
          [[.share 0 (.v4 .loopback 7001) 100, .notice 0 (.v4 .loopback 7001) (.commit 100)],
            [.share 0 (.v4 .loopback 7001) 50, .share 1 (.v4 .loopback 7002) 50,
              .notice 0 (.v4 .loopback 7001) .rollback,
              .notice 1 (.v4 .loopback 7002) .rollback]])) = true := by
    decide +kernel
  rcases (Option.any_eq_true _ _).mp possible with ⟨final, ran, reached⟩
  rcases of_decide_eq_true reached with ⟨stages, levels, attempts⟩
  refine ⟨final, ran, stages, levels, ?_, ?_⟩
  · have second := congrArg (·[1]?) attempts
    rw [List.getElem?_map] at second
    rcases Option.map_eq_some_iff.mp second with ⟨round, isAt, same⟩
    refine ⟨round, 0, isAt, ?_⟩
    rw [same]
    exact List.mem_cons_self
  · rintro number ⟨round, position, peer, isAt, member⟩
    have known : round.attempts ∈ final.rounds.map (·.attempts) :=
      List.mem_map_of_mem (List.mem_of_getElem? isAt)
    rw [attempts] at known
    rcases List.mem_pair.mp known with same | same
    all_goals
      rw [same] at member
      simp at member

theorem committed_comes_from_rounds_crossed :
    ∃ final, (start [.initial 0, .initial 0] twoNodes).run? crossed = some final ∧
      ∃ number share other, final.Commits number share ∧ other ≠ number ∧
        final.Offers other (.v4 .loopback 7001) 50 ∧
        (logAt (.v4 .loopback 7001) crossed).Crosses number share other 50 := by
  rcases run?_crossed with ⟨final, ran, -, levels, -, notCommitted⟩
  refine ⟨final, ran, ?_⟩
  rcases committed_comes_from_rounds _ twoNodes crossed ran (.v4 .loopback 7001) with
    before | ⟨number, share, commits, own | ⟨other, different, offers, -, crosses⟩⟩
  · rw [levels] at before
    cases before
  · rw [levels] at own
    obtain rfl : 50 = share := own
    exact absurd commits (notCommitted number)
  · rw [levels] at offers crosses
    exact ⟨number, share, other, commits, different, offers, crosses⟩

/-- The share of a round that is rolled back is committed, by the commit of another. -/
theorem rolledBack_share_crossed :
    ∃ final, (start [.initial 0, .initial 0] twoNodes).run? crossed = some final ∧
      final.rounds.map (·.agent.stage) = [.published true, .published false] ∧
      final.Offers 1 (.v4 .loopback 7001) 50 ∧
      (final.servers (.v4 .loopback 7001)).levels.committed = 50 ∧
      (twoNodes (.v4 .loopback 7001)).levels.committed ≠ 50 ∧
      ∀ number, ¬ final.Commits number 50 := by
  rcases run?_crossed with ⟨final, ran, stages, levels, offers, notCommitted⟩
  refine ⟨final, ran, stages, offers, ?_, by decide, notCommitted⟩
  rw [levels]

end Crossing

end ArithmeticCloud.Joining
