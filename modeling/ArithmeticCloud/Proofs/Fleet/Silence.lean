import ArithmeticCloud.CommandLine
import ArithmeticCloud.Fleet.Liveness
import ArithmeticCloud.Proofs.Fleet.Records
import Mathlib.Algebra.Ring.Int.Defs

/-!
Contract: which nodes a periodic check takes offline, over all timeouts that settings
accept.

Owns:
- silence beyond a timeout in exact arithmetic, where the timeout counts nanoseconds and
  the clock counts milliseconds;
- what a check does with each record, for timeouts whose milliseconds wrap around too;
- for which timeouts every check is exact, and that among those that do not wrap a longer
  one takes fewer nodes offline.

Does not own: the period of the checks. The clock stays below a quarter of the range of
its word, and no node was seen before it started or after now.
-/

namespace ArithmeticCloud.Fleet

open Settings

/-! ## Silence in exact arithmetic -/

/-- More nanoseconds than the timeout have passed since the node was seen. -/
def NodeRecord.SilentFor (record : NodeRecord) (now : Int64) (timeout : Duration) : Prop :=
  (timeout.nanoseconds : Int) < (now.toInt - record.lastSeen.toInt) * 1000000

instance (record : NodeRecord) (now : Int64) (timeout : Duration) :
    Decidable (record.SilentFor now timeout) :=
  inferInstanceAs (Decidable (_ < _))

/-- What a duration has beyond its whole milliseconds does not matter to a clock that
counts them. -/
theorem NodeRecord.silentFor_iff (record : NodeRecord) (now : Int64) (timeout : Duration) :
    record.SilentFor now timeout ↔
      (timeout.milliseconds : Int) < now.toInt - record.lastSeen.toInt := by
  unfold SilentFor Duration.milliseconds
  omega

/-- A node that has been silent for a time has been so for any shorter one. -/
theorem NodeRecord.SilentFor.mono {record : NodeRecord} {now : Int64} {shorter longer : Duration}
    (silent : record.SilentFor now longer)
    (shorterFirst : shorter.nanoseconds ≤ longer.nanoseconds) :
    record.SilentFor now shorter :=
  Int.lt_of_le_of_lt (Int.ofNat_le.mpr shorterFirst) silent

namespace Registry

/-- No node was seen before the clock started or after now. -/
structure Timely (registry : Registry) (now : Int64) : Prop where
  early : now.toInt < 2 ^ 62
  seen : ∀ record ∈ registry.records,
    0 ≤ record.lastSeen.toInt ∧ record.lastSeen.toInt ≤ now.toInt

/-- Takes offline the records of a kind that are online, and counts them. -/
def retire (registry : Registry) (isOver : NodeRecord → Bool) : Nat × Registry :=
  (registry.records.countP fun record => record.online && isOver record,
    ⟨registry.records.map fun record =>
      if record.online && isOver record then { record with online := false } else record⟩)

theorem retire_congr {registry : Registry} {isOver isOut : NodeRecord → Bool}
    (same : ∀ record ∈ registry.records,
      (record.online && isOver record) = (record.online && isOut record)) :
    registry.retire isOver = registry.retire isOut := by
  unfold retire
  refine Prod.ext (List.countP_congr ?_) (congrArg Registry.mk (List.map_congr_left ?_))
  · intro record member
    rw [same record member]
  · intro record member
    rw [same record member]

theorem onlineEndpoints_retire (registry : Registry) (isOver : NodeRecord → Bool) :
    (registry.retire isOver).2.onlineEndpoints =
      (registry.records.filter fun record => record.online && !isOver record).map
        NodeRecord.endpoint := by
  unfold retire onlineEndpoints
  rw [List.filter_map, List.map_map]
  have kept : (NodeRecord.online ∘ fun record : NodeRecord =>
      if record.online && isOver record then { record with online := false } else record) =
        fun record => record.online && !isOver record := by
    funext record
    show (if record.online && isOver record then _ else record : NodeRecord).online = _
    cases status : record.online <;> cases isOver record <;> simp [status]
  rw [kept]
  apply List.map_congr_left
  intro record member
  show (if record.online && isOver record then _ else record : NodeRecord).endpoint = _
  split <;> rfl

/-- Whoever is retired for the narrower kind is retired for the wider one. -/
theorem retire_mono (registry : Registry) {isOver isOut : NodeRecord → Bool}
    (wider : ∀ record, isOver record = true → isOut record = true) :
    (registry.retire isOver).1 ≤ (registry.retire isOut).1 ∧
      (registry.retire isOut).2.onlineEndpoints.Sublist
        (registry.retire isOver).2.onlineEndpoints := by
  constructor
  · apply List.countP_mono_left
    intro record _ leaves
    rw [Bool.and_eq_true] at leaves ⊢
    exact ⟨leaves.1, wider record leaves.2⟩
  · rw [onlineEndpoints_retire, onlineEndpoints_retire]
    apply List.Sublist.map
    apply List.monotone_filter_right
    intro record stays
    rw [Bool.and_eq_true, Bool.not_eq_true'] at stays ⊢
    refine ⟨stays.1, Bool.eq_false_iff.mpr fun expired => ?_⟩
    exact Bool.eq_false_iff.mp stays.2 (wider record expired)

/-! ## What a check does -/

/-- The milliseconds of the timeout fit into a signed word, or else wrap around to no less
than the longest silence. -/
def IsMeasured (timeout : Duration) : Prop :=
  timeout.milliseconds < 2 ^ 63 ∨ 2 ^ 62 - 1 ≤ Int.bmod timeout.milliseconds (2 ^ 64)

instance (timeout : Duration) : Decidable (IsMeasured timeout) :=
  inferInstanceAs (Decidable (_ ∨ _))

/-- The milliseconds of a timeout, as the check counts them. -/
theorem toInt_sweepTimeout (timeout : Duration) :
    (sweepTimeout timeout).toInt = Int.bmod timeout.milliseconds (2 ^ 64) :=
  Int64.toInt_ofNat'

section Check

variable {registry : Registry} {now : Int64}

theorem Timely.measures (timely : registry.Timely now) : registry.Measures now := by
  intro record member _
  obtain ⟨started, passed⟩ := timely.seen record member
  have early := timely.early
  have low : Int64.minValue.toInt = -2 ^ 63 := by decide
  have high : Int64.maxValue.toInt = 2 ^ 63 - 1 := by decide
  omega

/-- A check compares with the milliseconds after they have wrapped around. -/
theorem checkLiveness_eq_retire (timely : registry.Timely now) (timeout : Duration) :
    registry.checkLiveness timeout now = registry.retire fun record =>
      decide (Int.bmod timeout.milliseconds (2 ^ 64) < now.toInt - record.lastSeen.toInt) := by
  show registry.retire (fun record => decide (sweepTimeout timeout < now - record.lastSeen)) = _
  apply retire_congr
  intro record member
  rw [← toInt_sweepTimeout]
  exact isExpired_eq timely.measures member (sweepTimeout timeout)

/-- Milliseconds that fit are compared as they are. Others are longer than any silence, but
what they wrap around to need not be. -/
theorem checkLiveness_eq (timely : registry.Timely now) (timeout : Duration) :
    registry.checkLiveness timeout now = registry.retire fun record =>
      decide (record.SilentFor now timeout ∨ 2 ^ 63 ≤ timeout.milliseconds ∧
        Int.bmod timeout.milliseconds (2 ^ 64) < now.toInt - record.lastSeen.toInt) := by
  rw [checkLiveness_eq_retire timely]
  apply retire_congr
  intro record member
  obtain ⟨started, passed⟩ := timely.seen record member
  have early := timely.early
  apply congrArg
  rw [decide_eq_decide, record.silentFor_iff]
  by_cases small : timeout.milliseconds < 2 ^ 63
  · rw [Int.bmod_eq_of_le (by omega) (by omega)]
    omega
  · omega

theorem checkLiveness_eq_silent (timely : registry.Timely now) {timeout : Duration}
    (measured : IsMeasured timeout) :
    registry.checkLiveness timeout now =
      registry.retire fun record => decide (record.SilentFor now timeout) := by
  rw [checkLiveness_eq timely]
  apply retire_congr
  intro record member
  obtain ⟨started, passed⟩ := timely.seen record member
  have early := timely.early
  apply congrArg
  rw [decide_eq_decide]
  refine or_iff_left fun wraps => ?_
  unfold IsMeasured at measured
  omega

end Check

/-- The node was seen when the clock started, and the clock is about to leave its quarter. -/
def longestSilence : Registry := ⟨[⟨.v4 .loopback, 7001, .all, 0, true, 0⟩]⟩

theorem timely_longestSilence : longestSilence.Timely (Int64.ofNat (2 ^ 62 - 1)) := by
  refine ⟨by decide, ?_⟩
  intro record member
  obtain rfl := List.mem_singleton.mp member
  decide

/-- A timeout is measured if the check of the longest silence is exact. -/
theorem isMeasured_of_longestSilence {timeout : Duration}
    (exact : longestSilence.checkLiveness timeout (Int64.ofNat (2 ^ 62 - 1)) =
      longestSilence.retire fun record =>
        decide (record.SilentFor (Int64.ofNat (2 ^ 62 - 1)) timeout)) : IsMeasured timeout := by
  by_contra unmeasured
  unfold IsMeasured at unmeasured
  have wrapped : Int.bmod timeout.milliseconds (2 ^ 64) < 2 ^ 62 - 1 := by omega
  rw [checkLiveness_eq_retire timely_longestSilence] at exact
  have counted := congrArg Prod.fst exact
  have silence : (Int64.ofNat (2 ^ 62 - 1)).toInt - (0 : Int64).toInt = 2 ^ 62 - 1 := by decide
  simp only [retire, longestSilence, List.countP_singleton, Bool.true_and, silence,
    NodeRecord.silentFor_iff] at counted
  -- The node is counted for what the milliseconds wrap around to, and not for the timeout.
  rw [decide_eq_true wrapped, decide_eq_false (by omega)] at counted
  exact absurd counted (by decide)

/-! ## Exact checks -/

/-- A check takes offline exactly the nodes that are online and have been silent for longer
than the timeout, or, if the milliseconds of the timeout do not fit into a signed word, for
longer than what they wrap around to. So all checks with a timeout are exact if and only if
it is measured. Of two timeouts that are, the longer one takes no more nodes offline, and
none that the shorter one does not. -/
theorem checks_are_exact_iff (timeout : Duration) :
    (∀ (registry : Registry) now, registry.Timely now →
      registry.checkLiveness timeout now = registry.retire fun record =>
        decide (record.SilentFor now timeout ∨ 2 ^ 63 ≤ timeout.milliseconds ∧
          Int.bmod timeout.milliseconds (2 ^ 64) < now.toInt - record.lastSeen.toInt)) ∧
    ((∀ (registry : Registry) now, registry.Timely now →
        registry.checkLiveness timeout now =
          registry.retire fun record => decide (record.SilentFor now timeout)) ↔
      IsMeasured timeout) ∧
    ∀ longer : Duration, timeout.nanoseconds ≤ longer.nanoseconds → IsMeasured timeout →
      IsMeasured longer → ∀ (registry : Registry) now, registry.Timely now →
        (registry.checkLiveness longer now).1 ≤ (registry.checkLiveness timeout now).1 ∧
          (registry.checkLiveness timeout now).2.onlineEndpoints.Sublist
            (registry.checkLiveness longer now).2.onlineEndpoints := by
  refine ⟨fun registry now timely => checkLiveness_eq timely timeout, ⟨?_, ?_⟩, ?_⟩
  · intro exact
    exact isMeasured_of_longestSilence (exact _ _ timely_longestSilence)
  · intro measured registry now timely
    exact checkLiveness_eq_silent timely measured
  · intro longer shorterFirst measured longerMeasured registry now timely
    rw [checkLiveness_eq_silent timely measured, checkLiveness_eq_silent timely longerMeasured]
    apply retire_mono
    intro record silent
    rw [decide_eq_true_eq] at silent ⊢
    exact silent.mono shorterFirst

/-- A timeout that fits, at a node that has been silent for just that long and one that has
been silent for longer, and a timeout that is longer by one nanosecond. -/
theorem checks_are_exact_iff_atLimit :
    let registry := (empty.upsert (.v4 .loopback) 7001 .all 996999).upsert (.v4 .loopback) 7002
      .all 997000
    registry.Timely 1000000 ∧
      registry.checkLiveness (.ofMilliseconds 3000) 1000000 = (registry.retire fun record =>
        decide (record.SilentFor 1000000 (.ofMilliseconds 3000))) ∧
      (registry.checkLiveness (.ofMilliseconds 3000) 1000000).2.onlineEndpoints =
        [.v4 .loopback 7002] ∧
      (registry.checkLiveness ⟨3000000001⟩ 1000000).1 ≤
        (registry.checkLiveness (.ofMilliseconds 3000) 1000000).1 := by
  intro registry
  have timely : registry.Timely 1000000 := ⟨by decide, by decide +kernel⟩
  obtain ⟨-, exact, raised⟩ := checks_are_exact_iff (.ofMilliseconds 3000)
  refine ⟨timely, exact.mpr (by decide) registry _ timely, by decide +kernel, ?_⟩
  exact (raised ⟨3000000001⟩ (by decide) (by decide) (by decide) registry _ timely).1

/-- With the longest timeout that the command line takes, which is valid, a node that has
been seen just now is taken offline; the shorter standard timeout leaves it online. -/
theorem punctual_node_retired :
    let longest := Duration.ofMilliseconds (2 ^ 64 - 1)
    let registry := empty.upsert (.v4 .loopback) 7001 .all 1000
    (∃ settings : ControllerSettings, CommandLine.controllerSettings? 4
        ["127.0.0.1", "7000", "7001", "1000", "18446744073709551615", "1000"] = some settings ∧
      settings.violations = [] ∧ settings.nodeTimeout = longest) ∧
    registry.Timely 1000 ∧
    (∀ record ∈ registry.records, record.online = true ∧ ¬ record.SilentFor 1000 longest) ∧
    (registry.checkLiveness longest 1000).1 = 1 ∧
    (registry.checkLiveness longest 1000).2.onlineEndpoints = [] ∧
    (ControllerSettings.standard 4).nodeTimeout.nanoseconds ≤ longest.nanoseconds ∧
    (registry.checkLiveness (ControllerSettings.standard 4).nodeTimeout 1000).1 = 0 := by
  intro longest registry
  refine ⟨⟨_, rfl, by decide +kernel, by decide +kernel⟩, ⟨by decide, by decide +kernel⟩,
    by decide +kernel, by decide +kernel, by decide +kernel, by decide +kernel,
    by decide +kernel⟩

end Registry

end ArithmeticCloud.Fleet
