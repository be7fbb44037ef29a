import Mathlib.Algebra.Order.BigOperators.Group.List
import AutonolasRegistries.Source.StakingEffects
import AutonolasRegistries.Source.StakingMachine

/-!
# Staking sessions

What staking is about, read off the history alone: a session of a service begins when
it is staked and ends when it is unstaked, the checkpoints cut its time into intervals,
each passed or failed, and give it rewards. Nothing here looks at the storage.
-/
namespace AutonolasRegistries.Model
open Source StakingBase

section Intervals

/-- The intervals follow each other from one moment to another. -/
def Consecutive : Nat → List Interval → Nat → Prop
  | since, [], till => since = till
  | since, i :: rest, till => i.since = since ∧ i.since ≤ i.till ∧ Consecutive i.till rest till

def totalLength (intervals : List Interval) : Nat := (intervals.map Source.Interval.length).sum

def passedLength (intervals : List Interval) : Nat := totalLength (intervals.filter (·.passed))

/-- The failed intervals after the last passed one. -/
def trailingFailed (intervals : List Interval) : List Interval :=
  (intervals.reverse.takeWhile (!·.passed)).reverse

def trailingLength (intervals : List Interval) : Nat := totalLength (trailingFailed intervals)

theorem totalLength_append (intervals intervals' : List Interval) :
    totalLength (intervals ++ intervals') = totalLength intervals + totalLength intervals' := by
  simp [totalLength]

theorem passedLength_append (intervals : List Interval) (i : Interval) :
    passedLength (intervals ++ [i]) =
      passedLength intervals + if i.passed then i.length else 0 := by
  rw [passedLength, List.filter_append, totalLength_append]
  cases passed : i.passed <;> simp [passedLength, totalLength, passed]

theorem trailingLength_append (intervals : List Interval) (i : Interval) :
    trailingLength (intervals ++ [i]) =
      if i.passed then 0 else trailingLength intervals + i.length := by
  cases passed : i.passed <;>
    simp [trailingLength, trailingFailed, totalLength, passed]

theorem trailingLength_le (intervals : List Interval) :
    trailingLength intervals ≤ totalLength intervals := by
  have tail : (trailingFailed intervals).Sublist intervals := by
    have := (List.takeWhile_sublist (!·.passed) (l := intervals.reverse)).reverse
    rwa [List.reverse_reverse] at this
  exact (tail.map Source.Interval.length).sum_le_sum fun _ _ => Nat.zero_le _

theorem Consecutive.append {since till : Nat} {intervals : List Interval}
    (chain : Consecutive since intervals till) {i : Interval} (next : i.since = till)
    (order : i.since ≤ i.till) : Consecutive since (intervals ++ [i]) i.till := by
  induction intervals generalizing since with
  | nil =>
    obtain rfl : since = till := chain
    exact ⟨next, order, rfl⟩
  | cons first rest ih =>
    obtain ⟨start, forward, chain⟩ := chain
    exact ⟨start, forward, ih chain⟩

/-- Consecutive intervals are exactly as long as the time they cover. -/
theorem Consecutive.total {since till : Nat} {intervals : List Interval}
    (chain : Consecutive since intervals till) : since + totalLength intervals = till := by
  induction intervals generalizing since with
  | nil => exact chain
  | cons first rest ih =>
    obtain ⟨rfl, forward, chain⟩ := chain
    have later := ih chain
    simp only [totalLength, List.map_cons, List.sum_cons, Source.Interval.length] at later ⊢
    omega

end Intervals

structure Session where
  owner : Address
  start : Nat
  intervals : List Interval
  credited : Nat
  claimed : Nat
  shortfall : Bool
  deriving DecidableEq, Repr

/-- What one event means for the session of a service. -/
def Session.next (serviceId : Nat) (session : Option Session) : StakingEvent → Option Session
  | .staked id owner timestamp =>
    if id = serviceId then some ⟨owner, timestamp, [], 0, 0, false⟩ else session
  | .accounted epoch => session.map fun s =>
    let own := (epoch.intervals.filter (·.1 = serviceId)).map Prod.snd
    { s with
      intervals := s.intervals ++ own
      credited := s.credited + creditOf epoch.rewards serviceId
      shortfall := s.shortfall || (epoch.shortfall && !own.isEmpty) }
  | .claimed id reward =>
    if id = serviceId then session.map fun s => { s with claimed := s.claimed + reward }
    else session
  | .unstaked id => if id = serviceId then none else session
  | .settled _ _ _ => session

/-- The running session of a service, evicted or not. -/
def sessionOf (history : List StakingEvent) (serviceId : Nat) : Option Session :=
  history.foldl (Session.next serviceId) none

@[simp] theorem sessionOf_nil (serviceId : Nat) : sessionOf [] serviceId = none := rfl

theorem sessionOf_append (history : List StakingEvent) (event : StakingEvent) (serviceId : Nat) :
    sessionOf (history ++ [event]) serviceId =
      Session.next serviceId (sessionOf history serviceId) event := by
  rw [sessionOf, List.foldl_append]
  rfl

/-- All rewards the checkpoints of a history gave. -/
def emitted (history : List StakingEvent) : Nat :=
  (history.map fun
    | .accounted epoch => (epoch.rewards.map Prod.snd).sum
    | _ => 0).sum

theorem emitted_append (history history' : List StakingEvent) :
    emitted (history ++ history') = emitted history + emitted history' := by
  simp [emitted]

end AutonolasRegistries.Model
