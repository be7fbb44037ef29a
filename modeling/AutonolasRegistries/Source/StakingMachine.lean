import AutonolasRegistries.Library.CallStack
import AutonolasRegistries.Source.StakingBase

/-!
# Runs of a staking contract

The staking contract with the NFT of the service registry as a machine. A token
deposit stops at the transfer it asks for, a claim and an unstake stop at every
payment of `_withdraw`. Time passes by a call of its own, and everybody else may mint,
approve and transfer services in between.

The history beside the storage is what a reader of the chain sees: who staked what and
when, what each checkpoint that took place accounted, and what was paid.
-/
namespace AutonolasRegistries.Source
open Library

/-- The time a service is accounted for by one checkpoint. -/
structure Interval where
  since : Nat
  till : Nat
  passed : Bool
  deriving DecidableEq, Repr

def Interval.length (i : Interval) : Nat := i.till - i.since

/-- A checkpoint that took place. -/
structure Epoch where
  shortfall : Bool
  intervals : List (Nat × Interval)
  rewards : List (Nat × Nat)
  deriving DecidableEq, Repr

/-- `claimed` and `unstaked` stand where the record is changed, `settled` where the last
payment went through. -/
inductive StakingEvent where
  | staked (serviceId : Nat) (owner : Address) (timestamp : Nat)
  | accounted (epoch : Epoch)
  | claimed (serviceId reward : Nat)
  | unstaked (serviceId : Nat)
  | settled (serviceId reward : Nat) (payments : List (Address × Nat))
  deriving DecidableEq, Repr

structure StakingWorld where
  store : StakingState
  nft : ERC721
  supply : Nat
  timestamp : Nat
  history : List StakingEvent

inductive StakingCall where
  | tick (elapsed : Nat)
  | deposit (sender : Caller) (amount : Nat)
  | receive (sender : Caller) (value : Nat)
  | checkpoint (sender : Caller) (answers : Nat → ActivityAnswer)
  | stake (sender : Caller) (answers : Nat → ActivityAnswer) (view : StakeView)
      (serviceId rewardDistributionInfo : Nat)
  | unstake (sender : Caller) (answers : Nat → ActivityAnswer) (view : RewardView)
      (serviceId : Nat) (enforced : Bool)
  | claim (sender : Caller) (answers : Nat → ActivityAnswer) (view : RewardView)
      (serviceId : Nat) (execCheckPoint : Bool)
  | mint (recipient : Address)
  | approve (sender : Caller) (spender : Address) (id : Nat)
  | setApprovalForAll (sender : Caller) (operator : Address) (approved : Bool)
  | transferFrom (sender : Caller) (owner recipient : Address) (id : Nat)

/-- The loop of `_withdraw`: the transfers made, the last of them still under way, those
still to make, and the balance it will write. `returnTo` is set when the call is an
unstake. -/
structure Withdrawal where
  serviceId : Nat
  reward : Nat
  sent : List (Address × Nat)
  remaining : List (Address × Nat)
  updatedBalance : Nat
  returnTo : Option Address
  deriving DecidableEq, Repr

inductive StakingFrame where
  | deposit
  | withdraw (loop : Withdrawal)
  deriving DecidableEq, Repr

namespace StakingWorld

/-- What the activity check says of a service, asked about the time since its last
checkpoint. -/
def passes (timestamp : Nat) (answer : ActivityAnswer) (s : StakingState) (serviceId : Nat) :
    Bool :=
  match StakingBase.checkRatioPass answer (s.mapServiceInfo serviceId).multisig
    (s.mapServiceInfo serviceId).nonces (timestamp - StakingBase.serviceCheckpoint s serviceId)
  with
  | .ok (ratioPass, _) => ratioPass
  | .error _ => false

/-- What a checkpoint adds to the history. The intervals are passed or failed by the answers
of the activity checker, not by what the contract made of them, and it is a shortfall if the
passed time is worth more than what is available. -/
def accounted (timestamp : Nat) (answers : Nat → ActivityAnswer) (before : StakingState)
    (result : StakingBase.CheckpointResult) : List StakingEvent :=
  if result.calculated.serviceIds = [] then [] else
  let intervals : List (Nat × Interval) := before.setServiceIds.zipIdx.map fun entry =>
    (entry.1, {
      since := StakingBase.serviceCheckpoint before entry.1
      till := timestamp
      passed := passes timestamp (answers entry.2) before entry.1 })
  let passed := (intervals.map Prod.snd).filter (·.passed)
  [.accounted {
    shortfall := decide (before.availableRewards <
      before.params.rewardsPerSecond * (passed.map Interval.length).sum)
    intervals
    rewards := result.finalRewards }]

def accountedIf (timestamp : Nat) (answers : Nat → ActivityAnswer) (before : StakingState) :
    Option StakingBase.CheckpointResult → List StakingEvent
  | some result => accounted timestamp answers before result
  | none => []

/-- The end of an unstake: the service goes back, and the lock is released. -/
def giveBack (self : Address) (serviceId : Nat) (owner : Address) (w : StakingWorld) :
    Except StakingError StakingWorld := do
  let nft ← StakingBase.tokenCall (w.nft.transferFrom self self owner serviceId)
  return { w with
    store := StakingBase.unlock w.store
    nft }

/-- `_withdraw` from the next payment on, and what follows it. -/
def withdraw (self : Address) (l : Withdrawal) (w : StakingWorld) :
    Except StakingError (Outcome StakingWorld StakingFrame) :=
  match l.remaining with
  | [] => do
    let w := { w with
      store := { w.store with balance := l.updatedBalance }
      history := w.history ++ [StakingEvent.settled l.serviceId l.reward l.sent] }
    match l.returnTo with
    | none => return .done { w with store := StakingBase.unlock w.store }
    | some owner => return .done (← w.giveBack self l.serviceId owner)
  | payment :: rest => do
    let updatedBalance ← checkedSub (.panic .withdraw .arithmetic) l.updatedBalance payment.2
    return .suspended w (.withdraw { l with
      sent := l.sent ++ [payment]
      remaining := rest
      updatedBalance })

/-- A call of the NFT functions by somebody else. -/
def token (w : StakingWorld) (run : Except Revert ERC721) :
    Except StakingError (Outcome StakingWorld StakingFrame) := do
  let nft ← StakingBase.tokenCall run
  return .done { w with nft }

def enter (self : Address) (call : StakingCall) (w : StakingWorld) :
    Except StakingError (Outcome StakingWorld StakingFrame) :=
  match call with
  | .tick elapsed => .ok (.done { w with timestamp := w.timestamp + elapsed })
  | .deposit _ amount =>
    match w.store.asset with
    | .token _ => do
      let s ← StakingBase.credit amount w.store
      return .suspended { w with store := s } .deposit
    | .native => .error .externalFailure
  | .receive _ value =>
    match w.store.asset with
    | .token _ => .error .externalFailure
    | .native => do
      let s ← StakingBase.credit value w.store
      return .done { w with store := StakingBase.unlock s }
  | .checkpoint _ answers => do
    let s ← StakingBase.lock w.store
    let (s, result) ← StakingBase.checkpoint w.timestamp answers s
    return .done { w with
      store := StakingBase.unlock s
      history := w.history ++ accounted w.timestamp answers w.store result }
  | .stake sender answers view serviceId rewardDistributionInfo => do
    let (s, nft, result) ← StakingBase.stake self sender w.timestamp answers view serviceId
      rewardDistributionInfo w.nft w.store
    return .done { w with
      store := s
      nft
      history := w.history ++ accounted w.timestamp answers w.store result ++
        [.staked serviceId sender w.timestamp] }
  | .unstake sender answers view serviceId enforced => do
    let (s, result) ← StakingBase.unstake self sender w.timestamp answers view serviceId
      enforced w.store
    let w' : StakingWorld := { w with
      store := s
      history := w.history ++ accountedIf w.timestamp answers w.store result.checkpoint ++
        [.unstaked serviceId] }
    if 0 < result.reward ∧ ¬ enforced then
      w'.withdraw self ⟨serviceId, result.reward, [], result.payments, s.balance, some sender⟩
    else return .done (← w'.giveBack self serviceId sender)
  | .claim sender answers view serviceId execCheckPoint => do
    let (s, result) ← StakingBase.claim self sender w.timestamp answers view serviceId
      execCheckPoint w.store
    let w' : StakingWorld := { w with
      store := s
      history := w.history ++ accountedIf w.timestamp answers w.store result.checkpoint ++
        [.claimed serviceId result.reward] }
    w'.withdraw self ⟨serviceId, result.reward, [], result.payments, s.balance, none⟩
  | .mint recipient => do
    let nft ← StakingBase.tokenCall (w.nft.mint recipient (w.supply + 1))
    return .done { w with nft, supply := w.supply + 1 }
  | .approve sender spender id => w.token (w.nft.approve sender spender id)
  | .setApprovalForAll sender operator approved =>
    .ok (.done { w with nft := w.nft.setApprovalForAll sender operator approved })
  | .transferFrom sender owner recipient id =>
    w.token (w.nft.transferFrom sender owner recipient id)

/-- The answer of a transfer is only that it went through. -/
def resume (self : Address) (frame : StakingFrame) (_ : Unit) (w : StakingWorld) :
    Except StakingError (Outcome StakingWorld StakingFrame) :=
  match frame with
  | .deposit => .ok (.done { w with store := StakingBase.unlock w.store })
  | .withdraw l => w.withdraw self l

end StakingWorld

def stakingMachine (self : Address) :
    Machine StakingWorld StakingCall StakingFrame Unit StakingError where
  enter := StakingWorld.enter self
  resume := StakingWorld.resume self

/-- The account behind a call, where there is one. -/
def StakingCall.sender : StakingCall → Option Address
  | .tick _ | .mint _ => none
  | .deposit sender _ | .receive sender _ | .checkpoint sender _ | .stake sender _ _ _ _
  | .unstake sender _ _ _ _ | .claim sender _ _ _ _ | .approve sender _ _
  | .setApprovalForAll sender _ _ | .transferFrom sender _ _ _ => some sender

/-- The staking contract makes no calls besides those of its own code. -/
def stakingDiscipline (self : Address) :
    Discipline StakingWorld StakingCall StakingFrame Unit where
  call call _ := call.sender ≠ some self
  answer _ _ _ := True

instance (self : Address) (call : StakingCall) (w : StakingWorld) :
    Decidable ((stakingDiscipline self).call call w) :=
  inferInstanceAs (Decidable (call.sender ≠ some self))

instance (self : Address) (frame : StakingFrame) (answer : Unit) (w : StakingWorld) :
    Decidable ((stakingDiscipline self).answer frame answer w) := .isTrue trivial

/-- The world a staking contract is set up in: its account is new, so it gave no
approvals, and the registry numbers its services from one. -/
structure StakingWorld.Fresh (contract : Address) (w : StakingWorld) : Prop where
  nonzero : contract ≠ 0
  clock : 0 < w.timestamp
  setup : ∃ tokenUtility checkerCodeLength viaProxy,
    StakingBase.initializeStaking w.store.asset tokenUtility w.store.params checkerCodeLength
      w.timestamp viaProxy = .ok w.store
  guarded : w.nft.Guarded
  keeps : w.nft.Keeps contract
  unborn : w.nft.owners 0 = 0
  empty : w.history = []

end AutonolasRegistries.Source
