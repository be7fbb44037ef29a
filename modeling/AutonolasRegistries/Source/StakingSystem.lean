import AutonolasRegistries.Source.ServiceManager
import AutonolasRegistries.Source.StakingMachine

/-!
# A staking contract over the registries

The manager, the two registries and a staking contract as one machine. The NFT the staking
contract moves is the registry's, and what `_stake` asks of the registries is read from
them; the nonces and the code at an address stay call data. What a claim or an unstake
reads only decides the payments, so any answer is allowed there.
`StakingBase.sol:761-958`, `StakingToken.sol:74-98`, `StakingNativeToken.sol:30-60`.
-/
namespace AutonolasRegistries.Source
open Library

structure StakedWorld where
  system : SystemWorld
  staking : StakingState
  timestamp : Nat
  history : List StakingEvent

/-- A call of the registries, or of the staking contract. What others do with the NFT are
calls of the registry. -/
inductive StakedCall where
  | system (call : SystemCall)
  | staking (call : StakingCall)

inductive StakedFrame where
  | system (frame : SystemFrame)
  | staking (frame : StakingFrame)
  deriving DecidableEq, Repr

abbrev StakedRun := Except (Revert ⊕ StakingError) (Outcome StakedWorld StakedFrame)

namespace StakedWorld

/-- The world as the staking contract sees it. -/
def stakingWorld (w : StakedWorld) : StakingWorld where
  store := w.staking
  nft := w.system.registry.store.erc721
  supply := w.system.registry.store.totalSupply
  timestamp := w.timestamp
  history := w.history

def withSystem (w : StakedWorld) (s : SystemWorld) : StakedWorld := { w with system := s }

/-- What the staking contract did, with its transfers in the registry. -/
def withStaking (w : StakedWorld) (s : StakingWorld) : StakedWorld where
  system := w.system.withRegistry { w.system.registry with
    store := { w.system.registry.store with erc721 := s.nft } }
  staking := s.store
  timestamp := s.timestamp
  history := s.history

/-- `getService`, `getAgentParams`, `mapServiceIdTokenDeposit` and `getAgentBond`. -/
def stakeView (w : StakedWorld) (serviceId : Nat) (outside : StakeView) : StakeView :=
  let registry := w.system.registry.store
  let utility := w.system.utility.store
  let service := registry.mapServices serviceId
  { outside with
    service
    agentParams := service.agentIds.map fun agentId =>
      registry.mapServiceAndAgentIdAgentParams (serviceAgent serviceId agentId)
    token := (utility.mapServiceIdTokenDeposit serviceId).token
    tokenDeposit := (utility.mapServiceIdTokenDeposit serviceId).securityDeposit
    agentBond := fun agentId =>
      utility.mapServiceAndAgentIdAgentBond (serviceAgent serviceId agentId) }

/-- A call of the staking contract with what the registries answer to it. -/
def reading (w : StakedWorld) : StakingCall → StakingCall
  | .stake sender answers view serviceId rewardDistributionInfo =>
    .stake sender answers (w.stakeView serviceId view) serviceId rewardDistributionInfo
  | call => call

/-- Code of the registries as code of the whole system. -/
def inSystem (w : StakedWorld) : SystemRun → StakedRun
  | .ok out => .ok (out.embed w.withSystem .system)
  | .error reason => .error (.inl reason)

/-- Code of the staking contract as code of the whole system. -/
def inStaking (w : StakedWorld) :
    Except StakingError (Outcome StakingWorld StakingFrame) → StakedRun
  | .ok out => .ok (out.embed w.withStaking .staking)
  | .error reason => .error (.inr reason)

def enter (setup : Setup) (self : Address) (call : StakedCall) (w : StakedWorld) : StakedRun :=
  match call with
  | .system call => w.inSystem (w.system.enter setup call)
  | .staking (.mint ..) | .staking (.approve ..) | .staking (.setApprovalForAll ..)
  | .staking (.transferFrom ..) => .error (.inr .externalFailure)
  | .staking call => w.inStaking (StakingWorld.enter self (w.reading call) w.stakingWorld)

def resume (setup : Setup) (self : Address) (frame : StakedFrame) (answer : SystemAnswer)
    (w : StakedWorld) : StakedRun :=
  match frame with
  | .system frame => w.inSystem (w.system.resume setup frame answer)
  | .staking frame => w.inStaking (StakingWorld.resume self frame () w.stakingWorld)

end StakedWorld

def stakedMachine (setup : Setup) (self : Address) :
    Machine StakedWorld StakedCall StakedFrame SystemAnswer (Revert ⊕ StakingError) where
  enter := StakedWorld.enter setup self
  resume := StakedWorld.resume setup self

end AutonolasRegistries.Source
