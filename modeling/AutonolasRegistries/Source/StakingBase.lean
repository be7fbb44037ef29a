import AutonolasRegistries.Source.ERC721

/-!
# StakingBase, StakingToken and StakingNativeToken

`StakingBase.sol:226-1121`, with the two contracts that fix how deposits are
checked and rewards are paid. Memory arrays are lists; the storage array
`setServiceIds` is a list read and written through checked accesses, each with the
place it stands in, so that a panic says where it happened.

What the contract asks of others is an argument: the registry's view functions
(`StakeView`, `RewardView`), the raw answers of the activity checker for each
iteration of the checkpoint loop, and the answer of a custom distributor. The
rewards are paid one by one in calls that hand over control, so `claim` and
`unstake` end with the list of payments to make; `Source.StakingMachine` carries
them out.
-/
namespace AutonolasRegistries.Source
open Library

/-- Where a checked operation of the staking code stands. -/
inductive StakingSite where
  | setup | deposit | rewards | inactivity | evict | unstakeTime | unstakeSet | unstakeReward
  | split | withdraw
  deriving DecidableEq, Repr

inductive StakingPanic where
  | arithmetic | arrayIndex | emptyPop | enumRange
  deriving DecidableEq, Repr

inductive StakingError where
  | ownerOnly (sender owner : Address)
  | zeroAddress
  | zeroValue
  | nonZeroValue
  | contractOnly (account : Address)
  | wrongAgentId (agentId : Nat)
  | wrongServiceState (state serviceId : Nat)
  | wrongArrayLength (numValues1 numValues2 : Nat)
  | unauthorizedMultisig (multisig : Address)
  | alreadyInitialized
  | noRewardsAvailable
  | maxNumServicesReached (maxNumServices : Nat)
  | lowerThan (provided expected : Nat)
  | valueLowerThan (provided expected : Nat)
  | wrongStakingToken (expected provided : Address)
  | zeroTokenAddress
  | wrongAmount (provided expected : Nat)
  | wrongServiceConfiguration (serviceId : Nat)
  | serviceNotUnstaked (serviceId : Nat)
  | notEnoughTimeStaked (serviceId tsProvided tsExpected : Nat)
  | reentrancyGuard
  | unauthorizedAccount (account : Address)
  | decoding
  | externalFailure
  | token (reason : Revert)
  | panic (site : StakingSite) (kind : StakingPanic)
  deriving DecidableEq, Repr

structure StakingParams where
  metadataHash : Bytes32
  maxNumServices : Nat
  rewardsPerSecond : Nat
  minStakingDeposit : Nat
  minNumStakingPeriods : Nat
  maxNumInactivityPeriods : Nat
  livenessPeriod : Nat
  timeForEmissions : Nat
  numAgentInstances : Nat
  agentIds : List Nat
  threshold : Nat
  configHash : Bytes32
  proxyHash : Bytes32
  serviceRegistry : Address
  activityChecker : Address

structure ServiceInfo where
  multisig : Address
  owner : Address
  nonces : List Nat
  tsStart : Nat
  reward : Nat
  inactivity : Nat
  rewardDistributionInfo : Nat
  deriving DecidableEq, Repr

/-- A record that was never written, or was deleted. -/
def ServiceInfo.empty : ServiceInfo := ⟨0, 0, [], 0, 0, 0, 0⟩

/-- The two contracts over the base, with the token of the first. -/
inductive StakingAsset where
  | token (stakingToken : Address)
  | native
  deriving DecidableEq, Repr

structure StakingState where
  asset : StakingAsset
  params : StakingParams
  minStakingDuration : Nat
  maxInactivityDuration : Nat
  emissionsAmount : Nat
  epochCounter : Nat
  balance : Nat
  availableRewards : Nat
  tsCheckpoint : Nat
  mapServiceInfo : Nat → ServiceInfo
  setServiceIds : List Nat
  locked : Nat

inductive StakingStatus where
  | unstaked | staked | evicted
  deriving DecidableEq, Repr

inductive RewardDistributionType where
  | proportional | serviceOwner | serviceMultisig | custom
  deriving DecidableEq, Repr

/-- `RewardDistributionType(uint8(rewardDistributionInfo))`. -/
def distributionType (info : Nat) : Option RewardDistributionType :=
  match info % 256 with
  | 0 => some .proportional
  | 1 => some .serviceOwner
  | 2 => some .serviceMultisig
  | 3 => some .custom
  | _ => none

/-- `address(uint160(rewardDistributionInfo >> 8))`. -/
def customRewardsDistributor (info : Nat) : Address := Fin.ofNat _ (info / 256)

/-- What `_stake` reads from the registries, the checker and the chain. A view call
that reverts has no answer. -/
structure StakeView where
  service : Service
  agentParams : List AgentParams
  token : Address
  tokenDeposit : Nat
  agentBond : Uint32 → Nat
  nonces : Option (List Nat)
  codehash : Address → Bytes32
  codeLength : Address → Nat

/-- What `_getRewardReceiversAndAmounts` reads. -/
structure RewardView where
  agentInstances : List Address
  mapAgentInstanceOperators : Address → Address
  distribution : Option (List Address × List Nat)

/-- A low-level call: whether it succeeded, and the bytes it returned. -/
structure RawAnswer where
  success : Bool
  returnData : List (Fin 256)

/-- The answers of the activity checker in one iteration of the loop. They may
depend on the gas left, hence on the iteration. -/
structure ActivityAnswer where
  getMultisigNonces : Address → RawAnswer
  isRatioPass : List Nat → List Nat → Nat → RawAnswer

section Decoding

/-- The big-endian word at a byte offset. -/
def wordAt (data : List (Fin 256)) (offset : Nat) : Nat :=
  ((data.drop offset).take 32).foldl (fun acc byte => acc * 256 + byte.val) 0

/-- `abi.decode(data, (uint256[]))`. -/
def decodeArray (data : List (Fin 256)) : Except StakingError (List Nat) := do
  let offset := wordAt data 0
  revertIf (data.length < offset + 32) .decoding
  let size := wordAt data offset
  revertIf (data.length < offset + 32 + 32 * size) .decoding
  return (List.range size).map fun i => wordAt data (offset + 32 + 32 * i)

/-- `abi.decode(data, (bool))` on one word. -/
def decodeBool (data : List (Fin 256)) : Except StakingError Bool := do
  revertIf (1 < wordAt data 0) .decoding
  return wordAt data 0 = 1

end Decoding

section Arrays

def readEntry (site : StakingSite) (items : List Nat) (index : Nat) : Except StakingError Nat :=
  match items[index]? with
  | some item => .ok item
  | none => .error (.panic site .arrayIndex)

def writeEntry {α : Type} (site : StakingSite) (items : List α) (index : Nat) (value : α) :
    Except StakingError (List α) :=
  if index < items.length then .ok (items.set index value) else .error (.panic site .arrayIndex)

def popLast (site : StakingSite) (items : List Nat) : Except StakingError (List Nat) :=
  if items = [] then .error (.panic site .emptyPop) else .ok items.dropLast

/-- `set[idx] = set[last]; set.pop();` -/
def swapPop (site : StakingSite) (idx last : Nat) (items : List Nat) :
    Except StakingError (List Nat) := do
  let value ← readEntry site items last
  let items ← writeEntry site items idx value
  popLast site items

end Arrays

namespace StakingBase

/-- The agent Id loop of `_initialize`. -/
def checkAgentIds : Nat → List Nat → Except StakingError Unit
  | _, [] => .ok ()
  | last, agentId :: rest => do
    revertIf (agentId ≤ last) (.wrongAgentId agentId)
    checkAgentIds agentId rest

/-- `_initialize` and the checks of the two contracts; `tokenUtility` is only looked
at by the token contract. The lock starts at one in a contract of its own and at zero
behind a proxy, which does not run the constructor. -/
def initializeStaking (asset : StakingAsset) (tokenUtility : Address) (p : StakingParams)
    (checkerCodeLength timestamp : Nat) (viaProxy : Bool) : Except StakingError StakingState := do
  revertIf (p.metadataHash = 0 ∨ p.maxNumServices = 0 ∨ p.rewardsPerSecond = 0 ∨
    p.livenessPeriod = 0 ∨ p.numAgentInstances = 0 ∨ p.timeForEmissions = 0 ∨
    p.minNumStakingPeriods = 0 ∨ p.maxNumInactivityPeriods = 0) .zeroValue
  revertIf (p.minNumStakingPeriods < p.maxNumInactivityPeriods)
    (.lowerThan p.minNumStakingPeriods p.maxNumInactivityPeriods)
  revertIf (p.minStakingDeposit < 2) (.lowerThan p.minStakingDeposit 2)
  revertIf (p.serviceRegistry = 0 ∨ p.activityChecker = 0) .zeroAddress
  revertIf (checkerCodeLength = 0) (.contractOnly p.activityChecker)
  checkAgentIds 0 p.agentIds
  revertIf (p.proxyHash = 0) .zeroValue
  let minStakingDuration ← checkedMul 256 (.panic .setup .arithmetic)
    p.minNumStakingPeriods p.livenessPeriod
  let maxInactivityDuration ← checkedMul 256 (.panic .setup .arithmetic)
    p.maxNumInactivityPeriods p.livenessPeriod
  let perSecond ← checkedMul 256 (.panic .setup .arithmetic)
    p.rewardsPerSecond p.maxNumServices
  let emissionsAmount ← checkedMul 256 (.panic .setup .arithmetic)
    perSecond p.timeForEmissions
  match asset with
  | .token stakingToken =>
    revertIf (stakingToken = 0 ∨ tokenUtility = 0) .zeroTokenAddress
  | .native => pure ()
  return {
    asset, params := p, minStakingDuration, maxInactivityDuration, emissionsAmount
    epochCounter := 0
    balance := 0
    availableRewards := 0
    tsCheckpoint := timestamp
    mapServiceInfo := fun _ => ServiceInfo.empty
    setServiceIds := []
    locked := if viaProxy then 0 else 1 }

/-- `_checkRatioPass`. A failed or misshapen answer counts as not passed; a well-sized
one that does not decode reverts. -/
def checkRatioPass (answer : ActivityAnswer) (multisig : Address) (lastNonces : List Nat)
    (ts : Nat) : Except StakingError (Bool × List Nat) := do
  let first := answer.getMultisigNonces multisig
  if first.success ∧ 63 < first.returnData.length ∧ first.returnData.length % 32 = 0 then
    let currentNonces ← decodeArray first.returnData
    let second := answer.isRatioPass currentNonces lastNonces ts
    if second.success ∧ second.returnData.length = 32 then
      let ratioPass ← decodeBool second.returnData
      return (ratioPass, currentNonces)
    else return (false, currentNonces)
  else return (false, [])

/-- The arrays `_calculateStakingRewards` fills. `eligible` pairs the eligible service
Ids with their rewards; the other two have one entry for each staked service. -/
structure Calculated where
  lastAvailableRewards : Nat
  totalRewards : Nat
  eligible : List (Nat × Nat)
  serviceIds : List Nat
  serviceNonces : List (List Nat)
  serviceInactivity : List Nat

/-- The time a service is paid from: the last checkpoint, or its own start. -/
def serviceCheckpoint (s : StakingState) (serviceId : Nat) : Nat :=
  max s.tsCheckpoint (s.mapServiceInfo serviceId).tsStart

def calculateBody (s : StakingState) (timestamp : Nat) (answers : Nat → ActivityAnswer)
    (serviceId : Nat) (c : Calculated) : Except StakingError Calculated := do
  let sInfo := s.mapServiceInfo serviceId
  let ts ← checkedSub (.panic .rewards .arithmetic) timestamp (serviceCheckpoint s serviceId)
  let (ratioPass, nonces) ← checkRatioPass (answers c.serviceIds.length) sInfo.multisig
    sInfo.nonces ts
  if ratioPass then
    let reward ← checkedMul 256 (.panic .rewards .arithmetic) s.params.rewardsPerSecond ts
    let totalRewards ← checkedAdd 256 (.panic .rewards .arithmetic) c.totalRewards reward
    return { c with
      totalRewards
      eligible := c.eligible ++ [(serviceId, reward)]
      serviceIds := c.serviceIds ++ [serviceId]
      serviceNonces := c.serviceNonces ++ [nonces]
      serviceInactivity := c.serviceInactivity ++ [0] }
  else
    return { c with
      serviceIds := c.serviceIds ++ [serviceId]
      serviceNonces := c.serviceNonces ++ [nonces]
      serviceInactivity := c.serviceInactivity ++ [ts] }

def calculateStakingRewards (timestamp : Nat) (answers : Nat → ActivityAnswer)
    (s : StakingState) : Except StakingError Calculated := do
  let start : Calculated := ⟨s.availableRewards, 0, [], [], [], []⟩
  if 0 < s.setServiceIds.length then
    let elapsed ← checkedSub (.panic .rewards .arithmetic) timestamp s.tsCheckpoint
    if s.params.livenessPeriod ≤ elapsed ∧ 0 < s.availableRewards then
      loop (calculateBody s timestamp answers) s.setServiceIds start
    else return start
  else return start

/-- `mapServiceInfo[serviceId].reward += amount`. -/
def addReward (entry : Nat × Nat) (m : Nat → ServiceInfo) :
    Except StakingError (Nat → ServiceInfo) := do
  let sInfo := m entry.1
  let reward ← checkedAdd 256 (.panic .rewards .arithmetic) sInfo.reward entry.2
  return Function.update m entry.1 { sInfo with reward }

/-- `eligibleServiceRewards[i] * lastAvailableRewards / totalRewards`. -/
def adjustReward (available totalRewards : Nat) (entry : Nat × Nat) :
    Except StakingError (Nat × Nat) := do
  let product ← checkedMul 256 (.panic .rewards .arithmetic) entry.2 available
  return (entry.1, product / totalRewards)

/-- What a checkpoint pays out: the new records, the final rewards in the order of
the eligible services, and the rewards that stay available. -/
structure Distributed where
  mapInfo : Nat → ServiceInfo
  final : List (Nat × Nat)
  availableRewards : Nat

/-- What the rounding left over goes to the reward processed last. -/
def addLeftover (available updatedTotalRewards updatedReward : Nat) : Except StakingError Nat :=
  if updatedTotalRewards < available then
    checkedAdd 256 (.panic .rewards .arithmetic) updatedReward (available - updatedTotalRewards)
  else .ok updatedReward

/-- Not enough rewards: every share is scaled down, and the first eligible service,
which is processed last, also gets what the rounding left over. -/
def distributeShortfall (c : Calculated) (first : Nat × Nat) (rest : List (Nat × Nat))
    (m : Nat → ServiceInfo) : Except StakingError Distributed := do
  let others ← rest.mapM (adjustReward c.lastAvailableRewards c.totalRewards)
  let m ← loop addReward others m
  let share ← adjustReward c.lastAvailableRewards c.totalRewards first
  let updatedTotalRewards ← checkedAdd 256 (.panic .rewards .arithmetic)
    (others.map Prod.snd).sum share.2
  let updatedReward ← addLeftover c.lastAvailableRewards updatedTotalRewards share.2
  let m ← addReward (first.1, updatedReward) m
  return { mapInfo := m, final := (first.1, updatedReward) :: others, availableRewards := 0 }

def distribute (c : Calculated) (m : Nat → ServiceInfo) : Except StakingError Distributed :=
  match c.eligible with
  | [] => .ok { mapInfo := m, final := [], availableRewards := c.lastAvailableRewards }
  | first :: rest =>
    if c.lastAvailableRewards < c.totalRewards then distributeShortfall c first rest m
    else do
      let m ← loop addReward (first :: rest) m
      let availableRewards ← checkedSub (.panic .rewards .arithmetic) c.lastAvailableRewards
        c.totalRewards
      return { mapInfo := m, final := first :: rest, availableRewards }

/-- The running values of the inactivity loop. `serviceInactivity` and `evictServiceIds`
have one entry for each service, the second one zero if it stays; `numServices` counts the
others. -/
structure InactivityLoop where
  mapInfo : Nat → ServiceInfo
  serviceInactivity : List Nat
  evictServiceIds : List Nat
  numServices : Nat

/-- One service of the inactivity loop: its nonces, and its inactivity in this
checkpoint. -/
def inactivityBody (maxInactivityDuration : Nat) (entry : Nat × List Nat × Nat)
    (l : InactivityLoop) : Except StakingError InactivityLoop := do
  let (serviceId, nonces, inactive) := entry
  let sInfo := l.mapInfo serviceId
  if 0 < inactive then
    let inactivity ← checkedAdd 256 (.panic .inactivity .arithmetic) sInfo.inactivity inactive
    let mapInfo := Function.update l.mapInfo serviceId { sInfo with nonces, inactivity }
    let serviceInactivity := l.serviceInactivity ++ [inactivity]
    if maxInactivityDuration < inactivity then
      return {
        mapInfo, serviceInactivity
        evictServiceIds := l.evictServiceIds ++ [serviceId]
        numServices := l.numServices + 1 }
    else
      return { l with mapInfo, serviceInactivity, evictServiceIds := l.evictServiceIds ++ [0] }
  else
    return { l with
      mapInfo := Function.update l.mapInfo serviceId { sInfo with nonces, inactivity := 0 }
      serviceInactivity := l.serviceInactivity ++ [inactive]
      evictServiceIds := l.evictServiceIds ++ [0] }

/-- The arrays `_evict` fills in its first loop, allocated for the evicted services. All but
`serviceIndexes` end up in `ServicesEvicted`. -/
structure EvictArrays where
  finalEvictedServiceIds : List Nat
  owners : List Address
  multisigs : List Address
  inactivity : List Nat
  serviceIndexes : List Nat
  sCounter : Nat

def EvictArrays.allocate (numEvictServices : Nat) : EvictArrays where
  finalEvictedServiceIds := List.replicate numEvictServices 0
  owners := List.replicate numEvictServices 0
  multisigs := List.replicate numEvictServices 0
  inactivity := List.replicate numEvictServices 0
  serviceIndexes := List.replicate numEvictServices 0
  sCounter := 0

def evictFillBody (mapServiceInfo : Nat → ServiceInfo) (serviceInactivity : List Nat)
    (entry : Nat × Nat) (f : EvictArrays) : Except StakingError EvictArrays := do
  let (serviceId, i) := entry
  if 0 < serviceId then
    let finalEvictedServiceIds ←
      writeEntry .evict f.finalEvictedServiceIds f.sCounter serviceId
    let sInfo := mapServiceInfo serviceId
    let owners ← writeEntry .evict f.owners f.sCounter sInfo.owner
    let multisigs ← writeEntry .evict f.multisigs f.sCounter sInfo.multisig
    let inactive ← readEntry .evict serviceInactivity i
    let inactivity ← writeEntry .evict f.inactivity f.sCounter inactive
    let serviceIndexes ← writeEntry .evict f.serviceIndexes f.sCounter i
    return {
      finalEvictedServiceIds, owners, multisigs, inactivity, serviceIndexes
      sCounter := f.sCounter + 1 }
  else return f

/-- Second loop of `_evict`, from the last evicted index down to the first. -/
def evictLoop (serviceIndexes : List Nat) :
    Nat → Nat → List Nat → Except StakingError (List Nat)
  | 0, _, items => .ok items
  | i + 1, totalNumServices, items => do
    let totalNumServices ← checkedSub (.panic .evict .arithmetic) totalNumServices 1
    let idx ← readEntry .evict serviceIndexes i
    let items ← swapPop .evict idx totalNumServices items
    evictLoop serviceIndexes i totalNumServices items

/-- `_evict`: the filled arrays and the remaining set. -/
def evict (mapServiceInfo : Nat → ServiceInfo) (evictServiceIds serviceInactivity : List Nat)
    (numEvictServices : Nat) (setServiceIds : List Nat) :
    Except StakingError (EvictArrays × List Nat) := do
  let arrays ← loop (evictFillBody mapServiceInfo serviceInactivity) evictServiceIds.zipIdx
    (.allocate numEvictServices)
  let remaining ← evictLoop arrays.serviceIndexes numEvictServices evictServiceIds.length
    setServiceIds
  return (arrays, remaining)

/-- The evicted services and the remaining set. -/
def evictInactive (l : InactivityLoop) (setServiceIds : List Nat) :
    Except StakingError (List Nat × List Nat) :=
  if 0 < l.numServices then do
    let (arrays, remaining) ←
      evict l.mapInfo l.evictServiceIds l.serviceInactivity l.numServices setServiceIds
    return (arrays.finalEvictedServiceIds, remaining)
  else .ok ([], setServiceIds)

/-- What `_checkpoint` returns, with the values it computed on the way. -/
structure CheckpointResult where
  calculated : Calculated
  serviceIds : List Nat
  finalRewards : List (Nat × Nat)
  evictServiceIds : List Nat

/-- The second half of `_checkpoint`, entered when there are services to account. -/
def closeEpoch (timestamp : Nat) (c : Calculated) (s : StakingState) :
    Except StakingError (StakingState × List Nat) := do
  let l ← loop (inactivityBody s.maxInactivityDuration)
    (c.serviceIds.zip (c.serviceNonces.zip c.serviceInactivity)) ⟨s.mapServiceInfo, [], [], 0⟩
  let (evicted, setServiceIds) ← evictInactive l s.setServiceIds
  let _ ← checkedSub (.panic .rewards .arithmetic) timestamp s.tsCheckpoint
  let epochCounter ← checkedAdd 256 (.panic .rewards .arithmetic) s.epochCounter 1
  return ({ s with
    mapServiceInfo := l.mapInfo
    setServiceIds, epochCounter
    tsCheckpoint := timestamp }, evicted)

def checkpoint (timestamp : Nat) (answers : Nat → ActivityAnswer) (s : StakingState) :
    Except StakingError (StakingState × CheckpointResult) := do
  let c ← calculateStakingRewards timestamp answers s
  let d ← distribute c s.mapServiceInfo
  let s := { s with mapServiceInfo := d.mapInfo, availableRewards := d.availableRewards }
  if 0 < c.serviceIds.length then
    let (s, evicted) ← closeEpoch timestamp c s
    let serviceIds := if 0 < evicted.length then s.setServiceIds else c.serviceIds
    return (s, ⟨c, serviceIds, d.final, evicted⟩)
  else return (s, ⟨c, s.setServiceIds, d.final, []⟩)

/-- The shares of a proportional split: the same for every operator, the rest for
the owner. -/
def proportionalAmounts (numInstances reward : Nat) : Except StakingError (List Nat) := do
  let operatorReward := reward / (numInstances + 1)
  let operators ← checkedMul 256 (.panic .split .arithmetic) numInstances operatorReward
  let owner ← checkedSub (.panic .split .arithmetic) reward operators
  return List.replicate numInstances operatorReward ++ [owner]

/-- One receiver of a custom distribution, and the running total. -/
def distributionBody (self : Address) (entry : Address × Nat) (amountCheck : Nat) :
    Except StakingError Nat := do
  revertIf (entry.1 = 0) .zeroAddress
  revertIf (entry.1 = self) (.unauthorizedAccount entry.1)
  checkedAdd 256 (.panic .split .arithmetic) amountCheck entry.2

/-- The checks on the answer of a custom distributor. -/
def checkDistribution (self : Address) (reward : Nat) (receivers : List Address)
    (amounts : List Nat) : Except StakingError Unit := do
  revertIf (receivers.length = 0 ∨ receivers.length ≠ amounts.length)
    (.wrongArrayLength receivers.length amounts.length)
  let amountCheck ← loop (distributionBody self) (receivers.zip amounts) 0
  revertIf (amountCheck ≠ reward) (.wrongAmount amountCheck reward)

/-- `_getRewardReceiversAndAmounts`. -/
def getRewardReceiversAndAmounts (self : Address) (view : RewardView) (sInfo : ServiceInfo)
    (reward : Nat) : Except StakingError (List (Address × Nat)) :=
  match distributionType sInfo.rewardDistributionInfo with
  | none => .error (.panic .split .enumRange)
  | some .proportional => do
    let amounts ← proportionalAmounts view.agentInstances.length reward
    return (view.agentInstances.map view.mapAgentInstanceOperators ++ [sInfo.owner]).zip amounts
  | some .serviceOwner => .ok [(sInfo.owner, reward)]
  | some .serviceMultisig => .ok [(sInfo.multisig, reward)]
  | some .custom =>
    match view.distribution with
    | none => .error .externalFailure
    | some (receivers, amounts) => do
      checkDistribution self reward receivers amounts
      return receivers.zip amounts

/-- A call of the registry's NFT functions. -/
def tokenCall {α : Type} : Except Revert α → Except StakingError α
  | .ok value => .ok value
  | .error reason => .error (.token reason)

/-- The lock check that opens every external function. -/
def lock (s : StakingState) : Except StakingError StakingState := do
  revertIf (1 < s.locked) .reentrancyGuard
  return { s with locked := 2 }

def unlock (s : StakingState) : StakingState := { s with locked := 1 }

/-- `_checkTokenStakingDeposit` of the base and of the token contract. -/
def checkTokenStakingDeposit (view : StakeView) (s : StakingState) : Except StakingError Unit :=
  let minDeposit := s.params.minStakingDeposit
  match s.asset with
  | .native => do
    revertIf (view.service.securityDeposit < minDeposit)
      (.lowerThan view.service.securityDeposit minDeposit)
    loop (fun (p : AgentParams) _ =>
      revertIf (p.bond.val < minDeposit) (.lowerThan p.bond.val minDeposit)) view.agentParams ()
  | .token stakingToken => do
    revertIf (stakingToken ≠ view.token) (.wrongStakingToken stakingToken view.token)
    revertIf (view.tokenDeposit < minDeposit) (.valueLowerThan view.tokenDeposit minDeposit)
    loop (fun agentId _ => revertIf (view.agentBond agentId < minDeposit)
      (.valueLowerThan (view.agentBond agentId) minDeposit)) view.service.agentIds ()

/-- The agent Ids a staked service must have, if any are required. -/
def checkServiceAgentIds (serviceId : Nat) (required : List Nat) (agentIds : List Uint32) :
    Except StakingError Unit :=
  if 0 < required.length then do
    revertIf (required.length ≠ agentIds.length) (.wrongServiceConfiguration serviceId)
    loop (fun (pair : Nat × Uint32) _ => revertIf (pair.1 ≠ pair.2.val) (.wrongAgentId pair.1))
      (required.zip agentIds) ()
  else .ok ()

/-- The configuration a service must have to be staked. -/
def checkServiceConfiguration (view : StakeView) (serviceId : Nat) (s : StakingState) :
    Except StakingError Unit := do
  let service := view.service
  revertIf (s.params.numAgentInstances ≠ service.maxNumAgentInstances)
    (.wrongServiceConfiguration serviceId)
  revertIf (s.params.configHash ≠ 0 ∧ s.params.configHash ≠ service.configHash)
    (.wrongServiceConfiguration serviceId)
  revertIf (0 < s.params.threshold ∧ s.params.threshold ≠ service.threshold.val)
    (.wrongServiceConfiguration serviceId)
  revertIf (service.state ≠ .deployed) (.wrongServiceState service.state.toNat serviceId)
  revertIf (s.params.proxyHash ≠ view.codehash service.multisig)
    (.unauthorizedMultisig service.multisig)
  checkServiceAgentIds serviceId s.params.agentIds service.agentIds
  checkTokenStakingDeposit view s

def checkRewardDistribution (view : StakeView) (info : Nat) : Except StakingError Unit :=
  match distributionType info with
  | none => .error (.panic .split .enumRange)
  | some .custom => do
    revertIf (customRewardsDistributor info = 0) .zeroAddress
    revertIf (view.codeLength (customRewardsDistributor info) = 0)
      (.contractOnly (customRewardsDistributor info))
  | some _ => revertIf (customRewardsDistributor info ≠ 0) .nonZeroValue

def stake (self sender : Address) (timestamp : Nat) (answers : Nat → ActivityAnswer)
    (view : StakeView) (serviceId rewardDistributionInfo : Nat) (nft : ERC721)
    (s : StakingState) : Except StakingError (StakingState × ERC721 × CheckpointResult) := do
  let s ← lock s
  let (s, result) ← checkpoint timestamp answers s
  revertIf (s.availableRewards = 0) .noRewardsAvailable
  revertIf (0 < (s.mapServiceInfo serviceId).tsStart) (.serviceNotUnstaked serviceId)
  revertIf (s.setServiceIds.length = s.params.maxNumServices)
    (.maxNumServicesReached s.params.maxNumServices)
  checkServiceConfiguration view serviceId s
  match view.nonces with
  | none => .error .externalFailure
  | some nonces =>
    checkRewardDistribution view rewardDistributionInfo
    let sInfo := { s.mapServiceInfo serviceId with
      multisig := view.service.multisig
      owner := sender
      nonces
      tsStart := timestamp
      rewardDistributionInfo }
    let s := { s with
      mapServiceInfo := Function.update s.mapServiceInfo serviceId sInfo
      setServiceIds := s.setServiceIds ++ [serviceId] }
    let nft ← tokenCall (nft.transferFrom self sender self serviceId)
    return (unlock s, nft, result)

/-- Removes the service found at `idx` from the set. -/
def removeFromSet (idx : Nat) (items : List Nat) : Except StakingError (List Nat) := do
  let numServicesInSet ← checkedSub (.panic .unstakeSet .arithmetic) items.length 1
  if 0 < numServicesInSet then swapPop .unstakeSet idx numServicesInSet items
  else popLast .unstakeSet items

/-- The set without an unstaked service; an evicted one is not found in it. -/
def removeIfFound (serviceId : Nat) (serviceIds setServiceIds : List Nat) :
    Except StakingError (List Nat) :=
  match serviceIds.findIdx? (· == serviceId) with
  | some idx => removeFromSet idx setServiceIds
  | none => .ok setServiceIds

/-- What `claim` and `unstake` did before their payments. -/
structure PayoutResult where
  checkpoint : Option CheckpointResult
  reward : Nat
  payments : List (Address × Nat)

/-- `_unstake` up to `_withdraw`; the service goes back to its owner after the
payments. -/
def unstake (self sender : Address) (timestamp : Nat) (answers : Nat → ActivityAnswer)
    (view : RewardView) (serviceId : Nat) (enforced : Bool) (s : StakingState) :
    Except StakingError (StakingState × PayoutResult) := do
  let s ← lock s
  let (s, result) ← checkpoint timestamp answers s
  let sInfo := s.mapServiceInfo serviceId
  revertIf (sender ≠ sInfo.owner) (.ownerOnly sender sInfo.owner)
  let ts ← checkedSub (.panic .unstakeTime .arithmetic) timestamp sInfo.tsStart
  revertIf (ts ≤ s.minStakingDuration ∧ 0 < s.availableRewards)
    (.notEnoughTimeStaked serviceId ts s.minStakingDuration)
  let setServiceIds ← removeIfFound serviceId result.serviceIds s.setServiceIds
  let s := { s with
    mapServiceInfo := Function.update s.mapServiceInfo serviceId ServiceInfo.empty
    setServiceIds }
  if 0 < sInfo.reward then
    if enforced then
      let availableRewards ← checkedAdd 256 (.panic .unstakeReward .arithmetic)
        s.availableRewards sInfo.reward
      return ({ s with availableRewards }, ⟨some result, sInfo.reward, []⟩)
    else
      let payments ← getRewardReceiversAndAmounts self view sInfo sInfo.reward
      return (s, ⟨some result, sInfo.reward, payments⟩)
  else return (s, ⟨some result, 0, []⟩)

/-- `if (execCheckPoint) _checkpoint();` -/
def checkpointIf (execCheckPoint : Bool) (timestamp : Nat) (answers : Nat → ActivityAnswer)
    (s : StakingState) : Except StakingError (StakingState × Option CheckpointResult) :=
  if execCheckPoint then do
    let (s, result) ← checkpoint timestamp answers s
    return (s, some result)
  else .ok (s, none)

/-- `_claim` up to `_withdraw`. -/
def claim (self sender : Address) (timestamp : Nat) (answers : Nat → ActivityAnswer)
    (view : RewardView) (serviceId : Nat) (execCheckPoint : Bool) (s : StakingState) :
    Except StakingError (StakingState × PayoutResult) := do
  let s ← lock s
  revertIf (sender ≠ (s.mapServiceInfo serviceId).owner)
    (.ownerOnly sender (s.mapServiceInfo serviceId).owner)
  let (s, result) ← checkpointIf execCheckPoint timestamp answers s
  let sInfo := s.mapServiceInfo serviceId
  revertIf (sInfo.reward = 0) .zeroValue
  let s := { s with
    mapServiceInfo := Function.update s.mapServiceInfo serviceId { sInfo with reward := 0 } }
  let payments ← getRewardReceiversAndAmounts self view sInfo sInfo.reward
  return (s, ⟨result, sInfo.reward, payments⟩)

/-- `deposit` of the token contract up to the transfer, and `receive` of the native
one. -/
def credit (amount : Nat) (s : StakingState) : Except StakingError StakingState := do
  let s ← lock s
  let balance ← checkedAdd 256 (.panic .deposit .arithmetic) s.balance amount
  let availableRewards ← checkedAdd 256 (.panic .deposit .arithmetic) s.availableRewards amount
  return { s with balance, availableRewards }

/-- The share of one eligible service, computed by the view functions. -/
def pendingReward (c : Calculated) (entry : Nat × Nat) : Except StakingError Nat :=
  if c.lastAvailableRewards < c.totalRewards then do
    let product ← checkedMul 256 (.panic .rewards .arithmetic) entry.2 c.lastAvailableRewards
    return product / c.totalRewards
  else .ok entry.2

/-- The loop over the eligible services stops at the first one with the Id. -/
def calculateStakingLastReward (timestamp : Nat) (answers : Nat → ActivityAnswer)
    (serviceId : Nat) (s : StakingState) : Except StakingError Nat := do
  let c ← calculateStakingRewards timestamp answers s
  match c.eligible.find? (·.1 == serviceId) with
  | some entry => pendingReward c entry
  | none => return 0

def calculateStakingReward (timestamp : Nat) (answers : Nat → ActivityAnswer) (serviceId : Nat)
    (s : StakingState) : Except StakingError Nat := do
  let reward := (s.mapServiceInfo serviceId).reward
  let pending ← calculateStakingLastReward timestamp answers serviceId s
  checkedAdd 256 (.panic .rewards .arithmetic) reward pending

def getStakingState (s : StakingState) (serviceId : Nat) : StakingStatus :=
  let sInfo := s.mapServiceInfo serviceId
  if s.maxInactivityDuration < sInfo.inactivity then .evicted
  else if 0 < sInfo.tsStart then .staked
  else .unstaked

end StakingBase
end AutonolasRegistries.Source
