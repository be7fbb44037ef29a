import AutonolasRegistries.Source.StakingMachine

/-!
# StakingFactory and StakingVerifier

`StakingFactory.sol:75-345`, `StakingVerifier.sol:63-352` and `StakingProxy.sol`. The
factory deploys proxies of the two staking contracts, makes one call with a payload of the
caller on each, has a verifier look at the result, and keeps a record of those that passed.
The contracts behind the proxies are those of `Source.StakingMachine`, with the NFT of the
service registry shared between them.

Nothing in `createStakingInstance` hands over control: a payload reaches a contract whose
storage is empty, so it initialises the contract, has nobody to pay, or is refused. The
address a proxy gets is brought along by the call, and `create2` fails where there is a
proxy already. The history beside the storage says what was created, with the verifier as
it was then, what was initialised, and what was removed.
-/
namespace AutonolasRegistries.Source
open Library

/-- Which of the two staking contracts an implementation is. -/
inductive StakingKind where
  | token | native
  deriving DecidableEq, Repr

structure VerifierState where
  olas : Address
  serviceRegistry : Address
  serviceRegistryTokenUtility : Address
  minStakingDepositLimit : Nat
  timeForEmissionsLimit : Nat
  numServicesLimit : Nat
  apyLimit : Nat
  owner : Address
  implementationsCheck : Bool
  mapImplementations : Address → Bool

structure InstanceParams where
  implementation : Address
  deployer : Address
  isEnabled : Bool
  deriving DecidableEq, Repr

/-- A record that was never written, or was deleted. -/
def InstanceParams.empty : InstanceParams := ⟨0, 0, false⟩

structure FactoryState where
  nonce : Nat
  owner : Address
  verifier : Address
  locked : Nat
  mapInstanceParams : Address → InstanceParams

inductive FactoryError where
  | ownerOnly (sender owner : Address)
  | zeroAddress
  | zeroValue
  | wrongArrayLength (numValues1 numValues2 : Nat)
  | contractOnly (account : Address)
  | incorrectDataLength (provided expected : Nat)
  | unverifiedImplementation (implementation : Address)
  | proxyCreationFailed (implementation : Address)
  | initializationFailed (proxy : Address)
  | unverifiedProxy (proxy : Address)
  | reentrancyGuard
  | externalFailure
  | staking (reason : StakingError)
  | panic
  deriving DecidableEq, Repr

/-- A proxy: the contract it runs, its storage, and the field of that storage which only
the token contract has. -/
structure StakingInstance where
  kind : StakingKind
  store : StakingState
  serviceRegistryTokenUtility : Address

/-- The storage of a staking contract behind a proxy before anything is written. -/
def StakingInstance.blank (kind : StakingKind) : StakingInstance where
  kind
  store := {
    asset := match kind with
      | .token => .token 0
      | .native => .native
    params := ⟨0, 0, 0, 0, 0, 0, 0, 0, 0, [], 0, 0, 0, 0, 0⟩
    minStakingDuration := 0
    maxInactivityDuration := 0
    emissionsAmount := 0
    epochCounter := 0
    balance := 0
    availableRewards := 0
    tsCheckpoint := 0
    mapServiceInfo := fun _ => ServiceInfo.empty
    setServiceIds := []
    locked := 0 }
  serviceRegistryTokenUtility := 0

/-- The functions of the two staking contracts; `view` is any that writes nothing. -/
inductive InstanceCall where
  | initializeToken (p : StakingParams) (serviceRegistryTokenUtility stakingToken : Address)
      (checkerCodeLength : Nat)
  | initializeNative (p : StakingParams) (checkerCodeLength : Nat)
  | deposit (amount : Nat)
  | receive (value : Nat)
  | checkpoint (answers : Nat → ActivityAnswer)
  | stake (answers : Nat → ActivityAnswer) (view : StakeView)
      (serviceId rewardDistributionInfo : Nat)
  | unstake (answers : Nat → ActivityAnswer) (view : RewardView) (serviceId : Nat)
      (enforced : Bool)
  | claim (answers : Nat → ActivityAnswer) (view : RewardView) (serviceId : Nat)
      (execCheckPoint : Bool)
  | view

/-- A payload: how many bytes it has, and the call the contract makes of them, if any. -/
structure InitPayload where
  length : Nat
  call : Option InstanceCall

inductive FactoryEvent where
  | created (proxy implementation deployer : Address) (verifier : Option VerifierState)
      (snapshot : StakingInstance)
  | initialised (proxy : Address)
  | removed (proxy : Address)

/-- The proxy an event is about. -/
def FactoryEvent.proxy : FactoryEvent → Address
  | .created proxy _ _ _ _ | .initialised proxy | .removed proxy => proxy

structure FactoryWorld where
  factory : FactoryState
  verifiers : Address → Option VerifierState
  instances : Address → Option StakingInstance
  nft : ERC721
  supply : Nat
  timestamp : Nat
  history : List FactoryEvent

namespace StakingVerifier

def oneYear : Nat := 24 * 60 * 60 * 365

def verifyImplementation (v : VerifierState) (implementation : Address) : Bool :=
  if v.implementationsCheck then v.mapImplementations implementation else true

/-- The token check: a native contract has no `stakingToken` to call. -/
def verifyToken (v : VerifierState) (i : StakingInstance) : Bool :=
  match i.store.asset with
  | .token token =>
    if token ≠ v.olas then false
    else if token ≠ 0 ∧ v.serviceRegistryTokenUtility ≠ 0 then
      i.serviceRegistryTokenUtility = v.serviceRegistryTokenUtility
    else true
  | .native => true

/-- An account without code has no instance. -/
def verifyInstance (v : VerifierState) (found : Option StakingInstance)
    (implementation : Address) : Except FactoryError Bool :=
  if v.implementationsCheck ∧ ¬ v.mapImplementations implementation then .ok false else
  match found with
  | none => .ok false
  | some i =>
    let p := i.store.params
    if p.serviceRegistry ≠ v.serviceRegistry then .ok false
    else if v.minStakingDepositLimit < p.minStakingDeposit then .ok false
    else do
      let rewardsPerYear ← checkedMul 256 .panic p.rewardsPerSecond oneYear
      let scaled ← checkedMul 256 .panic rewardsPerYear (10 ^ 18)
      revertIf (p.minStakingDeposit = 0) .panic
      let apy := scaled / p.minStakingDeposit
      if v.apyLimit < apy then return false
      else if v.timeForEmissionsLimit < p.timeForEmissions then return false
      else if v.numServicesLimit < p.maxNumServices then return false
      else return verifyToken v i

section Owner
variable (sender : Address)

/-- The constructor. -/
def deployment (olas serviceRegistry serviceRegistryTokenUtility : Address)
    (minStakingDepositLimit timeForEmissionsLimit numServicesLimit apyLimit : Nat) :
    Except FactoryError VerifierState := do
  revertIf (olas = 0 ∨ serviceRegistry = 0) .zeroAddress
  revertIf (minStakingDepositLimit = 0 ∨ timeForEmissionsLimit = 0 ∨ numServicesLimit = 0 ∨
    apyLimit = 0) .zeroValue
  return {
    olas, serviceRegistry, serviceRegistryTokenUtility, minStakingDepositLimit
    timeForEmissionsLimit, numServicesLimit, apyLimit
    owner := sender
    implementationsCheck := false
    mapImplementations := fun _ => false }

def changeOwner (newOwner : Address) (v : VerifierState) : Except FactoryError VerifierState := do
  revertIf (sender ≠ v.owner) (.ownerOnly sender v.owner)
  revertIf (newOwner = 0) .zeroAddress
  return { v with owner := newOwner }

def setImplementationsCheck (setCheck : Bool) (v : VerifierState) :
    Except FactoryError VerifierState := do
  revertIf (v.owner ≠ sender) (.ownerOnly v.owner sender)
  return { v with implementationsCheck := setCheck }

/-- The loop of `setImplementationsStatuses`. -/
def setStatus (entry : Address × Bool) (m : Address → Bool) :
    Except FactoryError (Address → Bool) := do
  revertIf (entry.1 = 0) .zeroAddress
  return Function.update m entry.1 entry.2

def setImplementationsStatuses (implementations : List Address) (statuses : List Bool)
    (setCheck : Bool) (v : VerifierState) : Except FactoryError VerifierState := do
  revertIf (v.owner ≠ sender) (.ownerOnly v.owner sender)
  revertIf (implementations.length = 0 ∨ implementations.length ≠ statuses.length)
    (.wrongArrayLength implementations.length statuses.length)
  let mapImplementations ← loop setStatus (implementations.zip statuses) v.mapImplementations
  return { v with implementationsCheck := setCheck, mapImplementations }

def changeStakingLimits
    (minStakingDepositLimit timeForEmissionsLimit numServicesLimit apyLimit : Nat)
    (v : VerifierState) : Except FactoryError VerifierState := do
  revertIf (v.owner ≠ sender) (.ownerOnly v.owner sender)
  revertIf (minStakingDepositLimit = 0 ∨ timeForEmissionsLimit = 0 ∨ numServicesLimit = 0 ∨
    apyLimit = 0) .zeroValue
  return { v with minStakingDepositLimit, timeForEmissionsLimit, numServicesLimit, apyLimit }

end Owner
end StakingVerifier

/-- The functions of a verifier for its owner. -/
inductive VerifierCall where
  | changeOwner (newOwner : Address)
  | setImplementationsCheck (setCheck : Bool)
  | setImplementationsStatuses (implementations : List Address) (statuses : List Bool)
      (setCheck : Bool)
  | changeStakingLimits
      (minStakingDepositLimit timeForEmissionsLimit numServicesLimit apyLimit : Nat)

def VerifierCall.run (sender : Address) : VerifierCall → VerifierState →
    Except FactoryError VerifierState
  | .changeOwner newOwner => StakingVerifier.changeOwner sender newOwner
  | .setImplementationsCheck setCheck => StakingVerifier.setImplementationsCheck sender setCheck
  | .setImplementationsStatuses implementations statuses setCheck =>
    StakingVerifier.setImplementationsStatuses sender implementations statuses setCheck
  | .changeStakingLimits minStakingDepositLimit timeForEmissionsLimit numServicesLimit
      apyLimit =>
    StakingVerifier.changeStakingLimits sender minStakingDepositLimit timeForEmissionsLimit
      numServicesLimit apyLimit

/-- A call into a staking contract that waits for a transfer. -/
abbrev InstanceFrame := Address × StakingFrame

abbrev FactoryRun := Except FactoryError (Outcome FactoryWorld InstanceFrame)

namespace StakingInstance

/-- `initialize`: the fields of the storage it writes. -/
def setUp (asset : StakingAsset) (serviceRegistryTokenUtility : Address) (p : StakingParams)
    (checkerCodeLength timestamp : Nat) (i : StakingInstance) :
    Except StakingError StakingInstance := do
  revertIf (i.store.params.serviceRegistry ≠ 0) .alreadyInitialized
  let s ← StakingBase.initializeStaking asset serviceRegistryTokenUtility p checkerCodeLength
    timestamp true
  return { i with
    store := { i.store with
      asset := s.asset
      params := s.params
      minStakingDuration := s.minStakingDuration
      maxInactivityDuration := s.maxInactivityDuration
      emissionsAmount := s.emissionsAmount
      tsCheckpoint := s.tsCheckpoint }
    serviceRegistryTokenUtility }

end StakingInstance

namespace FactoryWorld

/-- A staking contract as `Source.StakingMachine` sees it. -/
def staking (w : FactoryWorld) (i : StakingInstance) : StakingWorld :=
  ⟨i.store, w.nft, w.supply, w.timestamp, []⟩

def withInstance (w : FactoryWorld) (proxy : Address) (i : StakingInstance) : FactoryWorld :=
  { w with instances := Function.update w.instances proxy (some i) }

/-- What the code of a staking contract leaves. -/
def absorb (w : FactoryWorld) (proxy : Address) (i : StakingInstance) (s : StakingWorld) :
    FactoryWorld :=
  { w.withInstance proxy { i with store := s.store } with
    nft := s.nft
    supply := s.supply
    timestamp := s.timestamp }

def stakingRun {α β : Type} (name : α → β) : Except StakingError α → Except FactoryError β
  | .ok value => .ok (name value)
  | .error reason => .error (.staking reason)

/-- Code of the staking contract behind a proxy. -/
def embed (w : FactoryWorld) (proxy : Address) (i : StakingInstance)
    (run : Except StakingError (Outcome StakingWorld StakingFrame)) : FactoryRun :=
  stakingRun (Outcome.embed (w.absorb proxy i) (proxy, ·)) run

/-- `initialize` of one of the two contracts; the other one has no such function. -/
def initialise (w : FactoryWorld) (proxy : Address) (i : StakingInstance) (kind : StakingKind)
    (asset : StakingAsset) (serviceRegistryTokenUtility : Address) (p : StakingParams)
    (checkerCodeLength : Nat) : FactoryRun :=
  if i.kind = kind then
    stakingRun (fun i => .done { w.withInstance proxy i with
      history := w.history ++ [.initialised proxy] })
      (i.setUp asset serviceRegistryTokenUtility p checkerCodeLength w.timestamp)
  else .error .externalFailure

/-- A call of a proxy. -/
def callInstance (w : FactoryWorld) (sender : Caller) (proxy : Address) (call : InstanceCall) :
    FactoryRun :=
  match w.instances proxy with
  | none => .error .externalFailure
  | some i =>
    let run (call : StakingCall) : FactoryRun :=
      w.embed proxy i (StakingWorld.enter proxy call (w.staking i))
    match call with
    | .initializeToken p serviceRegistryTokenUtility stakingToken checkerCodeLength =>
      w.initialise proxy i .token (.token stakingToken) serviceRegistryTokenUtility p
        checkerCodeLength
    | .initializeNative p checkerCodeLength =>
      w.initialise proxy i .native .native i.serviceRegistryTokenUtility p checkerCodeLength
    | .deposit amount => run (.deposit sender amount)
    | .receive value => run (.receive sender value)
    | .checkpoint answers => run (.checkpoint sender answers)
    | .stake answers view serviceId rewardDistributionInfo =>
      run (.stake sender answers view serviceId rewardDistributionInfo)
    | .unstake answers view serviceId enforced =>
      run (.unstake sender answers view serviceId enforced)
    | .claim answers view serviceId execCheckPoint =>
      run (.claim sender answers view serviceId execCheckPoint)
    | .view => .ok (.done w)

def resume (frame : InstanceFrame) (_ : Unit) (w : FactoryWorld) : FactoryRun :=
  match w.instances frame.1 with
  | none => .error .externalFailure
  | some i => w.embed frame.1 i (StakingWorld.resume frame.1 frame.2 () (w.staking i))

/-- The verifier a function of the factory calls, if there is one. -/
def localVerifier (w : FactoryWorld) : Except FactoryError (Option VerifierState) :=
  if w.factory.verifier = 0 then .ok none
  else match w.verifiers w.factory.verifier with
    | none => .error .externalFailure
    | some v => .ok (some v)

end FactoryWorld

namespace StakingFactory
open FactoryWorld

def selectorDataLength : Nat := 4

/-- `create2` at an address: it fails where there is a contract. -/
def create2 (w : FactoryWorld) (proxy : Address) : Address :=
  if (w.instances proxy).isSome then 0 else proxy

/-- The call of the payload. A deposit goes to no token, so it returns at once. -/
def callPayload (self : Caller) (proxy : Address) (payload : InitPayload) (w : FactoryWorld) :
    Except FactoryError FactoryWorld :=
  match payload.call with
  | none => .error (.initializationFailed proxy)
  | some call => do
    match ← w.callInstance self proxy call with
    | .done w => return w
    | .suspended w frame =>
      match ← w.resume frame () with
      | .done w => return w
      | .suspended _ _ => .error .externalFailure

/-- The check of the implementation, where there is a verifier. -/
def checkImplementation (verifier : Option VerifierState) (implementation : Address) :
    Except FactoryError Unit :=
  match verifier with
  | none => .ok ()
  | some v => revertIf (¬ StakingVerifier.verifyImplementation v implementation)
      (.unverifiedImplementation implementation)

/-- The check of the proxy after the call. -/
def checkInstance (verifier : Option VerifierState) (implementation proxy : Address)
    (w : FactoryWorld) : Except FactoryError Unit :=
  match verifier with
  | none => .ok ()
  | some v => do
    let verified ← StakingVerifier.verifyInstance v (w.instances proxy) implementation
    revertIf (¬ verified) (.unverifiedProxy proxy)

def createStakingInstance (self : Caller) (code : Address → Option StakingKind)
    (sender : Caller) (implementation : Address) (payload : InitPayload) (address : Address)
    (w : FactoryWorld) : Except FactoryError FactoryWorld := do
  revertIf (1 < w.factory.locked) .reentrancyGuard
  revertIf (implementation = 0) .zeroAddress
  match code implementation with
  | none => .error (.contractOnly implementation)
  | some kind => do
    revertIf (payload.length < selectorDataLength)
      (.incorrectDataLength payload.length selectorDataLength)
    let verifier ← w.localVerifier
    checkImplementation verifier implementation
    let localNonce := w.factory.nonce
    let proxy := create2 w address
    revertIf (proxy = 0) (.proxyCreationFailed implementation)
    let w ← callPayload self proxy payload (w.withInstance proxy (.blank kind))
    checkInstance verifier implementation proxy w
    let nonce ← checkedAdd 256 .panic localNonce 1
    return { w with
      factory := { w.factory with
        mapInstanceParams := Function.update w.factory.mapInstanceParams proxy
          ⟨implementation, sender, true⟩
        nonce
        locked := 1 }
      history := w.history ++ [.created proxy implementation sender verifier
        ((w.instances proxy).getD (.blank kind))] }

section Administration
variable (sender : Address)

def setInstanceStatus (proxy : Address) (isEnabled : Bool) (w : FactoryWorld) :
    Except FactoryError FactoryWorld := do
  let deployer := (w.factory.mapInstanceParams proxy).deployer
  revertIf (sender ≠ deployer) (.ownerOnly sender deployer)
  return { w with factory := { w.factory with
    mapInstanceParams := Function.update w.factory.mapInstanceParams proxy
      { w.factory.mapInstanceParams proxy with isEnabled } } }

def removeInstance (proxy : Address) (w : FactoryWorld) : Except FactoryError FactoryWorld := do
  revertIf (sender ≠ w.factory.owner) (.ownerOnly sender w.factory.owner)
  revertIf ((w.factory.mapInstanceParams proxy).deployer = 0) .zeroAddress
  return { w with
    factory := { w.factory with
      mapInstanceParams := Function.update w.factory.mapInstanceParams proxy
        InstanceParams.empty }
    history := w.history ++ [.removed proxy] }

def changeOwner (newOwner : Address) (w : FactoryWorld) : Except FactoryError FactoryWorld := do
  revertIf (sender ≠ w.factory.owner) (.ownerOnly sender w.factory.owner)
  revertIf (newOwner = 0) .zeroAddress
  return { w with factory := { w.factory with owner := newOwner } }

def changeVerifier (newVerifier : Address) (w : FactoryWorld) :
    Except FactoryError FactoryWorld := do
  revertIf (sender ≠ w.factory.owner) (.ownerOnly sender w.factory.owner)
  return { w with factory := { w.factory with verifier := newVerifier } }

end Administration

def verifyInstance (proxy : Address) (w : FactoryWorld) : Except FactoryError Bool :=
  let instanceParams := w.factory.mapInstanceParams proxy
  if ¬ instanceParams.isEnabled then .ok false
  else do
    match ← w.localVerifier with
    | some v => StakingVerifier.verifyInstance v (w.instances proxy) instanceParams.implementation
    | none => return true

end StakingFactory

inductive FactoryCall where
  | createStakingInstance (sender : Caller) (implementation : Address) (payload : InitPayload)
      (address : Address)
  | setInstanceStatus (sender : Caller) (proxy : Address) (isEnabled : Bool)
  | removeInstance (sender : Caller) (proxy : Address)
  | changeOwner (sender : Caller) (newOwner : Address)
  | changeVerifier (sender : Caller) (newVerifier : Address)
  | deployVerifier (sender : Caller) (address olas serviceRegistry : Address)
      (serviceRegistryTokenUtility : Address)
      (minStakingDepositLimit timeForEmissionsLimit numServicesLimit apyLimit : Nat)
  | verifier (sender : Caller) (address : Address) (call : VerifierCall)
  | staking (sender : Caller) (proxy : Address) (call : InstanceCall)
  | tick (elapsed : Nat)
  | nft (nft : ERC721) (supply : Nat)

namespace FactoryWorld

def done (run : Except FactoryError FactoryWorld) : FactoryRun := do
  let w ← run
  return .done w

/-- `nft` stands for whatever others do with their services. -/
def enter (self : Caller) (code : Address → Option StakingKind) (call : FactoryCall)
    (w : FactoryWorld) : FactoryRun :=
  match call with
  | .createStakingInstance sender implementation payload address =>
    done (StakingFactory.createStakingInstance self code sender implementation payload address w)
  | .setInstanceStatus sender proxy isEnabled =>
    done (StakingFactory.setInstanceStatus sender proxy isEnabled w)
  | .removeInstance sender proxy => done (StakingFactory.removeInstance sender proxy w)
  | .changeOwner sender newOwner => done (StakingFactory.changeOwner sender newOwner w)
  | .changeVerifier sender newVerifier =>
    done (StakingFactory.changeVerifier sender newVerifier w)
  | .deployVerifier sender address olas serviceRegistry serviceRegistryTokenUtility
      minStakingDepositLimit timeForEmissionsLimit numServicesLimit apyLimit => do
    revertIf (w.verifiers address).isSome .externalFailure
    let v ← StakingVerifier.deployment sender olas serviceRegistry serviceRegistryTokenUtility
      minStakingDepositLimit timeForEmissionsLimit numServicesLimit apyLimit
    return .done { w with verifiers := Function.update w.verifiers address (some v) }
  | .verifier sender address call =>
    match w.verifiers address with
    | none => .error .externalFailure
    | some v => do
      let v ← call.run sender v
      return .done { w with verifiers := Function.update w.verifiers address (some v) }
  | .staking sender proxy call => w.callInstance sender proxy call
  | .tick elapsed => .ok (.done { w with timestamp := w.timestamp + elapsed })
  | .nft nft supply => .ok (.done { w with nft, supply })

end FactoryWorld

/-- The constructor of the factory, in a world without proxies. -/
def FactoryWorld.deployment (deployer : Caller) (verifier : Address)
    (verifiers : Address → Option VerifierState) (nft : ERC721) (supply timestamp : Nat) :
    FactoryWorld where
  factory := ⟨0, deployer, verifier, 1, fun _ => InstanceParams.empty⟩
  verifiers
  instances := fun _ => none
  nft
  supply
  timestamp
  history := []

end AutonolasRegistries.Source
