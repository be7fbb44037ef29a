import AutonolasRegistries.Library.ByteFields
import AutonolasRegistries.Source.StakingMachine

/-!
# StakingActivityChecker

The checker counts the transactions a multisig made, `StakingActivityChecker.sol:18-62`. Its
answers reach `_checkRatioPass` as the bytes the ABI encodes them into. The staking contract
runs here together with the multisigs, which execute transactions of their own whenever they
like; a call of the checker may also run out of gas, and then it fails.
-/
namespace AutonolasRegistries.Source
open Library

namespace StakingActivityChecker

/-- The constructor; the value is the liveness ratio. -/
def create (livenessRatio : Nat) : Except StakingError Nat := do
  revertIf (livenessRatio = 0) .zeroValue
  return livenessRatio

def getMultisigNonces (nonce : Address → Nat) (multisig : Address) : List Nat := [nonce multisig]

def isRatioPass (livenessRatio : Nat) (curNonces lastNonces : List Nat) (ts : Nat) :
    Except Panic Bool :=
  if 0 < ts then do
    let curNonce ← readAt .arrayIndex curNonces 0
    let lastNonce ← readAt .arrayIndex lastNonces 0
    if lastNonce < curNonce then
      let difference ← checkedSub .arithmetic curNonce lastNonce
      let scaled ← checkedMul 256 .arithmetic difference (10 ^ 18)
      return livenessRatio ≤ scaled / ts
    else return false
  else .ok false

section Encoding

/-- `abi.encode` of an array of words. -/
def encodeArray (words : List Nat) : List Byte :=
  toBytes 32 32 ++ toBytes 32 words.length ++ words.flatMap (toBytes 32)

/-- `abi.encode` of a flag. -/
def encodeBool (flag : Bool) : List Byte := toBytes 32 (if flag then 1 else 0)

/-- A call of the checker that goes through. -/
def returned {α : Type} (encode : α → List Byte) : Except Panic α → RawAnswer
  | .ok value => ⟨true, encode value⟩
  | .error _ => ⟨false, []⟩

end Encoding

/-- Which of the two calls of an iteration run out of gas. -/
structure Starved where
  getMultisigNonces : Bool
  isRatioPass : Bool
  deriving DecidableEq, Repr

/-- The answers of the checker in one iteration. -/
def answer (livenessRatio : Nat) (nonce : Address → Nat) (starved : Starved) : ActivityAnswer where
  getMultisigNonces multisig :=
    if starved.getMultisigNonces then ⟨false, []⟩
    else ⟨true, encodeArray (StakingActivityChecker.getMultisigNonces nonce multisig)⟩
  isRatioPass curNonces lastNonces ts :=
    if starved.isRatioPass then ⟨false, []⟩
    else returned encodeBool
      (StakingActivityChecker.isRatioPass livenessRatio curNonces lastNonces ts)

end StakingActivityChecker

/-- A call of the staking contract that gets its answers from the checker. -/
def StakingCall.asking (nonce : Address → Nat) (answers : Nat → ActivityAnswer) :
    StakingCall → StakingCall
  | .checkpoint sender _ => .checkpoint sender answers
  | .stake sender _ view serviceId rewardDistributionInfo =>
    .stake sender answers
      { view with
        nonces := some (StakingActivityChecker.getMultisigNonces nonce view.service.multisig) }
      serviceId rewardDistributionInfo
  | .unstake sender _ view serviceId enforced => .unstake sender answers view serviceId enforced
  | .claim sender _ view serviceId execCheckPoint =>
    .claim sender answers view serviceId execCheckPoint
  | call => call

/-- The staking contract and the nonces of the multisigs. `begun` keeps the nonce each service
had when it was last staked, for a reader of the chain. -/
structure ActivityWorld where
  staking : StakingWorld
  nonces : Address → Nat
  begun : Nat → Nat

inductive ActivityCall where
  | staking (call : StakingCall) (starved : Nat → StakingActivityChecker.Starved)
  | execTransaction (multisig : Address)

namespace ActivityWorld

def noteBegun (call : StakingCall) (w : ActivityWorld) : Nat → Nat :=
  match call with
  | .stake _ _ view serviceId _ =>
    Function.update w.begun serviceId (w.nonces view.service.multisig)
  | _ => w.begun

def enter (livenessRatio : Nat) (self : Address) (call : ActivityCall) (w : ActivityWorld) :
    Except StakingError (Outcome ActivityWorld StakingFrame) :=
  match call with
  | .staking call starved => do
    let answers := fun i => StakingActivityChecker.answer livenessRatio w.nonces (starved i)
    let out ← w.staking.enter self (call.asking w.nonces answers)
    return out.map fun staking => { w with staking, begun := w.noteBegun call }
  | .execTransaction multisig => do
    let nonce ← checkedAdd 256 .externalFailure (w.nonces multisig) 1
    return .done { w with nonces := Function.update w.nonces multisig nonce }

def resume (self : Address) (frame : StakingFrame) (answer : Unit) (w : ActivityWorld) :
    Except StakingError (Outcome ActivityWorld StakingFrame) := do
  let out ← w.staking.resume self frame answer
  return out.map fun staking => { w with staking }

end ActivityWorld

def activityMachine (livenessRatio : Nat) (self : Address) :
    Machine ActivityWorld ActivityCall StakingFrame Unit StakingError where
  enter := ActivityWorld.enter livenessRatio self
  resume := ActivityWorld.resume self

/-- The account behind a call of the staking contract. -/
def ActivityCall.sender : ActivityCall → Option Address
  | .staking call _ => call.sender
  | .execTransaction _ => none

/-- The staking contract makes no calls besides those of its own code. -/
def activityDiscipline (self : Address) :
    Discipline ActivityWorld ActivityCall StakingFrame Unit where
  call call _ := call.sender ≠ some self
  answer _ _ _ := True

instance (self : Address) (call : ActivityCall) (w : ActivityWorld) :
    Decidable ((activityDiscipline self).call call w) :=
  inferInstanceAs (Decidable (call.sender ≠ some self))

instance (self : Address) (frame : StakingFrame) (answer : Unit) (w : ActivityWorld) :
    Decidable ((activityDiscipline self).answer frame answer w) := .isTrue trivial

end AutonolasRegistries.Source
