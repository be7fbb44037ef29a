import AutonolasRegistries.Source.RegistryMachine

/-!
# One service on its own

The registry keeps all services in shared maps under packed keys. The sheet of a
service is what those maps say about it, with the keys taken away, and the actions
are what can happen to a service. A registry call acts on the sheet of one service
and leaves all others alone; that is proved in `Guarantees.SheetRuns`. The
invariants of a service are statements about sheets.
-/
namespace AutonolasRegistries.Model
open Library Source

structure ServiceSheet where
  service : Service
  params : Uint32 → AgentParams
  lists : Uint32 → List Address
  operators : Address → List AgentInstance
  balances : Address → Nat

def sheet (s : RegistryState) (serviceId : Nat) : ServiceSheet where
  service := s.mapServices serviceId
  params x := s.mapServiceAndAgentIdAgentParams (serviceAgent serviceId x)
  lists x := s.mapServiceAndAgentIdAgentInstances (serviceAgent serviceId x)
  operators a := s.mapOperatorAndServiceIdAgentInstances (operatorService a serviceId)
  balances a := s.mapOperatorAndServiceIdOperatorBalances (operatorService a serviceId)

/-- Sum of the bonds of the given instances under the given parameters. -/
def bondOf (params : Uint32 → AgentParams) (instances : List AgentInstance) : Nat :=
  (instances.map fun a => (params a.agentId).bond.val).sum

def slotsOf (params : Uint32 → AgentParams) (agentIds : List Uint32) : Nat :=
  (agentIds.map fun x => (params x).slots.val).sum

/-- `(instance, agentId)` as stored under the operator. -/
def instancesOf (entries : List (Address × Uint32)) : List AgentInstance :=
  entries.map fun e => ⟨e.1, e.2⟩

inductive ServiceAction where
  | configure (entries : List (Uint32 × AgentParams))
  | activate
  | register (operator : Address) (entries : List (Address × Uint32))
  | deploy
  | slash
  | terminate
  | unbond (operator : Address)

namespace ServiceSheet

inductive Step (t t' : ServiceSheet) : ServiceAction → Prop where
  -- `create` on an empty record and `update`: Ids that are not listed keep whatever
  -- parameters they had, or lose them.
  | configure {entries : List (Uint32 × AgentParams)}
      (idle : t.service.state = .nonExistent ∨ t.service.state = .preRegistration)
      (unique : (entries.map Prod.fst).Nodup) (positive : ∀ e ∈ entries, e.2.slots ≠ 0)
      (written : ∀ e ∈ entries, t'.params e.1 = e.2)
      (state : t'.service.state = .preRegistration)
      (ids : t'.service.agentIds = entries.map Prod.fst)
      (capacity : t'.service.maxNumAgentInstances = slotsOf t'.params t'.service.agentIds)
      (count : t'.service.numAgentInstances = t.service.numAgentInstances)
      (lists : t'.lists = t.lists) (operators : t'.operators = t.operators)
      (balances : t'.balances = t.balances) : Step t t' (.configure entries)
  | activate (state : t.service.state = .preRegistration)
      (after : t' = { t with service := { t.service with state := .activeRegistration } }) :
      Step t t' .activate
  | register {operator : Address} {entries : List (Address × Uint32)}
      (state : t.service.state = .activeRegistration)
      (service : t'.service = { t.service with
        numAgentInstances := t.service.numAgentInstances + entries.length
        state :=
          if t.service.numAgentInstances + entries.length = t.service.maxNumAgentInstances then
            .finishedRegistration else t.service.state })
      (counted : t.service.numAgentInstances < 2 ^ 32 →
        t.service.numAgentInstances + entries.length < 2 ^ 32)
      (params : t'.params = t.params)
      (lists : ∀ x, t'.lists x = t.lists x ++ (entries.filter fun e => e.2 = x).map Prod.fst)
      (room : ∀ x, (t.lists x).length ≤ (t.params x).slots.val →
        (t'.lists x).length ≤ (t.params x).slots.val)
      (operators : t'.operators = Function.update t.operators operator
        (t.operators operator ++ instancesOf entries))
      (balances : t'.balances = Function.update t.balances operator
        (t.balances operator + bondOf t.params (instancesOf entries) % 2 ^ 96)) :
      Step t t' (.register operator entries)
  | deploy (multisig : Address) (state : t.service.state = .finishedRegistration)
      (after : t' = { t with service := { t.service with multisig, state := .deployed } }) :
      Step t t' .deploy
  | slash {balances : Address → Nat} (state : t.service.state = .deployed)
      (below : ∀ operator, balances operator ≤ t.balances operator)
      (after : t' = { t with balances }) : Step t t' .slash
  | terminate (state : t.service.state.holdsDeposit = true)
      (after : t' = { t with
        service := { t.service with
          state := if 0 < t.service.numAgentInstances then .terminatedBonded
            else .preRegistration }
        lists := fun x => if x ∈ t.service.agentIds then [] else t.lists x }) :
      Step t t' .terminate
  | unbond {operator : Address} (state : t.service.state = .terminatedBonded)
      (bonded : t.operators operator ≠ [])
      (enough : (t.operators operator).length % 2 ^ 32 ≤ t.service.numAgentInstances)
      (after : t' = { t with
        service := { t.service with
          numAgentInstances :=
            t.service.numAgentInstances - (t.operators operator).length % 2 ^ 32
          state :=
            if t.service.numAgentInstances - (t.operators operator).length % 2 ^ 32 = 0 then
              .preRegistration else t.service.state }
        operators := Function.update t.operators operator []
        balances := Function.update t.balances operator
          (if 0 < min (bondOf t.params (t.operators operator)) (t.balances operator) then 0
            else t.balances operator) }) :
      Step t t' (.unbond operator)

end ServiceSheet

/-- The service a call acts on, and how. -/
def callAction (s : RegistryState) : RegistryCall → Option (Nat × ServiceAction)
  | .create _ _ _ _ agentIds agentParams _ =>
    some (s.totalSupply + 1, .configure (agentIds.zip agentParams))
  | .update _ _ _ _ agentIds agentParams _ serviceId =>
    some (serviceId, .configure ((agentIds.zip agentParams).filter fun e => e.2.slots ≠ 0))
  | .activateRegistration _ _ _ serviceId => some (serviceId, .activate)
  | .registerAgents _ _ operator serviceId agentInstances agentIds =>
    some (serviceId, .register operator (agentInstances.zip agentIds))
  | .slash _ _ _ serviceId => some (serviceId, .slash)
  | .terminate _ _ serviceId => some (serviceId, .terminate)
  | .unbond _ operator serviceId => some (serviceId, .unbond operator)
  | _ => none

def frameAction : RegistryFrame → Option (Nat × ServiceAction)
  | .deploy serviceId => some (serviceId, .deploy)
  | _ => none

/-- The sheets after an action on one service, among the Ids whose keys do not
collide. -/
def SheetsMove (s s' : RegistryState) : Option (Nat × ServiceAction) → Prop
  | none => ∀ serviceId < 2 ^ 32, sheet s' serviceId = sheet s serviceId
  | some (target, action) => target < 2 ^ 32 ∧
    (sheet s target).Step (sheet s' target) action ∧
    ∀ serviceId < 2 ^ 32, serviceId ≠ target → sheet s' serviceId = sheet s serviceId

end AutonolasRegistries.Model
