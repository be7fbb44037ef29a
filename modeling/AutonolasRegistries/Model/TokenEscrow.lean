import AutonolasRegistries.Library.Ledger
import AutonolasRegistries.Model.ServiceSheet
import AutonolasRegistries.Source.TokenUtility

/-!
# Both ledgers of a service

The registry and the token utility each keep a part of what belongs to a service. A folio
puts the two parts side by side, with the packed keys taken away, and the escrow is the
folios of all services with the tokens that went in and out. Its steps are what the
manager can make of the two contracts; where the manager waits for a token, the two halves
of a function are two steps, and what is under way between them is written down.
-/
namespace AutonolasRegistries.Model
open Library Source

/-- The token utility on one service. -/
structure TokenSheet where
  token : Address
  deposit : Nat
  bonds : Uint32 → Nat
  balances : Address → Nat

def tokenSheet (s : UtilityState) (serviceId : Nat) : TokenSheet where
  token := (s.mapServiceIdTokenDeposit serviceId).token
  deposit := (s.mapServiceIdTokenDeposit serviceId).securityDeposit
  bonds x := s.mapServiceAndAgentIdAgentBond (serviceAgent serviceId x)
  balances a := s.mapOperatorAndServiceIdOperatorBalances (operatorService a serviceId)

structure Folio where
  service : ServiceSheet
  tokens : TokenSheet

/-- The bonds of the listed Ids, each counted as often as it is listed. -/
def bondsOf (bonds : Uint32 → Nat) (agentIds : List Uint32) : Nat := (agentIds.map bonds).sum

/-- What the registry may do to a service without the token utility having a part in it. -/
def TokenSheet.Untouched (tokens : TokenSheet) : ServiceAction → Prop
  | .configure _ => False
  | .activate | .register .. | .terminate => tokens.token = 0
  | .unbond operator => tokens.token = 0 ∨ tokens.balances operator = 0
  | .deploy | .slash => True

/-- `create` and `update` of the manager; `kept` are the Ids with slots. -/
inductive Folio.Configures (f f' : Folio) (kept : List (Uint32 × AgentParams)) : Prop where
  -- `create` for ETH does not tell the token utility about the service.
  | created (fresh : f.service.service.state = .nonExistent)
      (bonds : ∀ e ∈ kept, e.2.bond ≠ 0)
      (service : f.service.Step f'.service (.configure kept))
      (tokens : f'.tokens = f.tokens) : Folio.Configures f f' kept
  | reset (bonds : ∀ e ∈ kept, e.2.bond ≠ 0)
      (service : f.service.Step f'.service (.configure kept))
      (tokens : f'.tokens = { f.tokens with token := 0, deposit := 0 }) :
      Folio.Configures f f' kept
  -- The bonds of Ids that are not passed stay, whatever they are.
  | secured {token : Address} {bonds : List (Uint32 × Nat)} (someToken : token ≠ 0)
      (wrapped : ∀ e ∈ kept, e.2.bond = 1)
      (service : f.service.Step f'.service (.configure kept))
      (ids : (bonds.filter fun b => b.2 ≠ 0).map Prod.fst = kept.map Prod.fst)
      (small : ∀ b ∈ bonds, b.2 < 2 ^ 96)
      (written : ∀ b ∈ bonds, b.2 ≠ 0 → f'.tokens.bonds b.1 = b.2)
      (recorded : f'.tokens.token = token)
      (deposit : f'.tokens.deposit = (bonds.map Prod.snd).foldl max 0)
      (balances : f'.tokens.balances = f.tokens.balances) : Folio.Configures f f' kept

/-- A function of the manager that waits for a transfer, with the token and the amount. -/
inductive Waiting where
  | activating (id : Uint32) (token : Address) (amount : Nat)
  | registering (operator : Address) (id : Uint32) (token : Address) (amount : Nat)
      (agentIds : List Uint32)
  | terminating (id : Uint32) (token : Address) (amount : Nat)
  | unbonding (operator : Address) (id : Uint32)

@[ext] structure Escrow where
  folios : Uint32 → Folio
  slashed : Address → Nat
  pulled : Address → Nat
  sent : Address → Nat
  waiting : List Waiting

/-- Adds to one entry of a mapping. -/
def credit (m : Address → Nat) (token : Address) (amount : Nat) : Address → Nat :=
  Function.update m token (m token + amount)

namespace Escrow

def write (e : Escrow) (id : Uint32) (f : Folio) : Escrow :=
  { e with folios := Function.update e.folios id f }

def writeService (e : Escrow) (id : Uint32) (t : ServiceSheet) : Escrow :=
  e.write id { e.folios id with service := t }

def writeBalances (e : Escrow) (id : Uint32) (balances : Address → Nat) : Escrow :=
  e.write id { e.folios id with tokens := { (e.folios id).tokens with balances } }

inductive Step (e : Escrow) : Escrow → Prop where
  | idle : Step e e
  | registry {id : Uint32} {t : ServiceSheet} {action : ServiceAction}
      (untouched : (e.folios id).tokens.Untouched action)
      (step : (e.folios id).service.Step t action) : Step e (e.writeService id t)
  | configure {id : Uint32} {f : Folio} {kept : List (Uint32 × AgentParams)}
      (free : e.waiting = []) (step : (e.folios id).Configures f kept) : Step e (e.write id f)
  | activating {id : Uint32} {tokens : TokenSheet} (here : (e.folios id).tokens = tokens)
      (free : e.waiting = []) (secured : tokens.token ≠ 0) :
      Step e { e with waiting := [.activating id tokens.token tokens.deposit] }
  | activated {id : Uint32} {token : Address} {amount : Nat} {rest : List Waiting}
      {t : ServiceSheet} (waits : e.waiting = .activating id token amount :: rest)
      (step : (e.folios id).service.Step t .activate) :
      Step e { e.writeService id t with
        pulled := credit e.pulled token amount
        waiting := rest }
  | registering {operator : Address} {id : Uint32} {agentIds : List Uint32}
      {tokens : TokenSheet} (here : (e.folios id).tokens = tokens)
      (free : e.waiting = []) (secured : tokens.token ≠ 0) :
      Step e { e.writeBalances id (credit tokens.balances operator
          (bondsOf tokens.bonds agentIds)) with
        waiting := [.registering operator id tokens.token (bondsOf tokens.bonds agentIds)
          agentIds] }
  | registered {operator : Address} {id : Uint32} {token : Address} {amount : Nat}
      {agentIds : List Uint32} {entries : List (Address × Uint32)} {rest : List Waiting}
      {t : ServiceSheet}
      (waits : e.waiting = .registering operator id token amount agentIds :: rest)
      (named : entries.map Prod.snd = agentIds)
      (step : (e.folios id).service.Step t (.register operator entries)) :
      Step e { e.writeService id t with
        pulled := credit e.pulled token amount
        waiting := rest }
  | terminating {id : Uint32} {tokens : TokenSheet} (here : (e.folios id).tokens = tokens)
      (free : e.waiting = []) (secured : tokens.token ≠ 0) :
      Step e { e with
        sent := credit e.sent tokens.token tokens.deposit
        waiting := [.terminating id tokens.token tokens.deposit] }
  | terminated {id : Uint32} {token : Address} {amount : Nat} {rest : List Waiting}
      {t : ServiceSheet} (waits : e.waiting = .terminating id token amount :: rest)
      (step : (e.folios id).service.Step t .terminate) :
      Step e { e.writeService id t with waiting := rest }
  | unbonding {operator : Address} {id : Uint32} {tokens : TokenSheet}
      (here : (e.folios id).tokens = tokens) (free : e.waiting = [])
      (secured : tokens.token ≠ 0) :
      Step e { e.writeBalances id (Function.update tokens.balances operator 0) with
        sent := credit e.sent tokens.token (tokens.balances operator)
        waiting := [.unbonding operator id] }
  | unbonded {operator : Address} {id : Uint32} {rest : List Waiting} {t : ServiceSheet}
      (waits : e.waiting = .unbonding operator id :: rest)
      (step : (e.folios id).service.Step t (.unbond operator)) :
      Step e { e.writeService id t with waiting := rest }
  | slash {id : Uint32} {balances : Address → Nat} {taken : Nat} {tokens : TokenSheet}
      (here : (e.folios id).tokens = tokens)
      (deployed : (e.folios id).service.service.state = .deployed)
      (secured : tokens.token ≠ 0) (below : ∀ a, balances a ≤ tokens.balances a)
      (conserved : total balances + taken = total tokens.balances) :
      Step e { e.writeBalances id balances with slashed := credit e.slashed tokens.token taken }
  | drain (token : Address) :
      Step e { e with
        slashed := Function.update e.slashed token 0
        sent := credit e.sent token (e.slashed token) }

theorem Step.reaches {e e₁ e₂ : Escrow} (step : e.Step e₁) (same : e₂ = e₁) : e.Step e₂ :=
  same ▸ step

end Escrow
end AutonolasRegistries.Model
