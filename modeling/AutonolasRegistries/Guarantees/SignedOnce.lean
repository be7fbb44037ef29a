import AutonolasRegistries.Guarantees.ManagerFields
import AutonolasRegistries.Guarantees.MultisigBinding
import AutonolasRegistries.Library.ByteFields

/-!
# A signature is used once

An operator agrees to one action by one message: the function, itself, the service owner,
the service, the payload and a nonce. The manager keeps a nonce for each function, operator
and service and moves it on with every message it accepts, so no message is accepted
twice. Two messages have different hashes, as long as no two of the strings that are
hashed collide. `ServiceManager.sol:565-686`, `OperatorSignedHashes.sol:84-231`.
-/
namespace AutonolasRegistries.Guarantees
open Library Source

section Encoding

theorem abiEncode_injective : Function.Injective abiEncode := by
  intro words
  induction words with
  | nil =>
    intro words' same
    cases words' with
    | nil => rfl
    | cons word' rest' =>
      have lengths := congrArg List.length same
      simp only [abiEncode, List.flatMap_nil, List.flatMap_cons, List.length_append,
        length_toBytes, List.length_nil] at lengths
      omega
  | cons word rest ih =>
    intro words' same
    cases words' with
    | nil =>
      have lengths := congrArg List.length same
      simp only [abiEncode, List.flatMap_nil, List.flatMap_cons, List.length_append,
        length_toBytes, List.length_nil] at lengths
      omega
    | cons word' rest' =>
      change toBytes 32 word.val ++ abiEncode rest = toBytes 32 word'.val ++ abiEncode rest' at same
      obtain ⟨first, others⟩ := List.append_inj same (by simp only [length_toBytes])
      rw [Fin.ext (toBytes_injective word.isLt word'.isLt first), ih others]

theorem addressWord_injective : Function.Injective addressWord := fun _ _ same =>
  Fin.ext (Fin.mk.inj same)

theorem uint32Word_injective : Function.Injective uint32Word := fun _ _ same =>
  Fin.ext (Fin.mk.inj same)

theorem uint256Word_injective {n m : Nat} (small : n < 2 ^ 256) (small' : m < 2 ^ 256)
    (same : uint256Word n = uint256Word m) : n = m := by
  have values := congrArg Fin.val same
  rwa [uint256Word, uint256Word, Fin.val_ofNat, Fin.val_ofNat, Nat.mod_eq_of_lt small,
    Nat.mod_eq_of_lt small'] at values

theorem encodeAgents_injective {agentInstances agentInstances' : List Address}
    {agentIds agentIds' : List Uint32} (short : agentInstances.length < 2 ^ 64)
    (short' : agentInstances'.length < 2 ^ 64)
    (same : encodeAgents agentInstances agentIds = encodeAgents agentInstances' agentIds') :
    agentInstances = agentInstances' ∧ agentIds = agentIds' := by
  simp only [encodeAgents, List.cons_append, List.nil_append, List.cons.injEq, true_and] at same
  obtain ⟨-, count, arrays⟩ := same
  have lengths := uint256Word_injective (by omega) (by omega) count
  obtain ⟨instances, ids⟩ := List.append_inj arrays (by simp only [List.length_map, lengths])
  exact ⟨List.map_injective_iff.mpr addressWord_injective instances,
    List.map_injective_iff.mpr uint32Word_injective (List.cons.inj ids).2⟩

section Structs
variable {chain : Chain} {operator operator' serviceOwner serviceOwner' : Address}
  {serviceId serviceId' nonce nonce' : Nat} {agentInstances agentInstances' : List Address}
  {agentIds agentIds' : List Uint32}

theorem unbondBytes_injective (service : serviceId < 2 ^ 256) (service' : serviceId' < 2 ^ 256)
    (counter : nonce < 2 ^ 256) (counter' : nonce' < 2 ^ 256)
    (same : OperatorSignedHashes.unbondBytes chain operator serviceOwner serviceId nonce =
      OperatorSignedHashes.unbondBytes chain operator' serviceOwner' serviceId' nonce') :
    operator = operator' ∧ serviceOwner = serviceOwner' ∧ serviceId = serviceId' ∧
      nonce = nonce' := by
  have words := abiEncode_injective same
  simp only [List.cons.injEq, true_and, and_true] at words
  obtain ⟨operators, owners, services, counters⟩ := words
  exact ⟨addressWord_injective operators, addressWord_injective owners,
    uint256Word_injective service service' services,
    uint256Word_injective counter counter' counters⟩

theorem registerAgentsBytes_injective (service : serviceId < 2 ^ 256)
    (service' : serviceId' < 2 ^ 256) (counter : nonce < 2 ^ 256) (counter' : nonce' < 2 ^ 256)
    (same : OperatorSignedHashes.registerAgentsBytes chain operator serviceOwner serviceId
        agentInstances agentIds nonce =
      OperatorSignedHashes.registerAgentsBytes chain operator' serviceOwner' serviceId'
        agentInstances' agentIds' nonce') :
    operator = operator' ∧ serviceOwner = serviceOwner' ∧ serviceId = serviceId' ∧
      nonce = nonce' ∧
      chain.keccak256 (OperatorSignedHashes.agentsBytes agentInstances agentIds) =
        chain.keccak256 (OperatorSignedHashes.agentsBytes agentInstances' agentIds') := by
  have words := abiEncode_injective same
  simp only [List.cons.injEq, true_and, and_true] at words
  obtain ⟨operators, owners, services, arrays, counters⟩ := words
  exact ⟨addressWord_injective operators, addressWord_injective owners,
    uint256Word_injective service service' services,
    uint256Word_injective counter counter' counters, arrays⟩

/-- The two structs have different numbers of words. -/
theorem unbondBytes_ne_registerAgentsBytes :
    OperatorSignedHashes.unbondBytes chain operator serviceOwner serviceId nonce ≠
      OperatorSignedHashes.registerAgentsBytes chain operator' serviceOwner' serviceId'
        agentInstances agentIds nonce' := by
  intro same
  have words := abiEncode_injective same
  simp only [List.cons.injEq, List.nil_eq, reduceCtorEq, and_false] at words

end Structs

end Encoding

section Messages

/-- What a signed function does. -/
inductive SignedAction where
  | unbond
  | registerAgents (agentInstances : List Address) (agentIds : List Uint32)
  deriving DecidableEq

/-- What an operator agrees to. -/
structure SignedMessage where
  operator : Address
  serviceOwner : Address
  serviceId : Nat
  nonce : Nat
  action : SignedAction
  deriving DecidableEq

variable (setup : Setup)

/-- The bytes of the struct that is hashed first. -/
def SignedMessage.bytes (m : SignedMessage) : List Byte :=
  match m.action with
  | .unbond =>
    OperatorSignedHashes.unbondBytes setup.chain m.operator m.serviceOwner m.serviceId m.nonce
  | .registerAgents agentInstances agentIds =>
    OperatorSignedHashes.registerAgentsBytes setup.chain m.operator m.serviceOwner m.serviceId
      agentInstances agentIds m.nonce

/-- The hash the operator signs. -/
def SignedMessage.msgHash (m : SignedMessage) : Bytes32 :=
  match m.action with
  | .unbond =>
    OperatorSignedHashes.getUnbondHash setup.chain setup.self m.operator m.serviceOwner
      m.serviceId m.nonce
  | .registerAgents agentInstances agentIds =>
    OperatorSignedHashes.getRegisterAgentsHash setup.chain setup.self m.operator m.serviceOwner
      m.serviceId agentInstances agentIds m.nonce

/-- The arrays of the payload that are hashed on their own. -/
def SignedAction.payload : SignedAction → List Byte
  | .unbond => []
  | .registerAgents agentInstances agentIds =>
    OperatorSignedHashes.agentsBytes agentInstances agentIds

/-- The strings that are hashed for a message. -/
def SignedMessage.hashed (m : SignedMessage) : Set (List Byte) :=
  { OperatorSignedHashes.typedBytes setup.chain setup.self (setup.chain.keccak256 (m.bytes setup)),
    m.bytes setup, m.action.payload }

/-- The values fit the types of the source. -/
structure SignedMessage.Fits (m : SignedMessage) : Prop where
  service : m.serviceId < 2 ^ 32
  counter : m.nonce < 2 ^ 256
  short : ∀ agentInstances agentIds, m.action = .registerAgents agentInstances agentIds →
    agentInstances.length < 2 ^ 64

theorem SignedMessage.msgHash_eq (m : SignedMessage) :
    m.msgHash setup = setup.chain.keccak256 (OperatorSignedHashes.typedBytes setup.chain setup.self
      (setup.chain.keccak256 (m.bytes setup))) := by
  obtain ⟨operator, serviceOwner, serviceId, nonce, action⟩ := m
  cases action <;> rfl

theorem typedBytes_injective {chain : Chain} {self : Address} {a b : Bytes32}
    (same : OperatorSignedHashes.typedBytes chain self a =
      OperatorSignedHashes.typedBytes chain self b) : a = b := by
  have words := abiEncode_injective (List.append_cancel_left same)
  simpa using words

/-- Without collisions the bytes of a message determine it. -/
theorem SignedMessage.bytes_injective {m m' : SignedMessage} (fits : m.Fits) (fits' : m'.Fits)
    {strings : Set (List Byte)} (free : Set.InjOn setup.chain.keccak256 strings)
    (payload : m.action.payload ∈ strings) (payload' : m'.action.payload ∈ strings)
    (same : m.bytes setup = m'.bytes setup) : m = m' := by
  obtain ⟨operator, serviceOwner, serviceId, nonce, action⟩ := m
  obtain ⟨operator', serviceOwner', serviceId', nonce', action'⟩ := m'
  obtain ⟨service, counter, short⟩ := fits
  obtain ⟨service', counter', short'⟩ := fits'
  dsimp only at service counter short service' counter' short' payload payload'
  have wide : serviceId < 2 ^ 256 := by omega
  have wide' : serviceId' < 2 ^ 256 := by omega
  cases action with
  | unbond =>
    cases action' with
    | unbond =>
      obtain ⟨rfl, rfl, rfl, rfl⟩ :=
        unbondBytes_injective wide wide' counter counter' same
      rfl
    | registerAgents agentInstances agentIds =>
      exact absurd same unbondBytes_ne_registerAgentsBytes
  | registerAgents agentInstances agentIds =>
    cases action' with
    | unbond => exact absurd same.symm unbondBytes_ne_registerAgentsBytes
    | registerAgents agentInstances' agentIds' =>
      obtain ⟨rfl, rfl, rfl, rfl, arrays⟩ :=
        registerAgentsBytes_injective wide wide' counter counter' same
      obtain ⟨rfl, rfl⟩ := encodeAgents_injective (short agentInstances agentIds rfl)
        (short' agentInstances' agentIds' rfl)
        (abiEncode_injective (free payload payload' arrays))
      rfl

/-- Without collisions two messages have different hashes. -/
theorem SignedMessage.msgHash_injective {m m' : SignedMessage} (fits : m.Fits) (fits' : m'.Fits)
    {strings : Set (List Byte)} (free : Set.InjOn setup.chain.keccak256 strings)
    (known : m.hashed setup ⊆ strings) (known' : m'.hashed setup ⊆ strings)
    (same : m.msgHash setup = m'.msgHash setup) : m = m' := by
  rw [m.msgHash_eq, m'.msgHash_eq] at same
  have typed := free (known (.inl rfl)) (known' (.inl rfl)) same
  have structs := free (known (.inr (.inl rfl))) (known' (.inr (.inl rfl)))
    (typedBytes_injective typed)
  exact m.bytes_injective setup fits fits' free (known (.inr (.inr rfl)))
    (known' (.inr (.inr rfl))) structs

end Messages

section Calls

/-- The two signed functions have the same arguments apart from the payload. -/
structure SignedCall where
  sender : Address
  signing : SignatureViews
  operator : Address
  serviceId : Nat
  action : SignedAction
  signature : List Byte

def signedCall : SystemCall → Option SignedCall
  | .manager (.unbondWithSignature sender signing operator serviceId signature) =>
    some ⟨sender, signing, operator, serviceId, .unbond, signature⟩
  | .manager (.registerAgentsWithSignature sender _ signing _ operator serviceId agentInstances
      agentIds signature) =>
    some ⟨sender, signing, operator, serviceId,
      .registerAgents agentInstances.val agentIds.val, signature⟩
  | _ => none

/-- The nonces of a function. -/
def noncesOf (m : ManagerState) : SignedAction → Word → Nat
  | .unbond => m.mapOperatorUnbondNonces
  | .registerAgents _ _ => m.mapOperatorRegisterAgentsNonces

/-- The message of a call: the service owner is that of the registry, the nonce the
manager's. -/
def SignedCall.message (call : SignedCall) (w : SystemWorld) : SignedMessage where
  operator := call.operator
  serviceOwner := w.registry.store.erc721.owners call.serviceId
  serviceId := call.serviceId
  nonce := noncesOf w.manager call.action (operatorService call.operator call.serviceId)
  action := call.action

/-- What happened to the signatures: an account approved a hash, or the manager accepted
a message. -/
inductive SigningEvent where
  | approved (account : Address) (hash : Bytes32)
  | accepted (message : SignedMessage)
  deriving DecidableEq

def signingNote (call : SystemCall) (w _ : SystemWorld) : List SigningEvent :=
  match call with
  | .manager (.operatorApproveHash sender hash) => [.approved sender hash]
  | call => (signedCall call).toList.map fun signed => .accepted (signed.message w)

/-- The messages that were accepted. -/
def acceptedIn (history : List SigningEvent) : List SignedMessage :=
  history.filterMap fun event => match event with
    | .accepted message => some message
    | .approved _ _ => none

theorem acceptedIn_append (history later : List SigningEvent) :
    acceptedIn (history ++ later) = acceptedIn history ++ acceptedIn later :=
  List.filterMap_append

/-- The operator itself has agreed: its key signed the hash, its own contract confirms the
signature, or it has approved the hash before. -/
def Authorised (setup : Setup) (signing : SignatureViews) (signature : List Byte)
    (operator : Address) (msgHash : Bytes32) (history : List SigningEvent) : Prop :=
  (∃ last, signature[64]? = some last ∧
    setup.chain.ecrecover msgHash
      (OperatorSignedHashes.adjustedV last.val (signing.hasCode operator))
      (uint256Word (ofBytes (signature.take 32)))
      (uint256Word (ofBytes ((signature.drop 32).take 32))) = operator) ∨
  signing.isValidSignature operator msgHash signature = some OperatorSignedHashes.magicValue ∨
  .approved operator msgHash ∈ history

variable {setup : Setup} {w : SystemWorld} {out : Outcome SystemWorld SystemFrame}

/-- The three ways a signature is accepted. -/
theorem verifySignedHash_cases {chain : Chain} {views : SignatureViews}
    {approved : Address → Bytes32 → Bool} {operator : Address} {msgHash : Bytes32}
    {signature : List Byte} {u : Unit}
    (ran : OperatorSignedHashes.verifySignedHash chain views approved operator msgHash signature =
      .ok u) :
    (∃ last, signature[64]? = some last ∧
      chain.ecrecover msgHash
        (OperatorSignedHashes.adjustedV last.val (views.hasCode operator))
        (uint256Word (ofBytes (signature.take 32)))
        (uint256Word (ofBytes ((signature.drop 32).take 32))) = operator) ∨
    views.isValidSignature operator msgHash signature = some OperatorSignedHashes.magicValue ∨
    approved operator msgHash = true := by
  simp only [OperatorSignedHashes.verifySignedHash, bind_eq_ok, revertIf_eq_ok, exists_const]
    at ran
  obtain ⟨-, -, last, ends, ran⟩ := ran
  split at ran
  · simp only [bind_eq_ok, revertIf_eq_ok, exists_const, ne_eq, not_not] at ran
    obtain ⟨-, valid, same⟩ := ran
    rw [same] at valid
    exact .inr (.inl valid)
  · split at ran
    · simp only [bind_eq_ok, revertIf_eq_ok, exists_const, ne_eq, not_not,
        Bool.not_eq_false] at ran
      obtain ⟨hashApproved, same⟩ := ran
      rw [same] at hashApproved
      exact .inr (.inr hashApproved)
    · simp only [revertIf_eq_ok, ne_eq, not_not] at ran
      exact .inl ⟨last, readAt_eq_ok.mp ends, ran⟩

/-- What a signed call that goes through has checked. -/
theorem enter_signed {call : SystemCall} {signed : SignedCall}
    (parts : signedCall call = some signed) (ran : w.enter setup call = .ok out) :
    w.registry.store.erc721.ownerOf signed.serviceId = .ok signed.sender ∧
    (signed.message w).nonce + 1 < 2 ^ 256 ∧
    ∃ u, OperatorSignedHashes.verifySignedHash setup.chain signed.signing
      w.manager.mapOperatorApprovedHashes signed.operator ((signed.message w).msgHash setup)
      signed.signature = .ok u := by
  -- the owner in the message is the one the code has compared the sender with
  have sameOwner : ∀ {serviceId : Nat} {sender : Address},
      w.registry.store.erc721.ownerOf serviceId = .ok sender →
        sender = w.registry.store.erc721.owners serviceId :=
    fun owned => (ERC721.ownerOf_eq_ok.mp owned).2.symm
  unfold signedCall at parts
  split at parts
  · cases parts
    simp only [SystemWorld.enter, ServiceManager.enter, ServiceManager.unbondWithSignature,
      bind_eq_ok, lock_eq_ok, revertIf_eq_ok, exists_const, checkedAdd_eq_ok, ne_eq, not_not] at ran
    obtain ⟨_, ⟨-, rfl⟩, owner, owned, rfl, u, verified, _, ⟨room, -⟩, -⟩ := ran
    have owned : w.registry.store.erc721.ownerOf _ = .ok _ := owned
    refine ⟨owned, room, u, ?_⟩
    rw [sameOwner owned] at verified
    exact verified
  · cases parts
    simp only [SystemWorld.enter, ServiceManager.enter,
      ServiceManager.registerAgentsWithSignature, bind_eq_ok, lock_eq_ok, revertIf_eq_ok,
      exists_const, checkedAdd_eq_ok, ne_eq, not_not] at ran
    obtain ⟨_, ⟨-, rfl⟩, owner, owned, rfl, u, verified, _, ⟨room, -⟩, -⟩ := ran
    have owned : w.registry.store.erc721.ownerOf _ = .ok _ := owned
    refine ⟨owned, room, u, ?_⟩
    rw [sameOwner owned] at verified
    exact verified
  · cases parts

/-- What the manager keeps about signatures. -/
def signingView (m : ManagerState) :
    (Word → Nat) × (Word → Nat) × (Address → Bytes32 → Bool) :=
  (m.mapOperatorUnbondNonces, m.mapOperatorRegisterAgentsNonces, m.mapOperatorApprovedHashes)

theorem signingView_steady : Steady signingView := ⟨fun _ _ => rfl, fun _ _ => rfl⟩

/-- A signed call moves on the nonce of its message, and no other. -/
theorem written_signed {call : SystemCall} {signed : SignedCall}
    (parts : signedCall call = some signed) (m : ManagerState) :
    noncesOf (written call m) signed.action (operatorService signed.operator signed.serviceId) =
      noncesOf m signed.action (operatorService signed.operator signed.serviceId) + 1 ∧
    ∀ action key, noncesOf (written call m) action key = noncesOf m action key ∨
      (noncesOf m action key =
          noncesOf m signed.action (operatorService signed.operator signed.serviceId) ∧
        noncesOf (written call m) action key = noncesOf m action key + 1) := by
  have moved : ∀ (counts : Word → Nat) (key other : Word),
      Function.update counts key (counts key + 1) other = counts other ∨
        (counts other = counts key ∧
          Function.update counts key (counts key + 1) other = counts other + 1) := by
    intro counts key other
    by_cases same : other = key
    · rw [same, Function.update_self]
      exact .inr ⟨rfl, rfl⟩
    · exact .inl (Function.update_of_ne same _ _)
  unfold signedCall at parts
  split at parts
  · cases parts
    refine ⟨Function.update_self _ _ _, fun action key => ?_⟩
    cases action with
    | unbond => exact moved _ _ key
    | registerAgents _ _ => exact .inl rfl
  · cases parts
    refine ⟨Function.update_self _ _ _, fun action key => ?_⟩
    cases action with
    | unbond => exact .inl rfl
    | registerAgents _ _ => exact moved _ _ key
  · cases parts

/-- Any other call leaves the nonces alone. -/
theorem written_unsigned {call : SystemCall} (parts : signedCall call = none) (m : ManagerState)
    (action : SignedAction) : noncesOf (written call m) action = noncesOf m action := by
  cases call with
  | registry call => rfl
  | utility call => rfl
  | manager call =>
    cases call
    case unbondWithSignature => cases parts
    case registerAgentsWithSignature => cases parts
    all_goals cases action <;> rfl

/-- An approval that is there afterwards was there before or is noted. -/
theorem written_approved {call : SystemCall} {m : ManagerState} {w' : SystemWorld}
    {account : Address} {hash : Bytes32}
    (approved : (written call m).mapOperatorApprovedHashes account hash = true) :
    m.mapOperatorApprovedHashes account hash = true ∨
      .approved account hash ∈ signingNote call w w' := by
  cases call with
  | registry call => exact .inl approved
  | utility call => exact .inl approved
  | manager call =>
    cases call
    case operatorApproveHash sender approvedHash =>
      simp only [written] at approved
      by_cases own : account = sender.val
      · rw [own, Function.update_self] at approved
        by_cases same : hash = approvedHash
        · exact .inr (by rw [own, same]; exact List.mem_singleton_self _)
        · rw [Function.update_of_ne same] at approved
          exact .inl (own ▸ approved)
      · rw [Function.update_of_ne own] at approved
        exact .inl approved
    all_goals exact .inl approved

theorem signingNote_signed {call : SystemCall} {signed : SignedCall} {w w' : SystemWorld}
    (parts : signedCall call = some signed) :
    signingNote call w w' = [.accepted (signed.message w)] := by
  unfold signedCall at parts
  split at parts
  · cases parts
    rfl
  · cases parts
    rfl
  · cases parts

theorem acceptedIn_note (call : SystemCall) (w w' : SystemWorld) :
    acceptedIn (signingNote call w w') =
      (signedCall call).toList.map fun signed => signed.message w := by
  cases call with
  | registry call => rfl
  | utility call => rfl
  | manager call => cases call <;> rfl

end Calls

section Runs
variable {setup : Setup}

/-- Service Ids are below `2 ^ 32`. -/
def signedDiscipline : Discipline SystemWorld SystemCall SystemFrame SystemAnswer where
  call call _ := (signedCall call).all fun signed => decide (signed.serviceId < 2 ^ 32)
  answer _ _ _ := True

/-- The manager beside its history: the nonces are ahead of the messages, which are all
different, and the approvals are in the history. -/
structure SigningBook (w : SystemWorld × List SigningEvent) : Prop where
  counters : ∀ action key, noncesOf w.1.manager action key < 2 ^ 256
  past : ∀ m ∈ acceptedIn w.2, m.Fits ∧
    m.nonce < noncesOf w.1.manager m.action (operatorService m.operator m.serviceId)
  distinct : (acceptedIn w.2).Nodup
  approvals : ∀ account hash, w.1.manager.mapOperatorApprovedHashes account hash = true →
    .approved account hash ∈ w.2

theorem noncesOf_eq {m m' : ManagerState} (same : signingView m = signingView m')
    (action : SignedAction) : noncesOf m action = noncesOf m' action := by
  obtain ⟨unbond, rest⟩ := Prod.mk.inj same
  cases action with
  | unbond => exact unbond
  | registerAgents _ _ => exact (Prod.mk.inj rest).1

theorem approvals_eq {m m' : ManagerState} (same : signingView m = signingView m') :
    m.mapOperatorApprovedHashes = m'.mapOperatorApprovedHashes :=
  (Prod.mk.inj (Prod.mk.inj same).2).2

theorem signedCall_fits {call : SystemCall} {signed : SignedCall} {w : SystemWorld}
    (parts : signedCall call = some signed) (small : signed.serviceId < 2 ^ 32)
    (counter : (signed.message w).nonce < 2 ^ 256) : (signed.message w).Fits := by
  refine ⟨small, counter, fun agentInstances agentIds action => ?_⟩
  unfold signedCall at parts
  split at parts
  · cases parts
    cases action
  · next sender _ signing _ operator serviceId arrays ids signature =>
    cases parts
    cases action
    exact arrays.property
  · cases parts

theorem signingBook_preserved :
    Preserved ((systemMachine setup).logged signingNote) signedDiscipline.logged always
      fun w _ => SigningBook w := by
  intro w frames w' frames' taken _ book
  obtain ⟨counters, past, distinct, approvals⟩ := book
  obtain ⟨call, out, allowed, ran, after, noted⟩ | ⟨frame, rest, answer, out, -, ran, after, same⟩ :=
    (logged_cases taken).2
  · have shown := shows_enter signingView_steady w.1 call out ran
    rw [← after] at shown
    have nonces := noncesOf_eq shown
    have approvals' : ∀ account hash, w'.1.manager.mapOperatorApprovedHashes account hash = true →
        .approved account hash ∈ w'.2 := by
      intro account hash approved
      rw [approvals_eq shown] at approved
      rw [noted]
      rcases written_approved approved with before | now
      · exact List.mem_append_left _ (approvals _ _ before)
      · exact List.mem_append_right _ now
    have messages : acceptedIn w'.2 = acceptedIn w.2 ++
        (signedCall call).toList.map fun signed => signed.message w.1 := by
      rw [noted, acceptedIn_append, acceptedIn_note]
    cases parts : signedCall call with
    | none =>
      have unchanged := fun action => (nonces action).trans (written_unsigned parts _ action)
      rw [parts, Option.toList_none, List.map_nil, List.append_nil] at messages
      refine ⟨fun action key => ?_, fun m member => ?_, messages ▸ distinct, approvals'⟩
      · rw [unchanged]
        exact counters action key
      · rw [unchanged]
        exact past m (messages ▸ member)
    | some signed =>
      obtain ⟨-, room, -⟩ := enter_signed parts ran
      obtain ⟨own, others⟩ := written_signed parts w.1.manager
      have small : signed.serviceId < 2 ^ 32 := by
        have allowed : ((signedCall call).all fun signed => decide (signed.serviceId < 2 ^ 32)) =
          true := allowed
        rw [parts] at allowed
        exact of_decide_eq_true allowed
      rw [parts, Option.toList_some, List.map_singleton] at messages
      have counter := (Nat.le_succ _).trans_lt room
      have ahead : ∀ m ∈ acceptedIn w'.2, m.Fits ∧
          m.nonce < noncesOf w'.1.manager m.action (operatorService m.operator m.serviceId) := by
        intro m member
        rw [messages, List.mem_append, List.mem_singleton] at member
        rw [nonces]
        rcases member with old | rfl
        · obtain ⟨fits, behind⟩ := past m old
          refine ⟨fits, ?_⟩
          rcases others m.action (operatorService m.operator m.serviceId) with same | ⟨-, next⟩
          · rw [same]
            exact behind
          · rw [next]
            exact Nat.lt_succ_of_lt behind
        · refine ⟨signedCall_fits parts small counter, ?_⟩
          have next : noncesOf (written call w.1.manager) (signed.message w.1).action
            (operatorService (signed.message w.1).operator (signed.message w.1).serviceId) =
              (signed.message w.1).nonce + 1 := own
          rw [next]
          exact Nat.lt_succ_self _
      refine ⟨fun action key => ?_, ahead, ?_, approvals'⟩
      · rw [nonces]
        rcases others action key with same | ⟨level, next⟩
        · rw [same]
          exact counters action key
        · rw [next, level]
          exact room
      · -- the nonce of the new message is not behind, and those of the old ones are
        have fresh : signed.message w.1 ∉ acceptedIn w.2 := fun old =>
          absurd (past _ old).2 (Nat.lt_irrefl _)
        rw [messages]
        exact List.nodup_append.mpr ⟨distinct, List.nodup_singleton _, fun m old m' single same =>
          fresh (List.mem_singleton.mp single ▸ same ▸ old)⟩
  · have shown : signingView w'.1.manager = signingView w.1.manager := by
      rw [after]
      exact shows_resume signingView_steady rfl frame answer out ran
    refine ⟨fun action key => ?_, fun m member => ?_, same ▸ distinct, fun account hash => ?_⟩
    · rw [noncesOf_eq shown]
      exact counters action key
    · rw [noncesOf_eq shown]
      exact past m (same ▸ member)
    · rw [approvals_eq shown, same]
      exact approvals account hash

/-- A manager that has not accepted or approved anything. -/
structure Unsigned (m : ManagerState) : Prop where
  unbond : ∀ key, m.mapOperatorUnbondNonces key = 0
  registerAgents : ∀ key, m.mapOperatorRegisterAgentsNonces key = 0
  approved : ∀ account hash, m.mapOperatorApprovedHashes account hash = false

theorem signingBook_start {start : SystemWorld} (fresh : Unsigned start.manager) :
    SigningBook (start, []) := by
  refine ⟨fun action key => ?_, fun m member => (by cases member), List.nodup_nil,
    fun account hash approved => ?_⟩
  · cases action with
    | unbond => exact (fresh.unbond key).trans_lt (by decide)
    | registerAgents _ _ => exact (fresh.registerAgents key).trans_lt (by decide)
  · rw [fresh.approved] at approved
    cases approved

/-- The strings hashed for the messages of a history. -/
def hashedIn (setup : Setup) (history : List SigningEvent) : Set (List Byte) :=
  { bytes | ∃ m ∈ acceptedIn history, bytes ∈ m.hashed setup }

/-- An operator's signature authorises one action. In every run of the manager with its
registries, a signed call that goes through comes from the owner of the service, and the
operator has agreed to the hash of exactly this function, operator, owner, service,
payload and nonce; and of the hashes accepted so far no two are equal, for either function
and any service or operator, unless two of the hashed strings collide. -/
theorem signatures_used_once {start : SystemWorld} (fresh : Unsigned start.manager)
    {c : Config (SystemWorld × List SigningEvent) SystemFrame}
    (run : Reachable ((systemMachine setup).logged signingNote) signedDiscipline.logged
      (start, []) c) :
    (∀ call signed out, signedCall call = some signed →
      (systemMachine setup).enter call c.state.1 = .ok out →
      c.state.1.registry.store.erc721.ownerOf signed.serviceId = .ok signed.sender ∧
      Authorised setup signed.signing signed.signature signed.operator
        ((⟨signed.operator, signed.sender, signed.serviceId,
          noncesOf c.state.1.manager signed.action
            (operatorService signed.operator signed.serviceId), signed.action⟩ :
              SignedMessage).msgHash setup) c.state.2 ∧
      signingNote call c.state.1 out.state = [.accepted ⟨signed.operator, signed.sender,
        signed.serviceId, noncesOf c.state.1.manager signed.action
          (operatorService signed.operator signed.serviceId), signed.action⟩]) ∧
    (Set.InjOn setup.chain.keccak256 (hashedIn setup c.state.2) →
      ((acceptedIn c.state.2).map (SignedMessage.msgHash setup)).Nodup) := by
  obtain ⟨-, past, distinct, approvals⟩ :=
    run.invariant signingBook_preserved (signingBook_start fresh)
  constructor
  · intro call signed out parts ran
    obtain ⟨owned, -, u, verified⟩ := enter_signed parts ran
    have owner := (ERC721.ownerOf_eq_ok.mp owned).2
    have message : signed.message c.state.1 = ⟨signed.operator, signed.sender, signed.serviceId,
        noncesOf c.state.1.manager signed.action
          (operatorService signed.operator signed.serviceId), signed.action⟩ := by
      rw [SignedCall.message, owner]
    rw [message] at verified
    refine ⟨owned, ?_, ?_⟩
    · rcases verifySignedHash_cases verified with recovered | valid | approved
      · exact .inl recovered
      · exact .inr (.inl valid)
      · exact .inr (.inr (approvals _ _ approved))
    · rw [← message]
      exact signingNote_signed parts
  · intro free
    refine (List.nodup_map_iff_inj_on distinct).mpr ?_
    intro m member m' member' same
    exact m.msgHash_injective setup (past m member).1 (past m' member').1 free
      (fun bytes hashed => ⟨m, member, hashed⟩) (fun bytes hashed => ⟨m', member', hashed⟩) same

end Runs

section Script

instance : ∀ call w, Decidable ((signedDiscipline.logged (η := SigningEvent)).call call w) :=
  fun call _ => inferInstanceAs (Decidable
    ((signedCall call).all (fun signed => decide (signed.serviceId < 2 ^ 32)) = true))

instance : ∀ frame answer w,
    Decidable ((signedDiscipline.logged (η := SigningEvent)).answer frame answer w) :=
  fun _ _ _ => .isTrue trivial

/-- A chain whose hash is the remainder by a prime, and where nobody recovers a signer. -/
def signingSetup : Setup := { exampleSetup with
  chain := ⟨1, fun bytes => Fin.ofNat _ (ofBytes bytes % (2 ^ 256 - 189)), fun _ _ _ _ => 0⟩ }

def registerMessage : SignedMessage := ⟨4, 3, 1, 0, .registerAgents [5] [1]⟩
def unbondMessage : SignedMessage := ⟨4, 3, 1, 0, .unbond⟩

/-- The operator 4 refers to a hash it has approved. -/
def approvedSignature : List Byte := toBytes 32 4 ++ toBytes 32 0 ++ [5]

def noCode : SignatureViews := ⟨fun _ => false, fun _ _ _ => none⟩

theorem signedInstances_short : ([5] : List Address).length < 2 ^ 64 := by decide

theorem signedIds_short : ([1] : List Uint32).length < 2 ^ 64 := by decide

/-- The owner registers and unbonds the operator with its approvals. -/
def signedScript : List (Move SystemCall SystemAnswer) :=
  [.call (.manager (.create exampleOwner true 0 3 ServiceManager.ethTokenAddress 1 [1]
      [⟨1, 1⟩] 1)),
    .answer ⟨⟨0, [], true⟩, ⟨true, 0⟩⟩,
    .call (.manager (.activateRegistration exampleOwner 1 ⟨0, 0⟩ 1)),
    .call (.manager (.operatorApproveHash exampleOperator (registerMessage.msgHash signingSetup))),
    .call (.manager (.registerAgentsWithSignature exampleOwner 1 noCode ⟨0, 0⟩ 4 1
      ⟨[5], signedInstances_short⟩ ⟨[1], signedIds_short⟩ approvedSignature)),
    .call (.manager (.terminate exampleOwner 1)), .answer ⟨⟨0, [], true⟩, ⟨true, 0⟩⟩,
    .call (.manager (.operatorApproveHash exampleOperator (unbondMessage.msgHash signingSetup))),
    .call (.manager (.unbondWithSignature exampleOwner noCode 4 1 approvedSignature))]

/-- The strings hashed for the two messages. -/
def signedStrings : List (List Byte) :=
  [registerMessage, unbondMessage].flatMap fun m =>
    [OperatorSignedHashes.typedBytes signingSetup.chain signingSetup.self
      (signingSetup.chain.keccak256 (m.bytes signingSetup)), m.bytes signingSetup,
      m.action.payload]

theorem signatures_used_once_two :
    ∃ c, Reachable ((systemMachine signingSetup).logged signingNote) signedDiscipline.logged
        (exampleTakeover, []) c ∧
      acceptedIn c.state.2 = [registerMessage, unbondMessage] ∧
      registerMessage.msgHash signingSetup ≠ unbondMessage.msgHash signingSetup := by
  obtain ⟨c, run, seen⟩ := Machine.play_observed signedDiscipline.logged
    ((systemMachine signingSetup).logged signingNote) (exampleTakeover, []) signedScript
    (fun c => acceptedIn c.state.2) [registerMessage, unbondMessage] (by decide +kernel)
  have fresh : Unsigned exampleTakeover.manager := ⟨fun _ => rfl, fun _ => rfl, fun _ _ => rfl⟩
  have known : ∀ bytes ∈ hashedIn signingSetup c.state.2, bytes ∈ signedStrings := by
    rintro bytes ⟨m, member, hashed⟩
    rw [seen] at member
    exact List.mem_flatMap.mpr ⟨m, member, by
      simpa [SignedMessage.hashed, Set.mem_insert_iff] using hashed⟩
  have apart : ∀ a ∈ signedStrings, ∀ b ∈ signedStrings,
      signingSetup.chain.keccak256 a = signingSetup.chain.keccak256 b → a = b := by
    decide +kernel
  obtain ⟨-, once⟩ := signatures_used_once fresh run
  have distinct := once fun a there b there' => apart a (known a there) b (known b there')
  rw [seen] at distinct
  refine ⟨c, run, seen, fun same => ?_⟩
  simp [same] at distinct

end Script

end AutonolasRegistries.Guarantees
