import AutonolasRegistries.Library.CallStack
import AutonolasRegistries.Library.Ledger
import AutonolasRegistries.Source.RegistryRecords
import AutonolasRegistries.Source.RegistryTransitions
import AutonolasRegistries.Guarantees.RegistryShape
import AutonolasRegistries.Model.ServiceSheet
import AutonolasRegistries.Guarantees.SheetRuns
import AutonolasRegistries.Guarantees.SlotLimits
import AutonolasRegistries.Guarantees.OperatorLedger
import AutonolasRegistries.Guarantees.RegistrySolvency
import AutonolasRegistries.Guarantees.MultisigOwners
import AutonolasRegistries.Library.SwapRemove
import AutonolasRegistries.Source.StakingBase
import AutonolasRegistries.Source.StakingMachine
import AutonolasRegistries.Source.StakingEffects
import AutonolasRegistries.Source.StakingTransitions
import AutonolasRegistries.Guarantees.StakingSet
import AutonolasRegistries.Guarantees.StakingPanics
import AutonolasRegistries.Model.StakingSession
import AutonolasRegistries.Guarantees.StakingRuns
import AutonolasRegistries.Guarantees.StakingSessions
import AutonolasRegistries.Guarantees.StakingEmissions
import AutonolasRegistries.Guarantees.StakingStatus
import AutonolasRegistries.Guarantees.StakingLedger
import AutonolasRegistries.Guarantees.RewardAccounts
import AutonolasRegistries.Guarantees.Configuration
import AutonolasRegistries.Library.Roster
import AutonolasRegistries.Guarantees.Enrolment
import AutonolasRegistries.Guarantees.ServiceLifecycle
import AutonolasRegistries.Guarantees.ServiceIsolation
import AutonolasRegistries.Guarantees.UpdateInFull
import AutonolasRegistries.Guarantees.EditionsAgree
import AutonolasRegistries.Guarantees.PaymentHistory
import AutonolasRegistries.Guarantees.Leaving
import AutonolasRegistries.Library.BigEndian
import AutonolasRegistries.Source.Safe
import AutonolasRegistries.Source.RecoveryModule
import AutonolasRegistries.Guarantees.Redeployment
import AutonolasRegistries.Source.UnitRegistry
import AutonolasRegistries.Library.Dependencies
import AutonolasRegistries.Source.SubComponents
import AutonolasRegistries.Source.UnitMachine
import AutonolasRegistries.Source.UnitEffects
import AutonolasRegistries.Guarantees.ComponentClosure
import AutonolasRegistries.Source.TokenUtility
import AutonolasRegistries.Source.OperatorSignedHashes
import AutonolasRegistries.Source.ServiceManager
import AutonolasRegistries.Source.UtilityEffects
import AutonolasRegistries.Source.ManagerMoves
import AutonolasRegistries.Guarantees.ManagerShape
import AutonolasRegistries.Guarantees.MultisigBinding
import AutonolasRegistries.Model.TokenEscrow
import AutonolasRegistries.Guarantees.EscrowLedger
import AutonolasRegistries.Guarantees.EscrowRuns
import AutonolasRegistries.Guarantees.TokenConservation
import AutonolasRegistries.Guarantees.TwoLedgers
import AutonolasRegistries.Guarantees.OperatorsApart
import AutonolasRegistries.Guarantees.EtherForwarded
import AutonolasRegistries.Source.SolanaEffects
import AutonolasRegistries.Guarantees.SolanaShape
import AutonolasRegistries.Guarantees.SolanaSlots
import AutonolasRegistries.Guarantees.SolanaInstances
import AutonolasRegistries.Guarantees.SolanaEscrow
import AutonolasRegistries.Guarantees.StakingBounds
import AutonolasRegistries.Guarantees.StakingCredits
import AutonolasRegistries.Guarantees.StakingProgress
import AutonolasRegistries.Guarantees.StakingExit
import AutonolasRegistries.Library.Serial
import AutonolasRegistries.Guarantees.StakingSerial
import AutonolasRegistries.Guarantees.CheckpointAbsorbed
import AutonolasRegistries.Source.IdentityRegistryBridger
import AutonolasRegistries.Source.BridgerEffects
import AutonolasRegistries.Guarantees.ManagerFields
import AutonolasRegistries.Guarantees.BridgerShape
import AutonolasRegistries.Guarantees.ServicesLinked
import AutonolasRegistries.Guarantees.MultisigIndex
import AutonolasRegistries.Source.StakingFactory
import AutonolasRegistries.Source.FactoryEffects
import AutonolasRegistries.Guarantees.FactoryVouches
import AutonolasRegistries.Guarantees.ThresholdQuorums
import AutonolasRegistries.Guarantees.SlashingSaturates
import AutonolasRegistries.Guarantees.RewardDistribution
import AutonolasRegistries.Library.ByteFields
import AutonolasRegistries.Source.GnosisSafeMultisig
import AutonolasRegistries.Guarantees.CreationData
import AutonolasRegistries.Library.ByteLanes
import AutonolasRegistries.Source.GenericRegistry
import AutonolasRegistries.Guarantees.TokenURIs
import AutonolasRegistries.Source.SafeEffects
import AutonolasRegistries.Guarantees.AccessRecovery
import AutonolasRegistries.Guarantees.ActivityChecks
import AutonolasRegistries.Guarantees.SignedOnce
import AutonolasRegistries.Source.StakingSystem
import AutonolasRegistries.Guarantees.StakedRuns
import AutonolasRegistries.Guarantees.StakedServices
import AutonolasRegistries.Guarantees.BondCover
import AutonolasRegistries.Guarantees.BondRuns
import AutonolasRegistries.Guarantees.StakedCollateral
import AutonolasRegistries.Guarantees.BondsCovered
import AutonolasRegistries.Guarantees.TokenExit
import AutonolasRegistries.Guarantees.StakeRecovered
import AutonolasRegistries.Guarantees.EscrowRefinement
import AutonolasRegistries.Source.StakingActivityChecker
import AutonolasRegistries.Guarantees.PaidForWork
