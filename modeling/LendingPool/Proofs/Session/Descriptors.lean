import LendingPool.Proofs.Cache.Metadata
import LendingPool.Proofs.Chain.Dependence
import LendingPool.Proofs.Plan.GasLimits
import LendingPool.Proofs.Plan.Shape
import LendingPool.Proofs.Session.Steps
/-! Kept transactions. Planning fixes everything about a transaction but the chain and the gas
price, which are read anew whenever the transaction is asked for. -/

namespace LendingPool

open Planning

/-! ## Planning reads nothing of the network -/

namespace ChainQuery

def isNetwork : ChainQuery → Bool
  | chainId | gasPrice => true
  | _ => false

theorem IsResolution.isNetwork_eq_false {query : ChainQuery} (resolution : query.IsResolution) :
    query.isNetwork = false := by
  rcases resolution with ⟨name, rfl⟩
  rfl

end ChainQuery

theorem Planner.asksOnly_execute (planner : Planner) (intent : Intent) :
    AsksOnly (fun query => query.isNetwork = false) (planner.execute intent) := by
  refine asksOnly_bind ((intent.asksOnly_order planner.resolver).mono fun _ resolution => ?_)
    fun order => ?_
  · exact resolution.isNetwork_eq_false
  · rw [planner.plan_eq]
    refine asksOnly_bind (planner.asksOnly_draft (fun _ => rfl) (fun _ => rfl) order)
      (Draft.asksOnly_finish? fun query granted => ?_)
    cases query <;> first | rfl | cases granted

/-! ## Asking for a transaction -/

namespace Descriptor

def populated (descriptor : Descriptor) (chainId : Except ServiceFault UInt64) :
    Except Fault Transaction :=
  match chainId with
  | .ok chainId => .ok ⟨descriptor.call, chainId, descriptor.gasLimit⟩
  | .error fault => .error (.service fault)

def estimated (descriptor : Descriptor) (gasPrice : Except ServiceFault (BitVec 128)) :
    Except Fault GasEstimate :=
  match gasPrice with
  | .ok gasPrice => .ok ⟨descriptor.gasLimit, gasPrice⟩
  | .error fault => .error (.service fault)

variable (descriptor : Descriptor) (snapshot : Snapshot)

theorem on_transaction :
    Reading.on snapshot descriptor.transaction.run =
      (descriptor.populated (snapshot.reply .chainId), [.chainId]) := by
  cases replies : snapshot.reply .chainId <;>
    exact Reading.on_eq_iff.mpr (.ask replies.symm (.done _))

theorem on_gasEstimate :
    Reading.on snapshot descriptor.gasEstimate.run =
      (descriptor.estimated (snapshot.reply .gasPrice), [.gasPrice]) := by
  cases replies : snapshot.reply .gasPrice <;>
    exact Reading.on_eq_iff.mpr (.ask replies.symm (.done _))

end Descriptor

namespace Session

variable {planner : Planner} {lifetime : Option Nat} {session : Session} {plan place : Nat}
  {descriptor : Descriptor}

theorem step_transaction (kept : session.descriptor? plan place = some descriptor) :
    session.step planner lifetime (.transaction plan place) =
      ⟨session, .transaction (descriptor.populated (session.snapshot.reply .chainId)),
        [.chainId]⟩ := by
  simp only [step, kept, descriptor.on_transaction]

theorem step_gasEstimate (kept : session.descriptor? plan place = some descriptor) :
    session.step planner lifetime (.gasEstimate plan place) =
      ⟨session, .gasEstimate (descriptor.estimated (session.snapshot.reply .gasPrice)),
        [.gasPrice]⟩ := by
  simp only [step, kept, descriptor.on_gasEstimate]

/-- Whatever happens in between, a kept transaction is the one that was planned, on the chain as it
is when somebody asks for it. To ask for it changes nothing, also when the chain does not reply. -/
theorem keeps_descriptors {assembly : Assembly} {settings : Settings} {planner : Planner}
    (configures : assembly.settings = some settings) (builds : assembly.build = .ok planner)
    (lifetime : Option Nat) (session : Session) (intent : Intent) :
    (∀ query ∈ (session.step planner lifetime (.execute intent)).reads,
      query ≠ .chainId ∧ query ≠ .gasPrice) ∧
    ∀ plan, (session.step planner lifetime (.execute intent)).answer = .plan (.ok plan) →
      ∀ (place : Nat) (descriptor : Descriptor), plan[place]? = some descriptor →
        descriptor.gasLimit =
          assembly.limitsOn settings.planning.gasLimits
            (intent.outlineOn planner.resolver session.snapshot).path
            (descriptor.kind.gasAction
              (intent.gasAction (intent.isNative planner.resolver session.snapshot))) ∧
        ∀ (between : List Event) (later : Session),
          (session.step planner lifetime (.execute intent)).session.after planner lifetime between =
            later →
          later.step planner lifetime (.transaction session.kept.length place) =
            ⟨later, .transaction (descriptor.populated (later.snapshot.reply .chainId)),
              [.chainId]⟩ ∧
          later.step planner lifetime (.gasEstimate session.kept.length place) =
            ⟨later, .gasEstimate (descriptor.estimated (later.snapshot.reply .gasPrice)),
              [.gasPrice]⟩ := by
  constructor
  · intro query member
    rw [reads_execute] at member
    have outside := reads_of_asksOnly (planner.asksOnly_execute intent) lifetime
      session.snapshot session.cache.resume query member
    constructor <;> rintro rfl <;> cases outside
  · intro plan planned place descriptor holds
    constructor
    · rw [← Assembly.limitsOn_of_build configures builds]
      exact Planner.gasLimit_of_onCached (Prod.ext (step_execute_of_planned planned).1 rfl)
        (List.mem_of_getElem? holds)
    · rintro between later rfl
      have kept :=
        descriptor?_after planner lifetime (descriptor?_of_executed planned holds) between
      exact ⟨step_transaction kept, step_gasEstimate kept⟩

end Session

/-! ### A supply whose approval is asked for when the chain is out of order, and again later -/

namespace Sample

def limited : Assembly where
  settings := some {
    network := ⟨31337, "http://localhost:8545"⟩, contracts := { pool := some (.ofNat 1) }
    planning := { gasLimits := [("approval", 70000)] } }
  resolver := .absent

def limitedPlanner : Planner where
  contracts := { pool := some (.ofNat 1) }
  surplusPercent := .ofInt 5
  flashPremium := 5
  limits := .ofOverrides [(.approval, 70000)]
  resolver := .absent
  gateway := none
  packedPool := none

theorem limited_builds : limited.build = .ok limitedPlanner :=
  rfl

def supplied : Session.Reaction :=
  (Session.opened snapshot).step limitedPlanner none (.execute supply)

/-- The network fails, and then it is another one. -/
def onOtherNetwork : Session :=
  supplied.session.after limitedPlanner none [
    .change { failures := [("chain_id", .network "timeout")] }, .transaction 0 0, .advance 1000,
    .change { chainId := 5 }]

theorem supplied_answer : ∃ approval action, supplied.answer = .plan (.ok [approval, action]) ∧
    approval.kind = .tokenApproval := by
  have kinds :
      (Reading.onCached none (Session.opened snapshot).snapshot
          (Session.opened snapshot).cache.resume (limitedPlanner.execute supply).run).1.toOption.map
        (List.map Descriptor.kind) = some [.tokenApproval, .poolAction] := by decide +kernel
  rcases exists_run_of_map kinds with ⟨plan, ⟨cache, reads⟩, run, kinds⟩
  rcases List.map_eq_cons_iff.mp kinds with ⟨approval, actions, rfl, approves, acts⟩
  rcases List.map_eq_singleton_iff.mp acts with ⟨action, rfl, -⟩
  refine ⟨approval, action, ?_, approves⟩
  have returns : cache.halted = false :=
    congrArg (fun result => result.2.1.halted) (run.symm.trans (Reading.onCached_none ..))
  rw [supplied, Session.step, Session.workOut_of_returns run returns]

end Sample

theorem Session.keeps_descriptors_sample :
    ∃ approval action, Sample.supplied.answer = .plan (.ok [approval, action]) ∧
      approval.gasLimit = 70000 ∧
      (Sample.onOtherNetwork.step Sample.limitedPlanner none (.transaction 0 0)).answer =
        .transaction (.ok ⟨approval.call, 5, 70000⟩) := by
  rcases Sample.supplied_answer with ⟨approval, action, answer, approves⟩
  rcases (keeps_descriptors rfl Sample.limited_builds none
    (.opened Sample.snapshot) Sample.supply).2 _ answer 0 approval rfl with ⟨limit, keeps⟩
  rw [Assembly.limitsOn_eq_configured rfl rfl, approves] at limit
  have limit : approval.gasLimit = 70000 := limit
  refine ⟨approval, action, answer, limit, ?_⟩
  have transaction := congrArg Reaction.answer (keeps _ Sample.onOtherNetwork rfl).1
  have network : Sample.onOtherNetwork.snapshot.reply .chainId = .ok 5 := rfl
  rw [network, Descriptor.populated, limit] at transaction
  exact transaction

end LendingPool
