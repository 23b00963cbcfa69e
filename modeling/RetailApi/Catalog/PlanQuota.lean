import RetailApi.Base.Inbox
import RetailApi.Base.Table

/-! The limits of a store's plan that the catalog enforces: the events of the platform for one store, and the row that the
catalog keeps from them. -/

namespace Catalog

structure PlanQuotas where
  products : Nat
  storageMb : Nat
deriving DecidableEq

inductive PlanEvent where
  | subscriptionChanged (toPlan : String) (quotas : PlanQuotas)
  | planChanged (code : String) (quotas : PlanQuotas)
deriving DecidableEq

structure PlanEnvelope where
  id : Nat
  occurredAt : Nat
  event : PlanEvent
deriving DecidableEq

/-- The row of `tenant_plan_quota` of the store. -/
structure TenantPlanQuota where
  planCode : String
  quotaProducts : Nat
  quotaStorageMb : Nat
  sourceChangedAt : Nat
deriving DecidableEq

def onSubscriptionChanged (existing : Option TenantPlanQuota) (changedAt : Nat) (toPlan : String) (quotas : PlanQuotas) :
    Option TenantPlanQuota :=
  if existing.any (fun row => changedAt < row.sourceChangedAt) = true then existing
  else some ⟨toPlan, quotas.products, quotas.storageMb, changedAt⟩

/-- A store without a row, or on another plan by then, is passed over for good. -/
def onPlanChanged (existing : Option TenantPlanQuota) (changedAt : Nat) (code : String) (quotas : PlanQuotas) :
    Option TenantPlanQuota :=
  match existing with
  | none => none
  | some row =>
    if row.planCode ≠ code ∨ changedAt < row.sourceChangedAt then some row
    else some { row with quotaProducts := quotas.products, quotaStorageMb := quotas.storageMb, sourceChangedAt := changedAt }

def handlePlanEvent (existing : Option TenantPlanQuota) (envelope : PlanEnvelope) : Option TenantPlanQuota :=
  match envelope.event with
  | .subscriptionChanged toPlan quotas => onSubscriptionChanged existing envelope.occurredAt toPlan quotas
  | .planChanged code quotas => onPlanChanged existing envelope.occurredAt code quotas

def planQuota (deliveries : List PlanEnvelope) : Option TenantPlanQuota :=
  Inbox.delivered (·.id) handlePlanEvent none deliveries

/-- The plans of the platform, the one the store is on, and the events sent to the store. -/
structure StorePlans where
  plans : Table String PlanQuotas
  current : Option String := none
  outbox : List PlanEnvelope := []

/-- `outbox.add`; ids are never given twice. -/
def StorePlans.add (platform : StorePlans) (occurredAt : Nat) (event : PlanEvent) : StorePlans :=
  { platform with outbox := platform.outbox ++ [⟨platform.outbox.length, occurredAt, event⟩] }

inductive PlanChange where
  /-- The store starts on a plan, moves to one or renews it. -/
  | subscribe (code : String)
  | editPlan (code : String) (quotas : PlanQuotas)
deriving DecidableEq

/-- A plan that does not exist is refused; an edit is announced to the store if it is on that plan. -/
def StorePlans.change (platform : StorePlans) (input : Nat × PlanChange) : StorePlans :=
  match input.2 with
  | .subscribe code =>
    match platform.plans.lookup code with
    | none => platform
    | some quotas => StorePlans.add { platform with current := some code } input.1 (.subscriptionChanged code quotas)
  | .editPlan code quotas =>
    if (platform.plans.lookup code).isNone = true then platform
    else
      let edited := { platform with plans := platform.plans.insert code quotas }
      if platform.current = some code then edited.add input.1 (.planChanged code quotas) else edited

end Catalog
