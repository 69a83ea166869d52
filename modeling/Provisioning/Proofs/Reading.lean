import Provisioning.Azure.Provider.Create
import Provisioning.Azure.Backend.Basic

/-!
Actions that only read and give up at the first call that fails. How a machine is seen as an
instance is such an action, so what it ends with is decided by the bare backend alone.
-/

namespace Provisioning.Azure

variable {α β : Type}

/-- What a program that only makes calls ends with when a backend answers all of them and is not
changed by any; any other request fails. -/
def Backend.glimpse (b : Backend) : Asking (Except AzureError α) → Except AzureError α
  | .done outcome => outcome
  | .ask (.call _ what) next => b.glimpse (next ((b.perform what).map (·.1)))
  | .ask _ _ => .error .http

theorem Backend.glimpse_call (b : Backend) (credentials : Credentials) (what : Call)
    (next : Except AzureError what.Value → Asking (Except AzureError α)) :
    b.glimpse (.ask (.call credentials what) next) =
      b.glimpse (next ((b.perform what).map (·.1))) := rfl

/-- A program that only makes calls that read, and ends with the first fault it is answered. -/
inductive Reading : Asking (Except AzureError α) → Prop where
  | done (outcome : Except AzureError α) : Reading (.done outcome)
  | call {credentials : Credentials} {what : Call}
      {next : Except AzureError what.Value → Asking (Except AzureError α)}
      (reads : what.isWrite = false)
      (fails : ∀ fault, ∃ other, next (.error fault) = .done (.error other))
      (goesOn : ∀ value, Reading (next (.ok value))) :
      Reading (.ask (.call credentials what) next)

namespace Reading

theorem pure (value : α) : Reading (pure value : Action α).run := .done _

theorem throw (fault : AzureError) : Reading (throw fault : Action α).run := .done _

theorem bind {act : Action α} {next : α → Action β} (first : Reading act.run)
    (rest : ∀ value, Reading (next value).run) : Reading (act >>= next).run := by
  change Reading (act.run >>= ExceptT.bindCont next)
  generalize act.run = program at first
  induction first with
  | done outcome =>
      cases outcome with
      | error fault => exact .done _
      | ok value => exact rest value
  | call reads fails goesOn ih =>
      refine .call reads (fun fault => ?_) ih
      obtain ⟨other, ended⟩ := fails fault
      exact ⟨other, by rw [ended]; rfl⟩

theorem context {act : Action α} (attempt : String) (reading : Reading act.run) :
    Reading (act.context attempt).run := by
  change Reading (act.run >>= fun outcome => .done (outcome.mapError (·.context attempt)))
  generalize act.run = program at reading
  induction reading with
  | done outcome => exact .done _
  | call reads fails goesOn ih =>
      refine .call reads (fun fault => ?_) ih
      obtain ⟨other, ended⟩ := fails fault
      exact ⟨other.context attempt, by rw [ended]; rfl⟩

theorem ofCall (c : Config) {what : Call} (reads : what.isWrite = false) :
    Reading (Action.call c what).run :=
  .call reads (fun fault => ⟨fault, rfl⟩) fun _ => .done _

end Reading

namespace Backend

/-- A glimpse of an action is one of its parts. -/
theorem glimpse_bind (b : Backend) (act : Action α) (next : α → Action β) :
    b.glimpse (act >>= next).run =
      (b.glimpse act.run).bind fun value => b.glimpse (next value).run := by
  change b.glimpse (act.run >>= ExceptT.bindCont next) = _
  generalize act.run = program
  induction program with
  | done outcome => cases outcome <;> rfl
  | ask request rest ih =>
      cases request with
      | call credentials what => exact ih _
      | _ => rfl

theorem glimpse_context (b : Backend) {act : Action α} (attempt : String)
    (reading : Reading act.run) :
    b.glimpse (act.context attempt).run = (b.glimpse act.run).mapError (·.context attempt) := by
  change b.glimpse (act.run >>= fun outcome => .done (outcome.mapError (·.context attempt))) = _
  generalize act.run = program at reading
  induction reading with
  | done outcome => rfl
  | @call credentials what next reads fails goesOn ih =>
      change b.glimpse (next ((b.perform what).map (·.1)) >>= _) =
        (b.glimpse (next ((b.perform what).map (·.1)))).mapError (·.context attempt)
      cases b.perform what with
      | error fault =>
          obtain ⟨other, ended⟩ := fails fault
          change b.glimpse (next (.error fault) >>= _) =
            (b.glimpse (next (.error fault))).mapError (·.context attempt)
          rw [ended]
          rfl
      | ok answer => exact ih answer.1

theorem glimpse_ofCall (b : Backend) (c : Config) (what : Call) :
    b.glimpse (Action.call c what).run = (b.perform what).map (·.1) := rfl

end Backend

namespace Lookup

theorem configurationAddresses_reading (c : Config) (found : Addresses)
    (configurations : List IpConfiguration) :
    Reading (configurationAddresses c found configurations).run := by
  induction configurations generalizing found with
  | nil => exact .pure found
  | cons configuration rest ih =>
      unfold configurationAddresses
      split
      · exact ih _
      · exact .bind (.ofCall c rfl) fun _ => ih _

theorem interfaceAddresses_reading (c : Config) (found : Addresses) (number : Nat)
    (references : List InterfaceReference) :
    Reading (interfaceAddresses c found number references).run := by
  induction references generalizing found number with
  | nil => exact .pure found
  | cons reference rest ih =>
      rw [interfaceAddresses]
      split
      · exact .throw _
      · exact .bind (.ofCall c rfl) fun nic =>
          .bind (configurationAddresses_reading c found _) fun _ => ih _ _

theorem addresses_reading (c : Config) (vm : VirtualMachine) : Reading (addresses c vm).run := by
  unfold addresses
  split
  · exact .throw _
  · exact interfaceAddresses_reading c ∅ 0 _

theorem instanceOf_reading (c : Config) (vm : VirtualMachine) :
    Reading (instanceOf c vm).run := by
  unfold instanceOf
  split
  · exact .throw _
  · exact .bind (.context _ (.ofCall c rfl)) fun view =>
      .bind (.context _ (addresses_reading c vm)) fun _ => .pure _

theorem vm_reading (c : Config) (uid : String) : Reading (vm c uid).run := by
  refine .bind (.ofCall c rfl) fun all => ?_
  split
  · exact .pure _
  · exact .throw _

end Lookup

theorem Create.readBack_reading (c : Config) (name : String) :
    Reading (Create.readBack c name).run :=
  .bind (.context _ (.ofCall c rfl)) fun vm => Lookup.instanceOf_reading c vm

end Provisioning.Azure
