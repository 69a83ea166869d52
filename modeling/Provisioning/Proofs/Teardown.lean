import Provisioning.Proofs.Extension

/-!
A teardown under faults, step by step. After every request the finalizers that were taken off are
an initial part of those to be taken off, in the order of teardown; every other finalizer is where
it was; and nothing was deleted but what the machine had of a kind whose turn had come. Main
statement: `cleanup_in_order`.
-/

namespace Provisioning.Azure

open Relation
open Program (Reaches)

/-- A teardown of a machine with its configuration, and the world in which it begins. -/
structure Teardown where
  config : Config
  machine : Machine
  first : World Backend

namespace Teardown

variable (d : Teardown)

/-- The key of a name in the machine's group. -/
def keyOf (name : String) : ResourceKey := ⟨d.config.resourceGroup, name⟩

/-- The record without the finalizers of some kinds. -/
def record (done : List Owned) : Machine :=
  { d.machine with
    finalizers := d.machine.finalizers.filter (· ∉ done.map Owned.finalizer) }

/-- A call that may be made when some kinds are done: it reads, or it deletes what the machine had
at first, of one of these kinds or of the next. -/
def Permits (done : List Owned) (what : Call) : Prop :=
  what.isWrite = true → ∃ kind ∈ (Owned.remaining d.machine).take (done.length + 1), ∃ name,
    what = kind.removal d.config.resourceGroup name ∧
      d.first.backend.resources.Tagged d.machine.uid (d.keyOf name) kind

/-- Nothing of a kind is left in the resource group. -/
def Gone (kind : Owned) (u : World Backend) : Prop :=
  ∀ key, key.group = d.config.resourceGroup → ¬u.backend.resources.Tagged d.machine.uid key kind

/-- How far a teardown has come when some kinds are done. That nothing of them is left is only known
if no fault looks like a lost instance. -/
structure At (possible : AzureError → Prop) (done : List Owned) (u : World Backend) : Prop where
  initial : done <+: Owned.remaining d.machine
  stored : u.store.get? d.machine.name = some (d.record done)
  history : d.machine.finalizers.Nodup → u.store.history =
    d.first.store.history ++ done.map fun kind => .removed kind.finalizer
  filed : u.backend.resources.Filed
  fewer : ∀ {key tags kind}, u.backend.resources.Bears key tags kind →
    d.first.backend.resources.Bears key tags kind
  log : ∃ calls, u.backend.log = d.first.backend.log ++ calls ∧ ∀ what ∈ calls, d.Permits done what
  faults : FaultsAre possible u
  gone : ¬possible (.cloud .instanceNotFound) → ∀ kind ∈ done, d.Gone kind u

/-- After a request a teardown has come to some point. -/
def Torn (possible : AzureError → Prop) (_ u : World Backend) : Prop := ∃ done, d.At possible done u

variable {d} {possible : AzureError → Prop} {done rest : List Owned} {kind : Owned}
  {t u v : World Backend}

/-- A record has the finalizer of a kind unless it is done. -/
theorem of_record (done : List Owned) (kind : Owned) :
    Owned.of (d.record done) kind = (Owned.of d.machine kind && decide (kind ∉ done)) := by
  have member : kind.finalizer ∈ done.map Owned.finalizer ↔ kind ∈ done :=
    List.mem_map_of_injective Owned.finalizer_injective
  rw [Bool.eq_iff_iff]
  simp only [Owned.of, record, Machine.hasFinalizer, List.contains_iff_mem, List.mem_filter,
    decide_eq_true_eq, Bool.and_eq_true, member]

/-- The finalizer of the next kind is there. -/
theorem has_record (order : Owned.remaining d.machine = done ++ kind :: rest) :
    (d.record done).hasFinalizer kind.finalizer = true := by
  have present : kind ∈ Owned.remaining d.machine := by simp [order]
  have apart : kind ∉ done := by
    have distinct := order ▸ Owned.remaining_nodup d.machine
    exact fun member => (List.nodup_append.1 distinct).2.2 kind member kind List.mem_cons_self rfl
  change Owned.of (d.record done) kind = true
  simp [of_record, Owned.mem_remaining.1 present, apart]

theorem apply_record (done : List Owned) (kind : Owned) :
    (FinalizerEdit.remove kind.finalizer).apply (d.record done) = d.record (done ++ [kind]) := by
  have filtered : (d.record done).finalizers.filter (· ≠ kind.finalizer) =
      (d.record (done ++ [kind])).finalizers := by
    simp only [record, List.filter_filter]
    apply List.filter_congr
    intro finalizer _
    simp [and_comm]
  exact congrArg (fun finalizers => { d.machine with finalizers }) filtered

theorem resources_of_faulted (changes : ReflTransGen (Faulted possible) u v) :
    v.backend.resources = u.backend.resources := by
  induction changes with
  | refl => rfl
  | tail _ change ih => cases change <;> exact ih

theorem permits_of_read {what : Call} (read : what.isWrite = false) : d.Permits done what := by
  intro write
  rw [read] at write
  cases write

/-- What was permitted stays permitted. -/
theorem Permits.more {what : Call} (permits : d.Permits done what) (more : List Owned) :
    d.Permits (done ++ more) what := by
  intro write
  obtain ⟨kind, next, deletes⟩ := permits write
  have longer : done.length + 1 ≤ (done ++ more).length + 1 := by simp
  exact ⟨kind, (List.take_subset_take_left _ longer) next, deletes⟩

namespace At

theorem outside (here : d.At possible done u)
    (changes : ReflTransGen (Faulted possible) u v) : d.At possible done v := by
  induction changes with
  | refl => exact here
  | tail _ change ih =>
      have faults := ih.faults.faulted change
      cases change with
      | call => exact { ih with faults }
      | update => exact { ih with faults }

theorem torn (here : d.At possible done v) : d.Torn possible u v := ⟨done, here⟩

/-- A permitted call that is made is added to the log. -/
theorem logged (here : d.At possible done u) {what : Call} (permits : d.Permits done what)
    (logs : v.backend.log = u.backend.log ++ [what]) :
    ∃ calls, v.backend.log = d.first.backend.log ++ calls ∧
      ∀ what ∈ calls, d.Permits done what := by
  obtain ⟨calls, earlier, permitted⟩ := here.log
  refine ⟨calls ++ [what], by rw [logs, earlier, List.append_assoc], ?_⟩
  intro other member
  rcases List.mem_append.1 member with before | last
  · exact permitted other before
  · exact List.mem_singleton.1 last ▸ permits

theorem refused (here : d.At possible done u) {what : Call} {fault : AzureError}
    (permits : d.Permits done what) (refuses : Refuses u what fault v)
    (logs : v.backend.log = u.backend.log ++ [what]) : d.At possible done v where
  initial := here.initial
  stored := by rw [refuses.store, here.stored]
  history distinct := by rw [refuses.store, here.history distinct]
  filed := refuses.resources ▸ here.filed
  fewer bears := here.fewer (refuses.resources ▸ bears)
  log := here.logged permits logs
  faults operation other found := here.faults _ _ (refuses.faults operation other found)
  gone genuine kind member key inside tagged :=
    here.gone genuine kind member key inside (refuses.resources ▸ tagged)

/-- What bears tags after a permitted call bore them before. -/
theorem of_answers {what : Call} {value : what.Value} (permits : d.Permits done what)
    (answers : Answers u what value v) {key : ResourceKey} {tags : Tags} {kind : Owned}
    (bears : v.backend.resources.Bears key tags kind) :
    u.backend.resources.Bears key tags kind := by
  cases write : what.isWrite with
  | false => exact Backend.perform_of_read write answers.performed ▸ bears
  | true =>
      obtain ⟨removed, _, name, rfl, _⟩ := permits write
      rw [Backend.perform_removal removed answers.performed] at bears
      exact bears.of_without.1

theorem answered (here : d.At possible done u) {what : Call} {value : what.Value}
    (permits : d.Permits done what) (answers : Answers u what value v)
    (logs : v.backend.log = u.backend.log ++ [what]) : d.At possible done v where
  initial := here.initial
  stored := by rw [answers.store, here.stored]
  history distinct := by rw [answers.store, here.history distinct]
  filed := here.filed.perform answers.performed
  fewer bears := here.fewer (of_answers permits answers bears)
  log := here.logged permits logs
  faults operation other found := here.faults operation other (answers.faults ▸ found)
  gone genuine kind member key inside tagged :=
    here.gone genuine kind member key inside
      (tagged.of_bears fun _ => of_answers permits answers)

/-- A permitted call leaves a teardown where it is. -/
theorem call (here : d.At possible done u) {what : Call} (permits : d.Permits done what)
    {ok : what.Value → World Backend → Prop} {fails : AzureError → World Backend → Prop}
    (answered : ∀ t value v, d.At possible done t →
      t.backend.resources = u.backend.resources → Answers t what value v →
      d.At possible done v → ok value v)
    (refused : ∀ t fault v, d.At possible done t →
      t.backend.resources = u.backend.resources → Refuses t what fault v →
      d.At possible done v → fails fault v) :
    (Action.call d.config what).Meets (Faulted possible) (d.Torn possible) ok fails u := by
  refine .callLogged ?_ ?_
  · intro t value v changes answers logs
    have before := here.outside changes
    have after := before.answered permits answers logs
    exact ⟨after.torn, answered t value v before (resources_of_faulted changes) answers after⟩
  · intro t fault v changes refuses logs
    have before := here.outside changes
    have after := before.refused permits refuses logs
    exact ⟨after.torn, refused t fault v before (resources_of_faulted changes) refuses after⟩

theorem connect (here : d.At possible done u) {fails : AzureError → World Backend → Prop} :
    (Action.connect d.config).Meets (Faulted possible) (d.Torn possible)
      (fun _ v => d.At possible done v) fails u := by
  intro t changes
  have before := here.outside changes
  have after : d.At possible done
      { t with backend := t.backend.connect d.config.credentials } :=
    { initial := before.initial, stored := before.stored, history := before.history
      filed := before.filed, fewer := before.fewer, log := before.log, faults := before.faults
      gone := before.gone }
  exact ⟨after.torn, after⟩

/-- After a deletion by name only what had another name can be left of a kind. -/
def Deleted (d : Teardown) (possible : AzureError → Prop) (done : List Owned) (kind : Owned)
    (name : String) (u : World Backend) (_ : Unit) (v : World Backend) : Prop :=
  d.At possible done v ∧ ∀ key, v.backend.resources.Tagged d.machine.uid key kind →
    u.backend.resources.Tagged d.machine.uid key kind ∧ key ≠ d.keyOf name

/-- A kind is cleared; that nothing of it is left is only known if no fault looks like a lost
instance. -/
def Cleared (d : Teardown) (possible : AzureError → Prop) (done : List Owned) (kind : Owned)
    (_ : Unit) (v : World Backend) : Prop :=
  d.At possible done v ∧ (¬possible (.cloud .instanceNotFound) → d.Gone kind v)

theorem remove (here : d.At possible done u)
    (order : Owned.remaining d.machine = done ++ kind :: rest) {name : String}
    (own : d.first.backend.resources.Tagged d.machine.uid (d.keyOf name) kind) :
    (Action.call d.config (kind.removal d.config.resourceGroup name)).Meets (Faulted possible)
      (d.Torn possible) (fun _ => Deleted d possible done kind name u ())
      (fun _ v => d.At possible done v) u := by
  have next : kind ∈ (Owned.remaining d.machine).take (done.length + 1) := by
    rw [order, List.take_append]
    simp
  refine here.call (fun _ => ⟨kind, next, name, rfl, own⟩) ?_ fun _ _ _ _ _ _ after => after
  intro t value v before same answers after
  refine ⟨after, fun key tagged => ?_⟩
  rw [Backend.perform_removal kind answers.performed, same] at tagged
  exact ⟨tagged.of_without.1, tagged.of_without.2 rfl⟩

/-- Listing a kind and deleting what is tagged leaves nothing tagged. -/
theorem clear (here : d.At possible done u) (listing : Call)
    {names : listing.Value → List String} {delete : String → Action Unit}
    (read : listing.isWrite = false)
    (listed : ∀ t, d.At possible done t → ∃ value,
      t.backend.perform listing = .ok (value, t.backend.resources) ∧ ∀ name,
        name ∈ names value ↔ t.backend.resources.Tagged d.machine.uid (d.keyOf name) kind)
    (deletes : ∀ name u, d.first.backend.resources.Tagged d.machine.uid (d.keyOf name) kind →
      d.At possible done u →
      (delete name).Meets (Faulted possible) (d.Torn possible)
        (Deleted d possible done kind name u) (fun _ v => d.At possible done v) u) :
    (Action.call d.config listing >>= fun found => Cleanup.deleteAll delete (names found)).Meets
      (Faulted possible) (d.Torn possible) (Cleared d possible done kind)
      (fun _ v => d.At possible done v) u := by
  refine .bind (here.call (permits_of_read read) ?_ fun _ _ _ _ _ _ after => after)
  intro t value v before _ answers after
  obtain ⟨found, performed, all⟩ := listed t before
  have same := answers.performed
  rw [performed, Except.ok.injEq, Prod.mk.injEq] at same
  obtain ⟨rfl, kept⟩ := same
  have cleared := Cleanup.deleteAll_clears (names found) (fun name member t here =>
    deletes name t (((all name).1 member).of_bears fun _ => before.fewer) here) after
      fun name tagged => (all name).2 (kept ▸ tagged)
  refine cleared.mono (fun _ u clear => ⟨clear.1, fun _ => ?_⟩) fun _ _ met => met
  rintro ⟨group, name⟩ inside tagged
  cases inside
  exact clear.2 name tagged

theorem deleteVms (here : d.At possible done u)
    (order : Owned.remaining d.machine = done ++ .vm :: rest) :
    (Cleanup.deleteVms d.config d.machine.uid).Meets (Faulted possible) (d.Torn possible)
      (Cleared d possible done .vm) (fun _ v => d.At possible done v) u := by
  refine here.clear (.listVms _) rfl (fun t before => ⟨_, rfl, fun name => ?_⟩)
    fun name t own before => before.remove order own
  exact Resources.mem_listed_iff before.filed.vms

/-- Whether a virtual machine is found; if it is not, there is none, unless a fault looks so. -/
theorem lookup (here : d.At possible done u) :
    (Lookup.vm d.config d.machine.uid).Meets (Faulted possible) (d.Torn possible)
      (fun _ v => d.At possible done v)
      (fun fault v => d.At possible done v ∧ (fault.isInstanceNotFound = true →
        ¬possible (.cloud .instanceNotFound) → d.Gone .vm v)) u := by
  refine .bind (here.call (permits_of_read rfl) ?_ ?_)
  · intro t all v before _ answers after
    have performed : Except.ok (t.backend.resources.vms.values, t.backend.resources) = _ :=
      answers.performed
    obtain ⟨listed, same⟩ := Prod.mk.inj (Except.ok.inj performed)
    split
    · exact .pure after
    · rename_i unfound
      refine .throw ⟨after, fun _ _ => ?_⟩
      rintro key _ ⟨vm, found, tagged⟩
      rw [← same] at found
      have member := SortedMap.mem_values_iff.2 ⟨key, found⟩
      rw [listed] at member
      exact absurd tagged (List.find?_eq_none.1 unfound vm member)
  · intro t fault v before _ refuses after
    refine ⟨after, fun sentinel genuine => ?_⟩
    rcases refuses.reason with placed | performed
    · have allowed := before.faults _ fault placed
      unfold AzureError.isInstanceNotFound at sentinel
      split at sentinel
      · exact absurd allowed genuine
      · cases sentinel
    · cases performed

theorem vmExists (here : d.At possible done u) :
    (Cleanup.vmExists d.config d.machine.uid).Meets (Faulted possible) (d.Torn possible)
      (fun found v => d.At possible done v ∧ (found = false →
        ¬possible (.cloud .instanceNotFound) → d.Gone .vm v))
      (fun _ v => d.At possible done v) u := by
  refine Program.Safe.bind (Program.Safe.mono ?_ here.lookup)
  rintro (fault | vm) v met
  · cases sentinel : fault.isInstanceNotFound with
    | true =>
        simp only [sentinel, if_true] at met ⊢
        exact ⟨met.1, fun _ => met.2 trivial⟩
    | false =>
        simp only [sentinel, Bool.false_eq_true, if_false] at met ⊢
        exact met.1
  · exact ⟨met, nofun⟩

/-- Public addresses are deleted by their version, which only one kind has. -/
theorem deletePublicIps (here : d.At possible done u)
    (order : Owned.remaining d.machine = done ++ kind :: rest) {version : String}
    (same : kind.version? = some version) :
    (Cleanup.deletePublicIps d.config d.machine.uid version).Meets (Faulted possible)
      (d.Torn possible) (Cleared d possible done kind) (fun _ v => d.At possible done v) u := by
  refine here.clear (.listPublicIps _) rfl (fun t before => ⟨_, rfl, fun name => ?_⟩)
    fun name t own before => ?_
  · rw [Resources.mem_listed_iff before.filed.publicIps, Resources.tagged_iff_of_version? same]
    simp only [Bool.and_eq_true, beq_iff_eq]
    rfl
  · have removes := before.remove order own
    cases kind with
    | publicIp | publicIpv6 => exact removes
    | nic | disks | vm => cases same

/-- When the turn of a kind has come, it is deleted and nothing else is. -/
theorem delete (here : d.At possible done u)
    (order : Owned.remaining d.machine = done ++ kind :: rest) (name : String) :
    (Cleanup.delete d.config name d.machine.uid kind).Meets (Faulted possible) (d.Torn possible)
      (Cleared d possible done kind) (fun _ v => d.At possible done v) u := by
  cases kind with
  | vm =>
      refine .bind (here.vmExists.mono ?_ fun _ _ after => after)
      rintro found v ⟨after, absent⟩
      cases found with
      | true => exact .context (after.deleteVms order)
      | false => exact .pure ⟨after, absent rfl⟩
  | disks =>
      refine .context (here.clear (.listDisks _) rfl (fun t before => ⟨_, rfl, fun name => ?_⟩)
        fun name t own before => before.remove order own)
      exact Resources.mem_listed_iff before.filed.disks
  | nic =>
      refine .context (here.clear (.listNics _) rfl (fun t before => ⟨_, rfl, fun name => ?_⟩)
        fun name t own before => before.remove order own)
      exact Resources.mem_listed_iff before.filed.nics
  | publicIp => exact .context (here.deletePublicIps order rfl)
  | publicIpv6 => exact .context (here.deletePublicIps order rfl)

/-- The finalizer of a kind that is cleared is taken off, or the change is rejected and the record
stays as it is. -/
theorem disown (here : d.At possible done u)
    (order : Owned.remaining d.machine = done ++ kind :: rest)
    (gone : ¬possible (.cloud .instanceNotFound) → d.Gone kind u) :
    Recorded.Meets (Faulted possible) (d.Torn possible)
      (fun _ p v => p = d.record (done ++ [kind]) ∧ d.At possible (done ++ [kind]) v)
      (fun _ p v => p = d.record done ∧ d.At possible done v) (disown kind) (d.record done) u := by
  refine .copy ?_
  rw [if_pos (has_record order)]
  refine .update (fun t changes => (here.outside changes).stored) ?_ ?_
  · intro t changes
    have before := here.outside changes
    have after : d.At possible (done ++ [kind]) { t with
        store := t.store.committed (d.record done) (.remove kind.finalizer) } :=
      { initial := ⟨rest, by rw [order]; simp⟩
        stored := by rw [← apply_record]; exact Store.get?_committed _ _ _
        history := by
          intro distinct
          have change := Store.changes_removeFinalizer (distinct.filter _) (has_record order)
          change t.store.history ++ Store.changes _ ((d.record done).removeFinalizer _) = _
          rw [change, before.history distinct]
          simp
        filed := before.filed
        fewer := before.fewer
        log := by
          obtain ⟨calls, same, permitted⟩ := before.log
          exact ⟨calls, same, fun what member => (permitted what member).more [kind]⟩
        faults := before.faults
        gone := by
          intro genuine other member
          rcases List.mem_append.1 member with earlier | last
          · exact before.gone genuine other earlier
          · cases List.mem_singleton.1 last
            intro key inside tagged
            change t.backend.resources.Tagged _ _ _ at tagged
            rw [resources_of_faulted changes] at tagged
            exact gone genuine key inside tagged }
    exact ⟨after.torn, apply_record done kind, after⟩
  · intro t fault changes rejecting
    have before := here.outside changes
    have after : d.At possible done { t with
        store := t.store.rejectNext (t.store.rejections - 1) } :=
      before.outside (.single (.update t _))
    exact ⟨after.torn, rfl, after⟩

/-- One kind after the other is deleted and its finalizer is taken off. -/
theorem tearDown (here : d.At possible done u) {kinds : List Owned}
    (order : Owned.remaining d.machine = done ++ kinds) (name : String) :
    Recorded.Meets (Faulted possible) (d.Torn possible)
      (fun _ p v => p = d.record (Owned.remaining d.machine) ∧
        d.At possible (Owned.remaining d.machine) v)
      (fun _ p v => ∃ done, p = d.record done ∧ d.At possible done v)
      (Cleanup.tearDown d.config name d.machine.uid kinds) (d.record done) u := by
  induction kinds generalizing done u with
  | nil =>
      rw [List.append_nil] at order
      rw [order]
      exact .pure ⟨rfl, here⟩
  | cons kind rest ih =>
      refine .bind (.recorded ((here.delete order name).mono ?_
        fun _ _ after => ⟨done, rfl, after⟩))
      rintro _ v ⟨after, gone⟩
      refine .bind ((after.disown order gone).mono ?_ ?_)
      · rintro _ p t ⟨rfl, next⟩
        exact ih next (by rw [order, List.append_assoc]; rfl)
      · rintro _ p t ⟨rfl, kept⟩
        exact ⟨done, rfl, kept⟩

end At

/-- Nothing of the provider is left of a record whose finalizers are all taken off. -/
theorem isClear_record : ledger.isClear (d.record (Owned.remaining d.machine)) = true := by
  refine isClear_iff.2 fun kind => ?_
  rw [of_record]
  cases present : Owned.of d.machine kind with
  | false => rfl
  | true => simp [Owned.mem_remaining.2 present]

theorem record_nil : d.record [] = d.machine := by simp [record]

/-- A teardown of a stored record begins before the first kind. -/
theorem at_first (stored : d.first.store.get? d.machine.name = some d.machine)
    (filed : d.first.backend.resources.Filed) (faults : FaultsAre possible d.first) :
    d.At possible [] d.first where
  initial := List.nil_prefix
  stored := by rw [stored, record_nil]
  history _ := by simp
  filed := filed
  fewer bears := bears
  log := ⟨[], by simp, by simp⟩
  faults := faults
  gone := by simp

/-- A teardown takes finalizers off in order. It succeeds only when it has taken off all of them,
and says so; when it fails the record lacks those that were taken off. -/
theorem cleanup_meets {sources : Sources} {e : Envelope}
    (resolved : Config.resolve sources d.machine.providerSpec = .ok (d.config, e))
    (here : d.At possible [] d.first) :
    Recorded.Meets (Faulted possible) (d.Torn possible)
      (fun clear p v => clear = true ∧ p = d.record (Owned.remaining d.machine) ∧
        d.At possible (Owned.remaining d.machine) v)
      (fun _ p v => ∃ done, p = d.record done ∧ d.At possible done v)
      (cleanup sources) d.machine d.first := by
  refine .copy (.settle ?_ ?_)
  · rw [resolved]
    rintro _ ⟨⟩
    refine .bind (.recorded (here.connect.mono (fun _ u after => ?_) fun _ _ => False.elim))
    have order : Owned.remaining d.machine = [] ++ Owned.remaining d.machine := rfl
    have torn := after.tearDown order d.machine.name
    rw [record_nil] at torn
    refine .bind (torn.mono ?_ fun _ _ _ met => met)
    rintro _ p v ⟨rfl, last⟩
    exact .copy (.pure ⟨isClear_record, rfl, last⟩)
  · rw [resolved]
    intro fault failed
    cases failed

/-- Wherever a teardown is cut off it has come to some point. -/
theorem exists_at {sources : Sources} {e : Envelope}
    {left : Asking (Except CloudError Bool × Machine)}
    (resolved : Config.resolve sources d.machine.providerSpec = .ok (d.config, e))
    (here : d.At possible [] d.first)
    (reached : Reaches (World.serve Backend.service) (Faulted possible)
      ((cleanup sources).run.run d.machine) d.first left u) : ∃ done, d.At possible done u := by
  have torn : d.Torn possible d.first u := by
    refine reached.keeps (cleanup_meets resolved here) here.torn ?_ fun _ torn => torn
    rintro s t ⟨done, before⟩ change
    exact ⟨done, before.outside (.single change)⟩
  exact torn

/-- Whether a teardown succeeds or fails, some kinds are done at its end; all of them if it
succeeds. -/
theorem exists_at_end {sources : Sources} {e : Envelope} {outcome : Except CloudError Bool}
    {copy : Machine} (resolved : Config.resolve sources d.machine.providerSpec = .ok (d.config, e))
    (here : d.At possible [] d.first)
    (reached : Reaches (World.serve Backend.service) (Faulted possible)
      ((cleanup sources).run.run d.machine) d.first (.done (outcome, copy)) v) :
    ∃ done, (∀ clear, outcome = .ok clear → clear = true ∧ done = Owned.remaining d.machine) ∧
      copy = d.record done ∧ d.At possible done v := by
  obtain ⟨u, changes, met⟩ := reached.safe (cleanup_meets resolved here)
  cases outcome with
  | ok clear =>
      obtain ⟨said, kept, last⟩ := met
      refine ⟨Owned.remaining d.machine, ?_, kept, last.outside changes⟩
      rintro _ ⟨⟩
      exact ⟨said, rfl⟩
  | error fault =>
      obtain ⟨done, kept, last⟩ := met
      exact ⟨done, nofun, kept, last.outside changes⟩

end Teardown

/-- A teardown takes finalizers off in the order of teardown, beginning with the first of those that
the record has, and all others stay where they are, in the copy as in the store. It succeeds only
when it has taken off all of them, and says so; and it deletes only what the machine has of a kind
whose finalizer it takes off or fails to take off. -/
theorem cleanup_in_order {c : Config} {e : Envelope} {m copy : Machine} {sources : Sources}
    {w v : World Backend} {outcome : Except CloudError Bool}
    (resolved : Config.resolve sources m.providerSpec = .ok (c, e))
    (arises : w.backend.resources.Arises) (stored : w.store.get? m.name = some m)
    (distinct : m.finalizers.Nodup)
    (reached : Reaches (World.serve Backend.service) (Faulted fun _ => True)
      ((cleanup sources).run.run m) w (.done (outcome, copy)) v) :
    ∃ done, done <+: Owned.remaining m ∧
      v.store.history = w.store.history ++ done.map (fun kind => .removed kind.finalizer) ∧
      copy = { m with finalizers := m.finalizers.filter (· ∉ done.map Owned.finalizer) } ∧
      v.store.get? m.name = some copy ∧
      (∀ clear, outcome = .ok clear → clear = true ∧ done = Owned.remaining m) ∧
      ∃ calls, v.backend.log = w.backend.log ++ calls ∧
        ∀ what ∈ calls, what.isWrite = true →
          ∃ kind ∈ (Owned.remaining m).take (done.length + 1), ∃ name,
            what = kind.removal c.resourceGroup name ∧
            w.backend.resources.Tagged m.uid ⟨c.resourceGroup, name⟩ kind := by
  have here : (⟨c, m, w⟩ : Teardown).At (fun _ => True) [] w :=
    Teardown.at_first stored arises.filed fun _ _ _ => trivial
  obtain ⟨done, said, kept, last⟩ := Teardown.exists_at_end resolved here reached
  exact ⟨done, last.initial, last.history distinct, kept, kept ▸ last.stored, said, last.log⟩

namespace Sample

/-- A virtual machine with its disks, of which the next cannot be deleted. -/
def busy : World Backend :=
  { placed "rg" with
    backend := (placed "rg").backend.failNext "delete_disk" (.api 409 "Conflict" "try again") }

/-- The end of a teardown that fails at the disks. -/
def stuck : (Except CloudError Bool × Machine) × World Backend :=
  World.run Backend.service ((cleanup sources).run.run owner) busy

end Sample

/-- The virtual machine is deleted and its finalizer taken off; the finalizer of the disks stays. -/
theorem cleanup_in_order_stuck : Sample.busy.backend.resources.Arises ∧
    Sample.busy.store.get? Sample.owner.name = some Sample.owner ∧
    Sample.owner.finalizers.Nodup ∧ Sample.stuck.1.1.isOk = false ∧
    Sample.stuck.1.2.finalizers = [Owned.disks.finalizer] ∧
    Sample.stuck.2.store.get? Sample.owner.name = some Sample.stuck.1.2 := by
  have arises : Sample.busy.backend.resources.Arises := Sample.arises_placed "rg"
  have stored : Sample.busy.store.get? Sample.owner.name = some Sample.owner := rfl
  have distinct : Sample.owner.finalizers.Nodup := by decide
  have failed : Sample.stuck.1.1.isOk = false := by decide +kernel
  have left : Sample.stuck.1.2.finalizers = [Owned.disks.finalizer] := by decide +kernel
  have reached : Reaches (World.serve Backend.service) (Faulted fun _ => True)
      ((cleanup Sample.sources).run.run Sample.owner) Sample.busy (.done Sample.stuck.1)
      Sample.stuck.2 := Program.reaches_run _ _
  have kept : Sample.stuck.2.store.get? Sample.owner.name = some Sample.stuck.1.2 := by
    generalize Sample.stuck = result at reached
    obtain ⟨⟨outcome, copy⟩, v⟩ := result
    obtain ⟨_, _, _, _, kept, _⟩ := cleanup_in_order (e := Sample.resolved.2) Sample.resolve_spec
      arises stored distinct reached
    exact kept
  exact ⟨arises, stored, distinct, failed, left, kept⟩

end Provisioning.Azure
