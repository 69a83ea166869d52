import Provisioning.Azure.Provider.Validate
import Provisioning.Azure.World
import Provisioning.Proofs.Outcomes
import Provisioning.Proofs.Shelving

/-!
Look-ups of sizes that share a cache, one after the other, on a clock that moves between them and
while sizes are listed. Whatever is listed, a look-up ends with the first size of its key in a
listing for that key, its own or one that is younger than the cache lets entries live, and it lists
only if there is no such listing that ended well. Main statement: `sizes_recalled`.
-/

namespace Provisioning.Azure

open DiskSku (Key)

namespace DiskSku

/-- A size is what a key asks for: it has the name, and it is a virtual machine if it says what it
is. -/
def Key.Names (key : Key) (size : ResourceSku) : Prop :=
  size.name = some key.vmSize ∧ ∀ kind ∈ size.resourceType, kind = "virtualMachines"

/-- A listing ended well, and a size is the first in it that a key asks for. -/
def Key.FirstIn (key : Key) (listing : Except AzureError (List ResourceSku))
    (size : ResourceSku) : Prop :=
  ∃ before after, listing = .ok (before ++ size :: after) ∧ key.Names size ∧
    ∀ other ∈ before, ¬key.Names other

theorem Key.FirstIn.names {key : Key} {listing : Except AzureError (List ResourceSku)}
    {size : ResourceSku} (first : key.FirstIn listing size) : key.Names size := by
  obtain ⟨_, _, _, names, _⟩ := first
  exact names

theorem Key.names_iff {key : Key} {size : ResourceSku} : key.Names size ↔
    (size.name == some key.vmSize && size.resourceType.all (· == "virtualMachines")) = true := by
  rw [Key.Names, Bool.and_eq_true, beq_iff_eq, Option.all_eq_true]
  simp only [beq_iff_eq, Option.mem_def]

theorem pick_eq_ok {key : Key} {listing : Except AzureError (List ResourceSku)}
    {size : ResourceSku} : listing >>= pick key = .ok size ↔ key.FirstIn listing size := by
  rw [bind_eq_ok]
  constructor
  · intro chosen
    obtain ⟨offered, rfl, picked⟩ := chosen
    unfold pick at picked
    split at picked
    next size found =>
      cases picked
      obtain ⟨named, before, after, rfl, none⟩ := List.find?_eq_some_iff_append.1 found
      refine ⟨before, after, rfl, Key.names_iff.2 named, ?_⟩
      intro other listed names
      have refused := none other listed
      rw [Key.names_iff.1 names] at refused
      cases refused
    next => cases picked
  · intro first
    obtain ⟨before, after, rfl, named, none⟩ := first
    refine ⟨_, rfl, ?_⟩
    have found : (before ++ size :: after).find? (fun sku =>
        sku.name == some key.vmSize && sku.resourceType.all (· == "virtualMachines")) =
          some size := by
      refine List.find?_eq_some_iff_append.2 ⟨Key.names_iff.1 named, before, after, rfl, ?_⟩
      intro other listed
      have refused := none other listed
      rw [Key.names_iff, Bool.not_eq_true] at refused
      rw [refused]
      rfl
    simp only [pick, found]

end DiskSku

namespace Validate

/-- What is left of a look-up after a listing. -/
def listed (key : Key) : Except AzureError ResourceSku → Asking (Except AzureError ResourceSku)
  | .ok size => ask (.rememberSize key size) >>= fun _ => pure (.ok size)
  | .error fault => pure (.error fault)

/-- What is left of a look-up after the cache was asked. -/
def recalled (c : Config) : Option ResourceSku → Asking (Except AzureError ResourceSku)
  | some size => pure (.ok size)
  | none => do
      let listing ← ask (.call c.credentials (.listVmSkus c.location))
      listed (.ofConfig c) (listing >>= DiskSku.pick (.ofConfig c))

/-- A look-up asks the cache first. -/
theorem run_size (c : Config) :
    (size c).run = ask (.recallSize (.ofConfig c)) >>= recalled c := by
  change Program.ask _ _ = Program.ask _ _
  congr 1
  funext found
  cases found with
  | some size => rfl
  | none =>
      change Program.ask _ _ = Program.ask _ _
      congr 1
      funext listing
      cases listing with
      | error fault => rfl
      | ok offered =>
          change (liftExcept (DiskSku.pick (.ofConfig c) offered) >>= fun found => do
            (ask (.rememberSize (.ofConfig c) found) : Asking Unit)
            pure found : Action ResourceSku) =
            listed (.ofConfig c) (DiskSku.pick (.ofConfig c) offered)
          cases DiskSku.pick (.ofConfig c) offered with
          | error fault => rfl
          | ok size => rfl

end Validate

/-- A look-up of a size: how long it comes after the one before it, for which configuration, how
long a listing takes, and how the listing ends. -/
structure Enquiry where
  pause : Nat
  config : Config
  takes : Nat
  listing : Except AzureError (List ResourceSku)

/-- What became of a look-up: when it began, what it called, how it ended and when. -/
structure Enquired where
  enquiry : Enquiry
  began : Nat
  calls : List Call
  result : Except AzureError ResourceSku
  ended : Nat

namespace Enquiry

def key (e : Enquiry) : Key := .ofConfig e.config

/-- Answers a listing, and remembers what was called. -/
def service (e : Enquiry) : Service (List Call) where
  connect _ calls := (.ok (), calls)
  call _ what calls :=
    (match what with
      | .listVmSkus _ => e.listing
      | _ => .error .http, calls ++ [what])

/-- Answers a request; the clock moves during a call. -/
def serve (e : Enquiry) : (q : Request) → World (List Call) → q.Answer × World (List Call)
  | .call credentials what, w =>
      let (answer, v) := World.serve e.service (.call credentials what) w
      (answer, { v with now := v.now + e.takes })
  | q, w => World.serve e.service q w

/-- The moment at which a look-up begins, with nothing called yet. -/
def start (e : Enquiry) (w : World (List Call)) : World (List Call) :=
  { w with backend := [], now := w.now + e.pause }

/-- Looks a size up. -/
def run (e : Enquiry) (w : World (List Call)) : Enquired × World (List Call) :=
  let (result, v) := Program.run e.serve (Validate.size e.config).run (e.start w)
  (⟨e, (e.start w).now, v.backend, result, v.now⟩, v)

/-- Looks sizes up, one after the other. -/
def runAll (w : World (List Call)) : List Enquiry → List Enquired
  | [] => []
  | e :: rest => (e.run w).1 :: runAll (e.run w).2 rest

/-- A world in which nothing was looked up. -/
def opening (ttl : Nat) : World (List Call) := ⟨[], .empty, .empty ttl, 0, []⟩

variable {e : Enquiry} {w : World (List Call)} {size : ResourceSku} {fault : AzureError}

/-- The cache as a look-up finds it, without what is stale. -/
def purged (e : Enquiry) (w : World (List Call)) : SizeCache := w.sizes.purge (w.now + e.pause)

/-- A fresh entry is recalled without a call. -/
theorem run_of_fresh (fresh : (e.purged w).fresh? e.key (w.now + e.pause) = some size) :
    e.run w = (⟨e, w.now + e.pause, [], .ok size, w.now + e.pause⟩,
      { e.start w with sizes := e.purged w }) := by
  have answer : Program.run e.serve (Validate.size e.config).run (e.start w) =
      (.ok size, { e.start w with sizes := e.purged w }) := by
    rw [Validate.run_size]
    change Program.run e.serve (Validate.recalled e.config
      ((e.purged w).fresh? e.key (w.now + e.pause))) { e.start w with sizes := e.purged w } = _
    rw [fresh]
    rfl
  unfold run
  rw [answer]
  rfl

/-- Without a fresh entry, sizes are listed; one that is found is cached when the listing ends. -/
theorem run_of_stale (stale : (e.purged w).fresh? e.key (w.now + e.pause) = none) :
    e.run w = (⟨e, w.now + e.pause, [.listVmSkus e.config.location],
        e.listing >>= DiskSku.pick e.key, w.now + e.pause + e.takes⟩,
      { e.start w with
        backend := [.listVmSkus e.config.location]
        now := w.now + e.pause + e.takes
        sizes := match e.listing >>= DiskSku.pick e.key with
          | .ok size => (e.purged w).fill e.key size (w.now + e.pause + e.takes)
          | .error _ => e.purged w }) := by
  have answer : Program.run e.serve (Validate.size e.config).run (e.start w) =
      Program.run e.serve (Validate.listed e.key (e.listing >>= DiskSku.pick e.key))
        { e.start w with
          backend := [.listVmSkus e.config.location]
          now := w.now + e.pause + e.takes
          sizes := e.purged w } := by
    rw [Validate.run_size]
    change Program.run e.serve (Validate.recalled e.config
      ((e.purged w).fresh? e.key (w.now + e.pause))) { e.start w with sizes := e.purged w } = _
    rw [stale]
    rfl
  unfold run
  rw [answer]
  cases e.listing >>= DiskSku.pick e.key with
  | ok size => rfl
  | error fault => rfl

end Enquiry

namespace Enquired

def key (s : Enquired) : Key := s.enquiry.key

/-- A look-up listed sizes and found one, and less than a time to live has gone since. -/
def Supplies (ttl now : Nat) (size : ResourceSku) (s : Enquired) : Prop :=
  s.calls ≠ [] ∧ s.result = .ok size ∧ now < s.ended + ttl

/-- A look-up of a key supplies a size. -/
def Known (ttl : Nat) (past : List Enquired) (key : Key) (now : Nat) (size : ResourceSku) : Prop :=
  ∃ s ∈ past, s.key = key ∧ s.Supplies ttl now size

variable {ttl now later : Nat} {past : List Enquired} {key : Key} {size : ResourceSku}

theorem Known.earlier (known : Known ttl past key later size) (le : now ≤ later) :
    Known ttl past key now size := by
  obtain ⟨s, member, same, listed, found, young⟩ := known
  exact ⟨s, member, same, listed, found, by omega⟩

theorem known_snoc {s : Enquired} : Known ttl (past ++ [s]) key now size ↔
    Known ttl past key now size ∨ s.key = key ∧ s.Supplies ttl now size := by
  simp only [Known, List.mem_append, List.mem_singleton, or_and_right, exists_or, exists_eq_left]

/-- What may be said of a look-up after those before it. -/
structure Sound (ttl : Nat) (past : List Enquired) (s : Enquired) : Prop where
  calls : s.calls = [] ∨ s.calls = [.listVmSkus s.enquiry.config.location]
  listed : s.calls ≠ [] ↔ ¬∃ size, Known ttl past s.key s.began size
  own : s.calls ≠ [] → s.result = s.enquiry.listing >>= DiskSku.pick s.key
  recalled : s.calls = [] → ∃ size, s.result = .ok size ∧ Known ttl past s.key s.began size

/-- From a moment on, the cache has a fresh entry exactly for what a look-up in the past supplies,
and nobody holds a lock. -/
structure Recalls (ttl : Nat) (past : List Enquired) (c : SizeCache) (now : Nat) : Prop where
  lifetime : c.ttl = ttl
  shelved : c.Shelved
  free : ∀ key, (c.view key).holder = none
  known : ∀ key later size, now ≤ later →
    ((c.view key).fresh? later = some size ↔ Known ttl past key later size)

namespace Recalls

variable {c : SizeCache}

theorem empty (ttl now : Nat) : Recalls ttl [] (.empty ttl) now where
  lifetime := rfl
  shelved := .empty ttl
  free _ := rfl
  known key later size _ := by
    constructor
    · intro fresh
      cases fresh
    · intro known
      obtain ⟨s, member, _⟩ := known
      cases member

theorem mono (recalls : Recalls ttl past c now) (le : now ≤ later) : Recalls ttl past c later :=
  ⟨recalls.lifetime, recalls.shelved, recalls.free, fun key after size behind =>
    recalls.known key after size (Nat.le_trans le behind)⟩

/-- A purge takes away what is stale. -/
theorem purge (recalls : Recalls ttl past c now) : Recalls ttl past (c.purge now) now where
  lifetime := recalls.lifetime
  shelved := recalls.shelved.purge now
  free key := by
    rw [recalls.shelved.view_purge]
    split
    · exact recalls.free key
    · rfl
  known key later size after := by
    rw [← recalls.known key later size after, recalls.shelved.view_purge]
    split
    next => rfl
    next gone =>
      have stale : (c.view key).fresh? now = none := by
        simpa [Slot.survives, recalls.free key] using gone
      rw [Slot.fresh?_eq_none_of_le stale after]
      exact Iff.rfl

/-- A look-up that supplies nothing changes nothing. -/
theorem snoc_of_error {s : Enquired} (recalls : Recalls ttl past c now)
    (failed : ∀ later size, ¬s.Supplies ttl later size) : Recalls ttl (past ++ [s]) c now where
  lifetime := recalls.lifetime
  shelved := recalls.shelved
  free := recalls.free
  known key later size after := by
    rw [recalls.known key later size after, known_snoc]
    constructor
    · intro known
      exact .inl known
    · intro either
      rcases either with known | ⟨_, supplies⟩
      · exact known
      · exact absurd supplies (failed later size)

/-- A size that was listed is cached; nothing else was known of its key. -/
theorem fill {s : Enquired} {found : ResourceSku} (recalls : Recalls ttl past c now)
    (stale : ∀ size, ¬Known ttl past s.key now size) (listed : s.calls ≠ [])
    (result : s.result = .ok found) (le : now ≤ s.ended) :
    Recalls ttl (past ++ [s]) (c.fill s.key found s.ended) s.ended where
  lifetime := by rw [Cache.ttl_fill, recalls.lifetime]
  shelved := recalls.shelved.fill s.key found s.ended
  free key := by
    rw [recalls.shelved.view_fill]
    by_cases same : key = s.key
    · rw [same, Function.update_self]
      exact recalls.free s.key
    · rw [Function.update_of_ne same]
      exact recalls.free key
  known key later size after := by
    rw [recalls.shelved.view_fill, known_snoc]
    by_cases same : key = s.key
    · subst same
      have unknown : ¬Known ttl past s.key later size := fun known =>
        stale size (known.earlier (Nat.le_trans le after))
      rw [Function.update_self, Slot.fresh?_eq_some_iff, recalls.lifetime]
      simp only [Supplies, listed, result, Slot.fill, unknown, false_or, true_and, ne_eq,
        not_false_eq_true, Option.some.injEq, Cached.mk.injEq, Except.ok.injEq]
      constructor
      · intro fresh
        obtain ⟨expiresAt, ⟨same, rfl⟩, young⟩ := fresh
        exact ⟨same, young⟩
      · intro supplies
        exact ⟨_, ⟨supplies.1, rfl⟩, supplies.2⟩
    · rw [Function.update_of_ne same, recalls.known key later size (Nat.le_trans le after)]
      constructor
      · intro known
        exact .inl known
      · intro either
        rcases either with known | ⟨other, _⟩
        · exact known
        · exact absurd other.symm same

end Recalls

/-- A look-up is as sound as those before it allow, and the cache goes on recalling. -/
theorem Recalls.run {w : World (List Call)} (recalls : Recalls ttl past w.sizes w.now)
    (e : Enquiry) : (e.run w).1.Sound ttl past ∧
      Recalls ttl (past ++ [(e.run w).1]) (e.run w).2.sizes (e.run w).2.now := by
  have start : Recalls ttl past (e.purged w) (w.now + e.pause) :=
    (recalls.mono (Nat.le_add_right ..)).purge
  have known (size : ResourceSku) : (e.purged w).fresh? e.key (w.now + e.pause) = some size ↔
      Known ttl past e.key (w.now + e.pause) size := by
    rw [Cache.fresh?_eq_view]
    exact start.known e.key _ size (Nat.le_refl _)
  cases fresh : (e.purged w).fresh? e.key (w.now + e.pause) with
  | some size =>
      have supplied := (known size).1 fresh
      rw [Enquiry.run_of_fresh fresh]
      refine ⟨⟨.inl rfl, ?_, nofun, fun _ => ⟨size, rfl, supplied⟩⟩, ?_⟩
      · exact ⟨fun listed => absurd rfl listed, fun unknown => absurd ⟨size, supplied⟩ unknown⟩
      · exact start.snoc_of_error fun _ _ supplies => supplies.1 rfl
  | none =>
      have unknown (size : ResourceSku) : ¬Known ttl past e.key (w.now + e.pause) size := by
        rw [← known size, fresh]
        exact nofun
      have later : w.now + e.pause ≤ w.now + e.pause + e.takes := Nat.le_add_right ..
      rw [Enquiry.run_of_stale fresh]
      refine ⟨⟨.inr rfl, ?_, fun _ => rfl, nofun⟩, ?_⟩
      · exact ⟨fun _ some => unknown _ some.choose_spec, fun _ => nofun⟩
      · cases ended : e.listing >>= DiskSku.pick e.key with
        | ok size =>
            exact start.fill (s := ⟨e, _, _, .ok size, _⟩) unknown nofun rfl later
        | error fault =>
            exact (start.mono later).snoc_of_error fun _ _ supplies => nomatch supplies.2.1

/-- Every look-up of a sequence is sound after those before it. -/
theorem Recalls.runAll {w : World (List Call)} (recalls : Recalls ttl past w.sizes w.now)
    {enquiries : List Enquiry} {before after : List Enquired} {s : Enquired}
    (split : Enquiry.runAll w enquiries = before ++ s :: after) : s.Sound ttl (past ++ before) := by
  induction enquiries generalizing w past before with
  | nil => simp [Enquiry.runAll] at split
  | cons e rest ih =>
      obtain ⟨sound, further⟩ := recalls.run e
      cases before with
      | nil =>
          obtain ⟨rfl, _⟩ := List.cons.inj split
          rw [List.append_nil]
          exact sound
      | cons first others =>
          obtain ⟨rfl, following⟩ := List.cons.inj split
          rw [List.append_cons]
          exact ih further following

end Enquired

variable {ttl : Nat} {enquiries : List Enquiry} {before after : List Enquired} {s : Enquired}

/-- A look-up lists the sizes of its location exactly if no listing for its key that ended well is
younger than the time to live, and then it ends as its listing says. If it ends well, it ends with
the first size of its key in its own listing or in such a younger one for its key. -/
theorem sizes_recalled
    (split : Enquiry.runAll (Enquiry.opening ttl) enquiries = before ++ s :: after) :
    (s.calls = [] ∨ s.calls = [.listVmSkus s.enquiry.config.location]) ∧
    (s.calls ≠ [] ↔ ¬∃ r ∈ before, r.key = s.key ∧ r.calls ≠ [] ∧
      (∃ size, r.result = .ok size) ∧ s.began < r.ended + ttl) ∧
    (s.calls ≠ [] → s.result = s.enquiry.listing >>= DiskSku.pick s.key) ∧
    ∀ size, s.result = .ok size → s.key.Names size ∧ ∃ r ∈ before ++ [s],
      r.key = s.key ∧ r.calls = [.listVmSkus r.enquiry.config.location] ∧
        r.key.FirstIn r.enquiry.listing size ∧ (r = s ∨ s.began < r.ended + ttl) := by
  have sound {early late : List Enquired} {r : Enquired}
      (part : Enquiry.runAll (Enquiry.opening ttl) enquiries = early ++ r :: late) :
      r.Sound ttl early := (Enquired.Recalls.empty ttl 0).runAll part
  have here := sound split
  have first {early late : List Enquired} {r : Enquired} {size : ResourceSku}
      (part : Enquiry.runAll (Enquiry.opening ttl) enquiries = early ++ r :: late)
      (listed : r.calls ≠ []) (result : r.result = .ok size) :
      r.calls = [.listVmSkus r.enquiry.config.location] ∧ r.key.FirstIn r.enquiry.listing size :=
    ⟨(sound part).calls.resolve_left listed,
      DiskSku.pick_eq_ok.1 (((sound part).own listed).symm.trans result)⟩
  refine ⟨here.calls, ?_, here.own, ?_⟩
  · rw [here.listed]
    apply not_congr
    constructor
    · intro known
      obtain ⟨size, r, member, same, listed, result, young⟩ := known
      exact ⟨r, member, same, listed, ⟨size, result⟩, young⟩
    · intro known
      obtain ⟨r, member, same, listed, ⟨size, result⟩, young⟩ := known
      exact ⟨size, r, member, same, listed, result, young⟩
  · intro size result
    by_cases listed : s.calls = []
    · -- The size was recalled, so that the look-up which listed it stands before this one.
      obtain ⟨found, recalled, r, member, same, own, supplied, young⟩ := here.recalled listed
      cases result.symm.trans recalled
      obtain ⟨early, late, rfl⟩ := List.append_of_mem member
      rw [List.append_assoc, List.cons_append] at split
      obtain ⟨calls, firstIn⟩ := first split own supplied
      exact ⟨same ▸ firstIn.names, r, List.mem_append_left _ member, same, calls, firstIn,
        .inr young⟩
    · obtain ⟨calls, firstIn⟩ := first split listed result
      exact ⟨firstIn.names, s, by simp, rfl, calls, firstIn, .inl rfl⟩

namespace Enquiry.Sample

def config (subscriptionId : String) : Config where
  subscriptionId
  tenantId := "tenant"
  clientId := "client"
  clientSecret := "secret"
  location := "westeurope"
  resourceGroup := "machines"
  vnetResourceGroup := "machines"
  vmSize := "Standard_D2s_v3"
  vnetName := "vnet"
  subnetName := "subnet"
  loadBalancerSku := ""
  routeTableName := ""
  availabilitySet := ""
  assignAvailabilitySet := none
  securityGroupName := ""
  imageId := ""
  imagePlan := none
  imageReference := none
  zones := []
  tags := ∅
  osDiskSize := 0
  osDiskSku := none
  dataDiskSize := 0
  dataDiskSku := some DiskSku.premium
  assignPublicIp := false

def size (kind : Option String) : ResourceSku := ⟨some "Standard_D2s_v3", kind, [], [], none⟩

/-- A listing fails, the next one has a disk of the name before the size, another subscription has
no such size, and then the size is asked for again. -/
def sequence : List Enquiry :=
  [⟨0, config "first", 5, .error .http⟩,
    ⟨1, config "first", 5, .ok [size (some "disks"), size none]⟩,
    ⟨0, config "second", 5, .ok []⟩,
    ⟨40, config "first", 5, .ok [size (some "virtualMachines")]⟩]

end Enquiry.Sample

/-- The last sample look-up recalls what the second one listed. -/
theorem sizes_recalled_second : ∃ before s,
    Enquiry.runAll (Enquiry.opening 60) Enquiry.Sample.sequence = before ++ s :: [] ∧
      s.calls = [] ∧ ∃ r ∈ before ++ [s], r.key = s.key ∧
        r.calls = [.listVmSkus r.enquiry.config.location] ∧
          r.key.FirstIn r.enquiry.listing (Enquiry.Sample.size none) ∧
            (r = s ∨ s.began < r.ended + 60) := by
  let told := Enquiry.runAll (Enquiry.opening 60) Enquiry.Sample.sequence
  have split : told = told.take 3 ++
      ⟨⟨40, Enquiry.Sample.config "first", 5, .ok [Enquiry.Sample.size (some "virtualMachines")]⟩,
        56, [], .ok (Enquiry.Sample.size none), 56⟩ :: [] := by rfl
  exact ⟨_, _, split, rfl, ((sizes_recalled split).2.2.2 _ rfl).2⟩

end Provisioning.Azure
