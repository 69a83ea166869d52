import Mathlib.Data.List.Basic
import Provisioning.Proofs.Arising
import Provisioning.Proofs.Ownership
import Provisioning.Proofs.Sight

/-!
Addresses are numbered in the order in which they are given out, whatever their form. Main
statements: `IsAddress.unique`, that an address tells its number, and `Numbered.putPublicIp` and
`Numbered.putNic`, that no address is held in two places after a put if none was before.
-/

namespace Provisioning.Azure

namespace Resources

/-- The lower-case digits of numbers, in bases up to sixteen, tell the numbers apart. -/
theorem toDigits_injective {base : Nat} (lower : 1 < base) (upper : base ≤ 16) {n m : Nat}
    (same : Nat.toDigits base n = Nat.toDigits base m) : n = m := by
  have digits : ∀ a < 16, ∀ b < 16, Nat.digitChar a = Nat.digitChar b → a = b := by decide
  induction n using Nat.strongRecOn generalizing m with
  | ind n ih =>
      rw [Nat.toDigits_eq_if (n := n) lower, Nat.toDigits_eq_if (n := m) lower] at same
      have below (k : Nat) : k % base < 16 :=
        Nat.lt_of_lt_of_le (Nat.mod_lt k (Nat.zero_lt_of_lt lower)) upper
      split at same <;> split at same
      · rename_i small other
        have below : n < 16 := Nat.lt_of_lt_of_le small upper
        have also : m < 16 := Nat.lt_of_lt_of_le other upper
        exact digits n below m also (List.cons.inj same).1
      · have lengths := congrArg List.length same
        simp at lengths
      · have lengths := congrArg List.length same
        simp at lengths
      · rename_i large _
        obtain ⟨higher, lowest⟩ := List.append_inj' same rfl
        have quotient : n / base = m / base :=
          ih _ (Nat.div_lt_self (by omega) lower) higher
        have rest := digits _ (below n) _ (below m) (List.cons.inj lowest).1
        rw [← Nat.div_add_mod n base, quotient, rest, Nat.div_add_mod]

/-- A way to write an address: its beginning, and the base in which its number follows. -/
structure AddressForm where
  stem : String
  base : Nat
  deriving DecidableEq

/-- Public and private addresses of both versions. -/
def addressForms : List AddressForm :=
  [⟨"2001:db8::", 16⟩, ⟨"20.0.0.", 10⟩, ⟨"fd00::", 16⟩, ⟨"10.0.0.", 10⟩]

/-- A text is an address of a number. -/
def IsAddress (n : Nat) (text : String) : Prop :=
  ∃ form ∈ addressForms, text.toList = form.stem.toList ++ Nat.toDigits form.base n

theorem isAddress_publicAddress (version : String) (n : Nat) :
    IsAddress n (publicAddress version n) := by
  unfold publicAddress
  split
  · exact ⟨⟨"2001:db8::", 16⟩, by decide, by simp [hex]⟩
  · refine ⟨⟨"20.0.0.", 10⟩, by decide, ?_⟩
    change ("20.0.0." ++ toString n).toList = _
    simp

theorem isAddress_privateAddress (version : Option String) (n : Nat) :
    IsAddress n (privateAddress version n) := by
  unfold privateAddress
  split
  · exact ⟨⟨"fd00::", 16⟩, by decide, by simp [hex]⟩
  · refine ⟨⟨"10.0.0.", 10⟩, by decide, ?_⟩
    change ("10.0.0." ++ toString n).toList = _
    simp

/-- An address is that of one number only. -/
theorem IsAddress.unique {n m : Nat} {text : String} (first : IsAddress n text)
    (second : IsAddress m text) : n = m := by
  obtain ⟨form, listed, written⟩ := first
  obtain ⟨other, also, again⟩ := second
  rw [written] at again
  -- The forms differ in the first three characters.
  have long : ∀ form ∈ addressForms, 3 ≤ form.stem.toList.length := by decide
  have differ : ∀ form ∈ addressForms, ∀ other ∈ addressForms,
      form.stem.toList.take 3 = other.stem.toList.take 3 → form = other := by decide
  have begins := congrArg (List.take 3) again
  rw [List.take_append_of_le_length (long form listed),
    List.take_append_of_le_length (long other also)] at begins
  cases differ form listed other also begins
  have bases : ∀ form ∈ addressForms, 1 < form.base ∧ form.base ≤ 16 := by decide
  exact toDigits_injective (bases form listed).1 (bases form listed).2
    (List.append_cancel_left again)

/-- Where an address is held: at a public address, or at a configuration of an interface. -/
inductive AddressSlot where
  | external (key : ResourceKey)
  | internal (key : ResourceKey) (position : Nat)
  deriving DecidableEq

/-- The private address of a configuration of an interface. -/
def privateAt (nic : NetworkInterface) (position : Nat) : Option String :=
  nic.ipConfigurations[position]?.bind (·.properties.privateAddress)

/-- The address that is held somewhere. -/
def addressAt (r : Resources) : AddressSlot → Option String
  | .external key => (r.publicIps.get? key).bind (·.properties.ipAddress)
  | .internal key position => (r.nics.get? key).bind (privateAt · position)

/-- Every address has a number that was given out, and no address is held twice. -/
structure Numbered (r : Resources) : Prop where
  bounded : ∀ slot text, r.addressAt slot = some text → ∃ n ≤ r.addresses, IsAddress n text
  apart : ∀ slot other text, r.addressAt slot = some text → r.addressAt other = some text →
    slot = other

/-- An address that was not given out before. -/
def New (r next : Resources) (text : String) : Prop :=
  ∃ n, r.addresses < n ∧ n ≤ next.addresses ∧ IsAddress n text

namespace Numbered

variable {r next : Resources}

/-- Addresses stay numbered when those of some slots are written: each of them is one that those
slots held before, or a new one. -/
theorem write (numbered : r.Numbered) (written : AddressSlot → Prop)
    (count : r.addresses ≤ next.addresses)
    (aside : ∀ slot text, ¬written slot → next.addressAt slot = some text →
      r.addressAt slot = some text)
    (given : ∀ slot text, written slot → next.addressAt slot = some text →
      (∃ before, written before ∧ r.addressAt before = some text) ∨ r.New next text)
    (within : ∀ slot other text, written slot → written other →
      next.addressAt slot = some text → next.addressAt other = some text → slot = other) :
    next.Numbered := by
  -- What is held where nothing is written was held there before, so it is no written address.
  have elsewhere {slot other : AddressSlot} {text : String} (here : written slot)
      (there : ¬written other) (one : next.addressAt slot = some text)
      (same : next.addressAt other = some text) : False := by
    have earlier := aside other text there same
    rcases given slot text here one with ⟨before, own, held⟩ | ⟨n, later, _, address⟩
    · exact there (numbered.apart before other text held earlier ▸ own)
    · obtain ⟨m, bound, also⟩ := numbered.bounded other text earlier
      cases address.unique also
      omega
  constructor
  · intro slot text held
    by_cases here : written slot
    · rcases given slot text here held with ⟨before, _, earlier⟩ | ⟨n, _, bound, address⟩
      · obtain ⟨n, bound, address⟩ := numbered.bounded before text earlier
        exact ⟨n, Nat.le_trans bound count, address⟩
      · exact ⟨n, bound, address⟩
    · obtain ⟨n, bound, address⟩ := numbered.bounded slot text (aside slot text here held)
      exact ⟨n, Nat.le_trans bound count, address⟩
  · intro slot other text one same
    by_cases here : written slot <;> by_cases there : written other
    · exact within slot other text here there one same
    · exact (elsewhere here there one same).elim
    · exact (elsewhere there here same one).elim
    · exact numbered.apart slot other text (aside slot text here one) (aside other text there same)

/-- Addresses stay numbered when none is written. -/
theorem of_aside (numbered : r.Numbered) (count : r.addresses ≤ next.addresses)
    (aside : ∀ slot text, next.addressAt slot = some text → r.addressAt slot = some text) :
    next.Numbered :=
  numbered.write (fun _ => False) count (fun slot text _ => aside slot text)
    (fun _ _ => False.elim) fun _ _ _ => False.elim

/-- Addresses stay numbered when neither public addresses nor interfaces change. -/
theorem of_same (numbered : r.Numbered) (publicIps : next.publicIps = r.publicIps)
    (nics : next.nics = r.nics) (count : r.addresses ≤ next.addresses) : next.Numbered := by
  refine numbered.of_aside count fun slot text held => ?_
  cases slot with
  | external => simpa only [addressAt, publicIps] using held
  | internal => simpa only [addressAt, nics] using held

end Numbered

/-- A known address of an interface is that of a configuration with its name. -/
theorem exists_of_privateAddresses {nic : NetworkInterface} {name text : String}
    (known : (privateAddresses nic).get? name = some text) :
    ∃ (position : Nat) (c : IpConfiguration), nic.ipConfigurations[position]? = some c ∧
      c.name = some name ∧ c.properties.privateAddress = some text := by
  obtain ⟨c, member, entry⟩ := List.mem_filterMap.1 (SortedMap.mem_of_get?_ofList known)
  obtain ⟨position, found⟩ := List.getElem?_of_mem member
  refine ⟨position, c, found, ?_⟩
  split at entry
  · rename_i named addressed
    cases entry
    exact ⟨named, addressed⟩
  · cases entry

/-- Addresses that are known by name: they are numbered, and each is known by one name. -/
structure KnownBelow (previous : SortedMap String String) (bound : Nat) : Prop where
  numbered : ∀ name text, previous.get? name = some text → ∃ n ≤ bound, IsAddress n text
  apart : ∀ name other text, previous.get? name = some text → previous.get? other = some text →
    name = other

/-- What is known of an interface is held at the configuration of that name. -/
theorem exists_of_known {r : Resources} {key : ResourceKey} {name text : String}
    (known : (((r.nics.get? key).map privateAddresses).getD ∅).get? name = some text) :
    ∃ position nic c, r.nics.get? key = some nic ∧ nic.ipConfigurations[position]? = some c ∧
      c.name = some name ∧ r.addressAt (.internal key position) = some text := by
  cases found : r.nics.get? key with
  | none =>
      rw [found] at known
      cases known
  | some nic =>
      rw [found] at known
      obtain ⟨position, c, there, named, address⟩ := exists_of_privateAddresses known
      refine ⟨position, nic, c, rfl, there, named, ?_⟩
      rw [addressAt, found, Option.bind_some, privateAt, there, Option.bind_some, address]

/-- The known addresses of an interface are numbered, and each is known by one name. -/
theorem Numbered.knownBelow {r : Resources} (numbered : r.Numbered) (key : ResourceKey) :
    KnownBelow (((r.nics.get? key).map privateAddresses).getD ∅) r.addresses := by
  constructor
  · intro name text known
    obtain ⟨position, _, _, _, _, _, held⟩ := exists_of_known known
    exact numbered.bounded _ text held
  · intro name other text known also
    obtain ⟨position, nic, c, found, there, named, held⟩ := exists_of_known known
    obtain ⟨place, _, d, again, here, called, same⟩ := exists_of_known also
    cases numbered.apart _ _ text held same
    cases found.symm.trans again
    cases there.symm.trans here
    exact Option.some.inj (named.symm.trans called)

/-- Configurations with names of their own are assigned addresses of their own, each of them known
by its name or new. -/
theorem assignAddresses_apart {previous : SortedMap String String} {bound count : Nat}
    (known : KnownBelow previous bound) (below : bound ≤ count)
    {configurations : List IpConfiguration}
    (distinct : (configurations.filterMap (·.name)).Nodup) :
    ∃ addresses total, addresses.length = configurations.length ∧
      assignAddresses previous count configurations =
        (configurations.zipWith .withAddress addresses, total) ∧
      count ≤ total ∧ addresses.Nodup ∧
      ∀ text ∈ addresses,
        (∃ c ∈ configurations, ∃ name, c.name = some name ∧ previous.get? name = some text) ∨
        ∃ n, count < n ∧ n ≤ total ∧ IsAddress n text := by
  induction configurations generalizing count with
  | nil => exact ⟨[], count, rfl, rfl, Nat.le_refl _, .nil, nofun⟩
  | cons c rest ih =>
      have others : (rest.filterMap (·.name)).Nodup :=
        ((List.sublist_cons_self c rest).filterMap _).nodup distinct
      cases earlier : c.name.bind previous.get? with
      | some address =>
          obtain ⟨name, named, found⟩ := Option.bind_eq_some_iff.1 earlier
          rw [List.filterMap_cons_some named, List.nodup_cons] at distinct
          obtain ⟨m, low, own⟩ := known.numbered name address found
          obtain ⟨addresses, total, length, assigned, le, nodup, each⟩ := ih below others
          refine ⟨address :: addresses, total, by simp [length], ?_, le, ?_, ?_⟩
          · simp only [assignAddresses, earlier, assigned]
            rfl
          · refine List.nodup_cons.2 ⟨fun member => ?_, nodup⟩
            rcases each address member with ⟨d, listed, other, called, same⟩ | ⟨n, later, _, also⟩
            · cases known.apart name other address found same
              exact distinct.1 (List.mem_filterMap.2 ⟨d, listed, called⟩)
            · have numbers := own.unique also
              omega
          · refine List.forall_mem_cons.2 ⟨.inl ⟨c, List.mem_cons_self, name, named, found⟩, ?_⟩
            intro text member
            refine (each text member).imp_left ?_
            rintro ⟨d, listed, rest⟩
            exact ⟨d, List.mem_cons_of_mem _ listed, rest⟩
      | none =>
          have own := isAddress_privateAddress c.properties.addressVersion (count + 1)
          obtain ⟨addresses, total, length, assigned, le, nodup, each⟩ :=
            ih (Nat.le_succ_of_le below) others
          refine ⟨privateAddress c.properties.addressVersion (count + 1) :: addresses, total,
            by simp [length], ?_, Nat.le_of_succ_le le, ?_, ?_⟩
          · simp only [assignAddresses, earlier, assigned]
            rfl
          · refine List.nodup_cons.2 ⟨fun member => ?_, nodup⟩
            rcases each _ member with ⟨_, _, other, _, same⟩ | ⟨n, later, _, also⟩
            · obtain ⟨m, low, also⟩ := known.numbered other _ same
              have numbers := own.unique also
              omega
            · have numbers := own.unique also
              omega
          · refine List.forall_mem_cons.2 ⟨.inr ⟨count + 1, Nat.lt_succ_self _, le, own⟩, ?_⟩
            rintro text member
            rcases each text member with ⟨d, listed, rest⟩ | ⟨n, later, rest⟩
            · exact .inl ⟨d, List.mem_cons_of_mem _ listed, rest⟩
            · exact .inr ⟨n, Nat.lt_of_succ_lt later, rest⟩

section

variable {r : Resources} {key : ResourceKey} {count : Nat}

/-- What is held after a public address was stored. -/
theorem addressAt_insert_publicIp (address : PublicIpAddress) (slot : AddressSlot) :
    addressAt { r with publicIps := r.publicIps.insert key address, addresses := count } slot =
      if slot = .external key then address.properties.ipAddress else r.addressAt slot := by
  cases slot with
  | external other =>
      by_cases same : other = key
      · simp [addressAt, same]
      · simp [addressAt, same, Ne.symm same]
  | internal => rfl

/-- What is held after an interface was stored. -/
theorem addressAt_insert_nic (nic : NetworkInterface) (position : Nat) :
    addressAt { r with nics := r.nics.insert key nic, addresses := count }
      (.internal key position) = privateAt nic position := by
  simp [addressAt]

theorem addressAt_insert_nic_of_ne (nic : NetworkInterface) {slot : AddressSlot}
    (aside : ∀ position, slot ≠ .internal key position) :
    addressAt { r with nics := r.nics.insert key nic, addresses := count } slot =
      r.addressAt slot := by
  cases slot with
  | external => rfl
  | internal other position =>
      have different : key ≠ other := by
        rintro rfl
        exact aside position rfl
      simp [addressAt, different]

/-- The private addresses of an interface are those that it was stored with. -/
theorem privateAt_stored {body : NetworkInterface} {addresses : List String}
    (length : addresses.length = body.ipConfigurations.length) (position : Nat) :
    privateAt (body.stored key addresses) position = addresses[position]? := by
  change ((body.ipConfigurations.zipWith IpConfiguration.withAddress addresses)[position]?).bind
    (·.properties.privateAddress) = _
  rw [List.getElem?_zipWith]
  by_cases inside : position < addresses.length
  · rw [List.getElem?_eq_getElem inside, List.getElem?_eq_getElem (length ▸ inside)]
    rfl
  · rw [List.getElem?_eq_none (Nat.le_of_not_lt inside)]
    cases body.ipConfigurations[position]? <;> rfl

end

namespace Numbered

variable {r next : Resources} {key : ResourceKey}

/-- Addresses stay numbered when a public address is put. -/
theorem putPublicIp (numbered : r.Numbered) (key : ResourceKey) (body : PublicIpAddress) :
    (r.putPublicIp key body).2.Numbered := by
  cases found : r.publicIps.get? key with
  | some existing =>
      rw [putPublicIp_of_some found]
      refine numbered.of_aside (Nat.le_refl _) fun slot text held => ?_
      rw [addressAt_insert_publicIp] at held
      split at held
      · rename_i own
        rw [own, addressAt, found]
        exact held
      · exact held
  | none =>
      rw [putPublicIp_of_none found]
      refine numbered.write (· = .external key) (Nat.le_succ _) ?_ ?_ ?_
      · intro slot text aside held
        rwa [addressAt_insert_publicIp, if_neg aside] at held
      · rintro slot text own held
        rw [addressAt_insert_publicIp, if_pos own] at held
        cases held
        exact .inr ⟨r.addresses + 1, Nat.lt_succ_self _, Nat.le_refl _,
          isAddress_publicAddress body.version _⟩
      · exact fun slot other _ own also _ _ => own.trans also.symm

/-- Addresses stay numbered when an interface is put whose configurations have names of their
own. -/
theorem putNic (numbered : r.Numbered) {body value : NetworkInterface} (named : body.Named)
    (performed : r.putNic key body = .ok (value, next)) : next.Numbered := by
  obtain ⟨addresses, total, length, assigned, le, nodup, each⟩ :=
    assignAddresses_apart (numbered.knownBelow key) (Nat.le_refl _) named.distinct
  obtain ⟨_, _, rfl⟩ := putNic_assigned performed assigned
  refine numbered.write (fun slot => ∃ position, slot = .internal key position) le ?_ ?_ ?_
  · intro slot text aside held
    rwa [addressAt_insert_nic_of_ne _ fun position same => aside ⟨position, same⟩] at held
  · rintro _ text ⟨position, rfl⟩ held
    rw [addressAt_insert_nic, privateAt_stored length] at held
    rcases each text (List.mem_of_getElem? held) with ⟨c, _, name, _, known⟩ | new
    · obtain ⟨before, _, _, _, _, _, earlier⟩ := exists_of_known known
      exact .inl ⟨_, ⟨before, rfl⟩, earlier⟩
    · exact .inr new
  · rintro _ _ text ⟨position, rfl⟩ ⟨place, rfl⟩ held also
    rw [addressAt_insert_nic, privateAt_stored length] at held also
    have inside := (List.getElem?_eq_some_iff.1 held).1
    rw [(List.getElem?_inj inside nodup).1 (held.trans also.symm)]

end Numbered

end Resources

end Provisioning.Azure
