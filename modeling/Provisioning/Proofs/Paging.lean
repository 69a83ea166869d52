import Mathlib.Data.List.Forall2
import Provisioning.Proofs.Errands
import Provisioning.Proofs.Faithfulness
import Provisioning.Proofs.Records

/-!
Lists that are read page by page. `Chain` is what a whole list is: pages of which each gives the
address of the next, up to one that gives none. `Paged` is what is said when a list is read. Main
statement: `perform_complete`, that a list is given whole, with one request for each of its pages,
or not at all.
-/

namespace Provisioning.Azure

namespace Page

variable {α : Type} {codec : Codec α} {members : List (String × Json)} {written : Json}
  {items : List α}

/-- A page from its members; those that a page does not have are skipped. -/
theorem decode_object {next : Option String} (distinct : (members.map (·.1)).Nodup)
    (value : ("value", written) ∈ members) (read : (Codec.list codec).decode written = .ok items)
    (link : (Field.nullable "nextLink" .string).fromMembers members = .ok next) :
    (Page.codec codec).decode (.object members) = .ok ⟨items, next⟩ := by
  have found : (Field.defaulted "value" (.list codec) []).fromMembers members = .ok items :=
    Field.fromMembers_of_mem distinct value read
  simp only [Page.codec, Record.codec, Record.decode, Record.fromMembers, found, link]
  rfl

/-- A page without the address of a next one and a page where that is null read the same. -/
theorem decode_last (distinct : (members.map (·.1)).Nodup) (value : ("value", written) ∈ members)
    (read : (Codec.list codec).decode written = .ok items)
    (link : "nextLink" ∉ members.map (·.1) ∨ ("nextLink", .null) ∈ members) :
    (Page.codec codec).decode (.object members) = .ok ⟨items, none⟩ := by
  refine decode_object distinct value read ?_
  rcases link with absent | null
  · exact Field.fromMembers_of_absent absent rfl
  · exact Field.fromMembers_of_mem distinct null rfl

theorem decode_linked {next : String} (distinct : (members.map (·.1)).Nodup)
    (value : ("value", written) ∈ members) (read : (Codec.list codec).decode written = .ok items)
    (link : ("nextLink", .string next) ∈ members) :
    (Page.codec codec).decode (.object members) = .ok ⟨items, some next⟩ :=
  decode_object distinct value read (Field.fromMembers_of_mem distinct link rfl)

/-- A page that gives an address is not the last. -/
theorem not_last {page : Page α} {next : String} (link : page.nextLink = some next)
    (given : next ≠ "") : ¬(page.nextLink = none ∨ page.nextLink = some "") := by
  rintro (none | empty)
  · cases none.symm.trans link
  · cases empty.symm.trans link
    exact given rfl

end Page

namespace Rest

open Program (Exchange)

variable {α β σ : Type}

/-- A page as it is served: what it is asked for by, and the response. -/
structure Leaf where
  url : String
  query : List (String × String)
  response : Response

/-- The pages of a whole list, with the items on them: each page but the last gives the address of
the next, which is asked for without a query of its own. -/
inductive Chain (reader : Reader) (codec : Codec α) :
    (url : String) → (query : List (String × String)) → List Leaf → List α → Prop where
  | last {url : String} {query : List (String × String)} {response : Response} {page : Page α}
      (success : response.isSuccess) (read : response.decode? reader (Page.codec codec) = some page)
      (ends : page.nextLink = none ∨ page.nextLink = some "") :
      Chain reader codec url query [⟨url, query, response⟩] page.items
  | more {url : String} {query : List (String × String)} {response : Response} {page : Page α}
      {next : String} {leaves : List Leaf} {items : List α}
      (success : response.isSuccess) (read : response.decode? reader (Page.codec codec) = some page)
      (link : page.nextLink = some next) (given : next ≠ "")
      (rest : Chain reader codec next [] leaves items) :
      Chain reader codec url query (⟨url, query, response⟩ :: leaves) (page.items ++ items)

/-- A chain starts with a page, and it is only that page or there is a chain from the next one. -/
theorem Chain.first {reader : Reader} {codec : Codec α} {url : String}
    {query : List (String × String)} {leaves : List Leaf} {items : List α}
    (chain : Chain reader codec url query leaves items) :
    ∃ response page rest others, leaves = ⟨url, query, response⟩ :: rest ∧ response.isSuccess ∧
      response.decode? reader (Page.codec codec) = some page ∧ items = page.items ++ others ∧
      ((page.nextLink = none ∨ page.nextLink = some "") ∧ rest = [] ∧ others = [] ∨
        ∃ next, page.nextLink = some next ∧ next ≠ "" ∧
          Chain reader codec next [] rest others) := by
  cases chain with
  | @last _ _ response page success read ends =>
      exact ⟨response, page, [], [], rfl, success, read, (List.append_nil _).symm,
        .inl ⟨ends, rfl, rfl⟩⟩
  | @more _ _ response page next leaves items success read link given rest =>
      exact ⟨response, page, leaves, items, rfl, success, read, rfl, .inr ⟨next, link, given, rest⟩⟩

/-- The turns that are not about tokens. -/
def requests (had : List Turn) : List Turn := had.filter fun turn => turn.message.method ≠ .post

/-- A request asks for a page. -/
def Turn.AsksFor (turn : Turn) (leaf : Leaf) : Prop := turn.message.Asks .get leaf.url leaf.query

/-- A request asks for a page and gets it. -/
def Turn.Gets (turn : Turn) (leaf : Leaf) : Prop :=
  turn.AsksFor leaf ∧ turn.answer = some leaf.response

/-- The pages are served: a request that asks for the page whose turn it is gets that page. -/
def Serves (leaves : List Leaf) (had : List Turn) : Prop :=
  ∀ pair ∈ (requests had).zip leaves, pair.1.AsksFor pair.2 → pair.1.answer = some pair.2.response

/-- A turn in which a list cannot be read on, with the error of that: no token is granted, a request
for a page fails, or what comes is no page. -/
inductive Turn.Spoils (reader : Reader) (codec : Codec α) (turn : Turn) : AzureError → Prop where
  | denied {fault : AzureError} (posts : turn.message.method = .post)
      (denies : turn.Denies reader fault) : Spoils reader codec turn fault
  | failed {fault : AzureError} (gets : turn.message.method = .get)
      (fails : turn.Fails reader fault) : Spoils reader codec turn fault
  | unread {response : Response} (gets : turn.message.method = .get)
      (answered : turn.answer = some response) (success : response.isSuccess)
      (undecoded : response.decode? reader (Page.codec codec) = none) :
      Spoils reader codec turn .http

/-- What is said when pages are read with some fuel, and what comes of it. -/
inductive Paged (reader : Reader) (codec : Codec α) : (fuel : Nat) → (url : String) →
    (query : List (String × String)) → List Turn → Except Halt (List α) → Prop where
  | spent {url : String} {query : List (String × String)} :
      Paged reader codec 0 url query [] (.error .fuel)
  | failed {fuel : Nat} {url : String} {query : List (String × String)} {had : List Turn}
      {halt : Halt} (errand : Errand reader .get url query had (.error halt)) :
      Paged reader codec (fuel + 1) url query had (.error halt)
  | unread {fuel : Nat} {url : String} {query : List (String × String)} {had : List Turn}
      {response : Response} (errand : Errand reader .get url query had (.ok response))
      (undecoded : response.decode? reader (Page.codec codec) = none) :
      Paged reader codec (fuel + 1) url query had (.error (.fault .http))
  | last {fuel : Nat} {url : String} {query : List (String × String)} {had : List Turn}
      {response : Response} {page : Page α}
      (errand : Errand reader .get url query had (.ok response))
      (read : response.decode? reader (Page.codec codec) = some page)
      (ends : page.nextLink = none ∨ page.nextLink = some "") :
      Paged reader codec (fuel + 1) url query had (.ok page.items)
  | more {fuel : Nat} {url : String} {query : List (String × String)} {had others : List Turn}
      {response : Response} {page : Page α} {next : String} {result : Except Halt (List α)}
      (errand : Errand reader .get url query had (.ok response))
      (read : response.decode? reader (Page.codec codec) = some page)
      (link : page.nextLink = some next) (given : next ≠ "")
      (rest : Paged reader codec fuel next [] others result) :
      Paged reader codec (fuel + 1) url query (had ++ others) (result.map (page.items ++ ·))

/-- Pages are read by induction on the fuel. -/
theorem Client.pages_paged (c : Client) (codec : Codec α) (fuel : Nat) (url : String)
    (query : List (String × String)) :
    Talk.Tells (Paged c.reader codec fuel url query) (c.pages codec fuel url query) := by
  induction fuel generalizing url query with
  | zero => exact .throw .spent
  | succ fuel ih =>
      refine .bind ((c.send_errand .get url query .none).mono ?_)
      rintro had (halt | response) errand
      · exact .failed errand
      · refine .decoded (fun page read => ?_) fun undecoded => ?_
        · split
          · rename_i none
            refine .pure ?_
            rw [List.append_nil]
            exact .last errand read (.inl none)
          · rename_i next link
            split
            · rename_i empty
              refine .pure ?_
              rw [List.append_nil]
              rw [String.isEmpty_iff] at empty
              exact .last errand read (.inr (empty ▸ link))
            · rename_i given
              refine .map ((ih next []).mono fun others result rest => ?_)
              exact .more errand read link (fun empty => given (String.isEmpty_iff.2 empty)) rest
        · rw [List.append_nil]
          exact .unread errand undecoded

@[simp]
theorem requests_append (had more : List Turn) :
    requests (had ++ more) = requests had ++ requests more := List.filter_append ..

theorem Granting.requests_eq_nil {had : List Turn} (granting : Granting had) :
    requests had = [] := by
  refine List.filter_eq_nil_iff.2 fun turn member => ?_
  simp [granting turn member]

theorem Serves.tail {leaf : Leaf} {leaves : List Leaf} {had more : List Turn} {turn : Turn}
    (serves : Serves (leaf :: leaves) (had ++ more)) (first : requests had = [turn]) :
    Serves leaves more := by
  intro pair member
  refine serves pair ?_
  rw [requests_append, first]
  exact List.mem_cons_of_mem _ member

theorem Turn.Spoils.denied_of_post {reader : Reader} {codec : Codec α} {turn : Turn}
    {fault : AzureError} (spoils : turn.Spoils reader codec fault)
    (posts : turn.message.method = .post) : turn.Denies reader fault := by
  cases spoils with
  | denied _ denies => exact denies
  | failed gets _ | unread gets _ _ _ => cases gets.symm.trans posts

namespace Errand

variable {reader : Reader} {codec : Codec α} {url : String} {query : List (String × String)}
  {had more : List Turn} {outcome : Except Halt Response}

/-- The request of an errand that sends one. -/
theorem requests_orders {orders : List Turn} {turn : Turn} (ordered : Orders reader orders)
    (asks : turn.message.Asks .get url query) : requests (orders ++ [turn]) = [turn] := by
  rw [requests_append, ordered.posts.requests_eq_nil]
  simp [requests, asks.1]

/-- One request is made where a response comes. -/
theorem requests_eq {response : Response}
    (errand : Errand reader .get url query had (.ok response)) :
    ∃ message : Message, message.Asks .get url query ∧ requests had = [⟨message, some response⟩] ∧
      response.isSuccess := by
  cases errand with
  | @answered orders message _ ordered asks success =>
      exact ⟨message, asks, requests_orders ordered asks, success⟩

/-- A page that is got is the response. -/
theorem eq_of_gets {leaf : Leaf} {others : List Turn} {leaves : List Leaf} {response : Response}
    (errand : Errand reader .get url query had (.ok response))
    (gets : List.Forall₂ Turn.Gets (requests (had ++ others)) (leaf :: leaves)) :
    leaf.response = response ∧ List.Forall₂ Turn.Gets (requests others) leaves := by
  obtain ⟨message, asks, asked, _⟩ := errand.requests_eq
  rw [requests_append, asked] at gets
  cases gets with
  | cons first rest => exact ⟨(Option.some.inj first.2).symm, rest⟩

/-- Where a request gets a page, the errand does not fail. -/
theorem not_gets {leaf : Leaf} {leaves : List Leaf} {halt : Halt}
    (errand : Errand reader .get url query had (.error halt)) (success : leaf.response.isSuccess) :
    ¬List.Forall₂ Turn.Gets (requests had) (leaf :: leaves) := by
  intro gets
  cases errand with
  | denied posts _ | beyond posts _ =>
      rw [Granting.requests_eq_nil (List.forall_mem_singleton.2 posts)] at gets
      cases gets
  | failed ordered asks fails =>
      rw [requests_orders ordered asks] at gets
      cases gets with
      | cons first _ => exact fails.not_succeeds ⟨_, first.2, success⟩

/-- A page that is served is got. -/
theorem served {response : Response} {leaves : List Leaf}
    (errand : Errand reader .get url query had outcome)
    (serves : Serves (⟨url, query, response⟩ :: leaves) (had ++ more))
    (authorized : Authorized reader (had ++ more)) (success : response.isSuccess)
    (shown : outcome ≠ .error .overflow) : outcome = .ok response := by
  have answered {orders : List Turn} {turn : Turn} (ordered : Orders reader orders)
      (asks : turn.message.Asks .get url query)
      (serves : Serves (⟨url, query, response⟩ :: leaves) (orders ++ [turn] ++ more)) :
      turn.answer = some response := by
    refine serves (turn, ⟨url, query, response⟩) ?_ asks
    rw [requests_append, requests_orders ordered asks]
    exact List.mem_cons_self
  cases errand with
  | denied posts denies =>
      exact (denies.not_grants (authorized _ List.mem_cons_self posts)).elim
  | beyond => exact (shown rfl).elim
  | failed ordered asks fails =>
      exact (fails.not_succeeds ⟨_, answered ordered asks serves, success⟩).elim
  | answered ordered asks _ =>
      cases answered ordered asks serves
      rfl

/-- A turn that spoils a list is why there is no response, or why that is no page. -/
theorem spoiled {turn : Turn} {fault : AzureError}
    (errand : Errand reader .get url query had outcome) (member : turn ∈ had)
    (spoils : turn.Spoils reader codec fault) :
    outcome = .error (.fault fault) ∨ ∃ response, outcome = .ok response ∧ fault = .http ∧
      response.decode? reader (Page.codec codec) = none := by
  have fine {orders : List Turn} (ordered : Orders reader orders) : turn ∉ orders := fun member =>
    (spoils.denied_of_post (ordered.posts turn member)).not_grants (ordered.granted turn member)
  cases errand with
  | denied posts denies =>
      cases List.mem_singleton.1 member
      cases denies.unique (spoils.denied_of_post posts)
      exact .inl rfl
  | beyond posts grants =>
      cases List.mem_singleton.1 member
      exact ((spoils.denied_of_post posts).not_grants grants).elim
  | failed ordered asks fails =>
      cases List.mem_singleton.1 ((List.mem_append.1 member).resolve_left (fine ordered))
      cases spoils with
      | denied posts _ => cases posts.symm.trans asks.1
      | failed _ again =>
          cases fails.unique again
          exact .inl rfl
      | unread _ answered success _ => exact (fails.not_succeeds ⟨_, answered, success⟩).elim
  | @answered _ _ response ordered asks success =>
      cases List.mem_singleton.1 ((List.mem_append.1 member).resolve_left (fine ordered))
      cases spoils with
      | denied posts _ => cases posts.symm.trans asks.1
      | failed _ fails => exact (fails.not_succeeds ⟨_, rfl, success⟩).elim
      | unread _ answered _ undecoded =>
          cases answered
          exact .inr ⟨response, rfl, rfl, undecoded⟩

end Errand

namespace Paged

variable {reader : Reader} {codec : Codec α} {fuel : Nat} {url : String}
  {query : List (String × String)} {had : List Turn} {result : Except Halt (List α)}

/-- A chain that is served and not too long is read to its end, by induction on what is said: each
request gets the page that the chain has next. -/
theorem whole (paged : Paged reader codec fuel url query had result) {leaves : List Leaf}
    {items : List α} (chain : Chain reader codec url query leaves items)
    (enough : leaves.length ≤ fuel) (serves : Serves leaves had)
    (authorized : Authorized reader had) (shown : result ≠ .error .overflow) :
    List.Forall₂ Turn.Gets (requests had) leaves := by
  induction paged generalizing leaves items with
  | spent =>
      obtain ⟨response, page, rest, others, rfl, _⟩ := chain.first
      cases enough
  | @failed fuel url query had halt errand =>
      obtain ⟨response, page, rest, others, rfl, success, _⟩ := chain.first
      rw [← List.append_nil had] at serves authorized
      cases errand.served serves authorized success fun same => shown (by cases same; rfl)
  | @unread fuel url query had answer errand undecoded =>
      obtain ⟨response, page, rest, others, rfl, success, read, _⟩ := chain.first
      rw [← List.append_nil had] at serves authorized
      cases errand.served serves authorized success nofun
      cases undecoded.symm.trans read
  | @last fuel url query had answer page errand read ends =>
      obtain ⟨response, first, rest, others, rfl, success, found, rfl, goes⟩ := chain.first
      rw [← List.append_nil had] at serves authorized
      cases errand.served serves authorized success nofun
      cases read.symm.trans found
      obtain ⟨message, asks, asked, _⟩ := errand.requests_eq
      rcases goes with ⟨_, rfl, rfl⟩ | ⟨next, link, given, _⟩
      · rw [asked]
        exact .cons ⟨asks, rfl⟩ .nil
      · exact (Page.not_last link given ends).elim
  | @more fuel url query had later answer page next result errand read link given paged ih =>
      obtain ⟨response, first, rest, others, rfl, success, found, rfl, goes⟩ := chain.first
      cases errand.served serves authorized success nofun
      cases read.symm.trans found
      obtain ⟨message, asks, asked, _⟩ := errand.requests_eq
      rcases goes with ⟨ends, _⟩ | ⟨other, linked, _, chain⟩
      · exact (Page.not_last link given ends).elim
      · cases link.symm.trans linked
        have gets := ih chain (Nat.le_of_succ_le_succ enough) (serves.tail asked) authorized.right
          fun same => shown (by rw [same]; rfl)
        rw [requests_append, asked]
        exact .cons ⟨asks, rfl⟩ gets

/-- The items of a chain whose pages were got are what is given, by induction on what is said. -/
theorem of_gets (paged : Paged reader codec fuel url query had result) {leaves : List Leaf}
    {items : List α} (chain : Chain reader codec url query leaves items)
    (gets : List.Forall₂ Turn.Gets (requests had) leaves) : result = .ok items := by
  induction paged generalizing leaves items with
  | spent =>
      obtain ⟨response, page, rest, others, rfl, _⟩ := chain.first
      cases gets
  | failed errand =>
      obtain ⟨response, page, rest, others, rfl, success, _⟩ := chain.first
      exact (errand.not_gets success gets).elim
  | @unread fuel url query had answer errand undecoded =>
      obtain ⟨response, page, rest, others, rfl, success, read, _⟩ := chain.first
      rw [← List.append_nil had] at gets
      cases (errand.eq_of_gets gets).1
      cases undecoded.symm.trans read
  | @last fuel url query had answer page errand read ends =>
      obtain ⟨response, first, rest, others, rfl, success, found, rfl, goes⟩ := chain.first
      rw [← List.append_nil had] at gets
      cases (errand.eq_of_gets gets).1
      cases read.symm.trans found
      rcases goes with ⟨_, rfl, rfl⟩ | ⟨next, link, given, _⟩
      · rw [List.append_nil]
      · exact (Page.not_last link given ends).elim
  | @more fuel url query had later answer page next result errand read link given paged ih =>
      obtain ⟨response, first, rest, others, rfl, success, found, rfl, goes⟩ := chain.first
      obtain ⟨same, getsRest⟩ := errand.eq_of_gets gets
      cases same
      cases read.symm.trans found
      rcases goes with ⟨ends, _⟩ | ⟨other, linked, _, chain⟩
      · exact (Page.not_last link given ends).elim
      · cases link.symm.trans linked
        rw [ih chain getsRest]
        rfl

/-- A turn that spoils the list decides the result, by induction on what is said: nothing is asked
for after it. -/
theorem faulty (paged : Paged reader codec fuel url query had result) {turn : Turn}
    {fault : AzureError} (member : turn ∈ had) (spoils : turn.Spoils reader codec fault) :
    result = .error (.fault fault) := by
  induction paged with
  | spent => cases member
  | failed errand =>
      rcases errand.spoiled member spoils with same | ⟨_, ok, _⟩
      · cases same
        rfl
      · cases ok
  | unread errand _ =>
      rcases errand.spoiled member spoils with error | ⟨_, _, rfl, _⟩
      · cases error
      · rfl
  | last errand read _ =>
      rcases errand.spoiled member spoils with error | ⟨_, same, _, undecoded⟩
      · cases error
      · cases same
        cases undecoded.symm.trans read
  | more errand read _ _ _ ih =>
      rcases List.mem_append.1 member with here | later
      · rcases errand.spoiled here spoils with error | ⟨_, same, _, undecoded⟩
        · cases error
        · cases same
          cases undecoded.symm.trans read
      · rw [ih later]
        rfl

/-- What is given is on the pages of a chain that was got, by induction on what is said. -/
theorem backed (paged : Paged reader codec fuel url query had result) {items : List α}
    (given : result = .ok items) : ∃ leaves, Chain reader codec url query leaves items ∧
      List.Forall₂ Turn.Gets (requests had) leaves := by
  induction paged generalizing items with
  | spent | failed | unread => cases given
  | last errand read ends =>
      cases given
      obtain ⟨message, asks, asked, success⟩ := errand.requests_eq
      rw [asked]
      exact ⟨_, .last success read ends, .cons ⟨asks, rfl⟩ .nil⟩
  | @more fuel url query had later answer page next result errand read link long paged ih =>
      cases result with
      | error halt => cases given
      | ok others =>
          cases given
          obtain ⟨leaves, chain, gets⟩ := ih rfl
          obtain ⟨message, asks, asked, success⟩ := errand.requests_eq
          rw [requests_append, asked]
          exact ⟨_, .more success read link long chain, .cons ⟨asks, rfl⟩ gets⟩

/-- Fuel is used up by as many requests, by induction on what is said. -/
theorem requests_length (paged : Paged reader codec fuel url query had result)
    (spent : result = .error .fuel) : (requests had).length = fuel := by
  induction paged with
  | spent => rfl
  | failed errand => cases errand <;> cases spent
  | unread | last => cases spent
  | @more fuel url query had later answer page next result errand read link long paged ih =>
      cases result with
      | ok others => cases spent
      | error halt =>
          cases spent
          obtain ⟨message, _, asked, _⟩ := errand.requests_eq
          rw [requests_append, asked, List.length_append, ih rfl]
          exact Nat.add_comm 1 fuel

end Paged

/-- A list that a call reads: what is on its pages, what the first of them is asked for by, and what
of the list the call gives. -/
structure Listing (β : Type) where
  {Item : Type}
  codec : Codec Item
  url : String
  query : List (String × String)
  select : List Item → β

/-- The list that a call reads, if it is a call for a list. -/
def Client.listing? (c : Client) : (call : Call) → Option (Listing call.Value)
  | .listPublicIps group =>
      some ⟨PublicIpAddress.codec, c.kindUrl publicIpKind group, versionQuery networkVersion, id⟩
  | .listNics group =>
      some ⟨NetworkInterface.codec, c.kindUrl nicKind group, versionQuery networkVersion, id⟩
  | .listAllVms =>
      some ⟨VirtualMachine.codec, c.subscriptionUrl ++ "/providers/" ++ vmKind,
        versionQuery computeVersion, id⟩
  | .listVms group =>
      some ⟨VirtualMachine.codec, c.kindUrl vmKind group, versionQuery computeVersion, id⟩
  | .listDisks group =>
      some ⟨Disk.codec, c.kindUrl diskKind group, versionQuery diskVersion, id⟩
  | .listVmSkus location =>
      some ⟨ResourceSku.codec, c.subscriptionUrl ++ "/providers/Microsoft.Compute/skus",
        versionQuery skuVersion ++ [("$filter", "location eq '" ++ location ++ "'")],
        List.filter fun sku => sku.resourceType == some "virtualMachines"⟩
  | _ => none

/-- A list is read whole or not at all. What is given is just what is on the pages of a chain that
were got one after the other, for one request each; all pages of a chain are got if they are served
and the fuel is enough for them, provided that the tokens for this are granted and the clock can
show how long they are used; a turn that spoils the list decides the result; the client is broken
off just if the clock cannot show a moment; and it runs out of fuel only after as many requests. -/
structure Complete (reader : Reader) (listing : Listing β) (fuel : Nat)
    (had : List (Exchange wires)) (result : Except Halt β) : Prop where
  given : ∀ value, result = .ok value ↔ ∃ leaves items,
    Chain reader listing.codec listing.url listing.query leaves items ∧
      value = listing.select items ∧ List.Forall₂ Turn.Gets (requests (turns had)) leaves
  whole : ∀ leaves items, Chain reader listing.codec listing.url listing.query leaves items →
    leaves.length ≤ fuel → Serves leaves (turns had) → Authorized reader (turns had) →
    ¬Overflows had →
    result = .ok (listing.select items) ∧ List.Forall₂ Turn.Gets (requests (turns had)) leaves
  faulty : ∀ turn ∈ turns had, ∀ fault, turn.Spoils reader listing.codec fault →
    result = .error (.fault fault)
  broken : result = .error .overflow ↔ Overflows had
  spent : result = .error .fuel → (requests (turns had)).length = fuel

theorem Paged.complete {reader : Reader} {listing : Listing β} {fuel : Nat}
    {had : List (Exchange wires)} {outcome : Except Halt (List listing.Item)}
    (paged : Paged reader listing.codec fuel listing.url listing.query (turns had) outcome)
    (broken : outcome.map listing.select = .error .overflow ↔ Overflows had) :
    Complete reader listing fuel had (outcome.map listing.select) where
  given value := by
    constructor
    · intro given
      cases outcome with
      | error halt => cases given
      | ok items =>
          cases given
          obtain ⟨leaves, chain, gets⟩ := paged.backed rfl
          exact ⟨leaves, items, chain, rfl, gets⟩
    · rintro ⟨leaves, items, chain, rfl, gets⟩
      rw [paged.of_gets chain gets]
      rfl
  whole leaves items chain enough serves authorized shown := by
    have shown : outcome ≠ .error .overflow := fun same => shown (broken.1 (by rw [same]; rfl))
    have gets := paged.whole chain enough serves authorized shown
    rw [paged.of_gets chain gets]
    exact ⟨rfl, gets⟩
  faulty turn member fault spoils := by
    rw [paged.faulty member spoils]
    rfl
  broken := broken
  spent spent := by
    cases outcome with
    | ok items => cases spent
    | error halt =>
        cases spent
        exact paged.requests_length rfl

namespace Client

variable (c : Client)

/-- A call for a list reads its pages and gives what it selects of them. -/
theorem perform_paged (fuel : Nat) (call : Call) {listing : Listing call.Value}
    (lists : c.listing? call = some listing) :
    Talk.Tells (fun had result => ∃ outcome,
      Paged c.reader listing.codec fuel listing.url listing.query had outcome ∧
        result = outcome.map listing.select) (c.perform fuel call) := by
  cases call with
  | listPublicIps | listNics | listAllVms | listVms | listDisks =>
      cases lists
      refine (c.pages_paged _ fuel _ _).mono fun had outcome paged => ⟨outcome, paged, ?_⟩
      exact (congrFun Except.map_id outcome).symm
  | listVmSkus location =>
      cases lists
      exact .map ((c.pages_paged _ _ _ _).mono fun _ outcome paged => ⟨outcome, paged, rfl⟩)
  | _ => cases lists

theorem perform_meets_list (fuel : Nat) (call : Call) {listing : Listing call.Value}
    (lists : c.listing? call = some listing) :
    Talk.Meets (Complete c.reader listing fuel) (c.perform fuel call) := by
  have both := (c.perform_made fuel call).breaks.and (c.perform_paged fuel call lists)
  refine both.mono ?_
  rintro had result ⟨breaks, outcome, paged, rfl⟩
  exact paged.complete breaks.overflow

/-- Whatever list a client is called for, with whatever fuel, whichever token it keeps, however it
reads bodies and whatever the endpoints answer, the list is read whole or not at all. -/
theorem perform_complete (fuel : Nat) (call : Call) {listing : Listing call.Value}
    (lists : c.listing? call = some listing) (token : Option Token)
    (serve : (w : Wire) → σ → w.Answer × σ) (s : σ) :
    Complete c.reader listing fuel
      (Program.transcript (I := wires) serve ((c.perform fuel call).run.run token) s)
      (Program.run (I := wires) serve ((c.perform fuel call).run.run token) s).1.1 :=
  (c.perform_meets_list fuel call lists token).transcript s

end Client

namespace Sample

/-- A page of sizes: a size of disks, and where the sizes go on. -/
def firstShelf : Response :=
  ⟨200, [], Peer.body (.object [("value", .array [.object [("name", .string "Premium_LRS"),
    ("resourceType", .string "disks")]]), ("nextLink", .string "http://arm/next")])⟩

/-- The last page of sizes, with a size of machines. -/
def lastShelf : Response :=
  ⟨200, [], Peer.body (.object [("value", .array [.object [("name", .string "Standard_B1s"),
    ("resourceType", .string "virtualMachines")]]), ("nextLink", .string "")])⟩

/-- A call for the sizes of machines, by a client with a token and fuel for two pages. -/
def inquiry : Program wires (Except Halt (Call.listVmSkus "westus").Value × Option Token) :=
  (client.perform 2 (.listVmSkus "westus")).run.run (some ⟨"kept", 1⟩)

/-- What is said when the two pages are served. -/
def browsed : List (Exchange wires) := Program.transcript serve inquiry [firstShelf, lastShelf]

/-- The two pages are a list, wherever the first of them stands. -/
theorem chain_shelves (url : String) (query : List (String × String)) :
    Chain .strict ResourceSku.codec url query
      [⟨url, query, firstShelf⟩, ⟨"http://arm/next", [], lastShelf⟩]
      [⟨some "Premium_LRS", some "disks", [], [], none⟩,
        ⟨some "Standard_B1s", some "virtualMachines", [], [], none⟩] := by
  have read : firstShelf.decode? .strict (Page.codec ResourceSku.codec) =
      some ⟨[⟨some "Premium_LRS", some "disks", [], [], none⟩], some "http://arm/next"⟩ := by
    decide +kernel
  have readLast : lastShelf.decode? .strict (Page.codec ResourceSku.codec) =
      some ⟨[⟨some "Standard_B1s", some "virtualMachines", [], [], none⟩], some ""⟩ := by
    decide +kernel
  exact .more rfl read rfl (by decide) (.last rfl readLast (.inr rfl))

end Sample

/-- The sizes of machines on two pages that are served. -/
theorem perform_complete_shelves :
    ∃ listing leaves items, Sample.client.listing? (.listVmSkus "westus") = some listing ∧
      Chain .strict listing.codec listing.url listing.query leaves items ∧ leaves.length = 2 ∧
      Serves leaves (turns Sample.browsed) ∧ Authorized .strict (turns Sample.browsed) ∧
      ¬Overflows Sample.browsed ∧
      (Program.run (I := wires) Sample.serve Sample.inquiry
        [Sample.firstShelf, Sample.lastShelf]).1.1 =
          .ok [⟨some "Standard_B1s", some "virtualMachines", [], [], none⟩] := by
  have complete := Sample.client.perform_complete 2 (.listVmSkus "westus") rfl (some ⟨"kept", 1⟩)
    Sample.serve [Sample.firstShelf, Sample.lastShelf]
  have chain := Sample.chain_shelves
    (Sample.client.subscriptionUrl ++ "/providers/Microsoft.Compute/skus")
    (Client.versionQuery Client.skuVersion ++ [("$filter", "location eq '" ++ "westus" ++ "'")])
  have said : (turns Sample.browsed).map (fun turn => (turn.message.method, turn.answer)) =
      [(.get, some Sample.firstShelf), (.get, some Sample.lastShelf)] := by
    decide +kernel
  simp only [List.map_eq_cons_iff, List.map_eq_nil_iff, Prod.mk.injEq] at said
  obtain ⟨⟨first, _⟩, _, all, ⟨gets, rfl⟩, ⟨last, _⟩, _, rfl, ⟨getsLast, rfl⟩, rfl⟩ := said
  dsimp only at gets getsLast
  have authorized : Authorized .strict (turns Sample.browsed) := by
    simp [Authorized, all, gets, getsLast]
  have serves (url next : String) (query more : List (String × String)) : Serves
      [⟨url, query, Sample.firstShelf⟩, ⟨next, more, Sample.lastShelf⟩]
      (turns Sample.browsed) := by
    simp [Serves, requests, all, gets, getsLast]
  have shown : ¬Overflows Sample.browsed := by decide +kernel
  have whole := complete.whole _ _ chain (Nat.le_refl 2) (serves _ _ _ _) authorized shown
  have selected : ([⟨some "Premium_LRS", some "disks", [], [], none⟩,
        ⟨some "Standard_B1s", some "virtualMachines", [], [], none⟩] : List ResourceSku).filter
          (fun sku => sku.resourceType == some "virtualMachines") =
      [⟨some "Standard_B1s", some "virtualMachines", [], [], none⟩] := by
    decide
  refine ⟨_, _, _, rfl, chain, rfl, serves _ _ _ _, authorized, shown, ?_⟩
  unfold Sample.inquiry
  rw [whole.1]
  exact congrArg Except.ok selected

end Rest

end Provisioning.Azure
