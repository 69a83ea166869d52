import Mathlib.Data.List.Basic
import Provisioning.Azure.Rest.Peer
import Provisioning.Proofs.Waiting

/-!
What the success of a call may be trusted with. A successful call was answered well throughout, the
operation that its write started has ended well, and what it gives was read back after that; a poll
of the operation that reports a fault makes the call fail with that very fault. Main statement:
`perform_faithful`, for all calls and whatever the endpoints answer.
-/

namespace Provisioning.Azure

/-- How what a call gives is read back, if the call creates or replaces a resource. -/
def Call.readBack? : (call : Call) → Option (Codec call.Value)
  | .putPublicIp .. => some PublicIpAddress.codec
  | .putNic .. => some NetworkInterface.codec
  | .putVm .. => some VirtualMachine.codec
  | _ => none

namespace Rest

open Client (stateCodec)

variable {α β σ : Type}

/-- A turn of a call that may have succeeded: the response is a success, or says that what is to be
deleted is not there. -/
def Turn.Welcome (turn : Turn) : Prop :=
  ∃ response, turn.answer = some response ∧
    (response.isSuccess ∨ turn.message.method = .delete ∧ response.status = 404)

/-- A request that writes was accepted, with this response and these turns after it. -/
def Accepted (had : List Turn) (response : Response) (after : List Turn) : Prop :=
  ∃ before write, had = before ++ ⟨write, some response⟩ :: after ∧ write.Writes ∧
    response.isSuccess

/-- A value is what the last turn has read from the address that was put to, after the operation
that the put started had ended well. -/
def ReadBack (reader : Reader) (codec : Codec α) (had : List Turn) (value : α) : Prop :=
  ∃ earlier write accepted between reading answer,
    had = earlier ++ ⟨write, some accepted⟩ :: (between ++ [⟨reading, some answer⟩]) ∧
      write.method = .put ∧ accepted.isSuccess ∧ Ended reader accepted between ∧
      reading.Asks .get write.url write.query ∧ answer.decode? reader codec = some value

/-- The result of a call is true to the turns with the endpoints: if it is a success, the call was
welcome in every turn, it wrote just if it is one that writes, the operation that a write started
has ended well, and what had to be read back was; and a fault that a poll of the operation of a
write reports is the result. -/
structure Faithful (reader : Reader) (writes : Bool) (readBack? : Option (Codec α))
    (had : List Turn) (result : Except Halt α) : Prop where
  welcome : ∀ value, result = .ok value → ∀ turn ∈ had, turn.Welcome
  wrote : ∀ value, result = .ok value → ((∃ turn ∈ had, turn.message.Writes) ↔ writes = true)
  ended : ∀ value, result = .ok value → ∀ response after, Accepted had response after →
    Ended reader response after
  readBack : ∀ codec, readBack? = some codec → ∀ value, result = .ok value →
    ReadBack reader codec had value
  candid : ∀ response after url, Accepted had response after →
    response.header? "Azure-AsyncOperation" = some url → Candid reader url after result

theorem Turn.Succeeds.welcome {turn : Turn} (succeeds : turn.Succeeds) : turn.Welcome := by
  obtain ⟨response, answered, success⟩ := succeeds
  exact ⟨response, answered, .inl success⟩

/-- No turn that writes succeeds. -/
def Vain (had : List Turn) : Prop := ∀ turn ∈ had, turn.message.Writes → ¬turn.Succeeds

theorem mem_middle {before after : List Turn} {turn : Turn} : turn ∈ before ++ turn :: after :=
  List.mem_append_right _ List.mem_cons_self

theorem Vain.not_accepted {had after : List Turn} {response : Response} (vain : Vain had) :
    ¬Accepted had response after := by
  rintro ⟨before, write, rfl, wrote, success⟩
  exact vain _ mem_middle wrote ⟨response, rfl, success⟩

/-- The only write of a call is where the call made it. -/
theorem Accepted.only {granting after later : List Turn} {write : Message}
    {response answer : Response} (posts : Granting granting)
    (unwritten : ∀ turn ∈ after, ¬turn.message.Writes)
    (accepted : Accepted (granting ++ ⟨write, some response⟩ :: after) answer later) :
    answer = response ∧ later = after := by
  obtain ⟨before, other, parts, wrote, _⟩ := accepted
  have apart := (List.append_cons_inj_of_notMem (fun member => posts.not_writes _ member wrote)
    fun member => unwritten _ member wrote).1 parts
  obtain ⟨_, same, rest⟩ := apart
  cases same
  exact ⟨rfl, rest.symm⟩

theorem Read.vain {had : List Turn} {result : Except Halt α} (read : Read had result) :
    Vain had := fun turn member wrote => (read.unwritten turn member wrote).elim

theorem Granting.vain {had : List Turn} (posts : Granting had) : Vain had :=
  fun turn member wrote => (posts.not_writes turn member wrote).elim

/-- A request that fails has not written. -/
theorem Sent.vain {reader : Reader} {method : Method} {url : String}
    {query : List (String × String)} {had : List Turn} {halt : Halt}
    (sent : Sent reader method url query had (.error halt)) : Vain had := by
  cases sent with
  | refused posts fine asks failure =>
      refine forall_mem_concat posts.vain ?_
      rintro _ ⟨response, ⟨⟩, success⟩
      rw [failure] at success
      cases success
  | silent posts asks =>
      refine forall_mem_concat posts.vain ?_
      rintro _ ⟨response, ⟨⟩, _⟩
  | ungranted posts other => exact posts.vain

namespace Faithful

variable {reader : Reader} {writes : Bool} {readBack? : Option (Codec α)}
  {had granting after : List Turn} {result : Except Halt α} {write : Message} {response : Response}

theorem of_read (read : Read had result) : Faithful reader false none had result where
  welcome value ended turn member := (read.fine value ended turn member).welcome
  wrote _ _ := iff_of_false (fun ⟨turn, member, wrote⟩ => read.unwritten turn member wrote) nofun
  ended _ _ _ _ accepted := (read.vain.not_accepted accepted).elim
  readBack := nofun
  candid _ _ _ accepted := (read.vain.not_accepted accepted).elim

/-- A call that fails and has not written promises nothing. -/
theorem of_vain {halt : Halt} (vain : Vain had) :
    Faithful reader writes readBack? had (.error halt) where
  welcome := nofun
  wrote := nofun
  ended := nofun
  readBack := nofun
  candid _ _ _ accepted := (vain.not_accepted accepted).elim

/-- A call that writes once, and then waits and reads. -/
theorem of_followed (posts : Granting granting) (fine : ∀ turn ∈ granting, turn.Succeeds)
    (wrote : write.Writes) (success : response.isSuccess)
    (followed : Followed reader response after result)
    (readBack : ∀ codec, readBack? = some codec → ∀ value, result = .ok value →
      ReadBack reader codec (granting ++ ⟨write, some response⟩ :: after) value) :
    Faithful reader true readBack? (granting ++ ⟨write, some response⟩ :: after) result := by
  constructor
  · intro value ended turn member
    rcases List.mem_append.1 member with earlier | here
    · exact (fine turn earlier).welcome
    · rcases List.mem_cons.1 here with rfl | later
      · exact ⟨response, rfl, .inl success⟩
      · exact (followed.fine value ended turn later).welcome
  · exact fun _ _ => iff_of_true ⟨_, mem_middle, wrote⟩ rfl
  · intro value ended answer later accepted
    obtain ⟨rfl, rfl⟩ := accepted.only posts followed.unwritten
    exact followed.ended value ended
  · exact readBack
  · intro answer later url accepted header
    obtain ⟨rfl, rfl⟩ := accepted.only posts followed.unwritten
    exact followed.candid url header

/-- A deletion of what is not there. -/
theorem of_absent {value : α} (posts : Granting granting)
    (fine : ∀ turn ∈ granting, turn.Succeeds) (deletes : write.method = .delete)
    (missing : response.status = 404) :
    Faithful reader true none (granting ++ [⟨write, some response⟩]) (.ok value) := by
  have vain : Vain (granting ++ [⟨write, some response⟩]) := by
    refine forall_mem_concat posts.vain ?_
    rintro _ ⟨_, ⟨⟩, success⟩
    simp [Response.isSuccess, missing] at success
  constructor
  · exact fun _ _ => forall_mem_concat (fun turn member => (fine turn member).welcome)
      ⟨response, rfl, .inr ⟨deletes, missing⟩⟩
  · exact fun _ _ => iff_of_true ⟨_, mem_middle, .inr (.inr deletes)⟩ rfl
  · exact fun _ _ _ _ accepted => (vain.not_accepted accepted).elim
  · exact nofun
  · exact fun _ _ _ accepted => (vain.not_accepted accepted).elim

end Faithful

/-- A value was fetched: only read, without any poll, and the last turn has given the value. -/
structure Fetched (reader : Reader) (codec : Codec α) (url : String)
    (query : List (String × String)) (had : List Turn) (result : Except Halt α) : Prop
    extends Read had result where
  silent : ∀ turn ∈ had, ∀ url, ¬turn.message.Polls url
  last : ∀ value, result = .ok value → ∃ earlier reading answer,
    had = earlier ++ [⟨reading, some answer⟩] ∧ reading.Asks .get url query ∧
      answer.decode? reader codec = some value

/-- What is fetched after the wait for a put is read back. -/
theorem Fetched.readBack {reader : Reader} {codec : Codec α} {url : String}
    {query : List (String × String)} {granting waited had : List Turn} {write : Message}
    {accepted : Response} {result : Except Halt α}
    (fetched : Fetched reader codec url query had result)
    (asks : write.Asks .put url query) (success : accepted.isSuccess)
    (ended : Ended reader accepted waited) (value : α) (good : result = .ok value) :
    ReadBack reader codec (granting ++ ⟨write, some accepted⟩ :: (waited ++ had)) value := by
  obtain ⟨earlier, reading, answer, rfl, reads, read⟩ := fetched.last value good
  have silent : ∀ turn ∈ earlier, ∀ url, ¬turn.message.Polls url :=
    fun turn member => fetched.silent turn (List.mem_append_left _ member)
  refine ⟨granting, write, accepted, waited ++ earlier, reading, answer, ?_, asks.1, success,
    ended.append silent, ?_, read⟩
  · rw [List.append_assoc]
  · rw [asks.2.1, asks.2.2]
    exact reads

namespace Client

variable (c : Client)

theorem errorOf_isNotFound (reader : Reader) (url : String) (response : Response) :
    (errorOf reader url response).isNotFound = true ↔ response.status = 404 := by
  unfold errorOf
  dsimp only
  split
  · simp [AzureError.isNotFound, *]
  · split <;> simp [AzureError.isNotFound, *]

theorem getValue_tells (codec : Codec α) (url version : String) :
    Talk.Tells (Fetched c.reader codec url (versionQuery version))
      (c.getValue codec url version) := by
  -- A request with a query is no poll.
  have asked {message : Message} (asks : message.Asks .get url (versionQuery version)) :
      ∀ other, ¬message.Polls other := fun _ polls => nomatch asks.2.2.symm.trans polls.2.2
  refine .bind ((c.send_tells .get url (versionQuery version) .none).mono ?_)
  rintro had (halt | response) sent
  · refine ⟨⟨sent.read.unwritten, nofun⟩, ?_, nofun⟩
    cases sent with
    | refused posts fine asks failure => exact forall_mem_concat posts.not_polls (asked asks)
    | silent posts asks => exact forall_mem_concat posts.not_polls (asked asks)
    | ungranted posts other => exact posts.not_polls
  · have read := sent.read
    cases sent with
    | @answered granting reading _ posts fine asks success =>
    have silent : ∀ turn ∈ granting ++ [⟨reading, some response⟩], ∀ url,
        ¬turn.message.Polls url := forall_mem_concat posts.not_polls (asked asks)
    unfold decoded
    dsimp only
    split
    · rename_i value found
      refine .pure ?_
      rw [List.append_nil]
      refine ⟨⟨read.unwritten, fun _ _ => read.fine _ rfl⟩, silent, ?_⟩
      rintro _ ⟨⟩
      exact ⟨_, _, _, rfl, asks, found⟩
    · refine .fail ?_
      rw [List.append_nil]
      exact ⟨⟨read.unwritten, nofun⟩, silent, nofun⟩

/-- A put is waited for and then read back. -/
theorem put_faithful (fuel : Nat) (codec : Codec α) (url version : String) (body : α) :
    Talk.Tells (Faithful c.reader true (some codec)) (c.put fuel codec url version body) := by
  refine .bind ((c.send_tells .put url (versionQuery version) _).mono ?_)
  rintro had (halt | response) sent
  · exact .of_vain sent.vain
  cases sent with
  | answered posts fine asks success =>
  refine .bind ((c.wait_tells fuel response).mono ?_)
  rintro waited (halt | ⟨⟨⟩⟩) followed
  · rw [List.append_assoc]
    exact .of_followed posts fine (.inl asks.1) success followed.of_error nofun
  · refine (c.getValue_tells codec url version).mono fun more result fetched => ?_
    rw [List.append_assoc]
    refine .of_followed posts fine (.inl asks.1) success
      (followed.append fetched.toRead fetched.silent) ?_
    rintro _ ⟨⟩ value good
    exact fetched.readBack asks success (followed.ended _ rfl) value good

theorem patchTags_faithful (fuel : Nat) (url version : String) (tags : Tags) :
    Talk.Tells (Faithful c.reader true none) (c.patchTags fuel url version tags) := by
  refine .bind ((c.send_tells .patch url (versionQuery version) _).mono ?_)
  rintro had (halt | response) sent
  · exact .of_vain sent.vain
  cases sent with
  | answered posts fine asks success =>
  refine (c.wait_tells fuel response).mono fun waited result followed => ?_
  rw [List.append_assoc]
  exact .of_followed posts fine (.inr (.inl asks.1)) success followed nofun

/-- What a deletion is answered: it is accepted, or what it is about is not there, or it fails. -/
theorem deletionAnswer_tells (url version : String) :
    Talk.Tells (fun had result => match result with
      | .ok (some response) => Sent c.reader .delete url (versionQuery version) had (.ok response)
      | .ok none => ∃ halt : Halt, halt.isNotFound = true ∧
          Sent c.reader .delete url (versionQuery version) had (.error halt)
      | .error _ => Vain had) (c.deletionAnswer url version) := by
  refine .tryCatch (.map ((c.send_tells .delete url (versionQuery version) .none).mono ?_))
  rintro had (halt | response) sent
  · dsimp only [Except.map]
    split
    · rename_i missing
      refine .pure ?_
      rw [List.append_nil]
      exact ⟨halt, missing, sent⟩
    · refine .throw ?_
      rw [List.append_nil]
      exact sent.vain
  · exact sent

theorem delete_faithful (fuel : Nat) (url version : String) :
    Talk.Tells (Faithful c.reader true none) (c.delete fuel url version) := by
  refine .bind ((c.deletionAnswer_tells url version).mono ?_)
  rintro had (halt | _ | response) told
  · exact .of_vain told
  · refine .pure ?_
    rw [List.append_nil]
    obtain ⟨halt, missing, sent⟩ := told
    cases sent with
    | refused posts fine asks failure =>
        exact .of_absent posts fine asks.1 ((errorOf_isNotFound c.reader url _).1 missing)
    | silent posts asks => cases missing
    | ungranted posts other => rw [other] at missing; cases missing
  · cases told with
    | answered posts fine asks success =>
    refine (c.wait_tells fuel response).mono fun waited result followed => ?_
    rw [List.append_assoc]
    exact .of_followed posts fine (.inr (.inr asks.1)) success followed nofun

/-- A part that only reads is true to its turns. -/
theorem faithful_of_reads {act : Talk α} (reads : Talk.Reads act) :
    Talk.Tells (Faithful c.reader false none) act := reads.mono fun _ _ => .of_read

theorem perform_tells (fuel : Nat) (call : Call) :
    Talk.Tells (Faithful c.reader call.isWrite call.readBack?) (c.perform fuel call) := by
  cases call with
  | putPublicIp | putNic | putVm => exact c.put_faithful _ _ _ _ _
  | getPublicIp | getNic | getVm | instanceView | getVirtualNetwork | getSubnet =>
      exact c.faithful_of_reads (c.getValue_reads _ _ _)
  | listPublicIps | listNics | listAllVms | listVms | listDisks =>
      exact c.faithful_of_reads (c.pages_reads _ _ _ _)
  | tagVm | tagDisk => exact c.patchTags_faithful _ _ _ _
  | deletePublicIp | deleteNic | deleteVm | deleteDisk => exact c.delete_faithful _ _ _
  | listVmSkus location => exact c.faithful_of_reads (c.vmSkus_reads _ _)
  | checkImage location image => exact c.faithful_of_reads (c.checkImage_reads _ _)

/-- Whatever call a client answers, whichever token it keeps, however it reads bodies and whatever
the endpoints answer, the result is true to the turns with the endpoints. -/
theorem perform_faithful (fuel : Nat) (call : Call) (token : Option Token)
    (serve : (w : Wire) → σ → w.Answer × σ) (s : σ) :
    Faithful c.reader call.isWrite call.readBack?
      (turns (Program.transcript (I := wires) serve ((c.perform fuel call).run.run token) s))
      (Program.run (I := wires) serve ((c.perform fuel call).run.run token) s).1.1 :=
  (c.perform_tells fuel call token).transcript s

end Client

namespace Sample

def client : Client :=
  ⟨⟨"http://arm", "http://arm/login", 1, 1⟩, ⟨"sub", "tenant", "id", "secret"⟩, .strict⟩

/-- Answers messages from a script. -/
def serve : (w : Wire) → List Response → w.Answer × List Response
  | .exchange _, script => (script.head?, script.tail)
  | .sleep _, script => ((), script)
  | .now, script => (0, script)
  | .after length, script => (some length, script)

/-- The turns and the result of a deletion by a client with a token. -/
def deletion (script : List Response) : List Turn × Except Halt Unit :=
  let talk := (client.perform 1 (.deleteVm "rg" "vm")).run.run (some ⟨"kept", 1⟩)
  (turns (Program.transcript (I := wires) serve talk script),
    (Program.run (I := wires) serve talk script).1.1)

/-- The state of an operation that has failed. -/
def failure : List UInt8 :=
  Peer.body (.object [("status", .string "Failed"), ("error", .object
    [("code", .string "AllocationFailed"), ("message", .string "full")])])

/-- The operation of a deletion cannot be found, by an answer that tells its failure. -/
def lost : List Response :=
  [⟨202, [("Azure-AsyncOperation", "http://arm/operation")], []⟩, ⟨404, [], failure⟩]

/-- A deletion starts an operation whose address is in the second header of the name. -/
def doubled : List Response :=
  [⟨202, [("Azure-AsyncOperation", ""), ("azure-asyncoperation", "http://arm/operation")], []⟩]

end Sample

/-- The failure that a poll tells is not what a deletion fails with if the poll is answered with
404, and only the first header of a name is heeded. -/
theorem exists_unheeded_failure :
    (∃ write started poll answer state,
      (Sample.deletion Sample.lost).1 = [⟨write, some started⟩, ⟨poll, some answer⟩] ∧
        started.header? "Azure-AsyncOperation" = some "http://arm/operation" ∧
        poll.Polls "http://arm/operation" ∧ answer.decode? .strict stateCodec = some state ∧
        state.status = "Failed" ∧
        (Sample.deletion Sample.lost).2 = .error (.fault (.notFound "full"))) ∧
      ∃ write response, (Sample.deletion Sample.doubled).1 = [⟨write, some response⟩] ∧
        write.Writes ∧ response.isSuccess ∧
        ("azure-asyncoperation", "http://arm/operation") ∈ response.headers ∧
        (Sample.deletion Sample.doubled).2 = .ok () := by
  have missed : (match (Sample.deletion Sample.lost).2 with
      | .ok _ => none
      | .error halt => some halt) = some (.fault (.notFound "full")) := by
    decide +kernel
  have deleted : (match (Sample.deletion Sample.doubled).2 with
      | .ok _ => true
      | .error _ => false) = true := by
    decide +kernel
  constructor
  · refine ⟨_, _, _, _, ⟨"Failed", some ⟨"AllocationFailed", "full"⟩⟩, rfl, by decide +kernel,
      ⟨rfl, rfl, rfl⟩, by decide +kernel, rfl, ?_⟩
    split at missed
    · cases missed
    · cases missed
      assumption
  · refine ⟨_, _, rfl, .inr (.inr rfl), by decide +kernel, by simp, ?_⟩
    split at deleted
    · assumption
    · cases deleted

end Rest

end Provisioning.Azure
