import Provisioning.Proofs.Conversation

/-!
Waiting for an operation. Polls go on until one shows the end of the operation or reports a fault.
Main statement: `wait_tells`, that a wait that succeeds has seen the operation end well and that a
fault that a poll of the operation reports is the result.
-/

namespace Provisioning.Azure.Rest

open Client (Poll OperationState stateCodec)

variable {α β σ : Type}

/-! ### Polls -/

/-- The last poll of an address is answered so. -/
def LastPoll (url : String) (had : List Turn) (answer : Response) : Prop :=
  ∃ earlier message later, had = earlier ++ ⟨message, some answer⟩ :: later ∧
    message.Polls url ∧ ∀ turn ∈ later, ¬turn.message.Polls url

namespace LastPoll

variable {url : String} {had more : List Turn} {answer : Response}

theorem append (last : LastPoll url had answer) (silent : ∀ turn ∈ more, ¬turn.message.Polls url) :
    LastPoll url (had ++ more) answer := by
  obtain ⟨earlier, message, later, rfl, polls, none⟩ := last
  refine ⟨earlier, message, later ++ more, by simp, polls, fun turn member => ?_⟩
  exact (List.mem_append.1 member).elim (none turn) (silent turn)

theorem prepend (last : LastPoll url more answer) : LastPoll url (had ++ more) answer := by
  obtain ⟨earlier, message, later, rfl, polls, none⟩ := last
  exact ⟨had ++ earlier, message, later, by simp, polls, none⟩

end LastPoll

/-- The fault that an answer to a poll of an operation reports. -/
inductive Reports (reader : Reader) (url : String) (answer : Response) : AzureError → Prop where
  | refused (failure : answer.isSuccess = false) :
      Reports reader url answer (Client.errorOf reader url answer)
  | failed {state : OperationState} (success : answer.isSuccess)
      (read : answer.decode? reader stateCodec = some state)
      (status : state.status = "Failed" ∨ state.status = "Canceled") :
      Reports reader url answer
        (.api 200 (state.error.getD .empty).code (state.error.getD .empty).message)

/-- A fault that a poll of an operation reports is the result. -/
def Candid (reader : Reader) (url : String) (had : List Turn) (result : Except Halt α) : Prop :=
  ∀ message answer, ⟨message, some answer⟩ ∈ had → message.Polls url →
    ∀ fault, Reports reader url answer fault → result = .error (.fault fault)

namespace Candid

variable {reader : Reader} {url : String} {had more : List Turn} {result : Except Halt α}

/-- Where no poll has reported a fault, the result may be any. -/
theorem of_ok {value : β} (candid : Candid reader url had (.ok value : Except Halt β))
    (result : Except Halt α) : Candid reader url had result :=
  fun message answer member polls fault reports =>
    nomatch candid message answer member polls fault reports

theorem of_error {halt : Halt} (candid : Candid reader url had (.error halt : Except Halt β)) :
    Candid reader url had (.error halt : Except Halt α) := by
  intro message answer member polls other reports
  cases candid message answer member polls other reports
  rfl

theorem append (first : Candid reader url had result) (second : Candid reader url more result) :
    Candid reader url (had ++ more) result := fun message answer member =>
  (List.mem_append.1 member).elim (first message answer) (second message answer)

theorem of_silent (silent : ∀ turn ∈ had, ¬turn.message.Polls url) :
    Candid reader url had result :=
  fun _ _ member polls => (silent _ member polls).elim

/-- Of a request and what was said for its token only the response counts. -/
theorem concat {granting : List Turn} {message : Message} {response : Option Response}
    (posts : Granting granting) (told : ∀ answer, response = some answer →
      ∀ fault, Reports reader url answer fault → result = .error (.fault fault)) :
    Candid reader url (granting ++ [⟨message, response⟩]) result := by
  intro other answer member polls fault reports
  rcases List.mem_append.1 member with earlier | same
  · exact (posts.not_polls _ earlier url polls).elim
  · cases List.mem_singleton.1 same
    exact told answer rfl fault reports

end Candid

/-- The address that is polled. -/
def Client.Poll.url : Poll → String
  | .operation url | .location url => url

/-- An answer after which the operation has ended well. -/
def Client.Poll.Done (reader : Reader) : Poll → Response → Prop
  | .operation _, answer =>
      ∃ state, answer.decode? reader stateCodec = some state ∧ state.status = "Succeeded"
  | .location _, answer => answer.status ≠ 202

/-- A target was polled: nothing was written, the last poll has shown that the operation ended if
the value says so, and no fault that a poll reported was passed over. -/
structure Polled (reader : Reader) (target : Poll) (finished : α → Prop) (had : List Turn)
    (result : Except Halt α) : Prop extends Read had result where
  last : ∀ value, result = .ok value → finished value →
    ∃ answer, LastPoll target.url had answer ∧ answer.isSuccess ∧ target.Done reader answer
  candid : ∀ url, target = .operation url → Candid reader url had result

namespace Polled

variable {reader : Reader} {target : Poll} {finished : α → Prop} {had more granting : List Turn}
  {result : Except Halt α} {message : Message} {response : Response}

/-- A poll that was answered well. -/
theorem of_answered (posts : Granting granting) (fine : ∀ turn ∈ granting, turn.Succeeds)
    (polls : message.Polls target.url) (success : response.isSuccess)
    (done : ∀ value, result = .ok value → finished value → target.Done reader response)
    (told : ∀ url, target = .operation url → ∀ fault, Reports reader url response fault →
      result = .error (.fault fault)) :
    Polled reader target finished (granting ++ [⟨message, some response⟩]) result where
  unwritten := forall_mem_concat posts.not_writes polls.not_writes
  fine _ _ := forall_mem_concat fine ⟨response, rfl, success⟩
  last value ended finished :=
    ⟨response, ⟨granting, message, [], rfl, polls, nofun⟩, success, done value ended finished⟩
  candid url same := by
    refine .concat posts fun answer found => ?_
    cases found
    exact told url same

/-- A poll of an operation whose state was read. -/
theorem of_state {url : String} {state : OperationState} (posts : Granting granting)
    (fine : ∀ turn ∈ granting, turn.Succeeds) (polls : message.Polls url)
    (success : response.isSuccess) (read : response.decode? reader stateCodec = some state)
    (done : ∀ value, result = .ok value → finished value → state.status = "Succeeded")
    (told : state.status = "Failed" ∨ state.status = "Canceled" → result = .error (.fault
      (.api 200 (state.error.getD .empty).code (state.error.getD .empty).message))) :
    Polled reader (.operation url) finished (granting ++ [⟨message, some response⟩]) result := by
  refine .of_answered posts fine polls success
    (fun value ended finished => ⟨state, read, done value ended finished⟩) ?_
  rintro _ ⟨⟩ fault reports
  cases reports with
  | refused failure => rw [failure] at success; cases success
  | failed _ other status =>
      cases read.symm.trans other
      exact told status

/-- A poll whose request has failed. -/
theorem of_sent {halt : Halt} (sent : Sent reader .get target.url [] had (.error halt)) :
    Polled reader target finished had (.error halt) := by
  refine ⟨⟨sent.read.unwritten, nofun⟩, nofun, ?_⟩
  rintro url rfl
  cases sent with
  | refused posts fine asks failure =>
      refine .concat posts fun answer found fault reports => ?_
      cases found
      cases reports with
      | refused _ => rfl
      | failed success _ _ => rw [failure] at success; cases success
  | silent posts asks => exact .concat posts nofun
  | ungranted posts other => exact .of_silent fun turn member => posts.not_polls turn member url

/-- Polls go on while none has shown an end. -/
theorem append {value : β} {earlier : β → Prop}
    (first : Polled reader target earlier had (.ok value : Except Halt β))
    (second : Polled reader target finished more result) :
    Polled reader target finished (had ++ more) result where
  toRead := first.toRead.append second.toRead
  last final ended finished := by
    obtain ⟨answer, last, rest⟩ := second.last final ended finished
    exact ⟨answer, last.prepend, rest⟩
  candid url same := ((first.candid url same).of_ok result).append (second.candid url same)

end Polled

namespace Client

variable (c : Client)

theorem pollOnce_tells (target : Poll) :
    Talk.Tells (Polled c.reader target (· = true)) (c.pollOnce target) := by
  cases target with
  | operation url =>
      refine .bind ((c.send_tells .get url [] .none).mono ?_)
      rintro had (halt | response) sent
      · exact .of_sent sent
      cases sent with
      | answered posts fine asks success =>
      refine .decoded (fun state read => ?_) fun unread => ?_
      · split
        · rename_i succeeded
          refine .pure ?_
          rw [List.append_nil]
          exact .of_state posts fine asks success read (fun _ _ _ => succeeded)
            (by simp [succeeded])
        · split
          · refine .fail ?_
            rw [List.append_nil]
            exact .of_state posts fine asks success read nofun fun _ => rfl
          · rename_i other
            refine .pure ?_
            rw [List.append_nil]
            refine .of_state posts fine asks success read (by simp) fun status => ?_
            simp only [Bool.or_eq_true, decide_eq_true_eq] at other
            exact (other status).elim
      · -- A success that cannot be read reports no fault.
        rw [List.append_nil]
        refine .of_answered posts fine asks success nofun ?_
        rintro _ ⟨⟩ fault (failure | ⟨_, read, _⟩)
        · rw [failure] at success; cases success
        · rw [unread] at read; cases read
  | location url =>
      refine .bind ((c.send_tells .get url [] .none).mono ?_)
      rintro had (halt | response) sent
      · exact .of_sent sent
      cases sent with
      | answered posts fine asks success =>
      refine .pure ?_
      rw [List.append_nil]
      refine .of_answered posts fine asks success (fun _ ended finished => ?_) nofun
      cases ended
      exact bne_iff_ne.1 finished

/-- Giving up is no success and shows nothing. -/
theorem giveUp_tells (target : Poll) (remaining : Nat) :
    Talk.Tells (Polled c.reader target fun _ => True) (c.giveUp remaining) :=
  .sleep (.fail ⟨⟨nofun, nofun⟩, nofun, fun _ _ => .of_silent nofun⟩)

/-- Polls go on by induction on the fuel, whatever time remains. -/
theorem pollUntil_tells (target : Poll) (fuel remaining : Nat) :
    Talk.Tells (Polled c.reader target fun _ => True) (c.pollUntil target fuel remaining) := by
  induction fuel generalizing remaining with
  | zero =>
      unfold pollUntil
      split
      · exact c.giveUp_tells target remaining
      · exact .throw ⟨⟨nofun, nofun⟩, nofun, fun _ _ => .of_silent nofun⟩
  | succ fuel ih =>
      unfold pollUntil
      split
      · exact c.giveUp_tells target remaining
      refine .sleep (.bind ((c.pollOnce_tells target).mono ?_))
      rintro had (halt | _ | _) polled
      · exact ⟨⟨polled.unwritten, nofun⟩, nofun, fun url same => (polled.candid url same).of_error⟩
      · -- A poll that leaves it open reports no fault, so any later result is true to it.
        exact (ih _).mono fun more result later => polled.append later
      · refine .pure ?_
        rw [List.append_nil]
        exact ⟨⟨polled.unwritten, fun _ _ => polled.fine true rfl⟩,
          fun _ _ _ => polled.last true rfl rfl, fun url same => (polled.candid url same).of_ok _⟩

end Client

/-! ### The end of an operation -/

/-- The operation that a response started has ended well: the last poll of its address says so or,
if the response has only a location, the last poll of that is answered with a success that is not
202. -/
structure Ended (reader : Reader) (response : Response) (after : List Turn) : Prop where
  operation : ∀ url, response.header? "Azure-AsyncOperation" = some url →
    ∃ answer state, LastPoll url after answer ∧ answer.isSuccess ∧
      answer.decode? reader stateCodec = some state ∧ state.status = "Succeeded"
  location : ∀ url, response.header? "Azure-AsyncOperation" = none →
    response.header? "Location" = some url →
    ∃ answer, LastPoll url after answer ∧ answer.isSuccess ∧ answer.status ≠ 202

/-- What follows a response to a write: nothing more is written, the operation ends well if the
result is a success, and a fault that a poll of the operation reports is the result. -/
structure Followed (reader : Reader) (response : Response) (after : List Turn)
    (result : Except Halt α) : Prop extends Read after result where
  ended : ∀ value, result = .ok value → Ended reader response after
  candid : ∀ url, response.header? "Azure-AsyncOperation" = some url →
    Candid reader url after result

theorem Ended.append {reader : Reader} {response : Response} {had more : List Turn}
    (ended : Ended reader response had)
    (silent : ∀ turn ∈ more, ∀ url, ¬turn.message.Polls url) :
    Ended reader response (had ++ more) where
  operation url header := by
    obtain ⟨answer, state, last, rest⟩ := ended.operation url header
    exact ⟨answer, state, last.append fun turn member => silent turn member url, rest⟩
  location url lacking header := by
    obtain ⟨answer, last, rest⟩ := ended.location url lacking header
    exact ⟨answer, last.append fun turn member => silent turn member url, rest⟩

namespace Followed

variable {reader : Reader} {response : Response} {had more : List Turn} {result : Except Halt α}

/-- A wait that has failed makes the whole fail. -/
theorem of_error {halt : Halt}
    (followed : Followed reader response had (.error halt : Except Halt β)) :
    Followed reader response had (.error halt : Except Halt α) :=
  ⟨⟨followed.unwritten, nofun⟩, nofun, fun url header => (followed.candid url header).of_error⟩

/-- What is read after a wait leaves the end of the operation as it is. -/
theorem append {value : β} (followed : Followed reader response had (.ok value : Except Halt β))
    (read : Read more result) (silent : ∀ turn ∈ more, ∀ url, ¬turn.message.Polls url) :
    Followed reader response (had ++ more) result where
  toRead := followed.toRead.append read
  ended _ _ := (followed.ended value rfl).append silent
  candid url header := ((followed.candid url header).of_ok result).append
    (.of_silent fun turn member => silent turn member url)

end Followed

theorem Client.wait_tells (c : Client) (fuel : Nat) (response : Response) :
    Talk.Tells (Followed c.reader response) (c.wait fuel response) := by
  unfold wait pollOf
  cases operation : response.header? "Azure-AsyncOperation" with
  | some url =>
      refine (c.pollUntil_tells (.operation url) _ _).mono fun had result polled => ?_
      refine ⟨polled.toRead, fun value ended => ?_, fun other same => ?_⟩
      · obtain ⟨answer, last, success, state, read, succeeded⟩ := polled.last value ended trivial
        constructor
        · intro other same
          cases operation.symm.trans same
          exact ⟨answer, state, last, success, read, succeeded⟩
        · intro other lacking
          cases operation.symm.trans lacking
      · cases operation.symm.trans same
        exact polled.candid url rfl
  | none =>
      have lacking {url : String} (header : response.header? "Azure-AsyncOperation" = some url) :
          False := nomatch operation.symm.trans header
      cases location : response.header? "Location" with
      | some url =>
          refine (c.pollUntil_tells (.location url) _ _).mono fun had result polled => ?_
          refine ⟨polled.toRead, fun value ended => ?_, fun _ header => (lacking header).elim⟩
          obtain ⟨answer, last, success, done⟩ := polled.last value ended trivial
          refine ⟨fun _ header => (lacking header).elim, fun other _ same => ?_⟩
          cases location.symm.trans same
          exact ⟨answer, last, success, done⟩
      | none =>
          refine .pure ⟨⟨nofun, nofun⟩, fun _ _ => ?_, fun _ header => (lacking header).elim⟩
          refine ⟨fun _ header => (lacking header).elim, fun _ _ header => ?_⟩
          cases location.symm.trans header

end Provisioning.Azure.Rest
