import Provisioning.Proofs.Costs
import Provisioning.Proofs.Errands
import Provisioning.Proofs.Faithfulness
import Provisioning.Proofs.Records

/-!
How long a client waits for an operation. `Unended` is that nothing said so far shows an end, and
after that a wait can only run out of time; the polls, the requests and the time slept are bounded
by their costs. Main statement: `perform_bounded`, for all calls that write and whatever the
endpoints answer.
-/

namespace Provisioning.Azure.Rest

open Program (Exchange)
open Client (Poll stateCodec)

variable {α β σ : Type}

/-! ### Waits that see no end -/

/-- An answer to a poll after which the operation goes on: its state is none of the three that end
it or, where only a location is polled, the status is 202. -/
def Client.Poll.Open (reader : Reader) : Poll → Response → Prop
  | .operation _, answer => ∃ state, answer.decode? reader stateCodec = some state ∧
      state.status ≠ "Succeeded" ∧ state.status ≠ "Failed" ∧ state.status ≠ "Canceled"
  | .location _, answer => answer.status = 202

/-- An answer whose members have no status, or any text but the three as the status, is open; a
status that is not given is read as the empty text. -/
theorem Client.Poll.open_of_members {reader : Reader} (url : String) {answer : Response}
    {members : List (String × Json)} {failure : Option ErrorBody}
    (body : answer.decode? reader stateCodec = (stateCodec.decode (.object members)).toOption)
    (distinct : (members.map (·.1)).Nodup)
    (error : (Field.optional "error" ErrorBody.codec).fromMembers members = .ok failure)
    (status : "status" ∉ members.map (·.1) ∨ ∃ status, ("status", .string status) ∈ members ∧
      status ≠ "Succeeded" ∧ status ≠ "Failed" ∧ status ≠ "Canceled") :
    (Poll.operation url).Open reader answer := by
  have read {status : String}
      (found : (Field.defaulted "status" .string "").fromMembers members = .ok status) :
      answer.decode? reader stateCodec = some ⟨status, failure⟩ := by
    have decoded : stateCodec.decode (.object members) = .ok ⟨status, failure⟩ := by
      simp only [stateCodec, Record.codec, Record.decode, Record.fromMembers, found, error]
      rfl
    rw [body, decoded]
    rfl
  rcases status with absent | ⟨status, member, other⟩
  · have other : "" ≠ "Succeeded" ∧ "" ≠ "Failed" ∧ "" ≠ "Canceled" := by decide
    exact ⟨⟨"", failure⟩, read (Field.fromMembers_of_absent absent rfl), other⟩
  · exact ⟨⟨status, failure⟩, read (Field.fromMembers_of_mem distinct member rfl), other⟩

/-- A poll that shows no end. -/
def Turn.LeavesOpen (turn : Turn) (reader : Reader) (target : Poll) : Prop :=
  ∃ answer, turn.answer = some answer ∧ answer.isSuccess ∧ target.Open reader answer

/-- The turns that are polls. -/
def polls (had : List Turn) : List Turn :=
  had.filter fun turn => turn.message.method = .get ∧ turn.message.query = []

/-- Nothing that was said shows an end: every token was granted, and the last poll, if there was
one, leaves the operation open. -/
structure Unended (reader : Reader) (target : Poll) (had : List Turn) : Prop where
  authorized : Authorized reader had
  pending : ∀ last ∈ (polls had).getLast?, last.LeavesOpen reader target

theorem polls_append (had more : List Turn) : polls (had ++ more) = polls had ++ polls more :=
  List.filter_append ..

theorem polls_eq_nil {had : List Turn} (silent : ∀ turn ∈ had, ∀ url, ¬turn.message.Polls url) :
    polls had = [] := by
  refine List.filter_eq_nil_iff.2 fun turn member => ?_
  have not_poll := silent turn member turn.message.url
  simp only [decide_eq_true_eq]
  exact fun poll => not_poll ⟨poll.1, rfl, poll.2⟩

theorem polls_concat {reader : Reader} {orders : List Turn} {turn : Turn} {url : String}
    (ordered : Orders reader orders) (asks : turn.message.Asks .get url []) :
    polls (orders ++ [turn]) = [turn] := by
  rw [polls_append, polls_eq_nil ordered.posts.not_polls]
  simp [polls, asks.1, asks.2.2]

namespace Unended

variable {reader : Reader} {target : Poll} {had more orders : List Turn} {turn : Turn}
  {url : String}

theorem right (unended : Unended reader target (had ++ more)) : Unended reader target more where
  authorized := unended.authorized.right
  pending last member := by
    refine unended.pending last ?_
    rw [polls_append, List.getLast?_append, Option.mem_def.1 member]
    rfl

theorem left_of_silent (unended : Unended reader target (had ++ more))
    (silent : ∀ turn ∈ more, ∀ url, ¬turn.message.Polls url) : Unended reader target had where
  authorized := unended.authorized.left
  pending last member := by
    refine unended.pending last ?_
    rw [polls_append, polls_eq_nil silent, List.append_nil]
    exact member

theorem leavesOpen (unended : Unended reader target (orders ++ [turn]))
    (ordered : Orders reader orders) (asks : turn.message.Asks .get url []) :
    turn.LeavesOpen reader target := by
  refine unended.pending turn ?_
  rw [polls_concat ordered asks]
  rfl

/-- The state that an open poll shows is the one that is read from its answer. -/
theorem status {message : Message} {response : Response} {state : Client.OperationState}
    (unended : Unended reader (.operation url) (orders ++ [⟨message, some response⟩]))
    (ordered : Orders reader orders) (asks : message.Asks .get url [])
    (read : response.decode? reader stateCodec = some state) :
    state.status ≠ "Succeeded" ∧ state.status ≠ "Failed" ∧ state.status ≠ "Canceled" := by
  obtain ⟨answer, answered, _, other, found, rest⟩ := unended.leavesOpen ordered asks
  cases answered
  cases read.symm.trans found
  exact rest

end Unended

/-- A request that fails is no open poll, and neither is a token that is not granted. -/
theorem Errand.not_unended {reader : Reader} {target : Poll} {url : String} {had : List Turn}
    {halt : Halt} (errand : Errand reader .get url [] had (.error halt))
    (shown : halt ≠ .overflow) : ¬Unended reader target had := by
  intro unended
  cases errand with
  | denied posts denies =>
      exact denies.not_grants (unended.authorized _ List.mem_cons_self posts)
  | beyond => exact shown rfl
  | failed ordered asks fails =>
      obtain ⟨answer, answered, success, _⟩ := unended.leavesOpen ordered asks
      exact fails.not_succeeds ⟨answer, answered, success⟩

namespace Client

variable (c : Client)

/-- A poll that lets the wait go on is one poll; after any other, an end is seen, unless the clock
cannot show how long a token is used. -/
theorem pollOnce_unended (target : Poll) :
    Talk.Tells (fun had result => match result with
      | .ok false => (polls had).length = 1
      | .ok true => ¬Unended c.reader target had
      | .error halt => halt ≠ .overflow → ¬Unended c.reader target had) (c.pollOnce target) := by
  cases target with
  | operation url =>
      refine .bind ((c.send_errand .get url [] .none).mono ?_)
      rintro had (halt | response) errand
      · exact errand.not_unended
      cases errand with
      | answered ordered asks success =>
      refine .decoded (fun state read => ?_) fun unread => ?_
      · split
        · rename_i succeeded
          refine .pure ?_
          rw [List.append_nil]
          exact fun unended => (unended.status ordered asks read).1 succeeded
        · split
          · rename_i failed
            refine .fail ?_
            rw [List.append_nil]
            intro _ unended
            simp [(unended.status ordered asks read).2] at failed
          · refine .pure ?_
            rw [List.append_nil, polls_concat ordered asks]
            rfl
      · rw [List.append_nil]
        intro _ unended
        obtain ⟨answer, answered, _, state, read, _⟩ := unended.leavesOpen ordered asks
        cases answered
        cases unread.symm.trans read
  | location url =>
      refine .bind ((c.send_errand .get url [] .none).mono ?_)
      rintro had (halt | response) errand
      · exact errand.not_unended
      cases errand with
      | answered ordered asks success =>
      refine .pure ?_
      rw [List.append_nil]
      cases done : response.status != 202 with
      | false =>
          rw [polls_concat ordered asks]
          rfl
      | true =>
          intro unended
          obtain ⟨answer, answered, _, accepted⟩ := unended.leavesOpen ordered asks
          cases answered
          exact bne_iff_ne.1 done accepted

/-- A wait that is not broken off and sees no end runs out of time after all the polls there is time
for, by induction on the fuel. There is fuel for as many polls. -/
theorem pollUntil_unended (target : Poll) (fuel remaining : Nat) (ample : c.Ample fuel remaining) :
    Talk.Tells (fun had result => Unended c.reader target had → result ≠ .error .overflow →
      result = .error (.fault (overdue c.endpoints)) ∧
        (polls had).length = remaining / c.endpoints.pollInterval)
      (c.pollUntil target fuel remaining) := by
  have gone (remaining : Nat) (short : remaining < c.endpoints.pollInterval) :
      Talk.Tells (fun had result => Unended c.reader target had → result ≠ .error .overflow →
        result = .error (.fault (overdue c.endpoints)) ∧
          (polls had).length = remaining / c.endpoints.pollInterval) (c.giveUp remaining) :=
    .sleep (.fail fun _ _ => ⟨rfl, (Nat.div_eq_of_lt short).symm⟩)
  induction fuel generalizing remaining with
  | zero =>
      have short : remaining < c.endpoints.pollInterval :=
        (Nat.div_eq_zero_iff_lt ample.1).1 (Nat.le_zero.1 ample.2)
      unfold pollUntil
      rw [if_pos short]
      exact gone remaining short
  | succ fuel ih =>
      unfold pollUntil
      split
      · exact gone remaining ‹_›
      rename_i long
      have one : remaining / c.endpoints.pollInterval =
          (remaining - c.endpoints.pollInterval) / c.endpoints.pollInterval + 1 :=
        Nat.div_eq_sub_div ample.1 (Nat.not_lt.1 long)
      refine .sleep (.bind ((c.pollOnce_unended target).mono ?_))
      rintro had (halt | _ | _) told
      · exact fun unended shown => (told (fun same => shown (by rw [same])) unended).elim
      · refine (ih _ (ample.step long)).mono fun more result later unended shown => ?_
        obtain ⟨same, count⟩ := later unended.right shown
        refine ⟨same, ?_⟩
        rw [polls_append, List.length_append, told, count, one, Nat.add_comm]
      · refine .pure fun unended => ?_
        rw [List.append_nil] at unended
        exact (told unended).elim

end Client

/-- After a request to write was accepted, a call that is not broken off and sees no end of the
operation fails because it took too long, after as many polls as there is time for. -/
def RunsOut (c : Client) (had : List Turn) (result : Except Halt α) : Prop :=
  ∀ response target after, Accepted had response after → Client.pollOf response = some target →
    Unended c.reader target after → result ≠ .error .overflow →
    result = .error (.fault (Client.overdue c.endpoints)) ∧
      (polls after).length = c.endpoints.pollTimeout / c.endpoints.pollInterval

namespace RunsOut

variable {c : Client} {had granting after : List Turn} {result : Except Halt α}
  {write : Message} {response : Response}

theorem of_vain (vain : Vain had) : RunsOut c had result :=
  fun _ _ _ accepted => (vain.not_accepted accepted).elim

/-- A call that writes once, and then waits. -/
theorem of_waited (posts : Granting granting) (unwritten : ∀ turn ∈ after, ¬turn.message.Writes)
    (waited : ∀ target, Client.pollOf response = some target → Unended c.reader target after →
      result ≠ .error .overflow → result = .error (.fault (Client.overdue c.endpoints)) ∧
        (polls after).length = c.endpoints.pollTimeout / c.endpoints.pollInterval) :
    RunsOut c (granting ++ ⟨write, some response⟩ :: after) result := by
  intro answer target later accepted polled unended
  obtain ⟨rfl, rfl⟩ := accepted.only posts unwritten
  exact waited target polled unended

end RunsOut

namespace Client

variable (c : Client) {fuel : Nat} (ample : c.Ample fuel c.endpoints.pollTimeout)

include ample

/-- What a wait tells: nothing is written, and the wait runs out if no end is seen. -/
theorem wait_unended (response : Response) :
    Talk.Tells (fun had result => (∀ turn ∈ had, ¬turn.message.Writes) ∧
      ∀ target, pollOf response = some target → Unended c.reader target had →
        result ≠ .error .overflow → result = .error (.fault (overdue c.endpoints)) ∧
          (polls had).length = c.endpoints.pollTimeout / c.endpoints.pollInterval)
      (c.wait fuel response) := by
  have runsOut : Talk.Tells (fun had result => ∀ target, pollOf response = some target →
      Unended c.reader target had → result ≠ .error .overflow →
        result = .error (.fault (overdue c.endpoints)) ∧
          (polls had).length = c.endpoints.pollTimeout / c.endpoints.pollInterval)
      (c.wait fuel response) := by
    unfold wait
    cases pollOf response with
    | none => exact .pure nofun
    | some target =>
        refine (c.pollUntil_unended target fuel _ ample).mono ?_
        rintro had result told _ ⟨⟩
        exact told
  exact ((c.wait_tells fuel response).mono fun _ _ followed => followed.unwritten).and runsOut

theorem put_runsOut (codec : Codec α) (url version : String) (body : α) :
    Talk.Tells (RunsOut c) (c.put fuel codec url version body) := by
  refine .bind ((c.send_tells .put url (versionQuery version) _).mono ?_)
  rintro had (halt | response) sent
  · exact .of_vain sent.vain
  cases sent with
  | answered posts fine asks success =>
  refine .bind ((c.wait_unended ample response).mono ?_)
  rintro waited (halt | ⟨⟨⟩⟩) ⟨unwritten, told⟩
  · rw [List.append_assoc]
    refine .of_waited posts unwritten fun target polled unended shown => ?_
    obtain ⟨same, count⟩ := told target polled unended fun same => shown (by cases same; rfl)
    cases same
    exact ⟨rfl, count⟩
  · -- After a wait that succeeded an end has been seen, and what is read back is no poll.
    refine (c.getValue_tells codec url version).mono fun more result fetched => ?_
    rw [List.append_assoc]
    change RunsOut c (_ ++ ⟨_, some response⟩ :: (waited ++ more)) result
    refine .of_waited posts (fun turn member => ?_) fun target polled unended _ => ?_
    · exact (List.mem_append.1 member).elim (unwritten turn) (fetched.unwritten turn)
    · cases (told target polled (unended.left_of_silent fetched.silent) nofun).1

theorem patchTags_runsOut (url version : String) (tags : Tags) :
    Talk.Tells (RunsOut c) (c.patchTags fuel url version tags) := by
  refine .bind ((c.send_tells .patch url (versionQuery version) _).mono ?_)
  rintro had (halt | response) sent
  · exact .of_vain sent.vain
  cases sent with
  | answered posts fine asks success =>
  refine (c.wait_unended ample response).mono fun waited result told => ?_
  rw [List.append_assoc]
  exact .of_waited posts told.1 told.2

theorem delete_runsOut (url version : String) :
    Talk.Tells (RunsOut c) (c.delete fuel url version) := by
  refine .bind ((c.deletionAnswer_tells url version).mono ?_)
  rintro had (halt | _ | response) told
  · exact .of_vain told
  · refine .pure ?_
    rw [List.append_nil]
    obtain ⟨halt, missing, sent⟩ := told
    exact .of_vain sent.vain
  · cases told with
    | answered posts fine asks success =>
    refine (c.wait_unended ample response).mono fun waited result told => ?_
    rw [List.append_assoc]
    exact .of_waited posts told.1 told.2

theorem perform_runsOut (call : Call) (writes : call.isWrite = true) :
    Talk.Tells (RunsOut c) (c.perform fuel call) := by
  cases call with
  | putPublicIp | putNic | putVm => exact c.put_runsOut ample _ _ _ _
  | tagVm | tagDisk => exact c.patchTags_runsOut ample _ _ _
  | deletePublicIp | deleteNic | deleteVm | deleteDisk => exact c.delete_runsOut ample _ _
  | _ => cases writes

end Client

/-! ### Bounds -/

/-- How long a wire sleeps. -/
def Wire.length : Wire → Nat
  | .sleep length => length
  | .exchange _ | .now | .after _ => 0

/-- The price of every message. -/
def Wire.turn : Wire → Nat
  | .exchange _ => 1
  | .sleep _ | .now | .after _ => 0

/-- The price of a poll. -/
def Wire.poll : Wire → Nat
  | .exchange message => if message.method = .get ∧ message.query = [] then 1 else 0
  | .sleep _ | .now | .after _ => 0

/-- The time slept. -/
def slept (had : List (Exchange wires)) : Nat := cost Wire.length had

theorem cost_turn (had : List (Exchange wires)) : cost Wire.turn had = (turns had).length := by
  induction had with
  | nil => rfl
  | cons exchange had ih =>
      change exchange.1.turn + cost Wire.turn had = _
      obtain ⟨_ | _ | _ | _, answer⟩ := exchange
      · rw [ih, Nat.add_comm]
        rfl
      all_goals
        rw [ih]
        exact Nat.zero_add _

theorem length_polls_cons (turn : Turn) (had : List Turn) :
    (polls (turn :: had)).length =
      (if turn.message.method = .get ∧ turn.message.query = [] then 1 else 0) +
        (polls had).length := by
  simp only [polls, List.filter_cons, decide_eq_true_eq]
  split
  · exact Nat.add_comm ..
  · exact (Nat.zero_add _).symm

theorem cost_poll (had : List (Exchange wires)) :
    cost Wire.poll had = (polls (turns had)).length := by
  induction had with
  | nil => rfl
  | cons exchange had ih =>
      change exchange.1.poll + cost Wire.poll had = _
      rw [ih]
      obtain ⟨message | _ | _ | _, answer⟩ := exchange
      · exact (length_polls_cons ⟨message, answer⟩ (turns had)).symm
      all_goals exact Nat.zero_add _

/-- A call that writes is bounded by the time it may wait: there are so many polls and requests in
it, it sleeps no longer than that and needs fuel for no more, and it fails because it took too long
whenever its request was accepted with something to poll and the last poll, if there was one, left
the operation open, unless it is broken off. That happens just if the clock cannot show how long a
token is used. -/
structure Bounded (c : Client) (had : List (Exchange wires)) (result : Except Halt α) : Prop where
  fewPolls : (polls (turns had)).length ≤ c.endpoints.pollTimeout / c.endpoints.pollInterval
  fewTurns : (turns had).length ≤
    2 * (c.endpoints.pollTimeout / c.endpoints.pollInterval) + 4
  inTime : slept had ≤ c.endpoints.pollTimeout
  ends : result ≠ .error .fuel
  broken : result = .error .overflow ↔ Overflows had
  runsOut : RunsOut c (turns had) result

namespace Client

variable (c : Client)

theorem perform_costs_most (steady : 0 < c.endpoints.pollInterval) (fuel : Nat) (call : Call)
    (writes : call.isWrite = true) :
    Talk.Costs Wire.poll (c.endpoints.pollTimeout / c.endpoints.pollInterval)
        (c.perform fuel call) ∧
      Talk.Costs Wire.turn (2 * (c.endpoints.pollTimeout / c.endpoints.pollInterval) + 4)
        (c.perform fuel call) ∧
      Talk.Costs Wire.length c.endpoints.pollTimeout (c.perform fuel call) := by
  -- A request with a version is no poll.
  have few : c.Rates Wire.poll 0 1 0 0 := ⟨rfl, fun _ => rfl, Nat.le_refl 0,
    fun _ _ => Nat.le_refl 1, fun _ _ _ _ _ => Nat.le_of_eq (if_neg fun poll => nomatch poll.2),
    fun _ => Nat.zero_le _⟩
  have all : c.Rates Wire.turn 1 1 1 0 := ⟨rfl, fun _ => rfl, Nat.le_refl 1,
    fun _ _ => Nat.le_refl 1, fun _ _ _ _ _ => Nat.le_refl 1, fun _ => Nat.zero_le _⟩
  have pauses : c.Rates Wire.length 0 0 0 1 := ⟨rfl, fun _ => rfl, Nat.le_refl 0,
    fun _ _ => Nat.le_refl 0, fun _ _ _ _ _ => Nat.le_refl 0,
    fun _ => Nat.le_of_eq (Nat.one_mul _).symm⟩
  refine ⟨(perform_costs few steady fuel call writes).mono ?_,
    (perform_costs all steady fuel call writes).mono ?_,
    (perform_costs pauses steady fuel call writes).mono ?_⟩
  all_goals
    unfold waitingCost
    omega

/-- Whatever call that writes a client answers, with fuel for all the polls there is time for or
more, whichever token it keeps, however it reads bodies and whatever the endpoints answer, the call
is bounded. -/
theorem perform_bounded {fuel : Nat} (ample : c.Ample fuel c.endpoints.pollTimeout) (call : Call)
    (writes : call.isWrite = true) (token : Option Token)
    (serve : (w : Wire) → σ → w.Answer × σ) (s : σ) :
    Bounded c (Program.transcript (I := wires) serve ((c.perform fuel call).run.run token) s)
      (Program.run (I := wires) serve ((c.perform fuel call).run.run token) s).1.1 := by
  obtain ⟨few, all, pauses⟩ := c.perform_costs_most ample.1 fuel call writes
  have breaks : Talk.Breaks False (c.perform fuel call) :=
    (c.perform_made_of_isWrite (.inr ample) call writes).breaks
  constructor
  · rw [← cost_poll]
    exact (few token).transcript s
  · rw [← cost_turn]
    exact (all token).transcript s
  · exact (pauses token).transcript s
  · exact (Talk.Meets.mono breaks (fun _ _ told => told.fuel) token).transcript s
  · exact (Talk.Meets.mono breaks (fun _ _ told => told.overflow) token).transcript s
  · exact (c.perform_runsOut ample call writes token).transcript s

end Client

namespace Sample

/-- A client that waits for five moments and polls every two. -/
def patient : Client :=
  ⟨⟨"http://arm", "http://arm/login", 2, 5⟩, ⟨"sub", "tenant", "id", "secret"⟩, .strict⟩

/-- The answer to a deletion that starts an operation. -/
def started : Response := ⟨202, [("Azure-AsyncOperation", "http://arm/operation")], []⟩

/-- The answer to a poll of an operation that goes on. -/
def running : Response := ⟨200, [], Peer.body (.object [("status", .string "Running")])⟩

/-- Starts an operation that never ends. -/
def endless : (w : Wire) → Unit → w.Answer × Unit
  | .exchange message, _ => (some (if message.method = .delete then started else running), ())
  | .sleep _, _ => ((), ())
  | .now, _ => (0, ())
  | .after length, _ => (some length, ())

/-- A deletion by a client that has a token. -/
def removal : Program wires (Except Halt Unit × Option Token) :=
  (patient.perform 2 (.deleteVm "rg" "vm")).run.run (some ⟨"kept", 1⟩)

end Sample

/-- A deletion that never ends is given up after the two polls there is time for. -/
theorem perform_bounded_endless :
    ∃ after, Accepted (turns (Program.transcript Sample.endless Sample.removal ()))
        Sample.started after ∧
      Client.pollOf Sample.started = some (.operation "http://arm/operation") ∧
      Unended .strict (.operation "http://arm/operation") after ∧ (polls after).length = 2 ∧
      (Program.run (I := wires) Sample.endless Sample.removal ()).1.1 =
        .error (.fault (.timeout "operation did not finish within 5ns")) := by
  have ample : Sample.patient.Ample 2 5 := ⟨by decide, by decide⟩
  have bounded := Sample.patient.perform_bounded ample (.deleteVm "rg" "vm") rfl
    (some ⟨"kept", 1⟩) Sample.endless ()
  have said : (turns (Program.transcript Sample.endless Sample.removal ())).map
      (fun turn => (turn.message.method, turn.message.query, turn.answer)) =
      [(.delete, Client.versionQuery Client.computeVersion, some Sample.started),
        (.get, [], some Sample.running), (.get, [], some Sample.running)] := by
    decide +kernel
  have state : Sample.running.decode? .strict stateCodec = some ⟨"Running", none⟩ := by
    decide +kernel
  have shown : ¬Overflows (Program.transcript Sample.endless Sample.removal ()) := by
    decide +kernel
  simp only [List.map_eq_cons_iff, List.map_eq_nil_iff, Prod.mk.injEq] at said
  obtain ⟨⟨write, _⟩, _, all, ⟨deletes, _, rfl⟩, ⟨poll, _⟩, _, rfl, ⟨gets, plain, rfl⟩,
    ⟨last, _⟩, _, rfl, ⟨getsLast, plainLast, rfl⟩, rfl⟩ := said
  dsimp only at deletes gets plain getsLast plainLast
  have accepted : Accepted (turns (Program.transcript Sample.endless Sample.removal ()))
      Sample.started [⟨poll, some Sample.running⟩, ⟨last, some Sample.running⟩] :=
    ⟨[], write, all, .inr (.inr deletes), rfl⟩
  have asked : polls [⟨poll, some Sample.running⟩, ⟨last, some Sample.running⟩] =
      [⟨poll, some Sample.running⟩, ⟨last, some Sample.running⟩] := by
    simp [polls, gets, plain, getsLast, plainLast]
  have unended : Unended .strict (.operation "http://arm/operation")
      [⟨poll, some Sample.running⟩, ⟨last, some Sample.running⟩] := by
    refine ⟨by simp [Authorized, gets, getsLast], ?_⟩
    rw [asked]
    rintro _ ⟨⟩
    exact ⟨Sample.running, rfl, rfl, ⟨"Running", none⟩, state, by decide⟩
  have polled : Client.pollOf Sample.started = some (.operation "http://arm/operation") := by
    decide +kernel
  obtain ⟨result, count⟩ :=
    bounded.runsOut _ _ _ accepted polled unended (mt bounded.broken.1 shown)
  refine ⟨_, accepted, polled, unended, count, ?_⟩
  unfold Sample.removal
  rw [result]
  decide +kernel

namespace Sample

/-- A token that is no longer good when it comes. -/
def fleeting : Response :=
  ⟨200, [], Peer.body (.object [("access_token", .string "first"), ("expires_in", .nat 0)])⟩

/-- A token that lives longer than a clock can show. -/
def everlasting : Response :=
  ⟨200, [], Peer.body (.object [("access_token", .string "second"),
    ("expires_in", .nat 18446744073709551615)])⟩

/-- Grants the two tokens, and starts an operation. -/
def fading : Peer := ⟨"http://arm/login", true, [fleeting, everlasting], 0, [started], [], 0⟩

/-- A deletion by a client that has no token. -/
def eviction : Program wires (Except Halt Unit × Option Token) :=
  (patient.perform 2 (.deleteVm "rg" "vm")).run.run none

end Sample

/-- A deletion that was accepted is neither answered nor given up if the token for its first poll
lives longer than the clock can show. -/
theorem exists_broken_wait :
    ∃ after, Accepted (turns (Program.transcript Peer.serve Sample.eviction Sample.fading))
        Sample.started after ∧
      Client.pollOf Sample.started = some (.operation "http://arm/operation") ∧
      Unended .strict (.operation "http://arm/operation") after ∧ polls after = [] ∧
      (Program.run (I := wires) Peer.serve Sample.eviction Sample.fading).1.1 =
        .error .overflow := by
  have said : (turns (Program.transcript Peer.serve Sample.eviction Sample.fading)).map
      (fun turn => (turn.message.method, turn.answer)) =
      [(.post, some Sample.fleeting), (.delete, some Sample.started),
        (.post, some Sample.everlasting)] := by
    decide +kernel
  have granted : (Sample.everlasting.decode? .strict Grant.codec).isSome = true := by
    decide +kernel
  have broken : (match (Program.run (I := wires) Peer.serve Sample.eviction Sample.fading).1.1 with
      | .ok _ => none
      | .error halt => some halt) = some .overflow := by
    decide +kernel
  simp only [List.map_eq_cons_iff, List.map_eq_nil_iff, Prod.mk.injEq] at said
  obtain ⟨order, _, all, _, ⟨write, _⟩, _, rfl, ⟨deletes, rfl⟩, ⟨last, _⟩, _, rfl, ⟨posts, rfl⟩,
    rfl⟩ := said
  dsimp only at deletes posts
  have silent : polls [⟨last, some Sample.everlasting⟩] = [] := by simp [polls, posts]
  have polled : Client.pollOf Sample.started = some (.operation "http://arm/operation") := by
    decide +kernel
  refine ⟨_, ⟨[order], write, all, .inr (.inr deletes), rfl⟩, polled, ⟨?_, ?_⟩, silent, ?_⟩
  · obtain ⟨grant, read⟩ := Option.isSome_iff_exists.1 granted
    exact fun turn member _ => ⟨_, grant, by cases List.mem_singleton.1 member; rfl, rfl, read⟩
  · rw [silent]
    nofun
  · split at broken
    · cases broken
    · cases broken
      assumption

end Provisioning.Azure.Rest
