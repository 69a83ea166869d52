import Provisioning.Proofs.Conversation

/-!
What becomes of a request that is sent. At most one token is asked for before it, and it is sent
only if that is granted and the clock can show how long it is used; the turn that fails, be it for
the token or the request, decides the error. Main statements: `send_errand`; `perform_made`, that
the calls of a client are made of requests and pauses; and what follows of all that is made so, that
a client is broken off exactly if the clock cannot show a moment, and when it needs no more fuel.
-/

namespace Provisioning.Azure.Rest

open Program (Exchange)

/-- A token is granted. -/
def Turn.Grants (reader : Reader) (turn : Turn) : Prop :=
  ∃ response grant, turn.answer = some response ∧ response.isSuccess ∧
    response.decode? reader Grant.codec = some grant

/-- Every token that is asked for is granted. -/
def Authorized (reader : Reader) (had : List Turn) : Prop :=
  ∀ turn ∈ had, turn.message.method = .post → turn.Grants reader

namespace Authorized

variable {reader : Reader} {had more : List Turn}

theorem left (authorized : Authorized reader (had ++ more)) : Authorized reader had :=
  fun turn member => authorized turn (List.mem_append_left _ member)

theorem right (authorized : Authorized reader (had ++ more)) : Authorized reader more :=
  fun turn member => authorized turn (List.mem_append_right _ member)

end Authorized

/-- A token is not granted, with the error that this is reported as. -/
inductive Turn.Denies (reader : Reader) (turn : Turn) : AzureError → Prop where
  | silent : turn.answer = none → Denies reader turn .http
  | refused {response : Response} : turn.answer = some response → response.isSuccess = false →
      Denies reader turn (Client.refusal reader response)
  | unreadable {response : Response} : turn.answer = some response → response.isSuccess →
      response.decode? reader Grant.codec = none → Denies reader turn .http

/-- A request is not answered or not with a success, with the error that this is reported as. -/
inductive Turn.Fails (reader : Reader) (turn : Turn) : AzureError → Prop where
  | silent : turn.answer = none → Fails reader turn .http
  | refused {response : Response} : turn.answer = some response → response.isSuccess = false →
      Fails reader turn (Client.errorOf reader turn.message.url response)

variable {reader : Reader} {turn : Turn} {fault other : AzureError}

theorem Turn.Denies.not_grants (denies : turn.Denies reader fault) : ¬turn.Grants reader := by
  rintro ⟨response, grant, answered, success, read⟩
  cases denies with
  | silent none => cases none.symm.trans answered
  | refused given failure =>
      cases given.symm.trans answered
      rw [failure] at success
      cases success
  | unreadable given _ unread =>
      cases given.symm.trans answered
      cases unread.symm.trans read

theorem Turn.Denies.unique (denies : turn.Denies reader fault) (again : turn.Denies reader other) :
    fault = other := by
  cases denies with
  | silent none =>
      cases again with
      | silent _ => rfl
      | refused given _ | unreadable given _ _ => cases none.symm.trans given
  | refused given failure =>
      cases again with
      | silent none => cases given.symm.trans none
      | refused also _ =>
          cases given.symm.trans also
          rfl
      | unreadable also success _ =>
          cases given.symm.trans also
          rw [failure] at success
          cases success
  | unreadable given success _ =>
      cases again with
      | silent none => cases given.symm.trans none
      | refused also failure =>
          cases given.symm.trans also
          rw [failure] at success
          cases success
      | unreadable _ _ _ => rfl

theorem Turn.Fails.not_succeeds (fails : turn.Fails reader fault) : ¬turn.Succeeds := by
  rintro ⟨response, answered, success⟩
  cases fails with
  | silent none => cases none.symm.trans answered
  | refused given failure =>
      cases given.symm.trans answered
      rw [failure] at success
      cases success

theorem Turn.Fails.unique (fails : turn.Fails reader fault) (again : turn.Fails reader other) :
    fault = other := by
  cases fails with
  | silent none =>
      cases again with
      | silent _ => rfl
      | refused given _ => cases none.symm.trans given
  | refused given _ =>
      cases again with
      | silent none => cases given.symm.trans none
      | refused also _ =>
          cases given.symm.trans also
          rfl

/-- The turns for the token of a request: a token is kept, or one is asked for and granted. -/
structure Orders (reader : Reader) (had : List Turn) : Prop where
  posts : Granting had
  few : had.length ≤ 1
  granted : ∀ turn ∈ had, turn.Grants reader

/-- The turns of a request and its outcome. -/
inductive Errand (reader : Reader) (method : Method) (url : String)
    (query : List (String × String)) : List Turn → Except Halt Response → Prop where
  | denied {order : Turn} {fault : AzureError} (posts : order.message.method = .post)
      (denies : order.Denies reader fault) :
      Errand reader method url query [order] (.error (.fault fault))
  | beyond {order : Turn} (posts : order.message.method = .post) (grants : order.Grants reader) :
      Errand reader method url query [order] (.error .overflow)
  | failed {orders : List Turn} {turn : Turn} {fault : AzureError} (ordered : Orders reader orders)
      (asks : turn.message.Asks method url query) (fails : turn.Fails reader fault) :
      Errand reader method url query (orders ++ [turn]) (.error (.fault fault))
  | answered {orders : List Turn} {message : Message} {response : Response}
      (ordered : Orders reader orders) (asks : message.Asks method url query)
      (success : response.isSuccess) :
      Errand reader method url query (orders ++ [⟨message, some response⟩]) (.ok response)

/-- What becomes of a token that is needed. -/
inductive Order (reader : Reader) : List Turn → Except Halt String → Prop where
  | ordered {had : List Turn} {token : String} (ordered : Orders reader had) :
      Order reader had (.ok token)
  | denied {order : Turn} {fault : AzureError} (posts : order.message.method = .post)
      (denies : order.Denies reader fault) : Order reader [order] (.error (.fault fault))
  | beyond {order : Turn} (posts : order.message.method = .post) (grants : order.Grants reader) :
      Order reader [order] (.error .overflow)

namespace Client

variable (c : Client)

/-- Whether a token is granted, where one is asked for, decides whether there is one. -/
theorem token_orders : Talk.Tells (Order c.reader) c.token := by
  have fetched : Talk.Tells (Order c.reader) c.fetchToken := by
    unfold fetchToken
    refine .bind (.exchange (fun response => ?_) (.denied rfl (.silent rfl)))
    dsimp only
    split
    · rename_i success
      refine .decoded (fun grant read => ?_) fun unread =>
        .denied rfl (.unreadable rfl success unread)
      have grants : Turn.Grants c.reader ⟨c.tokenMessage, some response⟩ :=
        ⟨response, grant, rfl, success, read⟩
      refine .keepGranted (.ordered ⟨?_, Nat.le_refl 1, ?_⟩) (.beyond rfl grants)
      · exact List.forall_mem_singleton.2 rfl
      · exact List.forall_mem_singleton.2 grants
    · rename_i failure
      exact .fail (.denied rfl (.refused rfl (Bool.eq_false_iff.2 failure)))
  unfold token
  refine .kept fun kept => ?_
  cases kept with
  | none => exact fetched
  | some kept =>
      refine .now fun moment => ?_
      split
      · exact .pure (.ordered ⟨nofun, Nat.zero_le 1, nofun⟩)
      · exact fetched

/-- A request is sent once its token is there, and each of the two turns may end it. -/
theorem send_errand (method : Method) (url : String) (query : List (String × String))
    (content : Content) :
    Talk.Tells (Errand c.reader method url query) (c.send method url query content) := by
  unfold send
  refine .bind (c.token_orders.mono ?_)
  intro orders outcome told
  cases told with
  | denied posts denies => exact .denied posts denies
  | beyond posts grants => exact .beyond posts grants
  | ordered ordered =>
      refine .bind (.exchange (fun response => ?_) (.failed ordered ⟨rfl, rfl, rfl⟩ (.silent rfl)))
      dsimp only
      split
      · rename_i success
        exact .pure (.answered ordered ⟨rfl, rfl, rfl⟩ success)
      · rename_i failure
        exact .fail (.failed ordered ⟨rfl, rfl, rfl⟩ (.refused rfl (Bool.eq_false_iff.2 failure)))

end Client

variable {α β : Type}

/-! ### What a client is made of -/

/-- A part of a client that asks the outside only by requests with a token and by pauses, and that
passes over no fault but that something is not found. It may run out of fuel only in some cases. -/
inductive Client.Made (c : Client) (spent : Prop) : {α : Type} → Talk α → Prop where
  | pure {α : Type} (value : α) : Made c spent (pure value)
  | fail {α : Type} (fault : AzureError) : Made c spent (fail fault : Talk α)
  | fuel {α : Type} (may : spent) : Made c spent (throw .fuel : Talk α)
  | bind {α β : Type} {act : Talk α} {next : α → Talk β} (first : Made c spent act)
      (second : ∀ value, Made c spent (next value)) : Made c spent (act >>= next)
  | sleep (length : Nat) : Made c spent (wire (.sleep length))
  | send (method : Method) (url : String) (query : List (String × String)) (content : Content)
      (other : method ≠ .post) : Made c spent (c.send method url query content)
  | spare {α : Type} {act : Talk α} {value : α} (first : Made c spent act) :
      Made c spent (tryCatch act fun halt =>
        if halt.isNotFound then Pure.pure value else MonadExcept.throw halt)

namespace Client

variable (c : Client) {spent : Prop}

namespace Made

variable {c : Client}

theorem map {act : Talk α} {f : α → β} (made : c.Made spent act) : c.Made spent (f <$> act) :=
  .bind made fun value => .pure (f value)

theorem decoded (reader : Reader) (codec : Codec α) (response : Response) :
    c.Made spent (decoded reader codec response) := by
  unfold Rest.decoded
  split
  · exact .pure _
  · exact .fail _

end Made

theorem getValue_made (codec : Codec α) (url version : String) :
    c.Made spent (c.getValue codec url version) :=
  .bind (.send _ _ _ _ nofun) fun response => .decoded _ codec response

/-- Pages are read by induction on the fuel. -/
theorem pages_made (codec : Codec α) (fuel : Nat) (url : String) (query : List (String × String)) :
    c.Made True (c.pages codec fuel url query) := by
  induction fuel generalizing url query with
  | zero => exact .fuel trivial
  | succ fuel ih =>
      refine .bind (.send _ _ _ _ nofun) fun response => .bind (.decoded _ _ _) fun page => ?_
      split
      · exact .pure _
      · split
        · exact .pure _
        · exact .bind (ih _ _) fun others => .pure _

theorem pollOnce_made (target : Poll) : c.Made spent (c.pollOnce target) := by
  cases target with
  | operation url =>
      refine .bind (.send _ _ _ _ nofun) fun response => .bind (.decoded _ _ _) fun state => ?_
      split
      · exact .pure _
      · split
        · exact .fail _
        · exact .pure _
  | location url => exact .bind (.send _ _ _ _ nofun) fun response => .pure _

theorem giveUp_made (remaining : Nat) : c.Made spent (c.giveUp remaining) :=
  .bind (.sleep remaining) fun _ => .fail _

/-- There is fuel for all the polls that there is time for. -/
def Ample (fuel remaining : Nat) : Prop :=
  0 < c.endpoints.pollInterval ∧ remaining / c.endpoints.pollInterval ≤ fuel

variable {c} in
theorem Ample.step {fuel remaining : Nat} (ample : c.Ample (fuel + 1) remaining)
    (long : ¬remaining < c.endpoints.pollInterval) :
    c.Ample fuel (remaining - c.endpoints.pollInterval) := by
  refine ⟨ample.1, ?_⟩
  have fewer := Nat.div_eq_sub_div ample.1 (Nat.not_lt.1 long)
  have enough := ample.2
  omega

/-- Polls go on by induction on the fuel. -/
theorem pollUntil_made (target : Poll) (fuel remaining : Nat)
    (either : spent ∨ c.Ample fuel remaining) :
    c.Made spent (c.pollUntil target fuel remaining) := by
  induction fuel generalizing remaining with
  | zero =>
      unfold pollUntil
      split
      · exact c.giveUp_made remaining
      · rename_i long
        refine .fuel (either.resolve_right fun ample => long ?_)
        exact (Nat.div_eq_zero_iff_lt ample.1).1 (Nat.le_zero.1 ample.2)
  | succ fuel ih =>
      unfold pollUntil
      split
      · exact c.giveUp_made remaining
      · rename_i long
        refine .bind (.sleep _) fun _ => .bind (c.pollOnce_made target) fun done => ?_
        split
        · exact .pure _
        · exact ih _ (either.imp_right fun ample => ample.step long)

variable {fuel : Nat} (either : spent ∨ c.Ample fuel c.endpoints.pollTimeout)

include either

theorem wait_made (response : Response) : c.Made spent (c.wait fuel response) := by
  unfold wait
  split
  · exact .pure _
  · exact c.pollUntil_made _ _ _ either

theorem put_made (codec : Codec α) (url version : String) (body : α) :
    c.Made spent (c.put fuel codec url version body) :=
  .bind (.send _ _ _ _ nofun) fun response => .bind (c.wait_made either response) fun _ =>
    c.getValue_made codec url version

theorem patchTags_made (url version : String) (tags : Tags) :
    c.Made spent (c.patchTags fuel url version tags) :=
  .bind (.send _ _ _ _ nofun) fun response => c.wait_made either response

theorem delete_made (url version : String) : c.Made spent (c.delete fuel url version) := by
  refine .bind (.spare (.map (.send _ _ _ _ nofun))) fun answer => ?_
  cases answer with
  | none => exact .pure _
  | some response => exact c.wait_made either response

/-- A call that writes needs no more fuel than for the polls that there is time for. -/
theorem perform_made_of_isWrite (call : Call) (writes : call.isWrite = true) :
    c.Made spent (c.perform fuel call) := by
  cases call with
  | putPublicIp | putNic | putVm => exact c.put_made either _ _ _ _
  | tagVm | tagDisk => exact c.patchTags_made either _ _ _
  | deletePublicIp | deleteNic | deleteVm | deleteDisk => exact c.delete_made either _ _
  | _ => cases writes

omit either

theorem vmSkus_made (fuel : Nat) (location : String) : c.Made True (c.vmSkus fuel location) :=
  .bind (c.pages_made _ _ _ _) fun _ => .pure _

theorem checkCoordinates_made (location : String) (image : ImageReference) :
    c.Made spent (c.checkCoordinates location image) := by
  unfold checkCoordinates
  cases coordinates image with
  | error fault => exact .fail fault
  | ok found =>
      refine .bind (.pure found) fun found => ?_
      dsimp only
      split
      · refine .bind (c.getValue_made _ _ _) fun versions => ?_
        split
        · exact .fail _
        · exact .pure _
      · exact .bind (c.getValue_made _ _ _) fun _ => .pure _

theorem checkImage_made (location : String) (image : ImageReference) :
    c.Made spent (c.checkImage location image) := by
  unfold checkImage
  dsimp only
  split
  · exact c.checkCoordinates_made location image
  · exact .bind (c.getValue_made _ _ _) fun _ => .pure _

theorem perform_made (fuel : Nat) (call : Call) : c.Made True (c.perform fuel call) := by
  have either : True ∨ c.Ample fuel c.endpoints.pollTimeout := .inl trivial
  cases call with
  | putPublicIp | putNic | putVm => exact c.put_made either _ _ _ _
  | getPublicIp | getNic | getVm | instanceView | getVirtualNetwork | getSubnet =>
      exact c.getValue_made _ _ _
  | listPublicIps | listNics | listAllVms | listVms | listDisks => exact c.pages_made _ _ _ _
  | tagVm | tagDisk => exact c.patchTags_made either _ _ _
  | deletePublicIp | deleteNic | deleteVm | deleteDisk => exact c.delete_made either _ _
  | listVmSkus location => exact c.vmSkus_made fuel location
  | checkImage location image => exact c.checkImage_made location image

end Client

/-! ### Ends without a result -/

/-- The clock could not show a moment that was asked for. -/
def Overflows (had : List (Exchange wires)) : Prop :=
  ∃ length, (⟨.after length, none⟩ : Exchange wires) ∈ had

/-- A moment that was asked for and that the clock could not show. -/
def isUnshown : Exchange wires → Bool
  | ⟨.after _, none⟩ => true
  | _ => false

theorem overflows_iff {had : List (Exchange wires)} :
    had.any isUnshown = true ↔ Overflows had := by
  rw [List.any_eq_true]
  constructor
  · rintro ⟨⟨w, answer⟩, member, unshown⟩
    cases w with
    | after length =>
        cases answer with
        | none => exact ⟨length, member⟩
        | some moment => cases unshown
    | _ => cases unshown
  · rintro ⟨length, member⟩
    exact ⟨_, member, rfl⟩

instance (had : List (Exchange wires)) : Decidable (Overflows had) :=
  decidable_of_iff _ overflows_iff

theorem overflows_append {had more : List (Exchange wires)} :
    Overflows (had ++ more) ↔ Overflows had ∨ Overflows more := by
  simp only [Overflows, List.mem_append, exists_or]

/-- When a part ends without a result: it is broken off exactly if the clock could not show a moment
that was asked for, and it runs out of fuel only in some cases. -/
structure Breaks (spent : Prop) (had : List (Exchange wires)) (result : Except Halt α) : Prop where
  overflow : result = .error .overflow ↔ Overflows had
  fuel : result = .error .fuel → spent

namespace Breaks

variable {spent : Prop} {had more : List (Exchange wires)}

theorem of_ok {value : α} (shown : ¬Overflows had) :
    Breaks spent had (.ok value : Except Halt α) := ⟨iff_of_false nofun shown, nofun⟩

theorem of_fault {fault : AzureError} (shown : ¬Overflows had) :
    Breaks spent had (.error (.fault fault) : Except Halt α) := ⟨iff_of_false nofun shown, nofun⟩

theorem of_error {halt : Halt} (breaks : Breaks spent had (.error halt : Except Halt β)) :
    Breaks spent had (.error halt : Except Halt α) := by
  obtain ⟨overflow, fuel⟩ := breaks
  rw [Except.error.injEq] at overflow fuel
  constructor
  · rw [Except.error.injEq]
    exact overflow
  · rw [Except.error.injEq]
    exact fuel

theorem append {value : β} {result : Except Halt α}
    (first : Breaks spent had (.ok value : Except Halt β)) (second : Breaks spent more result) :
    Breaks spent (had ++ more) result := by
  have shown : ¬Overflows had := fun overflows => nomatch first.overflow.2 overflows
  refine ⟨?_, second.fuel⟩
  rw [second.overflow, overflows_append, or_iff_right shown]

end Breaks

/-- A part ends without a result only so. -/
def Talk.Breaks (spent : Prop) (act : Talk α) : Prop := Talk.Meets (Rest.Breaks spent) act

namespace Talk.Breaks

variable {spent : Prop}

theorem pure (value : α) : Talk.Breaks spent (pure value : Talk α) :=
  Meets.pure (.of_ok (by simp [Overflows]))

theorem fail (fault : AzureError) : Talk.Breaks spent (fail fault : Talk α) :=
  Meets.throw (.of_fault (by simp [Overflows]))

theorem bind {act : Talk β} {next : β → Talk α} (first : Talk.Breaks spent act)
    (second : ∀ value, Talk.Breaks spent (next value)) : Talk.Breaks spent (act >>= next) := by
  refine Meets.bind (Meets.mono first ?_)
  rintro had (halt | value) breaks
  · exact breaks.of_error
  · exact Meets.mono (second value) fun more result => breaks.append

theorem spare {act : Talk α} {value : α} (first : Talk.Breaks spent act) :
    Talk.Breaks spent (tryCatch act fun halt =>
      if halt.isNotFound then Pure.pure value else MonadExcept.throw halt) := by
  refine Meets.tryCatch (Meets.mono first ?_)
  rintro had (halt | found) breaks
  · dsimp only
    split
    · rename_i missing
      refine Meets.pure ?_
      rw [List.append_nil]
      refine .of_ok fun overflows => ?_
      cases breaks.overflow.2 overflows
      cases missing
    · refine Meets.throw ?_
      rw [List.append_nil]
      exact breaks
  · exact breaks

/-- What is asked of the outside is no moment that it cannot show. -/
theorem wire {w : Wire} (other : ∀ length, w ≠ .after length) :
    Talk.Breaks spent (wire w) := by
  refine Meets.wire fun answer => .of_ok ?_
  rintro ⟨length, member⟩
  exact other length (congrArg Sigma.fst (List.mem_singleton.1 member)).symm

theorem exchange (message : Message) : Talk.Breaks spent (exchange message) := by
  refine bind (wire nofun) fun answer => ?_
  cases answer with
  | none => exact fail _
  | some response => exact pure response

theorem decoded (reader : Reader) (codec : Codec α) (response : Response) :
    Talk.Breaks spent (decoded reader codec response) := by
  unfold Rest.decoded
  split
  · exact pure _
  · exact fail _

theorem keepGranted (grant : Grant) : Talk.Breaks spent (Client.keepGranted grant) := by
  refine Meets.bind (Meets.wire fun moment => ?_)
  cases moment with
  | none => exact Meets.throw ⟨iff_of_true rfl ⟨_, List.mem_singleton_self _⟩, nofun⟩
  | some moment =>
      refine Meets.keep (Meets.pure (.of_ok ?_))
      rintro ⟨length, member⟩
      cases List.mem_singleton.1 member

theorem send (c : Client) (method : Method) (url : String) (query : List (String × String))
    (content : Content) : Talk.Breaks spent (c.send method url query content) := by
  have fetched : Talk.Breaks spent c.fetchToken := by
    refine bind (exchange _) fun response => ?_
    split
    · exact bind (decoded _ _ _) keepGranted
    · exact fail _
  have token : Talk.Breaks spent c.token := by
    refine Meets.kept fun kept => ?_
    cases kept with
    | none => exact fetched
    | some kept =>
        refine bind (wire nofun) fun now => ?_
        split
        · exact pure _
        · exact fetched
  refine bind token fun token => bind (exchange _) fun response => ?_
  split
  · exact pure _
  · exact fail _

end Talk.Breaks

/-- What a client is made of ends without a result only so, by induction on how it is made. -/
theorem Client.Made.breaks {c : Client} {spent : Prop} {act : Talk α} (made : c.Made spent act) :
    Talk.Breaks spent act := by
  induction made with
  | pure value => exact .pure value
  | fail fault => exact .fail fault
  | fuel may => exact Talk.Meets.throw ⟨iff_of_false nofun (by simp [Overflows]), fun _ => may⟩
  | bind _ _ first second => exact first.bind second
  | sleep length => exact .wire nofun
  | send method url query content _ => exact .send c method url query content
  | spare _ first => exact first.spare

end Provisioning.Azure.Rest
