import Provisioning.Azure.Rest.Calls
import Provisioning.Proofs.Course

/-!
Conversations of a client with the endpoints: messages with the responses to them. `Talk.Meets` is
what has to be shown of a part of a client for whatever it is answered, with a rule for each way to
put parts together, and `Talk.Tells` is that for the conversation alone. Main statements:
`send_tells`, that a request is sent after a token was granted and that its response decides the
result, and what the parts tell that only read.
-/

namespace Provisioning

namespace Program

variable {I : Interface} {α σ : Type} {serve : (q : I.Request) → σ → I.Answer q × σ}

/-- What a program asks and what it is answered when it is run. -/
def transcript (serve : (q : I.Request) → σ → I.Answer q × σ) :
    Program I α → σ → List (Exchange I)
  | done _, _ => []
  | ask q next, s => ⟨q, (serve q s).1⟩ :: (next (serve q s).1).transcript serve (serve q s).2

/-- What a program tells for whatever answers it tells when it is run. -/
theorem Tells.transcript {post : List (Exchange I) → α → Prop} {p : Program I α}
    (tells : p.Tells (fun _ => True) (fun _ _ => True) post) (s : σ) :
    post (p.transcript serve s) (p.run serve s).1 := by
  induction p generalizing post s with
  | done value => exact tells
  | ask q next ih => exact ih _ (tells.2 _ trivial) _

end Program

namespace Azure.Rest

open Program (Exchange)

variable {α β : Type}

/-- For whatever answers and whichever kept token, the exchanges of a part and its result meet a
postcondition. -/
def Talk.Meets (post : List (Exchange wires) → Except Halt α → Prop) (act : Talk α) : Prop :=
  ∀ token, (act.run.run token).Tells (fun _ => True) (fun _ _ => True) fun had result =>
    post had result.1

namespace Talk.Meets

variable {post : List (Exchange wires) → Except Halt α → Prop}

theorem mono {act : Talk α} {first : List (Exchange wires) → Except Halt α → Prop}
    (meets : Meets first act) (implies : ∀ had result, first had result → post had result) :
    Meets post act :=
  fun token => Program.Tells.mono (fun _ _ => implies _ _) (meets token)

theorem and {act : Talk α} {last : List (Exchange wires) → Except Halt α → Prop}
    (meets : Meets post act) (also : Meets last act) :
    Meets (fun had result => post had result ∧ last had result) act :=
  fun token => Program.Tells.and (meets token) (also token)

theorem pure {value : α} (met : post [] (.ok value)) : Meets post (pure value) := fun _ => met

theorem throw {halt : Halt} (met : post [] (.error halt)) : Meets post (throw halt : Talk α) :=
  fun _ => met

/-- What is in two parts has the exchanges of both, or those of the first if that fails. -/
theorem bind {act : Talk β} {next : β → Talk α}
    (first : Meets (fun had result => match result with
      | .ok value => Meets (fun more final => post (had ++ more) final) (next value)
      | .error halt => post had (.error halt)) act) : Meets post (act >>= next) := by
  intro token
  refine Program.Tells.bind (Program.Tells.mono ?_ (first token))
  rintro had ⟨halt | value, kept⟩ met
  · change post (had ++ []) (.error halt)
    rw [List.append_nil]
    exact met
  · exact met kept

theorem map {act : Talk β} {f : β → α}
    (meets : Meets (fun had result => post had (result.map f)) act) : Meets post (f <$> act) := by
  refine bind (meets.mono ?_)
  rintro had (halt | value) met
  · exact met
  · refine pure ?_
    rw [List.append_nil]
    exact met

/-- A part that is given up for another has the exchanges of both. -/
theorem tryCatch {act : Talk α} {handle : Halt → Talk α}
    (first : Meets (fun had result => match result with
      | .ok value => post had (.ok value)
      | .error halt => Meets (fun more final => post (had ++ more) final) (handle halt)) act) :
    Meets post (tryCatch act handle) := by
  intro token
  refine Program.Tells.bind (Program.Tells.mono ?_ (first token))
  rintro had ⟨halt | value, kept⟩ met
  · exact met kept
  · change post (had ++ []) (.ok value)
    rw [List.append_nil]
    exact met

/-- The kept token is whatever it is. -/
theorem kept {next : Option Token → Talk α} (met : ∀ token, Meets post (next token)) :
    Meets post (getThe (Option Token) >>= next) := fun token => met token token

theorem keep {token : Option Token} {next : PUnit → Talk α} (met : Meets post (next ⟨⟩)) :
    Meets post (set token >>= next) := fun _ => met token

theorem wire {w : Wire} {post : List (Exchange wires) → Except Halt w.Answer → Prop}
    (met : ∀ answer, post [⟨w, answer⟩] (.ok answer)) : Meets post (wire w) :=
  fun _ => ⟨trivial, fun answer _ => met answer⟩

end Talk.Meets

/-- A message and the response to it, if there was one. -/
structure Turn where
  message : Message
  answer : Option Response

/-- The turn of an exchange with an endpoint. -/
def turn? : Exchange wires → Option Turn
  | ⟨.exchange message, answer⟩ => some ⟨message, answer⟩
  | ⟨.sleep _, _⟩ | ⟨.now, _⟩ | ⟨.after _, _⟩ => none

/-- The turns with the endpoints, in order. -/
def turns (had : List (Exchange wires)) : List Turn := had.filterMap turn?

theorem turns_append (had more : List (Exchange wires)) :
    turns (had ++ more) = turns had ++ turns more := List.filterMap_append

/-- For whatever answers and whichever kept token, the turns of a part and its result meet a
postcondition. -/
def Talk.Tells (post : List Turn → Except Halt α → Prop) (act : Talk α) : Prop :=
  Talk.Meets (fun had result => post (turns had) result) act

namespace Talk.Tells

variable {post : List Turn → Except Halt α → Prop}

theorem mono {act : Talk α} {first : List Turn → Except Halt α → Prop}
    (tells : Tells first act) (implies : ∀ had result, first had result → post had result) :
    Tells post act := Meets.mono tells fun _ _ => implies _ _

theorem and {act : Talk α} {last : List Turn → Except Halt α → Prop}
    (tells : Tells post act) (also : Tells last act) :
    Tells (fun had result => post had result ∧ last had result) act := Meets.and tells also

theorem pure {value : α} (met : post [] (.ok value)) : Tells post (pure value) := Meets.pure met

theorem throw {halt : Halt} (met : post [] (.error halt)) : Tells post (throw halt : Talk α) :=
  Meets.throw met

theorem fail {error : AzureError} (met : post [] (.error (.fault error))) :
    Tells post (fail error : Talk α) := Meets.throw met

/-- What is said after some exchanges comes after their turns. -/
theorem prefixed {had : List (Exchange wires)} {act : Talk α}
    (tells : Tells (fun more final => post (turns had ++ more) final) act) :
    Talk.Meets (fun more final => post (turns (had ++ more)) final) act := by
  refine Meets.mono tells fun more final met => ?_
  rw [turns_append]
  exact met

/-- What is in two parts has the turns of both, or those of the first if that fails. -/
theorem bind {act : Talk β} {next : β → Talk α}
    (first : Tells (fun had result => match result with
      | .ok value => Tells (fun more final => post (had ++ more) final) (next value)
      | .error halt => post had (.error halt)) act) : Tells post (act >>= next) := by
  refine Meets.bind (Meets.mono first ?_)
  rintro had (halt | value) met
  · exact met
  · exact prefixed met

theorem map {act : Talk β} {f : β → α}
    (tells : Tells (fun had result => post had (result.map f)) act) : Tells post (f <$> act) :=
  Meets.map tells

/-- A part that is given up for another has the turns of both. -/
theorem tryCatch {act : Talk α} {handle : Halt → Talk α}
    (first : Tells (fun had result => match result with
      | .ok value => post had (.ok value)
      | .error halt => Tells (fun more final => post (had ++ more) final) (handle halt)) act) :
    Tells post (tryCatch act handle) := by
  refine Meets.tryCatch (Meets.mono first ?_)
  rintro had (halt | value) met
  · exact prefixed met
  · exact met

/-- The kept token is whatever it is. -/
theorem kept {next : Option Token → Talk α} (met : ∀ token, Tells post (next token)) :
    Tells post (getThe (Option Token) >>= next) := Meets.kept met

theorem now {next : Nat → Talk α} (met : ∀ moment, Tells post (next moment)) :
    Tells post (wire .now >>= next) := bind (Meets.wire met)

theorem sleep {length : Nat} {next : Unit → Talk α} (met : Tells post (next ())) :
    Tells post (wire (.sleep length) >>= next) := bind (Meets.wire fun _ => met)

theorem exchange {message : Message} {post : List Turn → Except Halt Response → Prop}
    (answered : ∀ response, post [⟨message, some response⟩] (.ok response))
    (silent : post [⟨message, none⟩] (.error (.fault .http))) : Tells post (exchange message) := by
  refine bind (Meets.wire fun answer => ?_)
  cases answer with
  | none => exact fail silent
  | some response => exact pure (answered response)

/-- What goes on with the value in the body of a response. -/
theorem decoded {reader : Reader} {codec : Codec β} {response : Response} {next : β → Talk α}
    (read : ∀ value, response.decode? reader codec = some value → Tells post (next value))
    (unread : response.decode? reader codec = none → post [] (.error (.fault .http))) :
    Tells post (decoded reader codec response >>= next) := by
  unfold Rest.decoded
  cases found : response.decode? reader codec with
  | none => exact fail (unread found)
  | some value => exact read value found

/-- A token that was granted is kept, unless the clock cannot show how long. -/
theorem keepGranted {grant : Grant} {post : List Turn → Except Halt String → Prop}
    (kept : post [] (.ok grant.token)) (beyond : post [] (.error .overflow)) :
    Tells post (Client.keepGranted grant) := by
  refine bind (Meets.wire fun moment => ?_)
  cases moment with
  | none => exact throw beyond
  | some moment => exact Meets.keep (pure kept)

end Talk.Tells

/-- A message is a request of some method to some address with some query. -/
def Message.Asks (message : Message) (method : Method) (url : String)
    (query : List (String × String)) : Prop :=
  message.method = method ∧ message.url = url ∧ message.query = query

/-- A message that asks to change a resource. -/
def Message.Writes (message : Message) : Prop :=
  message.method = .put ∨ message.method = .patch ∨ message.method = .delete

/-- A message that asks how an operation goes. -/
def Message.Polls (message : Message) (url : String) : Prop := message.Asks .get url []

/-- A response came and it is a success. -/
def Turn.Succeeds (turn : Turn) : Prop :=
  ∃ response, turn.answer = some response ∧ response.isSuccess

/-- The turns in which a token is asked for. -/
def Granting (had : List Turn) : Prop := ∀ turn ∈ had, turn.message.method = .post

theorem Message.Asks.not_writes {message : Message} {url : String} {query : List (String × String)}
    (asks : message.Asks .get url query) : ¬message.Writes := by
  simp [Message.Writes, asks.1]

theorem Granting.not_writes {had : List Turn} (granting : Granting had) :
    ∀ turn ∈ had, ¬turn.message.Writes := by
  intro turn member
  simp [Message.Writes, granting turn member]

theorem Granting.not_polls {had : List Turn} (granting : Granting had) :
    ∀ turn ∈ had, ∀ url, ¬turn.message.Polls url := by
  intro turn member url polls
  have method := granting turn member
  rw [polls.1] at method
  cases method

/-- What is said when a request is sent: a token is granted, if one is needed, and then the request
is answered, unless one of the two fails. -/
inductive Sent (reader : Reader) (method : Method) (url : String)
    (query : List (String × String)) : List Turn → Except Halt Response → Prop where
  | answered {granting : List Turn} {message : Message} {response : Response}
      (posts : Granting granting) (fine : ∀ turn ∈ granting, turn.Succeeds)
      (asks : message.Asks method url query) (success : response.isSuccess) :
      Sent reader method url query (granting ++ [⟨message, some response⟩]) (.ok response)
  | refused {granting : List Turn} {message : Message} {response : Response}
      (posts : Granting granting) (fine : ∀ turn ∈ granting, turn.Succeeds)
      (asks : message.Asks method url query) (failure : response.isSuccess = false) :
      Sent reader method url query (granting ++ [⟨message, some response⟩])
        (.error (.fault (Client.errorOf reader url response)))
  | silent {granting : List Turn} {message : Message} (posts : Granting granting)
      (asks : message.Asks method url query) :
      Sent reader method url query (granting ++ [⟨message, none⟩]) (.error (.fault .http))
  | ungranted {granting : List Turn} {halt : Halt} (posts : Granting granting)
      (other : halt.isNotFound = false) : Sent reader method url query granting (.error halt)

namespace Client

variable (c : Client)

/-- A token is kept or granted. -/
theorem token_tells :
    Talk.Tells (fun had result => Granting had ∧ match result with
      | .ok _ => ∀ turn ∈ had, turn.Succeeds
      | .error halt => halt.isNotFound = false) c.token := by
  have fetched : Talk.Tells (fun had result => Granting had ∧ match result with
      | .ok _ => ∀ turn ∈ had, turn.Succeeds
      | .error halt => halt.isNotFound = false) c.fetchToken := by
    unfold fetchToken
    have posts (answer : Option Response) : Granting [⟨c.tokenMessage, answer⟩] := by
      intro turn member
      cases List.mem_singleton.1 member
      rfl
    refine .bind (.exchange (fun response => ?_) ⟨posts none, rfl⟩)
    dsimp only
    split
    · rename_i success
      refine .decoded (fun grant _ => ?_) ?_
      · refine .keepGranted ⟨posts _, fun turn member => ?_⟩ ⟨posts _, rfl⟩
        cases List.mem_singleton.1 member
        exact ⟨response, rfl, success⟩
      · exact fun _ => ⟨posts _, rfl⟩
    · exact .fail ⟨posts _, rfl⟩
  unfold token
  refine .kept fun kept => ?_
  cases kept with
  | none => exact fetched
  | some kept =>
      refine .now fun moment => ?_
      split
      · exact .pure ⟨nofun, nofun⟩
      · exact fetched

/-- A request is sent with a token, and its response decides the result. -/
theorem send_tells (method : Method) (url : String) (query : List (String × String))
    (content : Content) :
    Talk.Tells (Sent c.reader method url query) (c.send method url query content) := by
  unfold send
  refine .bind (c.token_tells.mono ?_)
  rintro granting (halt | token) ⟨posts, fine⟩
  · exact .ungranted posts fine
  · refine .bind (.exchange (fun response => ?_) (.silent posts ⟨rfl, rfl, rfl⟩))
    dsimp only
    split
    · rename_i success
      exact .pure (.answered posts fine ⟨rfl, rfl, rfl⟩ success)
    · rename_i failure
      exact .fail (.refused posts fine ⟨rfl, rfl, rfl⟩ (Bool.eq_false_iff.2 failure))

end Client

/-- Nothing is written, and all went well if the part did. -/
structure Read (had : List Turn) (result : Except Halt α) : Prop where
  unwritten : ∀ turn ∈ had, ¬turn.message.Writes
  fine : ∀ value, result = .ok value → ∀ turn ∈ had, turn.Succeeds

theorem Read.append {had more : List Turn} {value : β} {result : Except Halt α}
    (first : Read had (.ok value : Except Halt β)) (second : Read more result) :
    Read (had ++ more) result where
  unwritten turn member :=
    (List.mem_append.1 member).elim (first.unwritten turn) (second.unwritten turn)
  fine final ended turn member :=
    (List.mem_append.1 member).elim (first.fine value rfl turn) (second.fine final ended turn)

/-- A part that only reads. -/
def Talk.Reads (act : Talk α) : Prop := Talk.Tells Read act

namespace Talk.Reads

theorem pure (value : α) : Talk.Reads (pure value : Talk α) := Tells.pure ⟨nofun, nofun⟩

theorem throw (halt : Halt) : Talk.Reads (throw halt : Talk α) := Tells.throw ⟨nofun, nofun⟩

theorem fail (error : AzureError) : Talk.Reads (fail error : Talk α) := throw _

theorem bind {act : Talk β} {next : β → Talk α} (first : Talk.Reads act)
    (second : ∀ value, Talk.Reads (next value)) : Talk.Reads (act >>= next) := by
  refine Tells.bind (first.mono ?_)
  rintro had (halt | value) read
  · exact ⟨read.unwritten, nofun⟩
  · exact (second value).mono fun more final later => read.append later

theorem decoded (reader : Reader) (codec : Codec α) (response : Response) :
    Talk.Reads (decoded reader codec response) := by
  unfold Rest.decoded
  split
  · exact .pure _
  · exact .fail _

end Talk.Reads

/-- What holds of the turns before a request and of the request's turn holds of all. -/
theorem forall_mem_concat {p : Turn → Prop} {had : List Turn} {last : Turn}
    (before : ∀ turn ∈ had, p turn) (here : p last) : ∀ turn ∈ had ++ [last], p turn := by
  intro turn member
  rcases List.mem_append.1 member with earlier | same
  · exact before turn earlier
  · cases List.mem_singleton.1 same
    exact here

theorem Sent.read {reader : Reader} {url : String} {query : List (String × String)}
    {had : List Turn} {result : Except Halt Response}
    (sent : Sent reader .get url query had result) : Read had result := by
  cases sent with
  | answered posts fine asks success =>
      exact ⟨forall_mem_concat posts.not_writes asks.not_writes,
        fun _ _ => forall_mem_concat fine ⟨_, rfl, success⟩⟩
  | refused posts fine asks failure =>
      exact ⟨forall_mem_concat posts.not_writes asks.not_writes, nofun⟩
  | silent posts asks => exact ⟨forall_mem_concat posts.not_writes asks.not_writes, nofun⟩
  | ungranted posts other => exact ⟨posts.not_writes, nofun⟩

namespace Client

variable (c : Client)

theorem send_reads (url : String) (query : List (String × String)) (content : Content) :
    Talk.Reads (c.send .get url query content) :=
  (c.send_tells .get url query content).mono fun _ _ => Sent.read

theorem getValue_reads (codec : Codec α) (url version : String) :
    Talk.Reads (c.getValue codec url version) :=
  .bind (c.send_reads url _ _) fun response => .decoded _ codec response

/-- Pages are read by induction on how many may be read. -/
theorem pages_reads (codec : Codec α) (fuel : Nat) (url : String) (query : List (String × String)) :
    Talk.Reads (c.pages codec fuel url query) := by
  induction fuel generalizing url query with
  | zero => exact .throw _
  | succ fuel ih =>
      refine .bind (c.send_reads url query _) fun response =>
        .bind (.decoded _ _ response) ?_
      intro page
      split
      · exact .pure _
      · split
        · exact .pure _
        · exact .bind (ih _ _) fun others => .pure _

theorem vmSkus_reads (fuel : Nat) (location : String) : Talk.Reads (c.vmSkus fuel location) :=
  .bind (c.pages_reads _ _ _ _) fun _ => .pure _

theorem checkCoordinates_reads (location : String) (image : ImageReference) :
    Talk.Reads (c.checkCoordinates location image) := by
  unfold checkCoordinates
  cases coordinates image with
  | error fault => exact .fail fault
  | ok found =>
      refine .bind (.pure found) fun found => ?_
      dsimp only
      split
      · refine .bind (c.getValue_reads _ _ _) fun versions => ?_
        split
        · exact .fail _
        · exact .pure _
      · exact .bind (c.getValue_reads _ _ _) fun _ => .pure _

theorem checkImage_reads (location : String) (image : ImageReference) :
    Talk.Reads (c.checkImage location image) := by
  unfold checkImage
  dsimp only
  split
  · exact c.checkCoordinates_reads location image
  · exact .bind (c.getValue_reads _ _ _) fun _ => .pure _

end Client

end Azure.Rest

end Provisioning
