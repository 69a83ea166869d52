import Provisioning.Proofs.Conversation

/-!
What the exchanges of a client cost, for any prices. `Talk.Costs` is a bound for a part of a client
whatever it is answered. Main statement: `perform_costs`, the bound for calls that write, in which
waiting takes as many polls as there is time for.
-/

namespace Provisioning.Azure.Rest

open Program (Exchange)

variable {α β : Type}

/-- What exchanges cost together. -/
def cost (price : Wire → Nat) : List (Exchange wires) → Nat
  | [] => 0
  | exchange :: had => price exchange.1 + cost price had

theorem cost_append (price : Wire → Nat) (had more : List (Exchange wires)) :
    cost price (had ++ more) = cost price had + cost price more := by
  induction had with
  | nil => exact (Nat.zero_add _).symm
  | cons exchange had ih =>
      change price exchange.1 + cost price (had ++ more) = price exchange.1 + cost price had + _
      rw [ih, Nat.add_assoc]

/-- The exchanges of a part cost at most so much, whatever they are answered. -/
def Talk.Costs (price : Wire → Nat) (most : Nat) (act : Talk α) : Prop :=
  Talk.Meets (fun had _ => cost price had ≤ most) act

namespace Talk.Costs

variable {price : Wire → Nat} {most more : Nat}

theorem mono {act : Talk α} (costs : Costs price most act) (le : most ≤ more) :
    Costs price more act := Meets.mono costs fun _ _ few => Nat.le_trans few le

theorem pure (value : α) : Costs price 0 (pure value : Talk α) := Meets.pure (Nat.le_refl 0)

theorem throw (halt : Halt) : Costs price 0 (throw halt : Talk α) := Meets.throw (Nat.le_refl 0)

theorem fail (error : AzureError) : Costs price 0 (fail error : Talk α) := throw _

/-- What is asked after some exchanges costs what they did not. -/
theorem rest {act : Talk α} {had : List (Exchange wires)} (costs : Costs price more act)
    (few : cost price had ≤ most) :
    Meets (fun later _ => cost price (had ++ later) ≤ most + more) act := by
  refine Meets.mono costs fun later _ few' => ?_
  rw [cost_append]
  exact Nat.add_le_add few few'

theorem bind {act : Talk α} {next : α → Talk β} (first : Costs price most act)
    (second : ∀ value, Costs price more (next value)) :
    Costs price (most + more) (act >>= next) := by
  refine Meets.bind (Meets.mono first ?_)
  rintro had (halt | value) few
  · exact Nat.le_add_right_of_le few
  · exact (second value).rest few

/-- A part after one that costs nothing. -/
theorem after {act : Talk α} {next : α → Talk β} (first : Costs price 0 act)
    (second : ∀ value, Costs price more (next value)) : Costs price more (act >>= next) :=
  (bind first second).mono (Nat.le_of_eq (Nat.zero_add more))

/-- A part before one that costs nothing. -/
theorem before {act : Talk α} {next : α → Talk β} (first : Costs price most act)
    (second : ∀ value, Costs price 0 (next value)) : Costs price most (act >>= next) :=
  bind first second

theorem tryCatch {act : Talk α} {handle : Halt → Talk α} (first : Costs price most act)
    (second : ∀ halt, Costs price more (handle halt)) :
    Costs price (most + more) (tryCatch act handle) := by
  refine Meets.tryCatch (Meets.mono first ?_)
  rintro had (halt | value) few
  · exact (second halt).rest few
  · exact Nat.le_add_right_of_le few

theorem wire (w : Wire) : Costs price (price w) (wire w) :=
  Meets.wire fun _ => Nat.le_of_eq (Nat.add_zero _)

theorem kept {next : Option Token → Talk α} (second : ∀ token, Costs price most (next token)) :
    Costs price most (getThe (Option Token) >>= next) := Meets.kept second

theorem keep {token : Option Token} {next : PUnit → Talk α} (second : Costs price most (next ⟨⟩)) :
    Costs price most (set token >>= next) := Meets.keep second

theorem map {act : Talk α} (costs : Costs price most act) (f : α → β) :
    Costs price most (f <$> act) := Meets.map costs

theorem exchange (message : Message) :
    Costs price (price (.exchange message)) (exchange message) := by
  refine before (wire _) fun answer => ?_
  cases answer with
  | none => exact fail _
  | some response => exact pure response

theorem decoded (reader : Reader) (codec : Codec α) (response : Response) :
    Costs price 0 (decoded reader codec response) := by
  unfold Rest.decoded
  split
  · exact pure _
  · exact fail _

end Talk.Costs

/-- Prices at which a request for a token costs at most `order`, a poll `poll`, any request with a
version `other`, and a moment of sleep `pause`. -/
structure Client.Rates (c : Client) (price : Wire → Nat) (order poll other pause : Nat) : Prop where
  now : price .now = 0
  after : ∀ length, price (.after length) = 0
  order : price (.exchange c.tokenMessage) ≤ order
  poll : ∀ url bearer, price (.exchange ⟨.get, url, [], bearer, .none⟩) ≤ poll
  other : ∀ method url version bearer content,
    price (.exchange ⟨method, url, versionQuery version, bearer, content⟩) ≤ other
  pause : ∀ length, price (.sleep length) ≤ pause * length

namespace Client

variable {c : Client} {price : Wire → Nat} {order poll other pause : Nat}

theorem token_costs (rates : c.Rates price order poll other pause) :
    Talk.Costs price order c.token := by
  have clock : Talk.Costs price 0 (wire .now) :=
    (Talk.Costs.wire .now).mono (Nat.le_of_eq rates.now)
  have fetched : Talk.Costs price order c.fetchToken := by
    refine .before ((Talk.Costs.exchange c.tokenMessage).mono rates.order) fun response => ?_
    split
    · refine .after (.decoded _ _ _) fun grant => ?_
      have shown : Talk.Costs price 0 (wire (.after grant.use)) :=
        (Talk.Costs.wire _).mono (Nat.le_of_eq (rates.after _))
      refine .after shown fun moment => ?_
      cases moment with
      | none => exact .throw _
      | some moment => exact .keep (.pure _)
    · exact .fail _
  unfold token
  refine .kept fun kept => ?_
  cases kept with
  | none => exact fetched
  | some kept =>
      refine .after clock fun now => ?_
      split
      · exact (Talk.Costs.pure _).mono (Nat.zero_le order)
      · exact fetched

theorem send_costs (rates : c.Rates price order poll other pause) {method : Method} {url : String}
    {query : List (String × String)} {content : Content} {most : Nat}
    (upper : ∀ bearer, price (.exchange ⟨method, url, query, bearer, content⟩) ≤ most) :
    Talk.Costs price (order + most) (c.send method url query content) := by
  refine .bind (token_costs rates) fun token => ?_
  refine .before ((Talk.Costs.exchange _).mono (upper _)) fun response => ?_
  split
  · exact .pure _
  · exact .fail _

theorem pollOnce_costs (rates : c.Rates price order poll other pause) (target : Poll) :
    Talk.Costs price (order + poll) (c.pollOnce target) := by
  cases target with
  | operation url =>
      refine .before (send_costs rates (rates.poll url)) fun response => ?_
      refine .after (.decoded _ _ _) fun state => ?_
      split
      · exact .pure _
      · split
        · exact .fail _
        · exact .pure _
  | location url => exact .before (send_costs rates (rates.poll url)) fun response => .pure _

theorem giveUp_costs (rates : c.Rates price order poll other pause) (remaining : Nat) :
    Talk.Costs price (pause * remaining) (c.giveUp remaining) :=
  .before ((Talk.Costs.wire _).mono (rates.pause remaining)) fun _ => .fail _

/-- Polls go on by induction on the fuel: each of them takes a pause off the time that remains. -/
theorem pollUntil_costs (rates : c.Rates price order poll other pause)
    (steady : 0 < c.endpoints.pollInterval) (target : Poll) (fuel remaining : Nat) :
    Talk.Costs price (pause * remaining + remaining / c.endpoints.pollInterval * (order + poll))
      (c.pollUntil target fuel remaining) := by
  induction fuel generalizing remaining with
  | zero =>
      unfold pollUntil
      split
      · exact (giveUp_costs rates remaining).mono (Nat.le_add_right ..)
      · exact (Talk.Costs.throw _).mono (Nat.zero_le _)
  | succ fuel ih =>
      unfold pollUntil
      split
      · exact (giveUp_costs rates remaining).mono (Nat.le_add_right ..)
      rename_i long
      rw [Nat.not_lt] at long
      have slept : Talk.Costs price (pause * c.endpoints.pollInterval)
          (wire (.sleep c.endpoints.pollInterval)) := (Talk.Costs.wire _).mono (rates.pause _)
      have rest (done : Bool) := show Talk.Costs price _ (if done then pure () else
          c.pollUntil target fuel (remaining - c.endpoints.pollInterval)) by
        split
        · exact (Talk.Costs.pure ()).mono (Nat.zero_le _)
        · exact ih (remaining - c.endpoints.pollInterval)
      refine (Talk.Costs.bind slept fun _ => .bind (pollOnce_costs rates target) rest).mono ?_
      have time : pause * remaining = pause * c.endpoints.pollInterval +
          pause * (remaining - c.endpoints.pollInterval) := by
        rw [← Nat.mul_add, Nat.add_sub_of_le long]
      have polls : remaining / c.endpoints.pollInterval =
          (remaining - c.endpoints.pollInterval) / c.endpoints.pollInterval + 1 :=
        Nat.div_eq_sub_div steady long
      rw [time, polls, Nat.succ_mul]
      omega

/-- What waiting costs at most. -/
def waitingCost (e : Endpoints) (order poll pause : Nat) : Nat :=
  pause * e.pollTimeout + e.pollTimeout / e.pollInterval * (order + poll)

theorem wait_costs (rates : c.Rates price order poll other pause)
    (steady : 0 < c.endpoints.pollInterval) (fuel : Nat) (response : Response) :
    Talk.Costs price (waitingCost c.endpoints order poll pause) (c.wait fuel response) := by
  unfold wait
  split
  · exact (Talk.Costs.pure ()).mono (Nat.zero_le _)
  · exact pollUntil_costs rates steady _ _ _

theorem getValue_costs (rates : c.Rates price order poll other pause) (codec : Codec α)
    (url version : String) :
    Talk.Costs price (order + other) (c.getValue codec url version) :=
  .before (send_costs rates (rates.other _ _ _ · _)) fun response => .decoded _ codec response

theorem put_costs (rates : c.Rates price order poll other pause)
    (steady : 0 < c.endpoints.pollInterval) (fuel : Nat) (codec : Codec α) (url version : String)
    (body : α) :
    Talk.Costs price (2 * (order + other) + waitingCost c.endpoints order poll pause)
      (c.put fuel codec url version body) := by
  refine (Talk.Costs.bind (send_costs rates (rates.other _ _ _ · _)) fun response =>
    .bind (wait_costs rates steady fuel response) fun _ =>
      getValue_costs rates codec url version).mono ?_
  omega

theorem patchTags_costs (rates : c.Rates price order poll other pause)
    (steady : 0 < c.endpoints.pollInterval) (fuel : Nat) (url version : String) (tags : Tags) :
    Talk.Costs price (2 * (order + other) + waitingCost c.endpoints order poll pause)
      (c.patchTags fuel url version tags) := by
  refine (Talk.Costs.bind (send_costs rates (rates.other _ _ _ · _)) fun response =>
    wait_costs rates steady fuel response).mono ?_
  omega

theorem delete_costs (rates : c.Rates price order poll other pause)
    (steady : 0 < c.endpoints.pollInterval) (fuel : Nat) (url version : String) :
    Talk.Costs price (2 * (order + other) + waitingCost c.endpoints order poll pause)
      (c.delete fuel url version) := by
  have answered : Talk.Costs price (order + other + 0) (c.deletionAnswer url version) := by
    refine .tryCatch (.map (send_costs rates (rates.other _ _ _ · _)) _) fun halt => ?_
    split
    · exact .pure _
    · exact .throw _
  have waited : Talk.Costs price
      (order + other + 0 + waitingCost c.endpoints order poll pause)
      (c.delete fuel url version) := by
    refine .bind answered fun answer => ?_
    cases answer with
    | none => exact (Talk.Costs.pure ()).mono (Nat.zero_le _)
    | some response => exact wait_costs rates steady fuel response
  exact waited.mono (by omega)

theorem perform_costs (rates : c.Rates price order poll other pause)
    (steady : 0 < c.endpoints.pollInterval) (fuel : Nat) (call : Call)
    (writes : call.isWrite = true) :
    Talk.Costs price (2 * (order + other) + waitingCost c.endpoints order poll pause)
      (c.perform fuel call) := by
  cases call with
  | putPublicIp | putNic | putVm => exact put_costs rates steady _ _ _ _ _
  | tagVm | tagDisk => exact patchTags_costs rates steady _ _ _ _
  | deletePublicIp | deleteNic | deleteVm | deleteDisk => exact delete_costs rates steady _ _ _
  | _ => cases writes

end Client

end Provisioning.Azure.Rest
