import Provisioning.Azure.Rest.Peer
import Provisioning.Proofs.Digits
import Provisioning.Proofs.Errands
import Provisioning.Proofs.Timeline

/-!
When a client asks for a token. A client uses the token that was issued last until a minute before
the end of its lifetime. Then it asks for another one before it sends a request, and if it gets none
it does not send the request. Main statement: `Session.reuses_exactly`, for any calls one after the
other, whatever the endpoints answer and whenever the calls are made.
-/

namespace Provisioning.Azure.Rest

open Provisioning.Text

variable {α β σ : Type}

/-! ### Lifetimes -/

/-- An answer states a lifetime: an integer of sixty-four bits without a sign, or a text of digits,
maybe after a plus sign, that is one. -/
inductive States : Json → Nat → Prop where
  | number {n : Nat} (fits : n ≤ Integer.greatestUnsigned) : States (.number (.int n)) n
  | text {text : String} {n : Nat} (numeral : Integer.Numeral n text.toList ∨
      ∃ digits, text.toList = '+' :: digits ∧ Integer.Numeral n digits)
      (fits : n ≤ Integer.greatestUnsigned) : States (.string text) n

/-- How many seconds a token lives: as many as its answer states, or an hour if it states nothing of
the kind. -/
def Lives (expiresIn : Option Json) (lifetime : Nat) : Prop :=
  (∃ written, expiresIn = some written ∧ States written lifetime) ∨
    (∀ written, expiresIn = some written → ∀ n, ¬States written n) ∧ lifetime = 3600

theorem states_text_iff {text : String} {n : Nat} :
    States (.string text) n ↔ Integer.parseUnsigned text.toList = .ok n := by
  rw [Integer.parseUnsigned_eq_ok]
  constructor
  · rintro ⟨⟩
    exact ⟨‹_›, ‹_›⟩
  · exact fun ⟨numeral, fits⟩ => .text numeral fits

theorem states_int_iff {value : Int} {n : Nat} :
    States (.number (.int value)) n ↔
      (0 ≤ value ∧ value ≤ Integer.greatestUnsigned) ∧ n = value.toNat := by
  constructor
  · rintro ⟨⟩
    rename_i fits
    exact ⟨⟨Int.natCast_nonneg n, Int.ofNat_le.2 fits⟩, rfl⟩
  · rintro ⟨⟨sign, most⟩, rfl⟩
    obtain ⟨n, rfl⟩ := Int.eq_ofNat_of_zero_le sign
    exact .number (Int.ofNat_le.1 most)

theorem lives_some_iff {written : Json} {stated : Option Nat}
    (states : ∀ n, States written n ↔ stated = some n) (lifetime : Nat) :
    Lives (some written) lifetime ↔ stated.getD Grant.defaultLifetime = lifetime := by
  cases stated with
  | none =>
      have nothing (n : Nat) : ¬States written n := fun stated => nomatch (states n).1 stated
      constructor
      · rintro (⟨_, ⟨⟩, stated⟩ | ⟨_, rfl⟩)
        · exact (nothing lifetime stated).elim
        · rfl
      · rintro rfl
        refine .inr ⟨?_, rfl⟩
        rintro _ ⟨⟩
        exact nothing
  | some n =>
      have this := (states n).2 rfl
      constructor
      · rintro (⟨_, ⟨⟩, stated⟩ | ⟨nothing, _⟩)
        · exact Option.some.inj ((states lifetime).1 stated)
        · exact (nothing written rfl n this).elim
      · rintro rfl
        exact .inl ⟨written, rfl, this⟩

theorem lives_int_iff (value : Int) (lifetime : Nat) :
    Lives (some (.number (.int value))) lifetime ↔
      (if 0 ≤ value ∧ value ≤ Integer.greatestUnsigned then value.toNat
        else Grant.defaultLifetime) = lifetime := by
  by_cases fits : 0 ≤ value ∧ value ≤ Integer.greatestUnsigned
  · rw [if_pos fits]
    have states (n : Nat) : States (.number (.int value)) n ↔ some value.toNat = some n := by
      rw [states_int_iff, Option.some.injEq, and_iff_right fits, eq_comm]
    exact lives_some_iff states lifetime
  · rw [if_neg fits]
    have states (n : Nat) : States (.number (.int value)) n ↔ (none : Option Nat) = some n :=
      iff_of_false (fun stated => fits (states_int_iff.1 stated).1) nofun
    exact lives_some_iff states lifetime

theorem lives_text_iff (text : String) (lifetime : Nat) :
    Lives (some (.string text)) lifetime ↔
      (Integer.parseUnsigned text.toList).toOption.getD Grant.defaultLifetime = lifetime := by
  have states (n : Nat) : States (.string text) n ↔
      (Integer.parseUnsigned text.toList).toOption = some n := by
    rw [states_text_iff]
    cases Integer.parseUnsigned text.toList with
    | error fault => exact iff_of_false nofun nofun
    | ok value => simp [Except.toOption]
  exact lives_some_iff states lifetime

/-- The lifetime of a grant is how long its token lives. -/
theorem lives_iff (grant : Grant) (lifetime : Nat) :
    Lives grant.expiresIn lifetime ↔ grant.lifetime = lifetime := by
  obtain ⟨token, expiresIn⟩ := grant
  -- Nothing but integers and texts states a lifetime.
  have other {written : Json} (nothing : ∀ n, ¬States written n) :
      Lives (some written) lifetime ↔ Grant.defaultLifetime = lifetime := by
    have states (n : Nat) : States written n ↔ (none : Option Nat) = some n :=
      iff_of_false (nothing n) nofun
    exact lives_some_iff states lifetime
  cases expiresIn with
  | none =>
      change _ ↔ Grant.defaultLifetime = lifetime
      simp [Lives, Grant.defaultLifetime, eq_comm]
  | some written =>
      cases written with
      | number number =>
          cases number with
          | int value => exact lives_int_iff value lifetime
          | float value => exact other nofun
      | string text => exact lives_text_iff text lifetime
      | _ => exact other nofun

/-! ### Tokens that are issued -/

/-- A token that was issued, how long it lives, and when it came. -/
structure Issue where
  token : String
  expiresIn : Option Json
  came : Nat

namespace Timed

/-- A turn that asks for a token. -/
def IsOrder (turn : Timed) : Prop := turn.message.method = .post

/-- What is granted in a turn that asks for a token. -/
def grant? (reader : Reader) (turn : Timed) : Option Grant :=
  if turn.message.method = .post then
    (turn.answer.filter (·.isSuccess)).bind fun response => response.decode? reader Grant.codec
  else none

/-- The token that is issued in a turn: one that is granted for no longer than a clock can show. -/
def issue? (reader : Reader) (horizon : Nat) (turn : Timed) : Option Issue :=
  ((turn.grant? reader).filter fun grant => turn.came + grant.use < horizon).map fun grant =>
    ⟨grant.token, grant.expiresIn, turn.came⟩

/-- No token is issued in a turn that asks for one, and how that ends an operation: none is granted,
or one that lives beyond what the clock can show. -/
inductive Withholds (reader : Reader) (horizon : Nat) (turn : Timed) : Halt → Prop where
  | denied {fault : AzureError} (denies : turn.toTurn.Denies reader fault) :
      Withholds reader horizon turn (.fault fault)
  | beyond {grant : Grant} (granted : turn.grant? reader = some grant)
      (long : horizon ≤ turn.came + grant.use) : Withholds reader horizon turn .overflow

variable {reader : Reader} {horizon : Nat} {turn : Timed}

theorem grant?_eq_none (other : ¬turn.IsOrder) : turn.grant? reader = none := if_neg other

theorem issue?_eq_none (ungranted : turn.grant? reader = none) :
    turn.issue? reader horizon = none := by
  rw [issue?, ungranted]
  rfl

theorem issue?_of_grant {grant : Grant} (granted : turn.grant? reader = some grant)
    (short : turn.came + grant.use < horizon) :
    turn.issue? reader horizon = some ⟨grant.token, grant.expiresIn, turn.came⟩ := by
  rw [issue?, granted, Option.filter_some, if_pos (decide_eq_true short)]
  rfl

theorem issue?_of_beyond {grant : Grant} (granted : turn.grant? reader = some grant)
    (long : ¬turn.came + grant.use < horizon) : turn.issue? reader horizon = none := by
  rw [issue?, granted, Option.filter_some, if_neg (mt of_decide_eq_true long)]
  rfl

/-- Why no token is issued is never that something is not found. -/
theorem Withholds.other {halt : Halt} (withholds : turn.Withholds reader horizon halt) :
    halt.isNotFound = false := by
  cases withholds with
  | denied denies => cases denies <;> rfl
  | beyond => rfl

end Timed

section

variable (reader : Reader) (horizon : Nat)

/-- The token that was issued last. -/
def lastIssue? (log : List Timed) : Option Issue :=
  (log.filterMap (Timed.issue? reader horizon)).getLast?

@[simp]
theorem lastIssue?_append (log more : List Timed) :
    lastIssue? reader horizon (log ++ more) =
      (lastIssue? reader horizon more).or (lastIssue? reader horizon log) := by
  rw [lastIssue?, List.filterMap_append, List.getLast?_append]
  rfl

@[simp]
theorem lastIssue?_singleton (turn : Timed) :
    lastIssue? reader horizon [turn] = turn.issue? reader horizon := by
  unfold lastIssue?
  cases issue : turn.issue? reader horizon with
  | none => rw [List.filterMap_cons_none issue]; rfl
  | some issue => rw [List.filterMap_cons_some ‹_›]; rfl

end

namespace Issue

/-- A token is no longer good: its lifetime, less a minute, has passed since it came. -/
def Expired (issue : Issue) (now : Nat) : Prop :=
  ∃ lifetime, Lives issue.expiresIn lifetime ∧
    issue.came + (lifetime - 60) * Endpoints.second ≤ now

/-- How a token is kept. -/
def toToken (issue : Issue) : Token :=
  ⟨issue.token, issue.came + Grant.use ⟨issue.token, issue.expiresIn⟩⟩

theorem expired_iff (issue : Issue) (now : Nat) :
    issue.Expired now ↔ issue.toToken.expiresAt ≤ now := by
  constructor
  · rintro ⟨lifetime, lives, passed⟩
    cases (lives_iff ⟨issue.token, issue.expiresIn⟩ lifetime).1 lives
    exact passed
  · exact fun passed => ⟨_, (lives_iff ⟨issue.token, issue.expiresIn⟩ _).2 rfl, passed⟩

end Issue

/-- A token is due to be asked for: none was issued yet, or the last one is no longer good. -/
def Due (reader : Reader) (horizon : Nat) (log : List Timed) (now : Nat) : Prop :=
  ∀ issue, lastIssue? reader horizon log = some issue → issue.Expired now

/-- The token that is kept after what was said. -/
def held? (reader : Reader) (horizon : Nat) (log : List Timed) : Option Token :=
  (lastIssue? reader horizon log).map Issue.toToken

/-! ### How a turn fits -/

/-- Why a result is no value. -/
def halt? : Except Halt α → Option Halt
  | .ok _ => none
  | .error halt => some halt

/-- How a turn of an operation fits what was said before the operation, before and after the turn,
and how the operation ends. A token is asked for when that is due, and then a request is sent or, if
no token is issued, nothing more. A request without a turn for a token right before it is sent when
none is due, and every request has the token that was issued last. -/
structure Fits (c : Client) (horizon : Nat) (past before : List Timed) (turn : Timed)
    (after : List Timed) (halt? : Option Halt) : Prop where
  genuine : turn.IsOrder → turn.message = c.tokenMessage
  due : turn.IsOrder → Due c.reader horizon (past ++ before) turn.sent
  used : turn.IsOrder → (turn.issue? c.reader horizon).isSome →
    ∃ request later, after = request :: later ∧ ¬request.IsOrder
  refused : turn.IsOrder → turn.issue? c.reader horizon = none →
    after = [] ∧ ∃ halt, turn.Withholds c.reader horizon halt ∧ halt? = some halt
  fresh : ¬turn.IsOrder → (∀ last ∈ before.getLast?, ¬last.IsOrder) →
    ¬Due c.reader horizon (past ++ before) turn.sent
  carries : ¬turn.IsOrder → ∃ issue, lastIssue? c.reader horizon (past ++ before) = some issue ∧
    turn.message.bearer = some issue.token

namespace Fits

variable {c : Client} {horizon : Nat} {past log before after more : List Timed} {turn : Timed}
  {last : Option Halt}

theorem of_order (genuine : turn.message = c.tokenMessage)
    (due : Due c.reader horizon (past ++ before) turn.sent)
    (used : (turn.issue? c.reader horizon).isSome →
      ∃ request later, after = request :: later ∧ ¬request.IsOrder)
    (refused : turn.issue? c.reader horizon = none →
      after = [] ∧ ∃ halt, turn.Withholds c.reader horizon halt ∧ last = some halt) :
    Fits c horizon past before turn after last := by
  have posts : turn.IsOrder := congrArg Message.method genuine
  exact ⟨fun _ => genuine, fun _ => due, fun _ => used, fun _ => refused,
    fun other => (other posts).elim, fun other => (other posts).elim⟩

theorem of_request {issue : Issue} (other : ¬turn.IsOrder)
    (fresh : (∀ last ∈ before.getLast?, ¬last.IsOrder) →
      ¬Due c.reader horizon (past ++ before) turn.sent)
    (latest : lastIssue? c.reader horizon (past ++ before) = some issue)
    (carries : turn.message.bearer = some issue.token) :
    Fits c horizon past before turn after last :=
  ⟨fun order => (other order).elim, fun order => (other order).elim,
    fun order => (other order).elim, fun order => (other order).elim, fun _ => fresh,
    fun _ => ⟨issue, latest, carries⟩⟩

/-- What is said after an operation that went well. -/
theorem extend (fits : Fits c horizon past before turn after none) :
    Fits c horizon past before turn (after ++ more) last where
  genuine := fits.genuine
  due := fits.due
  used order issued := by
    obtain ⟨request, later, rfl, other⟩ := fits.used order issued
    exact ⟨request, later ++ more, rfl, other⟩
  refused order unissued := by
    obtain ⟨_, halt, _, failed⟩ := fits.refused order unissued
    cases failed
  fresh := fits.fresh
  carries := fits.carries

/-- What was said first was said before. -/
theorem shift (fits : Fits c horizon (past ++ log) before turn after last) :
    Fits c horizon past (log ++ before) turn after last where
  genuine := fits.genuine
  due order := by
    rw [← List.append_assoc]
    exact fits.due order
  used := fits.used
  refused := fits.refused
  fresh other none := by
    rw [← List.append_assoc]
    refine fits.fresh other fun previous member => none previous ?_
    rw [List.getLast?_append, Option.mem_def.1 member]
    rfl
  carries other := by
    rw [← List.append_assoc]
    exact fits.carries other

end Fits

theorem eq_of_singleton {first turn : α} {before after : List α}
    (parts : [first] = before ++ turn :: after) : before = [] ∧ turn = first ∧ after = [] := by
  obtain ⟨rfl, same⟩ := (List.append_eq_singleton_iff.1 parts.symm).resolve_right (by simp)
  obtain ⟨rfl, rfl⟩ := List.cons_eq_cons.1 same
  exact ⟨rfl, rfl, rfl⟩

/-- All turns of an operation fit. -/
def Thrifty (c : Client) (horizon : Nat) (past log : List Timed) (halt? : Option Halt) : Prop :=
  ∀ before turn after, log = before ++ turn :: after → Fits c horizon past before turn after halt?

namespace Thrifty

variable {c : Client} {horizon : Nat} {past log more : List Timed} {last : Option Halt}

theorem nil : Thrifty c horizon past [] last := by
  intro before turn after parts
  simp at parts

theorem append (first : Thrifty c horizon past log none)
    (second : Thrifty c horizon (past ++ log) more last) :
    Thrifty c horizon past (log ++ more) last := by
  intro before turn after parts
  rcases List.append_eq_append_iff.1 parts with ⟨between, rfl, rest⟩ | ⟨rest, rfl, same⟩
  · exact (second between turn after rest).shift
  · cases rest with
    | nil =>
        rw [List.append_nil] at second
        have fits := (second [] turn after same.symm).shift
        rwa [List.append_nil] at fits
    | cons _ rest =>
        obtain ⟨rfl, rfl⟩ := List.cons_eq_cons.1 same
        exact (first before turn rest rfl).extend

/-- A request that is sent with the token that was issued last, while that is good. -/
theorem reused {turn : Timed} {issue : Issue} (other : ¬turn.IsOrder)
    (latest : lastIssue? c.reader horizon past = some issue) (good : ¬issue.Expired turn.sent)
    (carries : turn.message.bearer = some issue.token) : Thrifty c horizon past [turn] last := by
  intro before here after parts
  obtain ⟨rfl, rfl, rfl⟩ := eq_of_singleton parts
  rw [← List.append_nil past] at latest
  exact .of_request other (fun _ due => good (due issue latest)) latest carries

/-- A token that is not issued when it is due to be asked for. -/
theorem withheld {order : Timed} {halt : Halt} (genuine : order.message = c.tokenMessage)
    (due : Due c.reader horizon past order.sent) (unissued : order.issue? c.reader horizon = none)
    (withholds : order.Withholds c.reader horizon halt) :
    Thrifty c horizon past [order] (some halt) := by
  intro before here after parts
  obtain ⟨rfl, rfl, rfl⟩ := eq_of_singleton parts
  rw [← List.append_nil past] at due
  refine .of_order genuine due (fun issued => ?_) fun _ => ⟨rfl, halt, withholds, rfl⟩
  simp [unissued] at issued

/-- A request that is sent with a token that was issued for it when that was due. -/
theorem renewed {order turn : Timed} {issue : Issue} (genuine : order.message = c.tokenMessage)
    (due : Due c.reader horizon past order.sent)
    (issued : order.issue? c.reader horizon = some issue) (other : ¬turn.IsOrder)
    (carries : turn.message.bearer = some issue.token) :
    Thrifty c horizon past [order, turn] last := by
  intro before here after parts
  cases before with
  | nil =>
      obtain ⟨rfl, rfl⟩ := List.cons_eq_cons.1 parts
      rw [← List.append_nil past] at due
      refine .of_order genuine due (fun _ => ⟨turn, [], rfl, other⟩) fun unissued => ?_
      simp [issued] at unissued
  | cons first before =>
      obtain ⟨rfl, rest⟩ := List.cons_eq_cons.1 parts
      obtain ⟨rfl, rfl, rfl⟩ := eq_of_singleton rest
      have posts : order.IsOrder := congrArg Message.method genuine
      have latest : lastIssue? c.reader horizon (past ++ [order]) = some issue := by
        rw [lastIssue?_append, lastIssue?_singleton, issued]
        rfl
      exact .of_request other (fun none => (none order rfl posts).elim) latest carries

/-- An operation may go well although something was not found, since that is not why a token is not
issued. -/
theorem spare {halt : Halt} (thrifty : Thrifty c horizon past log (some halt))
    (missing : halt.isNotFound = true) : Thrifty c horizon past log none := by
  intro before turn after parts
  have fits := thrifty before turn after parts
  refine { fits with refused := fun order unissued => ?_ }
  obtain ⟨_, halt, withholds, same⟩ := fits.refused order unissued
  cases same
  cases missing.symm.trans withholds.other

end Thrifty

/-! ### Operations -/

section Operations

variable {c : Client} {serve : (w : Wire) → σ → w.Answer × σ} {time : σ → Nat} {horizon : Nat}

/-- What comes of asking for a token: the one that is issued, which is then kept, or why none is. -/
inductive Ordered (c : Client) (horizon : Nat) (order : Timed) (kept : Option Token) :
    Except Halt String → Option Token → Prop where
  | issued {issue : Issue} (issued : order.issue? c.reader horizon = some issue) :
      Ordered c horizon order kept (.ok issue.token) (some issue.toToken)
  | withheld {halt : Halt} (unissued : order.issue? c.reader horizon = none)
      (withholds : order.Withholds c.reader horizon halt) :
      Ordered c horizon order kept (.error halt) kept

/-- How a token is come by at a moment: the one that was issued last is still good, or one is asked
for. -/
inductive Obtained (c : Client) (horizon : Nat) (past : List Timed) (now : Nat) :
    List Timed → Except Halt String → Option Token → Prop where
  | kept {issue : Issue} (last : lastIssue? c.reader horizon past = some issue)
      (good : ¬issue.Expired now) :
      Obtained c horizon past now [] (.ok issue.token) (held? c.reader horizon past)
  | asked {order : Timed} {result : Except Halt String} {left : Option Token}
      (genuine : order.message = c.tokenMessage) (sent : order.sent = now)
      (due : Due c.reader horizon past now)
      (ordered : Ordered c horizon order (held? c.reader horizon past) result left) :
      Obtained c horizon past now [order] result left

namespace Client

/-- A token that is granted in a turn is issued and kept, unless the clock cannot show its end. -/
theorem keepGranted_ordered (clock : Clock serve time horizon) (kept : Option Token) (t : σ)
    {order : Timed} {grant : Grant} (granted : order.grant? c.reader = some grant)
    (came : order.came = time t) :
    ∃ result left u, Goes serve time (keepGranted grant) kept t [] result left u ∧
      Ordered c horizon order kept result left := by
  have shown : Goes serve time (wire (.after grant.use)) kept t [] _ kept _ :=
    .after clock grant.use t
  rw [← came] at shown
  by_cases short : order.came + grant.use < horizon
  · rw [if_pos short] at shown
    exact ⟨_, _, _, shown.bind_ok (.bind_ok (.keep _) (.pure _)),
      .issued (Timed.issue?_of_grant granted short)⟩
  · rw [if_neg short] at shown
    exact ⟨_, _, _, shown.bind_ok (.throw _),
      .withheld (Timed.issue?_of_beyond granted short)
        (.beyond granted (Nat.le_of_not_lt short))⟩

theorem fetchToken_ordered (clock : Clock serve time horizon) (kept : Option Token) (s : σ) :
    ∃ order result left t, Goes serve time c.fetchToken kept s [order] result left t ∧
      order.message = c.tokenMessage ∧ order.sent = time s ∧
      Ordered c horizon order kept result left := by
  have asked : Goes serve time (exchange c.tokenMessage) kept s _ _ kept _ := .exchange _
  have posts : c.tokenMessage.method = .post := rfl
  cases answer : (serve (.exchange c.tokenMessage) s).1 with
  | none =>
      rw [answer] at asked
      exact ⟨_, _, _, _, asked.bind_error, rfl, rfl, .withheld rfl (.denied (.silent rfl))⟩
  | some response =>
      rw [answer] at asked
      generalize (serve (.exchange c.tokenMessage) s).2 = t at asked
      cases success : response.isSuccess with
      | false =>
          refine ⟨_, .error (.fault (refusal c.reader response)), kept, t, asked.bind_ok ?_, rfl,
            rfl, .withheld (Timed.issue?_eq_none ?_) (.denied (.refused rfl success))⟩
          · rw [if_neg (by rw [success]; nofun)]
            exact .throw _
          · simp [Timed.grant?, success]
      | true =>
          have granted (answered : Option Grant)
              (read : response.decode? c.reader Grant.codec = answered) :
              Timed.grant? c.reader ⟨⟨c.tokenMessage, some response⟩, time s, time t⟩ =
                answered := by
            simp [Timed.grant?, posts, Option.filter, success, read]
          cases read : response.decode? c.reader Grant.codec with
          | none =>
              refine ⟨_, .error (.fault .http), kept, t, asked.bind_ok ?_, rfl, rfl,
                .withheld (Timed.issue?_eq_none (granted _ read))
                  (.denied (.unreadable rfl success read))⟩
              rw [if_pos success, decoded, read]
              exact .bind_error (.throw _)
          | some grant =>
              -- The lifetime is counted from the moment at which the answer came.
              obtain ⟨result, left, u, goes, ordered⟩ :=
                keepGranted_ordered clock kept t (granted _ read) rfl
              refine ⟨_, result, left, u, asked.bind_ok ?_, rfl, rfl, ordered⟩
              rw [if_pos success, decoded, read]
              exact .bind_ok (.pure grant) goes

/-- A token is come by, and no time passes if none is asked for. -/
theorem token_obtained (clock : Clock serve time horizon) (past : List Timed) (s : σ) :
    ∃ log result left t,
      Goes serve time c.token (held? c.reader horizon past) s log result left t ∧
      Obtained c horizon past (time s) log result left ∧ (log = [] → time t = time s) := by
  cases last : lastIssue? c.reader horizon past with
  | none =>
      obtain ⟨order, result, left, t, goes, genuine, sent, ordered⟩ :=
        fetchToken_ordered (c := c) clock (held? c.reader horizon past) s
      have due : Due c.reader horizon past (time s) := fun issue other =>
        nomatch last.symm.trans other
      have empty : held? c.reader horizon past = none := by rw [held?, last]; rfl
      refine ⟨[order], result, left, t, ?_, .asked genuine sent due ordered, nofun⟩
      rw [empty] at goes ⊢
      exact .bind_ok .remember goes
  | some issue =>
      have held : held? c.reader horizon past = some issue.toToken := by rw [held?, last]; rfl
      by_cases expired : issue.Expired (time s)
      · have due : Due c.reader horizon past (time s) := by
          intro other same
          cases last.symm.trans same
          exact expired
        obtain ⟨order, result, left, t, goes, genuine, sent, ordered⟩ :=
          fetchToken_ordered (c := c) clock (held? c.reader horizon past) (serve .now s).2
        rw [clock.still] at sent
        refine ⟨[order], result, left, t, ?_, .asked genuine sent due ordered, nofun⟩
        rw [held] at goes ⊢
        refine .bind_ok .remember (.bind_ok (.now clock) ?_)
        rw [if_neg (Nat.not_lt.2 ((issue.expired_iff _).1 expired))]
        exact goes
      · refine ⟨[], .ok issue.token, held? c.reader horizon past, (serve .now s).2, ?_,
          .kept last expired, fun _ => clock.still s⟩
        rw [held]
        refine .bind_ok .remember (.bind_ok (.now clock) ?_)
        rw [if_pos (Nat.lt_of_not_le (mt (issue.expired_iff _).2 expired))]
        exact .pure _

end Client

theorem held?_concat (reader : Reader) (past : List Timed) (turn : Timed) :
    held? reader horizon (past ++ [turn]) =
      ((turn.issue? reader horizon).map Issue.toToken).or (held? reader horizon past) := by
  rw [held?, lastIssue?_append, lastIssue?_singleton, Option.map_or]
  rfl

/-- A turn in which no token is issued leaves the one that is kept. -/
theorem held?_concat_of_none {reader : Reader} {turn : Timed} (past : List Timed)
    (unissued : turn.issue? reader horizon = none) :
    held? reader horizon (past ++ [turn]) = held? reader horizon past := by
  rw [held?_concat, unissued]
  rfl

/-- All turns of a part fit whatever was said before it, and after it the token is kept that was
issued last. -/
def Talk.Keeps (c : Client) (serve : (w : Wire) → σ → w.Answer × σ) (time : σ → Nat)
    (horizon : Nat) (act : Talk α) : Prop :=
  ∀ past s, ∃ log result t,
    Goes serve time act (held? c.reader horizon past) s log result
      (held? c.reader horizon (past ++ log)) t ∧
    Thrifty c horizon past log (halt? result)

/-- A request that is sent is one turn more. -/
theorem Client.answer_turn (c : Client) (serve : (w : Wire) → σ → w.Answer × σ) (time : σ → Nat)
    (url : String) (message : Message) (kept : Option Token) (t : σ) :
    ∃ turn result u, turn.message = message ∧ turn.sent = time t ∧
      Goes serve time (do
        let response ← exchange message
        if response.isSuccess then pure response else fail (errorOf c.reader url response))
        kept t [turn] result kept u := by
  have asked : Goes serve time (exchange message) kept t _ _ kept _ := .exchange _
  cases answer : (serve (.exchange message) t).1 with
  | none =>
      rw [answer] at asked
      exact ⟨_, _, _, rfl, rfl, asked.bind_error⟩
  | some response =>
      rw [answer] at asked
      cases success : response.isSuccess with
      | true =>
          refine ⟨_, .ok response, (serve (.exchange message) t).2, rfl, rfl, asked.bind_ok ?_⟩
          rw [if_pos success]
          exact .pure _
      | false =>
          refine ⟨_, .error (.fault (errorOf c.reader url response)),
            (serve (.exchange message) t).2, rfl, rfl, asked.bind_ok ?_⟩
          rw [if_neg (by rw [success]; nofun)]
          exact .throw _

namespace Client

theorem send_keeps (clock : Clock serve time horizon) (method : Method) (url : String)
    (query : List (String × String)) (content : Content) (other : method ≠ .post) :
    Talk.Keeps c serve time horizon (c.send method url query content) := by
  intro past s
  obtain ⟨log, result, left, t, goes, obtained, still⟩ := token_obtained (c := c) clock past s
  -- A request is no turn for a token, so the kept token is the same after it.
  have leaves (past : List Timed) {turn : Timed} (plain : ¬turn.IsOrder) :
      held? c.reader horizon (past ++ [turn]) = held? c.reader horizon past :=
    held?_concat_of_none past (Timed.issue?_eq_none (Timed.grant?_eq_none plain))
  cases obtained with
  | @kept issue latest good =>
      obtain ⟨turn, result, u, same, sent, answered⟩ := c.answer_turn serve time url
        ⟨method, url, query, some issue.token, content⟩ (held? c.reader horizon past) t
      have plain : ¬turn.IsOrder := by rw [Timed.IsOrder, same]; exact other
      rw [still rfl] at sent
      rw [← sent] at good
      refine ⟨[turn], result, u, ?_, .reused plain latest good (by rw [same])⟩
      rw [leaves past plain]
      exact goes.bind_ok answered
  | @asked order _ _ genuine sent due ordered =>
      rw [← sent] at due
      cases ordered with
      | @issued issue issued =>
          obtain ⟨turn, result, u, same, _, answered⟩ := c.answer_turn serve time url
            ⟨method, url, query, some issue.token, content⟩ (some issue.toToken) t
          have plain : ¬turn.IsOrder := by rw [Timed.IsOrder, same]; exact other
          refine ⟨[order, turn], result, u, ?_, .renewed genuine due issued plain (by rw [same])⟩
          have held : held? c.reader horizon (past ++ [order, turn]) = some issue.toToken := by
            rw [List.append_cons, leaves _ plain, held?_concat, issued]
            rfl
          rw [held]
          exact goes.bind_ok answered
      | @withheld halt unissued withholds =>
          refine ⟨[order], .error halt, t, ?_, .withheld genuine due unissued withholds⟩
          rw [held?_concat_of_none past unissued]
          exact goes.bind_error

end Client

namespace Talk.Keeps

/-- A part that says nothing and keeps the token. -/
theorem of_silent {act : Talk α} {result : Except Halt α} (leave : σ → σ)
    (goes : ∀ kept s, Goes serve time act kept s [] result kept (leave s)) :
    Keeps c serve time horizon act := by
  intro past s
  refine ⟨[], result, leave s, ?_, .nil⟩
  rw [List.append_nil]
  exact goes _ s

theorem bind {act : Talk α} {next : α → Talk β} (first : Keeps c serve time horizon act)
    (second : ∀ value, Keeps c serve time horizon (next value)) :
    Keeps c serve time horizon (act >>= next) := by
  intro past s
  obtain ⟨log, result, t, goes, thrifty⟩ := first past s
  cases result with
  | error halt => exact ⟨log, .error halt, t, goes.bind_error, thrifty⟩
  | ok value =>
      obtain ⟨more, final, u, goesOn, thriftyMore⟩ := second value (past ++ log) t
      refine ⟨log ++ more, final, u, ?_, thrifty.append thriftyMore⟩
      rw [← List.append_assoc]
      exact goes.bind_ok goesOn

/-- A part that goes on if something is not found, which is not why a token is not issued. -/
theorem spare {act : Talk α} {value : α} (first : Keeps c serve time horizon act) :
    Keeps c serve time horizon (tryCatch act fun halt =>
      if halt.isNotFound then pure value else throw halt) := by
  intro past s
  obtain ⟨log, result, t, goes, thrifty⟩ := first past s
  cases result with
  | ok value => exact ⟨log, .ok value, t, goes.tryCatch_ok, thrifty⟩
  | error halt =>
      rw [← List.append_nil log] at thrifty
      cases missing : halt.isNotFound with
      | true =>
          refine ⟨log ++ [], .ok value, t, goes.tryCatch_error ?_, thrifty.spare missing⟩
          rw [if_pos missing, List.append_nil]
          exact .pure value
      | false =>
          refine ⟨log ++ [], .error halt, t, goes.tryCatch_error ?_, thrifty⟩
          rw [if_neg (by rw [missing]; nofun), List.append_nil]
          exact .throw halt

end Talk.Keeps

/-- What a client is made of keeps to the rule, by induction on how it is made. -/
theorem Client.Made.keeps (clock : Clock serve time horizon) {spent : Prop} {act : Talk α}
    (made : c.Made spent act) : Talk.Keeps c serve time horizon act := by
  induction made with
  | pure value => exact .of_silent id fun _ _ => .pure value
  | fail fault => exact .of_silent id fun _ _ => .throw (.fault fault)
  | fuel _ => exact .of_silent id fun _ _ => .throw .fuel
  | bind _ _ first second => exact first.bind second
  | sleep length =>
      have slept (kept : Option Token) (s : σ) : Goes serve time (wire (.sleep length)) kept s []
          (.ok ()) kept (serve (.sleep length) s).2 := .wire (.sleep length)
      exact .of_silent _ slept
  | send method url query content other => exact send_keeps clock method url query content other
  | spare _ first => exact first.spare

/-! ### Sessions -/

/-- An operation that a client was called for: what was said, and why it has no value if it has
none. -/
structure Episode where
  log : List Timed
  halt? : Option Halt

/-- Calls of a client one after the other, with the token that is kept after them. A client starts
without a token, and between its calls the state of the outside may change in any way. -/
inductive Session (c : Client) (serve : (w : Wire) → σ → w.Answer × σ) (time : σ → Nat) :
    List Episode → Option Token → Prop where
  | start : Session c serve time [] none
  | perform {episodes : List Episode} {kept left : Option Token} {fuel : Nat} {call : Call}
      {s t : σ} {log : List Timed} {result : Except Halt call.Value}
      (before : Session c serve time episodes kept)
      (goes : Goes serve time (c.perform fuel call) kept s log result left t) :
      Session c serve time (episodes ++ [⟨log, Rest.halt? result⟩]) left

/-- A client can be called for anything in any state. -/
theorem Session.next {episodes : List Episode} {kept : Option Token}
    (before : Session c serve time episodes kept) (fuel : Nat) (call : Call) (s : σ) :
    Session c serve time
      (episodes ++ [⟨timeline serve time ((c.perform fuel call).run.run kept) s, Rest.halt?
        (Program.run (I := wires) serve ((c.perform fuel call).run.run kept) s).1.1⟩])
      (Program.run (I := wires) serve ((c.perform fuel call).run.run kept) s).1.2 :=
  before.perform (.of_run _ _ _)

/-- All that was said in some operations. -/
def said (episodes : List Episode) : List Timed := episodes.flatMap Episode.log

theorem said_concat (episodes : List Episode) (episode : Episode) :
    said (episodes ++ [episode]) = said episodes ++ episode.log := by
  simp [said]

/-- Tokens are reused exactly in an operation. A request has turns for a token right before it if
and only if one is due when the first of them or, without any, the request is sent, and there is at
most one such turn. A token that is issued is followed by a request, every request has the token
that was issued last, and where none is issued, that is the end of the operation, which has no value
and leaves the kept token as it was. -/
structure Exact (c : Client) (horizon : Nat) (past log : List Timed) (halt? : Option Halt) :
    Prop where
  genuine : ∀ order ∈ log, order.IsOrder → order.message = c.tokenMessage
  asked : ∀ before orders request after, log = before ++ orders ++ request :: after →
    ¬request.IsOrder → (∀ order ∈ orders, order.IsOrder) →
    (∀ last ∈ before.getLast?, ¬last.IsOrder) →
    (orders ≠ [] ↔ Due c.reader horizon (past ++ before) (orders.head?.getD request).sent) ∧
      orders.length ≤ 1
  used : ∀ before order after, log = before ++ order :: after → order.IsOrder →
    (order.issue? c.reader horizon).isSome →
    ∃ request later, after = request :: later ∧ ¬request.IsOrder
  carries : ∀ before request after, log = before ++ request :: after → ¬request.IsOrder →
    ∃ issue, lastIssue? c.reader horizon (past ++ before) = some issue ∧
      request.message.bearer = some issue.token
  refused : ∀ before order after, log = before ++ order :: after → order.IsOrder →
    order.issue? c.reader horizon = none → after = [] ∧
      held? c.reader horizon (past ++ log) = held? c.reader horizon (past ++ before) ∧
      ∃ halt, order.Withholds c.reader horizon halt ∧ halt? = some halt

theorem Thrifty.exact {past log : List Timed} {last : Option Halt}
    (thrifty : Thrifty c horizon past log last) : Exact c horizon past log last where
  genuine order member posts := by
    obtain ⟨before, after, parts⟩ := List.append_of_mem member
    exact (thrifty before order after parts).genuine posts
  asked before orders request after parts other posts none := by
    cases orders with
    | nil =>
        rw [List.append_nil] at parts
        have fresh := (thrifty before request after parts).fresh other none
        exact ⟨iff_of_false (fun some => some rfl) fresh, Nat.zero_le 1⟩
    | cons order orders =>
        rw [List.append_assoc, List.cons_append] at parts
        have fits := thrifty before order (orders ++ request :: after) parts
        have posted := posts order List.mem_cons_self
        -- A turn for a token is followed by a request, so there is no second one.
        have alone : orders = [] := by
          cases issue : order.issue? c.reader horizon with
          | none => simpa using (fits.refused posted issue).1
          | some issue' =>
              obtain ⟨next, later, same, plain⟩ := fits.used posted (by rw [issue]; rfl)
              cases orders with
              | nil => rfl
              | cons second orders =>
                  obtain ⟨rfl, _⟩ := List.cons_eq_cons.1 same
                  exact (plain (posts _ (List.mem_cons_of_mem _ List.mem_cons_self))).elim
        subst alone
        exact ⟨iff_of_true nofun (fits.due posted), Nat.le_refl 1⟩
  used before order after parts posts := (thrifty before order after parts).used posts
  carries before request after parts other := (thrifty before request after parts).carries other
  refused before order after parts posts unissued := by
    obtain ⟨rfl, withheld⟩ := (thrifty before order after parts).refused posts unissued
    refine ⟨rfl, ?_, withheld⟩
    rw [parts, ← List.append_assoc, held?_concat_of_none _ unissued]

/-- In any session every operation reuses tokens exactly, and the token that is kept is the one that
was issued last, by induction on the session. -/
theorem Session.reuses_exactly (clock : Clock serve time horizon) {episodes : List Episode}
    {kept : Option Token} (session : Session c serve time episodes kept) :
    (∀ earlier episode later, episodes = earlier ++ episode :: later →
      Exact c horizon (said earlier) episode.log episode.halt?) ∧
      kept = held? c.reader horizon (said episodes) := by
  induction session with
  | start => exact ⟨fun earlier episode later parts => by simp at parts, rfl⟩
  | @perform episodes kept left fuel call s t log result before goes ih =>
      obtain ⟨each, rfl⟩ := ih
      obtain ⟨log, result, t, keeps, thrifty⟩ :=
        (c.perform_made fuel call).keeps clock (said episodes) s
      obtain ⟨rfl, rfl, rfl⟩ := goes.unique keeps
      constructor
      · intro earlier episode later parts
        rcases List.append_eq_append_iff.1 parts with ⟨between, rfl, rest⟩ | ⟨rest, rfl, same⟩
        · obtain ⟨rfl, rfl, rfl⟩ := eq_of_singleton rest
          rw [List.append_nil]
          exact thrifty.exact
        · cases rest with
          | nil =>
              obtain ⟨rfl, rfl⟩ := List.cons_eq_cons.1 same
              rw [List.append_nil] at thrifty
              exact thrifty.exact
          | cons _ rest =>
              obtain ⟨rfl, rfl⟩ := List.cons_eq_cons.1 same
              exact each _ _ _ rfl
      · rw [said_concat]

end Operations

namespace Sample

/-- Answers messages from a script, on a clock that moves only in pauses. -/
def ticking : (w : Wire) → Nat × List Response → w.Answer × (Nat × List Response)
  | .exchange _, (now, script) => (script.head?, (now, script.tail))
  | .sleep length, (now, script) => ((), (now + length, script))
  | .now, (now, script) => (now, (now, script))
  | .after length, (now, script) =>
      (if now + length < Peer.horizon then some (now + length) else none, (now, script))

theorem clock_ticking : Clock ticking Prod.fst Peer.horizon :=
  ⟨fun _ => rfl, fun _ => rfl, fun _ _ => rfl⟩

/-- A token that is good for one second. -/
def brief : Response :=
  ⟨200, [], Peer.body (.object [("access_token", .string "first"), ("expires_in", .string "+61")])⟩

/-- A token that lives longer than the clock can show. -/
def unending : Response :=
  ⟨200, [], Peer.body (.object [("access_token", .string "endless"),
    ("expires_in", .nat 18446744073709551615)])⟩

/-- A token whose lifetime is not stated. -/
def lasting : Response := ⟨200, [], Peer.body (.object [("access_token", .string "second")])⟩

/-- The client whose tokens these are. -/
def tenant : Client :=
  ⟨⟨"http://arm", "http://arm/login", 1, 1⟩, ⟨"sub", "tenant", "id", "secret"⟩, .strict⟩

end Sample

/-- Five operations in which a token is asked for, reused in the last moment in which it is good,
not granted in the next moment, granted for longer than the clock can show, and asked for again. -/
theorem Session.reuses_exactly_ticking : ∃ episodes kept,
    Session Sample.tenant Sample.ticking Prod.fst episodes kept ∧
      episodes.map (fun episode => episode.log.map fun turn =>
        (turn.message.method, turn.message.bearer)) =
        [[(.post, none), (.delete, some "first")], [(.delete, some "first")], [(.post, none)],
          [(.post, none)], [(.post, none), (.delete, some "second")]] ∧
      (∀ earlier episode later, episodes = earlier ++ episode :: later →
        Exact Sample.tenant Peer.horizon (said earlier) episode.log episode.halt?) ∧
      kept = held? Sample.tenant.reader Peer.horizon (said episodes) ∧
      kept = some ⟨"second", 3541 * Endpoints.second⟩ := by
  have unused : Session Sample.tenant Sample.ticking Prod.fst [] none := .start
  have first := unused.next 1 (.deleteVm "rg" "vm") (0, [Sample.brief, ⟨200, [], []⟩])
  have second := first.next 1 (.deleteVm "rg" "vm") (Endpoints.second - 1, [⟨200, [], []⟩])
  have third := second.next 1 (.deleteVm "rg" "vm") (Endpoints.second, [⟨503, [], []⟩])
  have fourth := third.next 1 (.deleteVm "rg" "vm") (Endpoints.second, [Sample.unending])
  have fifth := fourth.next 1 (.deleteVm "rg" "vm")
    (Endpoints.second, [Sample.lasting, ⟨200, [], []⟩])
  obtain ⟨each, kept⟩ := Session.reuses_exactly Sample.clock_ticking fifth
  exact ⟨_, _, fifth, by decide +kernel, each, kept, by decide +kernel⟩

end Provisioning.Azure.Rest
