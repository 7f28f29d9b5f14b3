import Mathlib.Tactic
import NearRtRic.Kpimon.ResponseTimers

/-! The rounds in which KPIMON subscribes to the RANs of its list. -/

namespace NearRtRic.Kpimon

def MAX_SUBSCRIPTION_ATTEMPTS : Nat := 100

structure RmrParams where
  mtype : Nat
  subId : Nat
  payload : List UInt8
  ranName : RanName
  deriving DecidableEq, Repr

/-- What the encoders and RMR answer in one round, by the iteration of its loop. -/
structure Round where
  eventTriggerDefinition : Bool
  subscriptionRequestPayload : Nat → Option (List UInt8)
  rmrSend : Nat → Bool

inductive SubscribeError
  | eventTriggerDefinition
  | subscriptionRequestPayload
  | rmrSend
  deriving DecidableEq, Repr

inductive Returned
  | nil
  | err (error : SubscribeError)
  /-- An index out of range. -/
  | panicked
  deriving DecidableEq, Repr

inductive Outcome
  | notEncoded
  | notSent (params : RmrParams)
  | sent (params : RmrParams)
  deriving DecidableEq, Repr

/-- One iteration that did not find the list at its end. -/
structure Attempt (Ran : Type) where
  ranList : List Ran
  ran : Ran
  outcome : Outcome

structure Sender (Ran : Type) where
  ranList : List Ran
  control : Control

/-- A call of sendRicSubRequest: what it tried, what it returned and what it left. -/
structure Call (Ran : Type) where
  attempts : List (Attempt Ran)
  returned : Returned
  sender : Sender Ran

section Code

variable {Ran : Type} (name : Ran → RanName)

def elementAt (ranList : List Ran) (index : Int) : Option Ran :=
  if index < 0 then none else ranList[index.toNat]?

theorem elementAt_within {ranList : List Ran} {index : Int} {ran : Ran}
    (is : elementAt ranList index = some ran) : index.toNat < ranList.length := by
  simp only [elementAt] at is
  split at is
  · cases is
  · exact (List.getElem?_eq_some_iff.mp is).1

def subscribeLoop (round : Round) (subID : Nat) (iteration : Nat) (index : Int)
    (sender : Sender Ran) : Call Ran :=
  if index < sender.ranList.length then
    match _is : elementAt sender.ranList index with
    | none => { attempts := [], returned := .panicked, sender := sender }
    | some ran =>
        match round.subscriptionRequestPayload iteration with
        | none =>
            { attempts := [⟨sender.ranList, ran, .notEncoded⟩]
              returned := .err .subscriptionRequestPayload
              sender := sender }
        | some payload =>
            let params : RmrParams :=
              { mtype := 12010, subId := subID, payload := payload, ranName := name ran }
            if round.rmrSend iteration then
              let served : Sender Ran :=
                { ranList := sender.ranList.take index.toNat ++
                    sender.ranList.drop (index.toNat + 1)
                  control := setEventCreateExpiredTimer sender.control params.ranName }
              -- the body steps the index back, the loop steps it on again
              let stepped := index - 1
              let rest := subscribeLoop round subID (iteration + 1) (stepped + 1) served
              { rest with attempts := ⟨sender.ranList, ran, .sent params⟩ :: rest.attempts }
            else
              { attempts := [⟨sender.ranList, ran, .notSent params⟩]
                returned := .err .rmrSend
                sender := sender }
  else { attempts := [], returned := .nil, sender := sender }
termination_by sender.ranList.length
decreasing_by
  have := elementAt_within _is
  simp only [List.length_append, List.length_take, List.length_drop]
  omega

def sendRicSubRequest (round : Round) (subID : Nat) (sender : Sender Ran) : Call Ran :=
  if !round.eventTriggerDefinition then
    { attempts := [], returned := .err .eventTriggerDefinition, sender := sender }
  else subscribeLoop name round subID 0 0 sender

/-- The loop of the timer goroutine, from the `count` of the rounds that it has made. -/
def timerRounds (rounds : Nat → Round) (count : Nat) (sender : Sender Ran) : List (Call Ran) :=
  let call := sendRicSubRequest name (rounds (count + 1)) 1001 sender
  match call.returned with
  | .err _ =>
      if count + 1 < MAX_SUBSCRIPTION_ATTEMPTS then
        call :: timerRounds rounds (count + 1) call.sender
      else [call]
  | .nil | .panicked => [call]
termination_by MAX_SUBSCRIPTION_ATTEMPTS - count

def startTimerSubReq (rounds : Nat → Round) (sender : Sender Ran) : List (Call Ran) :=
  timerRounds name rounds 0 sender

end Code

section Loop

variable {Ran : Type} {name : Ran → RanName} (round : Round) (subID iteration : Nat)

/-- The loop is always at the head of the list. -/
theorem subscribeLoop_nil (control : Control) :
    subscribeLoop name round subID iteration 0 ⟨[], control⟩ = ⟨[], .nil, ⟨[], control⟩⟩ := by
  rw [subscribeLoop, if_neg (by simp)]

theorem subscribeLoop_cons (ran : Ran) (ranList : List Ran) (control : Control) :
    subscribeLoop name round subID iteration 0 ⟨ran :: ranList, control⟩ =
      match round.subscriptionRequestPayload iteration with
      | none =>
          ⟨[⟨ran :: ranList, ran, .notEncoded⟩], .err .subscriptionRequestPayload,
            ⟨ran :: ranList, control⟩⟩
      | some payload =>
          let params : RmrParams := ⟨12010, subID, payload, name ran⟩
          if round.rmrSend iteration then
            let rest := subscribeLoop name round subID (iteration + 1) 0
              ⟨ranList, setEventCreateExpiredTimer control (name ran)⟩
            { rest with attempts := ⟨ran :: ranList, ran, .sent params⟩ :: rest.attempts }
          else
            ⟨[⟨ran :: ranList, ran, .notSent params⟩], .err .rmrSend,
              ⟨ran :: ranList, control⟩⟩ := by
  rw [subscribeLoop, if_pos (by simp)]
  split
  · next outside => simp [elementAt] at outside
  · next found is =>
    obtain rfl : found = ran := by simpa [elementAt] using is.symm
    simp

end Loop

section Order

variable {Ran : Type}

def Attempt.delivered (attempt : Attempt Ran) : Bool :=
  match attempt.outcome with
  | .sent _ => true
  | .notEncoded | .notSent _ => false

/-- The RANs whose request was sent, in the order of the requests. -/
def served (attempts : List (Attempt Ran)) : List Ran :=
  (attempts.filter Attempt.delivered).map Attempt.ran

/-- Each attempt is for the first RAN that is not served yet, with all of those in the list. -/
def Served (ranList : List Ran) (attempts : List (Attempt Ran)) : Prop :=
  ∀ first attempt last, attempts = first ++ attempt :: last →
    served first ++ attempt.ranList = ranList ∧ attempt.ranList.head? = some attempt.ran

def Outcome.error : Outcome → Option SubscribeError
  | .notEncoded => some .subscriptionRequestPayload
  | .notSent _ => some .rmrSend
  | .sent _ => none

def Round.answer (name : Ran → RanName) (round : Round) (subID iteration : Nat) (ran : Ran) :
    Outcome :=
  match round.subscriptionRequestPayload iteration with
  | none => .notEncoded
  | some payload =>
      let params : RmrParams :=
        { mtype := 12010, subId := subID, payload := payload, ranName := name ran }
      if round.rmrSend iteration then .sent params else .notSent params

/-- What a call tries of its list, and returns, where these are the answers to its attempts. -/
structure Call.Answers (answer : Nat → Ran → Outcome) (ranList : List Ran) (call : Call Ran) :
    Prop where
  outcome : ∀ index attempt, call.attempts[index]? = some attempt →
    attempt.outcome = answer index attempt.ran
  /-- A position is tried just when nothing failed before it. -/
  tried : ∀ index ran, ranList[index]? = some ran →
    ((call.attempts[index]?).map Attempt.ran = some ran ↔
      ∀ before earlier, before < index → ranList[before]? = some earlier →
        (answer before earlier).error = none)
  succeeds : call.returned = .nil ↔
    ∀ index ran, ranList[index]? = some ran → (answer index ran).error = none
  /-- The error is that of the last attempt. -/
  fails : ∀ error, call.returned = .err error →
    ∃ attempt, call.attempts.getLast? = some attempt ∧ attempt.outcome.error = some error

/-- What one call leaves of the list that it was given. -/
structure Call.InOrder (ranList : List Ran) (call : Call Ran) : Prop where
  left : served call.attempts ++ call.sender.ranList = ranList
  attempted : Served ranList call.attempts
  within : call.attempts.map Attempt.ran <+: ranList
  failure : ∀ attempt ∈ call.attempts.dropLast, attempt.delivered
  done : call.returned = .nil → call.sender.ranList = []
  inRange : call.returned ≠ .panicked

@[simp] theorem served_nil : served ([] : List (Attempt Ran)) = [] := rfl

theorem served_append (first second : List (Attempt Ran)) :
    served (first ++ second) = served first ++ served second := by
  simp [served]

theorem served_append_attempts {ranList : List Ran} {first second : List (Attempt Ran)}
    {left : List Ran} (all : served first ++ left = ranList) (before : Served ranList first)
    (after : Served left second) : Served ranList (first ++ second) := by
  intro front attempt last split
  rcases List.append_eq_append_iff.mp split with ⟨more, rfl, rest⟩ | ⟨more, rfl, rest⟩
  · rcases after more attempt last rest with ⟨left', head⟩
    rw [served_append, List.append_assoc, left']
    exact ⟨all, head⟩
  · cases more with
    | nil =>
        rcases after [] attempt last rest.symm with ⟨left', head⟩
        rw [served_nil, List.nil_append] at left'
        rw [List.append_nil] at all
        exact ⟨by rw [left', all], head⟩
    | cons again more =>
        rcases List.cons.inj rest with ⟨rfl, -⟩
        exact before front attempt more rfl

theorem subscribeLoop_inOrder (name : Ran → RanName) (round : Round) (subID : Nat)
    (ranList : List Ran) (iteration : Nat) (control : Control) :
    (subscribeLoop name round subID iteration 0 ⟨ranList, control⟩).InOrder ranList := by
  induction ranList generalizing iteration control with
  | nil =>
      rw [subscribeLoop_nil]
      exact ⟨rfl, by simp [Served], by simp, by simp, fun _ => rfl, nofun⟩
  | cons ran ranList ih =>
      have single : ∀ outcome, Served (ran :: ranList) [⟨ran :: ranList, ran, outcome⟩] := by
        intro outcome first attempt last split
        cases first with
        | nil =>
            rcases List.cons.inj split with ⟨rfl, -⟩
            exact ⟨rfl, rfl⟩
        | cons other first => simp at split
      rw [subscribeLoop_cons]
      split
      · exact ⟨rfl, single _, by simp, by simp, nofun, nofun⟩
      · next payload encoded =>
        simp only
        split
        · have rest := ih (iteration + 1) (setEventCreateExpiredTimer control (name ran))
          generalize subscribeLoop name round subID (iteration + 1) 0
            ⟨ranList, setEventCreateExpiredTimer control (name ran)⟩ = call at rest ⊢
          refine ⟨?_, ?_, ?_, ?_, rest.done, rest.inRange⟩
          · exact congrArg (ran :: ·) rest.left
          · let sent : Attempt Ran :=
              ⟨ran :: ranList, ran, .sent ⟨12010, subID, payload, name ran⟩⟩
            have head : served [sent] ++ ranList = ran :: ranList := rfl
            exact served_append_attempts head (single _) rest.attempted
          · exact List.cons_prefix_cons.mpr ⟨rfl, rest.within⟩
          · intro attempt mem
            cases more : call.attempts with
            | nil => simp [more] at mem
            | cons next attempts =>
                rw [more, List.dropLast_cons_of_ne_nil (by simp), List.mem_cons] at mem
                rcases mem with rfl | mem
                · rfl
                · exact rest.failure attempt (by rwa [more])
        · exact ⟨rfl, single _, by simp, by simp, nofun, nofun⟩

section Answers

variable {answer : Nat → Ran → Outcome} {ran : Ran} {ranList : List Ran} {outcome : Outcome}

theorem answers_failed {error : SubscribeError} (is : answer 0 ran = outcome)
    (failed : outcome.error = some error) (around : List Ran) (sender : Sender Ran) :
    Call.Answers answer (ran :: ranList) ⟨[⟨around, ran, outcome⟩], .err error, sender⟩ where
  outcome := by
    rintro (_ | index) attempt at_index
    · obtain rfl := Option.some.inj at_index
      exact is.symm
    · simp at at_index
  tried := by
    rintro (_ | index) other at_index
    · exact iff_of_true at_index (by simp)
    · refine iff_of_false (by simp) fun nothing => ?_
      rw [← is, nothing 0 ran (by omega) rfl] at failed
      cases failed
  succeeds := by
    refine iff_of_false nofun fun nothing => ?_
    rw [← is, nothing 0 ran rfl] at failed
    cases failed
  fails := by
    intro returned same
    obtain rfl := Returned.err.inj same
    exact ⟨_, rfl, failed⟩

theorem answers_sent {call : Call Ran} (is : answer 0 ran = outcome)
    (succeeded : outcome.error = none)
    (rest : call.Answers (fun index => answer (index + 1)) ranList) (around : List Ran) :
    Call.Answers answer (ran :: ranList)
      { call with attempts := ⟨around, ran, outcome⟩ :: call.attempts } where
  outcome := by
    rintro (_ | index) attempt at_index
    · obtain rfl := Option.some.inj at_index
      exact is.symm
    · exact rest.outcome index attempt at_index
  tried := by
    rintro (_ | index) other at_index
    · exact iff_of_true at_index (by simp)
    · refine (rest.tried index other at_index).trans ⟨fun nothing => ?_, fun nothing => ?_⟩
      · rintro (_ | before) earlier behind at_before
        · obtain rfl := Option.some.inj at_before
          rw [is, succeeded]
        · exact nothing before earlier (by omega) at_before
      · intro before earlier behind at_before
        exact nothing (before + 1) earlier (by omega) at_before
  succeeds := by
    refine rest.succeeds.trans ⟨fun nothing => ?_, fun nothing => ?_⟩
    · rintro (_ | index) other at_index
      · obtain rfl := Option.some.inj at_index
        rw [is, succeeded]
      · exact nothing index other at_index
    · intro index other at_index
      exact nothing (index + 1) other at_index
  fails := by
    intro error returned
    have ⟨attempt, last, failed⟩ := rest.fails error returned
    refine ⟨attempt, ?_, failed⟩
    rw [List.getLast?_cons, last]
    rfl

end Answers

theorem subscribeLoop_answers (name : Ran → RanName) (round : Round) (subID : Nat)
    (ranList : List Ran) (iteration : Nat) (control : Control) :
    (subscribeLoop name round subID iteration 0 ⟨ranList, control⟩).Answers
      (fun index => round.answer name subID (iteration + index)) ranList := by
  induction ranList generalizing iteration control with
  | nil =>
      rw [subscribeLoop_nil]
      exact ⟨by simp, by simp, by simp, by simp⟩
  | cons ran ranList ih =>
      rw [subscribeLoop_cons]
      split
      · next unencoded =>
        exact answers_failed (by simp [Round.answer, unencoded]) rfl _ _
      · next payload encoded =>
        simp only
        split
        · next accepted =>
          refine answers_sent (by simp [Round.answer, encoded, accepted]) rfl ?_ _
          simpa only [Nat.add_assoc, Nat.add_comm 1] using
            ih (iteration + 1) (setEventCreateExpiredTimer control (name ran))
        · next refused =>
          exact answers_failed (by simp [Round.answer, encoded, refused]) rfl _ _

/-- What a call makes of its round: without an event trigger it tries nothing. -/
def Call.Obeys (name : Ran → RanName) (round : Round) (subID : Nat) (ranList : List Ran)
    (call : Call Ran) : Prop :=
  if round.eventTriggerDefinition then call.Answers (round.answer name subID) ranList
  else call.attempts = [] ∧ call.returned = .err .eventTriggerDefinition

theorem sendRicSubRequest_obeys (name : Ran → RanName) (round : Round) (subID : Nat)
    (sender : Sender Ran) :
    (sendRicSubRequest name round subID sender).Obeys name round subID sender.ranList := by
  rw [sendRicSubRequest, Call.Obeys]
  by_cases encoded : round.eventTriggerDefinition
  · simpa [encoded] using subscribeLoop_answers name round subID sender.ranList 0 sender.control
  · simp [encoded]

theorem sendRicSubRequest_inOrder (name : Ran → RanName) (round : Round) (subID : Nat)
    (sender : Sender Ran) :
    (sendRicSubRequest name round subID sender).InOrder sender.ranList := by
  rw [sendRicSubRequest]
  split
  · exact ⟨rfl, by simp [Served], by simp, by simp, nofun, nofun⟩
  · exact subscribeLoop_inOrder name round subID sender.ranList 0 sender.control

end Order

section Rounds

variable {Ran : Type}

def attempts (history : List (Call Ran)) : List (Attempt Ran) :=
  history.flatMap Call.attempts

/-- The law of the rounds over a list of distinct positions, of which `most` may be made. -/
structure SubscribedInOrder (name : Ran → RanName) (round : Nat → Round) (most : Nat)
    (positions : List Ran) (history : List (Call Ran)) : Prop where
  /-- Every position is served at most once, -/
  once : (served (attempts history)).Nodup
  /-- in the order of the list. -/
  inOrder : served (attempts history) <+: positions
  /-- Whenever a request is tried, the list is the positions from the first unserved one on, and
  the request goes to that one. -/
  attempted : Served positions (attempts history)
  /-- So is the list that a round leaves. -/
  left : ∀ first call last, history = first ++ call :: last →
    served (attempts (first ++ [call])) ++ call.sender.ranList = positions
  /-- A round tries unserved positions one after the other, and nothing after a failure. -/
  noneSkipped : ∀ first call last, history = first ++ call :: last →
    call.attempts.map Attempt.ran <+: positions.drop (served (attempts first)).length ∧
      ∀ attempt ∈ call.attempts.dropLast, attempt.delivered
  /-- It tries all of them up to its first failure. -/
  obeys : ∀ first call last, history = first ++ call :: last →
    call.Obeys name (round first.length) 1001 (positions.drop (served (attempts first)).length)
  done : ∀ call ∈ history, call.returned = .nil → call.sender.ranList = []
  inRange : ∀ call ∈ history, call.returned ≠ .panicked
  /-- After an error there is another round, as long as one may be made. -/
  again : ∀ first call last, history = first ++ call :: last →
    (last ≠ [] ↔ call.returned ≠ .nil ∧ first.length + 1 < most)
  bounded : history.length ≤ most

theorem attempts_cons (call : Call Ran) (history : List (Call Ran)) :
    attempts (call :: history) = call.attempts ++ attempts history := by
  simp [attempts]

theorem subscribedInOrder_cons {name : Ran → RanName} {round : Nat → Round} {most : Nat}
    {positions : List Ran} {call : Call Ran} {history : List (Call Ran)}
    (distinct : positions.Nodup) (inOrder : call.InOrder positions)
    (obeys : call.Obeys name (round 0) 1001 positions)
    (again : history ≠ [] ↔ call.returned ≠ .nil ∧ 1 < most + 1)
    (rest : SubscribedInOrder name (fun index => round (index + 1)) most call.sender.ranList
      history) :
    SubscribedInOrder name round (most + 1) positions (call :: history) := by
  have served_all : served (attempts (call :: history)) <+: positions := by
    rw [attempts_cons, served_append, ← inOrder.left]
    exact (List.prefix_append_right_inj _).mpr rest.inOrder
  have unserved : ∀ calls, positions.drop (served (attempts (call :: calls))).length =
      call.sender.ranList.drop (served (attempts calls)).length := by
    intro calls
    rw [attempts_cons, served_append, List.length_append, ← List.drop_drop, ← inOrder.left,
      List.drop_left]
  refine ⟨distinct.sublist served_all.sublist, served_all, ?_, ?_, ?_, ?_, ?_, ?_, ?_, ?_⟩
  · rw [attempts_cons]
    exact served_append_attempts inOrder.left inOrder.attempted rest.attempted
  · rintro (_ | ⟨first, calls⟩) last later split
    · rcases List.cons.inj split with ⟨rfl, -⟩
      simpa [attempts] using inOrder.left
    · rcases List.cons.inj split with ⟨rfl, again⟩
      rw [List.cons_append, attempts_cons, served_append, List.append_assoc,
        rest.left calls last later again, inOrder.left]
  · rintro (_ | ⟨first, calls⟩) last later split
    · rcases List.cons.inj split with ⟨rfl, -⟩
      exact ⟨inOrder.within, inOrder.failure⟩
    · rcases List.cons.inj split with ⟨rfl, again⟩
      rw [unserved]
      exact rest.noneSkipped calls last later again
  · rintro (_ | ⟨first, calls⟩) last later split
    · rcases List.cons.inj split with ⟨rfl, -⟩
      exact obeys
    · rcases List.cons.inj split with ⟨rfl, again⟩
      rw [unserved]
      exact rest.obeys calls last later again
  · intro other mem
    rcases List.mem_cons.mp mem with rfl | mem
    · exact inOrder.done
    · exact rest.done other mem
  · intro other mem
    rcases List.mem_cons.mp mem with rfl | mem
    · exact inOrder.inRange
    · exact rest.inRange other mem
  · rintro (_ | ⟨first, calls⟩) last later split
    · rcases List.cons.inj split with ⟨rfl, rfl⟩
      exact again
    · rcases List.cons.inj split with ⟨rfl, more⟩
      rw [rest.again calls last later more, List.length_cons, Nat.add_lt_add_iff_right]
  · rw [List.length_cons]
    exact Nat.succ_le_succ rest.bounded

theorem subscribedInOrder_nil (name : Ran → RanName) (round : Nat → Round) (most : Nat)
    (positions : List Ran) : SubscribedInOrder name round most positions [] := by
  have none : ∀ (first : List (Call Ran)) call last, [] = first ++ call :: last → False := by
    simp
  exact ⟨by simp [attempts], by simp [attempts], by simp [Served, attempts],
    fun first call last split => (none first call last split).elim,
    fun first call last split => (none first call last split).elim,
    fun first call last split => (none first call last split).elim, by simp, by simp,
    fun first call last split => (none first call last split).elim, Nat.zero_le most⟩

def Returned.failed : Returned → Bool
  | .err _ => true
  | .nil | .panicked => false

theorem timerRounds_eq (name : Ran → RanName) (rounds : Nat → Round) (count : Nat)
    (sender : Sender Ran) :
    timerRounds name rounds count sender =
      sendRicSubRequest name (rounds (count + 1)) 1001 sender ::
        if (sendRicSubRequest name (rounds (count + 1)) 1001 sender).returned.failed ∧
            count + 1 < MAX_SUBSCRIPTION_ATTEMPTS then
          timerRounds name rounds (count + 1)
            (sendRicSubRequest name (rounds (count + 1)) 1001 sender).sender
        else [] := by
  rw [timerRounds]
  cases is : (sendRicSubRequest name (rounds (count + 1)) 1001 sender).returned with
  | nil => simp [Returned.failed]
  | panicked => simp [Returned.failed]
  | err error =>
      by_cases more : count + 1 < MAX_SUBSCRIPTION_ATTEMPTS <;> simp [Returned.failed, more]

theorem timerRounds_inOrder (name : Ran → RanName) (rounds : Nat → Round) (left count : Nat)
    (sender : Sender Ran) (within : count + left = MAX_SUBSCRIPTION_ATTEMPTS)
    (some_left : 0 < left) (distinct : sender.ranList.Nodup) :
    SubscribedInOrder name (fun index => rounds (count + index + 1)) left sender.ranList
      (timerRounds name rounds count sender) := by
  induction left generalizing count sender with
  | zero => omega
  | succ left ih =>
      have inOrder := sendRicSubRequest_inOrder name (rounds (count + 1)) 1001 sender
      have obeys := sendRicSubRequest_obeys name (rounds (count + 1)) 1001 sender
      have more : count + 1 < MAX_SUBSCRIPTION_ATTEMPTS ↔ 1 < left + 1 := by omega
      rw [timerRounds_eq]
      generalize sendRicSubRequest name (rounds (count + 1)) 1001 sender = call at *
      have failed : call.returned.failed ↔ call.returned ≠ .nil := by
        have inRange := inOrder.inRange
        cases is : call.returned with
        | nil => simp [Returned.failed]
        | err error => simp [Returned.failed]
        | panicked => exact absurd is inRange
      simp only [failed, more]
      split
      · next goes =>
        have sublist : call.sender.ranList.Sublist sender.ranList := by
          rw [← inOrder.left]
          exact List.sublist_append_right _ _
        have rest := ih (count + 1) call.sender (by omega) (by omega) (distinct.sublist sublist)
        have shifted : (fun index => rounds (count + 1 + index + 1)) =
            fun index => rounds (count + (index + 1) + 1) := by
          funext index
          rw [Nat.add_right_comm count 1 index, Nat.add_assoc count index 1]
        rw [shifted] at rest
        refine subscribedInOrder_cons distinct inOrder obeys ?_ rest
        rw [timerRounds_eq]
        exact iff_of_true (List.cons_ne_nil _ _) goes
      · next stops =>
        exact subscribedInOrder_cons distinct inOrder obeys (iff_of_false (by simp) stops)
          (subscribedInOrder_nil _ _ _ _)

end Rounds

section Positions

variable {Ran Other : Type}

def Attempt.map (rename : Ran → Other) (attempt : Attempt Ran) : Attempt Other where
  ranList := attempt.ranList.map rename
  ran := rename attempt.ran
  outcome := attempt.outcome

def Sender.map (rename : Ran → Other) (sender : Sender Ran) : Sender Other where
  ranList := sender.ranList.map rename
  control := sender.control

def Call.map (rename : Ran → Other) (call : Call Ran) : Call Other where
  attempts := call.attempts.map (Attempt.map rename)
  returned := call.returned
  sender := call.sender.map rename

theorem subscribeLoop_map (rename : Ran → Other) (name : Other → RanName) (round : Round)
    (subID : Nat) (ranList : List Ran) (iteration : Nat) (control : Control) :
    subscribeLoop name round subID iteration 0 ⟨ranList.map rename, control⟩ =
      (subscribeLoop (name ∘ rename) round subID iteration 0 ⟨ranList, control⟩).map rename := by
  induction ranList generalizing iteration control with
  | nil =>
      rw [List.map_nil, subscribeLoop_nil, subscribeLoop_nil]
      rfl
  | cons ran ranList ih =>
      rw [List.map_cons, subscribeLoop_cons, subscribeLoop_cons]
      split
      · rfl
      · next payload encoded =>
        simp only [Function.comp_apply]
        split
        · rw [ih]
          rfl
        · rfl

theorem sendRicSubRequest_map (rename : Ran → Other) (name : Other → RanName) (round : Round)
    (subID : Nat) (sender : Sender Ran) :
    sendRicSubRequest name round subID (sender.map rename) =
      (sendRicSubRequest (name ∘ rename) round subID sender).map rename := by
  simp only [sendRicSubRequest]
  split
  · rfl
  · exact subscribeLoop_map rename name round subID sender.ranList 0 sender.control

/-- The rounds do not depend on what else the list holds beside the names. -/
theorem timerRounds_map (rename : Ran → Other) (name : Other → RanName) (rounds : Nat → Round)
    (left count : Nat) (sender : Sender Ran)
    (within : MAX_SUBSCRIPTION_ATTEMPTS ≤ count + left) :
    timerRounds name rounds count (sender.map rename) =
      (timerRounds (name ∘ rename) rounds count sender).map (Call.map rename) := by
  induction left generalizing count sender with
  | zero =>
      have last : ¬ count + 1 < MAX_SUBSCRIPTION_ATTEMPTS := by omega
      rw [timerRounds_eq name, timerRounds_eq (name ∘ rename), sendRicSubRequest_map,
        if_neg (fun more => last more.2), if_neg (fun more => last more.2)]
      rfl
  | succ left ih =>
      rw [timerRounds_eq name, timerRounds_eq (name ∘ rename), sendRicSubRequest_map]
      generalize sendRicSubRequest (name ∘ rename) (rounds (count + 1)) 1001 sender = call
      rw [List.map_cons, apply_ite (List.map (Call.map rename)),
        ← ih (count + 1) call.sender (by omega)]
      rfl

end Positions

theorem zipIdx_nodup (names : List RanName) : names.zipIdx.Nodup := by
  apply List.Nodup.of_map Prod.snd
  rw [List.zipIdx_map_snd]
  exact List.nodup_range'

/-- For every list of names and every pattern of failures: the rounds on the names are those on
their positions, and these subscribe the positions in order. -/
theorem subscribes_in_order (rounds : Nat → Round) (names : List RanName) (control : Control) :
    startTimerSubReq id rounds ⟨names, control⟩ =
        (startTimerSubReq Prod.fst rounds ⟨names.zipIdx, control⟩).map (Call.map Prod.fst) ∧
      startTimerSubReq Prod.fst rounds ⟨names.zipIdx, control⟩ ≠ [] ∧
      SubscribedInOrder Prod.fst (fun index => rounds (index + 1)) MAX_SUBSCRIPTION_ATTEMPTS
        names.zipIdx (startTimerSubReq Prod.fst rounds ⟨names.zipIdx, control⟩) := by
  refine ⟨?_, ?_, ?_⟩
  · have same := timerRounds_map Prod.fst id rounds MAX_SUBSCRIPTION_ATTEMPTS 0
      ⟨names.zipIdx, control⟩ (by omega)
    rwa [Sender.map, List.zipIdx_map_fst] at same
  · rw [startTimerSubReq, timerRounds_eq]
    exact List.cons_ne_nil _ _
  · have law := timerRounds_inOrder Prod.fst rounds MAX_SUBSCRIPTION_ATTEMPTS 0
      ⟨names.zipIdx, control⟩ (Nat.zero_add _) (by decide) (zipIdx_nodup names)
    simp only [Nat.zero_add] at law
    exact law

end NearRtRic.Kpimon
