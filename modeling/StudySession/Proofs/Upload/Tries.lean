import StudySession.Proofs.Upload.Losses
import StudySession.Proofs.Upload.Retrying

/-!
# Tries of parts

A call is tried whenever it is made on the store. A caller tries again only after a failure for a
passing reason, and with the very same call (`Trying`). A part on its way does so by its task. Since
an upload counts the attempts at each call and the run keeps them, the two agree
(`Traffic.Tried`), so that there are never more than the policy allows, the delay before each is the
one of its number, and a part that is lost is so after as many as there were.
-/

namespace StudySession

/-! ## What is read from a run -/

/-- A call that was made on the store, and the answer. -/
structure Try where
  call : StoreCall
  answer : Except StoreError String

/-- The call of a caller that is made. -/
def Happening.attempt? (who : Caller) : Happening → Option Try
  | reached caller call answer => if caller = who then some ⟨call, answer⟩ else none
  | failed caller call error => if caller = who then some ⟨call, .error error⟩ else none
  | _ => none

/-- The calls of a caller that were made, in order. -/
def triesOf (who : Caller) (trace : List Happening) : List Try := trace.filterMap (·.attempt? who)

section Histories

variable {who : Caller} {trace : List Happening} {o : Happening}

@[simp] theorem triesOf_nil : triesOf who [] = [] := rfl

theorem triesOf_snoc :
    triesOf who (trace ++ [o]) = triesOf who trace ++ (o.attempt? who).toList := by
  rw [triesOf, List.filterMap_append]
  cases htry : o.attempt? who <;> simp [triesOf, htry]

theorem triesOf_snoc_of_none (hnone : o.attempt? who = none) :
    triesOf who (trace ++ [o]) = triesOf who trace := by
  rw [triesOf_snoc, hnone, Option.toList_none, List.append_nil]

end Histories

/-! ## Tries that a policy allows -/

/-- Tries of one call, each but the last with a failure for a passing reason. -/
structure Attempted (policy : RetryPolicy) (call : StoreCall) (tries : List Try) : Prop where
  call_eq : ∀ t ∈ tries, t.call = call
  passing : ∀ t ∈ tries.dropLast, RetryPolicy.IsPassing t.answer
  few : tries.length ≤ max 1 policy.maxAttempts

/-- Tries of one call after which there is to be another. -/
structure Passed (policy : RetryPolicy) (call : StoreCall) (tries : List Try) : Prop where
  call_eq : ∀ t ∈ tries, t.call = call
  passing : ∀ t ∈ tries, RetryPolicy.IsPassing t.answer
  few : tries.length < max 1 policy.maxAttempts

/-- What is in the air of a call that is tried, and the number of its attempt. -/
inductive Trying (policy : RetryPolicy) (call : StoreCall) : Flight → Nat → List Try → Prop where
  | setOut {tries : List Try} (passed : Passed policy call tries) :
      Trying policy call ⟨call, none⟩ (tries.length + 1) tries
  | back {earlier : List Try} {answer : Except StoreError String}
      (passed : Passed policy call earlier) :
      Trying policy call ⟨call, some answer⟩ (earlier.length + 1) (earlier ++ [⟨call, answer⟩])

section Policies

variable {policy : RetryPolicy} {call made : StoreCall} {tries : List Try}
  {answer : Except StoreError String} {attempt : Nat} {flight : Flight}

theorem passed_nil (policy : RetryPolicy) (call : StoreCall) : Passed policy call [] :=
  ⟨by simp, by simp, by rw [List.length_nil]; omega⟩

theorem Passed.attempted (h : Passed policy call tries) : Attempted policy call tries :=
  ⟨h.call_eq, fun t ht => h.passing t ((List.dropLast_sublist tries).subset ht), h.few.le⟩

/-- Whatever comes of another try. -/
theorem Passed.snoc (h : Passed policy call tries) (answer : Except StoreError String) :
    Attempted policy call (tries ++ [⟨call, answer⟩]) := by
  refine ⟨fun t ht => ?_, fun t ht => ?_, ?_⟩
  · rcases List.mem_append.1 ht with ht | ht
    · exact h.call_eq t ht
    · rw [List.mem_singleton.1 ht]
  · rw [List.dropLast_concat] at ht
    exact h.passing t ht
  · rw [List.length_append]
    exact h.few

theorem Trying.attempted (h : Trying policy call flight attempt tries) :
    Attempted policy call tries := by
  cases h with
  | setOut passed => exact passed.attempted
  | back passed => exact passed.snoc _

theorem Trying.reached (h : Trying policy call ⟨made, none⟩ attempt tries)
    (answer : Except StoreError String) :
    made = call ∧ Trying policy call ⟨made, some answer⟩ attempt (tries ++ [⟨made, answer⟩]) := by
  cases h with
  | setOut passed => exact ⟨rfl, .back passed⟩

/-- An answer that comes back is that of the last try, and the attempts were counted. -/
theorem Trying.answered (h : Trying policy call ⟨made, some answer⟩ attempt tries) :
    made = call ∧ attempt = tries.length ∧ ∃ earlier, tries = earlier ++ [⟨made, answer⟩] := by
  cases h with
  | @back earlier _ passed =>
      refine ⟨rfl, ?_, earlier, rfl⟩
      rw [List.length_append, List.length_singleton]

/-- After a failure for a passing reason, there may be another. -/
theorem Trying.again (h : Trying policy call ⟨made, some answer⟩ attempt tries)
    (hpassing : RetryPolicy.IsPassing answer) (hfew : attempt < policy.maxAttempts) :
    Trying policy call ⟨call, none⟩ (attempt + 1) tries := by
  cases h with
  | @back earlier _ passed =>
      have hagain : Passed policy call (earlier ++ [⟨call, answer⟩]) := by
        refine ⟨(passed.snoc answer).call_eq, fun t ht => ?_, ?_⟩
        · rcases List.mem_append.1 ht with ht | ht
          · exact passed.passing t ht
          · rwa [List.mem_singleton.1 ht]
        · rw [List.length_append]
          exact lt_max_of_lt_right hfew
      have hout := Trying.setOut hagain
      rwa [List.length_append, List.length_singleton] at hout

/-- Tries that end do so where a run of attempts with their answers does. -/
theorem Attempted.run_of_final {earlier : List Try}
    (h : Attempted policy call (earlier ++ [⟨made, answer⟩]))
    (hfinal : policy.Final answer (earlier.length + 1)) {outcomes : Nat → Except StoreError String}
    (houtcomes : ∀ i t, (earlier ++ [⟨made, answer⟩])[i]? = some t → outcomes i = t.answer) :
    (policy.run outcomes).attempts = earlier.length + 1 ∧
      (policy.run outcomes).outcome = answer := by
  have hscheduled := policy.scheduled_run outcomes
  have hlast : outcomes earlier.length = answer :=
    houtcomes _ ⟨made, answer⟩ List.getElem?_concat_length
  have hleast : IsLeast {k | policy.Stops outcomes k} (earlier.length + 1) := by
    refine ⟨⟨Nat.succ_pos _, by rwa [Nat.add_sub_cancel, hlast]⟩, fun k hstops => ?_⟩
    by_contra hbelow
    obtain ⟨hpos, hfirst⟩ := hstops
    -- an earlier one was passing, and there were not enough
    obtain ⟨i, rfl⟩ : ∃ i, k = i + 1 := ⟨k - 1, by omega⟩
    have hi : i < earlier.length := by omega
    have hget : (earlier ++ [⟨made, answer⟩])[i]? = some earlier[i] :=
      getElem?_append_of_eq_some (List.getElem?_eq_getElem hi)
    rw [Nat.add_sub_cancel, houtcomes i earlier[i] hget] at hfirst
    rcases hfirst with hpassing | henough
    · exact hpassing (h.passing _ (by rw [List.dropLast_concat]; exact List.getElem_mem hi))
    · have hfew := h.few
      rw [List.length_append, List.length_singleton] at hfew
      omega
  have hattempts := hscheduled.attempts.unique hleast
  refine ⟨hattempts, ?_⟩
  rw [hscheduled.outcome, hattempts, Nat.add_sub_cancel, hlast]

/-- What an upload does about the answer to a caller that made some tries. -/
structure Heeds (policy : RetryPolicy) (who : Caller) (tries : List Try) (made : StoreCall)
    (answer : Except StoreError String) (effects : List Effect) : Prop where
  /-- It is the answer to the last. -/
  last : ∃ earlier, tries = earlier ++ [⟨made, answer⟩]
  /-- The same call is made again, after the delay of so many attempts. -/
  again : ¬ policy.Final answer tries.length →
    effects = [.call who (policy.delayAfter tries.length) made]
  ends : policy.Final answer tries.length → ∀ after call, Effect.call who after call ∉ effects
  /-- The tries end where the run of attempts with their answers does. -/
  scheduled : policy.Final answer tries.length → ∀ outcomes : Nat → Except StoreError String,
    (∀ i t, tries[i]? = some t → outcomes i = t.answer) →
      (policy.run outcomes).attempts = tries.length ∧ (policy.run outcomes).outcome = answer

theorem Trying.heeds_again {who : Caller} (h : Trying policy call ⟨made, some answer⟩ attempt tries)
    (hgoes : ¬ policy.Final answer attempt) :
    Heeds policy who tries made answer [.call who (policy.delayAfter attempt) call] := by
  obtain ⟨rfl, rfl, hlast⟩ := h.answered
  exact ⟨hlast, fun _ => rfl, fun hfinal => absurd hfinal hgoes, fun hfinal => absurd hfinal hgoes⟩

theorem Trying.heeds_final {who : Caller} {effects : List Effect}
    (h : Trying policy call ⟨made, some answer⟩ attempt tries)
    (hfinal : policy.Final answer attempt)
    (hsilent : ∀ after call, Effect.call who after call ∉ effects) :
    Heeds policy who tries made answer effects := by
  obtain ⟨rfl, rfl, earlier, htries⟩ := h.answered
  refine ⟨⟨earlier, htries⟩, fun hgoes => absurd hfinal hgoes, fun _ => hsilent, ?_⟩
  have hattempted := h.attempted
  subst htries
  rw [List.length_append, List.length_singleton] at hfinal ⊢
  exact fun _ outcomes houtcomes => hattempted.run_of_final hfinal houtcomes

end Policies

/-! ## Reactions that make no call of a part -/

/-- Where none of the effects is a call of a caller, what it has in the air stays there. -/
theorem launch_of_silent {flying : Caller → Option Flight} {effects : List Effect} {who : Caller}
    (hsilent : ∀ after call, Effect.call who after call ∉ effects) :
    Transfer.launch flying effects who = flying who := by
  induction effects generalizing flying with
  | nil => rfl
  | cons effect rest ih =>
      have hrest : ∀ after call, Effect.call who after call ∉ rest := fun after call hmem =>
        hsilent after call (List.mem_cons_of_mem _ hmem)
      cases effect with
      | finished result => exact ih hrest
      | call other after called =>
          have hne : who ≠ other := by
            rintro rfl
            exact hsilent after called List.mem_cons_self
          rw [Transfer.launch, ih hrest, Function.update_of_ne hne]

namespace Upload

/-- What a session comes to while it has no part call the store. Parts on their way may go. -/
structure Withholds (s : Session) (out : Upload × List Effect) : Prop where
  policy : out.1.session.policy = s.policy
  key : out.1.session.key = s.key
  parts : s.parts.length ≤ out.1.session.parts.length
  tasks : ∀ task ∈ out.1.session.tasks, task ∈ s.tasks
  silent : ∀ number after call, Effect.call (.part number) after call ∉ out.2

/-- A session submits its next part. -/
inductive Submits (s : Session) : Upload × List Effect → Prop where
  | flushed {id : String} {pending : ByteArray} {awaiting : Option Await} {rest : List Effect}
      (silent : ∀ number after call, Effect.call (.part number) after call ∉ rest) :
      Submits s
        (⟨({ s with pending }.submit id).1, awaiting⟩,
          .call (.part (s.parts.length + 1)) ⟨0⟩ (.part s.key id (s.parts.length + 1) pending) ::
            rest)

variable {s : Session} {u : Upload} {id : String} {out : Upload × List Effect}

theorem Withholds.still (u : Upload) : Withholds u.session (u, []) :=
  ⟨rfl, rfl, le_rfl, fun _ htask => htask, by simp⟩

theorem Withholds.finish {phase : Phase} {pending : ByteArray} {tasks : List PartTask}
    (htasks : ∀ task ∈ tasks, task ∈ s.tasks) (result : Except UploadError Outcome) :
    Withholds s (finish { s with phase, pending, tasks } result) :=
  ⟨rfl, rfl, le_rfl, htasks, by simp [Upload.finish]⟩

theorem Withholds.ask {phase : Phase} {pending : ByteArray} {tasks : List PartTask}
    (htasks : ∀ task ∈ tasks, task ∈ s.tasks) (purpose : Purpose) (call : StoreCall) :
    Withholds s (ask { s with phase, pending, tasks } purpose call) :=
  ⟨rfl, rfl, le_rfl, htasks, by simp [Upload.ask]⟩

theorem withholds_fail (s : Session) (error : UploadError) : Withholds s (fail s error) := by
  unfold Upload.fail
  dsimp only
  split
  · exact .ask (by simp) _ _
  · exact .finish (by simp) _

theorem Joined.withholds (hjoined : Joined s id out) : Withholds s out := by
  cases hjoined with
  | waits busy => exact .still ⟨s, some (.parts id)⟩
  | completes quiet acked nonempty => exact .ask (fun _ htask => htask) _ _
  | fails error => exact withholds_fail s error

theorem withholds_afterPart (u : Upload) : Withholds u.session u.afterPart := by
  rcases afterPart_cases u with ⟨id, -, hjoined⟩ | ⟨-, hnone⟩
  · exact hjoined.withholds
  · rw [hnone]
    exact .still u

theorem Told.withholds_or_submits {c : Command} (htold : Told s id c out) :
    Withholds s out ∨ Submits s out := by
  cases htold with
  | reopened => exact .inl (.finish (fun _ htask => htask) _)
  | refused gate lost => exact .inl (withholds_fail s _)
  | gathered healthy few => exact .inl (.finish (fun _ htask => htask) _)
  | flushed healthy enough => exact .inr (.flushed (by simp))
  | sent => exact .inl (.ask (fun _ htask => htask) _ _)
  | joined healthy empty joined => exact .inl joined.withholds
  | flushedLast healthy rest => exact .inr (.flushed (by simp))
  | aborted => exact .inl (.ask (by simp) _ _)

theorem withholds_or_submits_begin (s : Session) (c : Command) :
    Withholds s (begin s c) ∨ Submits s (begin s c) := by
  have hbegun := begun_begin s c
  generalize begin s c = out at hbegun
  cases hbegun with
  | creating phase => exact .inl (.ask (fun _ htask => htask) _ _)
  | told phase told => exact told.withholds_or_submits
  | dismissed shut refused => exact .inl (.finish (fun _ htask => htask) _)
  | failed shut lost => exact .inl (withholds_fail s _)

theorem OwnerTold.withholds {purpose : Purpose} {call : StoreCall} {attempt : Nat}
    {answer : Except StoreError String} (htold : OwnerTold u purpose call attempt answer out) :
    Withholds u.session out := by
  cases htold with
  | again retried pause => exact ⟨rfl, rfl, le_rfl, fun _ htask => htask, by simp⟩
  | concluded last =>
      cases purpose with
      | completing id listed total =>
          cases answer with
          | ok tag => exact .finish (fun _ htask => htask) _
          | error e => exact withholds_fail _ _
      | _ => cases answer <;> exact .finish (fun _ htask => htask) _

end Upload

namespace Traffic

open Transfer (launch)

variable {policy : RetryPolicy} {key name : String} {config : UploadConfig} {size number : Nat}
  {w w' : Traffic} {trace : List Happening} {o : Happening} {call made : StoreCall}
  {answer : Except StoreError String} {effects : List Effect} {tries : List Try}

/-! ## Parts on their way -/

/-- The body that was flushed as the part of a number is tried under that number. -/
def TriesFlushed (policy : RetryPolicy) (key : String) (trace : List Happening) (number : Nat)
    (tries : List Try) : Prop :=
  ∃ id i body, number = i + 1 ∧ (bodiesFlushed trace)[i]? = some body ∧
    Attempted policy (.part key id number body) tries

/-- What the parts of a session were tried agrees with the history of the run. -/
structure Tried (policy : RetryPolicy) (key : String) (w : Traffic) (trace : List Happening) :
    Prop where
  policy_eq : w.upload.session.policy = policy
  key_eq : w.upload.session.key = key
  trying : ∀ task ∈ w.upload.session.tasks, ∃ flight,
    w.flying (.part task.number) = some flight ∧
      Trying policy task.call flight task.attempt (triesOf (.part task.number) trace)
  unsubmitted : ∀ number, w.upload.session.parts.length < number →
    triesOf (.part number) trace = []
  flushed : ∀ number, triesOf (.part number) trace ≠ [] →
    TriesFlushed policy key trace number (triesOf (.part number) trace)

theorem tried_start (config : UploadConfig) (name : String) :
    Tried config.retryPolicy (videoObjectKey name) (start config name) [] :=
  ⟨rfl, rfl, by simp [start, Upload.new, Session.new], fun _ _ => rfl, fun _ h => absurd rfl h⟩

theorem TriesFlushed.snoc (h : TriesFlushed policy key trace number tries) (o : Happening) :
    TriesFlushed policy key (trace ++ [o]) number tries := by
  obtain ⟨id, i, body, hnumber, hbody, attempted⟩ := h
  refine ⟨id, i, body, hnumber, ?_, attempted⟩
  rw [bodiesFlushed_snoc]
  exact getElem?_append_of_eq_some hbody

/-- What happens without a part being tried only matters for what is in the air. -/
theorem Tried.untried (h : Tried policy key w trace)
    (hpolicy : w'.upload.session.policy = w.upload.session.policy)
    (hkey : w'.upload.session.key = w.upload.session.key)
    (hparts : w.upload.session.parts.length ≤ w'.upload.session.parts.length)
    (htry : ∀ number, o.attempt? (.part number) = none)
    (htrying : ∀ task ∈ w'.upload.session.tasks, ∃ flight,
      w'.flying (.part task.number) = some flight ∧
        Trying policy task.call flight task.attempt (triesOf (.part task.number) trace)) :
    Tried policy key w' (trace ++ [o]) := by
  have htries : ∀ number, triesOf (.part number) (trace ++ [o]) = triesOf (.part number) trace :=
    fun number => triesOf_snoc_of_none (htry number)
  refine ⟨hpolicy.trans h.policy_eq, hkey.trans h.key_eq, fun task htask => ?_,
    fun number hnumber => ?_, fun number hsome => ?_⟩
  · rw [htries]
    exact htrying task htask
  · rw [htries]
    exact h.unsubmitted number (hparts.trans_lt hnumber)
  · rw [htries] at hsome ⊢
    exact (h.flushed number hsome).snoc o

/-- Parts on their way may stay there or go. -/
theorem Tried.frame (h : Tried policy key w trace)
    (hpolicy : w'.upload.session.policy = w.upload.session.policy)
    (hkey : w'.upload.session.key = w.upload.session.key)
    (hparts : w.upload.session.parts.length ≤ w'.upload.session.parts.length)
    (htasks : ∀ task ∈ w'.upload.session.tasks, task ∈ w.upload.session.tasks ∧
      w'.flying (.part task.number) = w.flying (.part task.number))
    (htry : ∀ number, o.attempt? (.part number) = none) : Tried policy key w' (trace ++ [o]) := by
  refine h.untried hpolicy hkey hparts htry fun task htask => ?_
  obtain ⟨hbefore, hflying⟩ := htasks task htask
  rw [hflying]
  exact h.trying task hbefore

/-- So it is for a reaction that makes no call of a part, whatever the owner has in the air. -/
theorem Tried.withheld (h : Tried policy key w trace) {out : Upload × List Effect}
    (hout : Upload.Withholds w.upload.session out) {flying : Caller → Option Flight}
    (hflying : ∀ number, flying (.part number) = w.flying (.part number))
    (htry : ∀ number, o.attempt? (.part number) = none) :
    Tried policy key ⟨out.1, launch flying out.2⟩ (trace ++ [o]) := by
  refine h.frame hout.policy hout.key hout.parts (fun task htask => ?_) htry
  refine ⟨hout.tasks task htask, ?_⟩
  exact (launch_of_silent (hout.silent task.number)).trans (hflying task.number)

/-- A part that was not tried sets out. -/
theorem Tried.submitted (h : Tried policy key w trace)
    (hnumbers : ∀ task ∈ w.upload.session.tasks, task.number ≤ w.upload.session.parts.length)
    {out : Upload × List Effect} (hout : Upload.Submits w.upload.session out)
    (htry : ∀ number, o.attempt? (.part number) = none) :
    Tried policy key ⟨out.1, launch w.flying out.2⟩ (trace ++ [o]) := by
  cases hout with
  | @flushed id pending awaiting rest silent =>
      have hflying : ∀ number, launch w.flying
          (.call (.part (w.upload.session.parts.length + 1)) ⟨0⟩
            (.part w.upload.session.key id (w.upload.session.parts.length + 1) pending) :: rest)
          (.part number) = Function.update w.flying
            (.part (w.upload.session.parts.length + 1)) (some ⟨_, none⟩) (.part number) :=
        fun number => launch_of_silent (silent number)
      have hcount : w.upload.session.parts.length ≤
          ({ w.upload.session with pending }.submit id).1.parts.length := by
        rw [Session.submit, List.length_append]
        exact Nat.le_add_right _ _
      refine h.untried rfl rfl hcount htry fun task htask => ?_
      dsimp only
      rw [hflying]
      rcases List.mem_append.1 htask with htask | htask
      · have hne : Caller.part task.number ≠ .part (w.upload.session.parts.length + 1) := by
          intro heq
          have hle := hnumbers task htask
          rw [Caller.part.inj heq] at hle
          exact absurd hle (Nat.not_succ_le_self _)
        rw [Function.update_of_ne hne]
        exact h.trying task htask
      · obtain rfl := List.mem_singleton.1 htask
        rw [h.unsubmitted _ (Nat.lt_succ_self _)]
        exact ⟨_, Function.update_self _ _ _, .setOut (passed_nil policy _)⟩

/-- A call of a part that is made on the store is one try more. -/
theorem Tried.reached (h : Tried policy key w trace) {task : PartTask} {id : String}
    (hopened : Opened size id w trace) (htask : task ∈ w.upload.session.tasks)
    (hflying : w.flying (.part task.number) = some ⟨made, none⟩)
    (answer : Except StoreError String) :
    Tried policy key
      ⟨w.upload, Function.update w.flying (.part task.number) (some ⟨made, some answer⟩)⟩
      (trace ++ [.reached (.part task.number) made answer]) := by
  have hother : ∀ number, number ≠ task.number →
      triesOf (.part number) (trace ++ [.reached (.part task.number) made answer]) =
        triesOf (.part number) trace := fun number hne =>
    triesOf_snoc_of_none (if_neg fun heq => hne (Caller.part.inj heq).symm)
  have hthis : triesOf (.part task.number)
      (trace ++ [.reached (.part task.number) made answer]) =
        triesOf (.part task.number) trace ++ [⟨made, answer⟩] := by
    rw [triesOf_snoc, Happening.attempt?, if_pos rfl, Option.toList_some]
  have hreached : ∀ t ∈ w.upload.session.tasks, t.number = task.number → made = t.call ∧
      Trying policy t.call ⟨made, some answer⟩ t.attempt
        (triesOf (.part task.number) trace ++ [⟨made, answer⟩]) := by
    intro t ht hnumber
    obtain ⟨flight, hflight, htrying⟩ := h.trying t ht
    rw [hnumber, hflying] at hflight
    obtain rfl := Option.some.inj hflight
    rw [hnumber] at htrying
    exact htrying.reached answer
  obtain ⟨hmade, htrying⟩ := hreached task htask rfl
  obtain ⟨hcall, i, hnumber, hbody⟩ := hopened.books.task task htask
  refine ⟨h.policy_eq, h.key_eq, fun t ht => ?_, fun number hlater => ?_, fun number htries => ?_⟩
  · by_cases hsame : t.number = task.number
    · dsimp only
      rw [hsame, Function.update_self, hthis]
      exact ⟨_, rfl, (hreached t ht hsame).2⟩
    · dsimp only
      rw [Function.update_of_ne fun heq => hsame (Caller.part.inj heq), hother _ hsame]
      exact h.trying t ht
  · have hne : number ≠ task.number := by
      rintro rfl
      have hlater : w.upload.session.parts.length < task.number := hlater
      have hi := (List.getElem?_eq_some_iff.1 hbody).1
      rw [← hopened.books.count] at hi
      omega
    rw [hother _ hne]
    exact h.unsubmitted number hlater
  · by_cases hsame : number = task.number
    · subst hsame
      rw [hthis]
      refine TriesFlushed.snoc ⟨id, i, task.body, hnumber, hbody, ?_⟩ _
      rw [← h.key_eq, ← hcall]
      exact htrying.attempted
    · rw [hother _ hsame] at htries ⊢
      exact (h.flushed number htries).snoc _

/-- A part that is not on its way any more leaves the others as they were. -/
theorem Tried.settled (h : Tried policy key w trace) {parts : List Part} (number : Nat)
    (hparts : parts.length = w.upload.session.parts.length)
    (htry : ∀ number, o.attempt? (.part number) = none) {out : Upload × List Effect}
    (hout : out = Upload.afterPart
      { w.upload with
        session :=
          { w.upload.session with
            parts, tasks := w.upload.session.tasks.filter (·.number != number) } }) :
    Tried policy key ⟨out.1, launch (Function.update w.flying (.part number) none) out.2⟩
      (trace ++ [o]) := by
  have hafter := Upload.withholds_afterPart
    { w.upload with
      session :=
        { w.upload.session with
          parts, tasks := w.upload.session.tasks.filter (·.number != number) } }
  rw [← hout] at hafter
  refine h.frame hafter.policy hafter.key (hparts ▸ hafter.parts) (fun task htask => ?_) htry
  obtain ⟨hbefore, hne⟩ := List.mem_filter.1 (hafter.tasks task htask)
  refine ⟨hbefore, (launch_of_silent (hafter.silent task.number)).trans ?_⟩
  refine Function.update_of_ne (fun heq => ?_) _ _
  rw [Caller.part.inj heq] at hne
  simp at hne

theorem Step.flying_of_answered {who : Caller}
    (hstep : Step w (.answered who made answer effects) w') :
    w.flying who = some ⟨made, some answer⟩ := by
  cases hstep with
  | answer expected flying react => exact flying

/-- The answer that comes back to a part is that of its last try. -/
theorem Tried.answered (h : Tried policy key w trace) {task : PartTask}
    (htask : task ∈ w.upload.session.tasks)
    (hflying : w.flying (.part task.number) = some ⟨made, some answer⟩) :
    Trying policy task.call ⟨made, some answer⟩ task.attempt
      (triesOf (.part task.number) trace) := by
  obtain ⟨flight, hflight, htrying⟩ := h.trying task htask
  rw [hflying] at hflight
  rwa [← Option.some.inj hflight] at htrying

/-- A part that failed for a passing reason sets out again. -/
theorem Tried.again (h : Tried policy key w trace) {task : PartTask} {error : StoreError}
    (htask : task ∈ w.upload.session.tasks)
    (hflying : w.flying (.part task.number) = some ⟨made, some (.error error)⟩) {delay : Duration}
    (hpause : w.upload.session.policy.pause? task.attempt error = some delay)
    (htry : ∀ number, o.attempt? (.part number) = none) :
    Tried policy key
      ⟨{ w.upload with
          session :=
            { w.upload.session with
              tasks := w.upload.session.tasks.map fun t =>
                if t.number = task.number then { t with attempt := t.attempt + 1 } else t } },
        launch (Function.update w.flying (.part task.number) none)
          [.call (.part task.number) delay task.call]⟩ (trace ++ [o]) := by
  obtain ⟨⟨htransient, hfew⟩, -⟩ := RetryPolicy.pause?_eq_some_iff.1 hpause
  obtain ⟨hmade, hcount, -⟩ := (h.answered htask hflying).answered
  rw [h.policy_eq, hcount] at hfew
  refine h.untried rfl rfl le_rfl htry fun t' ht' => ?_
  obtain ⟨t, ht, rfl⟩ := List.mem_map.1 ht'
  by_cases hsame : t.number = task.number
  · have htflying : w.flying (.part t.number) = some ⟨made, some (.error error)⟩ := by
      rw [hsame, hflying]
    have htrying := h.answered ht htflying
    obtain ⟨hcall, htcount, -⟩ := htrying.answered
    rw [hsame] at htrying htcount
    rw [if_pos hsame]
    dsimp only
    rw [hsame, launch, launch, Function.update_self, ← hmade, hcall]
    exact ⟨_, rfl, htrying.again (RetryPolicy.isPassing_error.2 htransient) (htcount ▸ hfew)⟩
  · have hne : Caller.part t.number ≠ .part task.number := fun heq => hsame (Caller.part.inj heq)
    rw [if_neg hsame]
    dsimp only
    rw [launch, launch, Function.update_of_ne hne, Function.update_of_ne hne]
    exact h.trying t ht

/-- Where an upload has parts on their way, they have the numbers of its parts. -/
theorem Stage.numbers_le (h : Stage size w trace) {task : PartTask}
    (htask : task ∈ w.upload.session.tasks) : task.number ≤ w.upload.session.parts.length := by
  obtain ⟨id, hopened⟩ := h.opened_of_onWay htask
  obtain ⟨-, i, hnumber, hbody⟩ := hopened.books.task task htask
  rw [hopened.books.count, hnumber]
  exact (List.getElem?_eq_some_iff.1 hbody).1

theorem Tried.step (h : Tried policy key w trace) (hstage : Stage size w trace)
    (hstep : Step w o w') : Tried policy key w' (trace ++ [o]) := by
  cases hstep.moved with
  | @told c u effects idle begun =>
      have hout := Upload.withholds_or_submits_begin w.upload.session c
      rw [begun] at hout
      rcases hout with hwithholds | hsubmits
      · exact h.withheld hwithholds (fun _ => rfl) fun _ => rfl
      · exact h.submitted (fun _ htask => hstage.numbers_le htask) hsubmits fun _ => rfl
  | @ownerReached _ _ call _ answer awaiting flying =>
      have hflying := Transfer.update_owner_part w.flying (some ⟨call, some answer⟩)
      exact h.frame rfl rfl le_rfl (fun task htask => ⟨htask, hflying task.number⟩) fun _ => rfl
  | ownerAnswered awaiting flying told =>
      exact h.withheld told.withholds (Transfer.update_owner_part w.flying none) fun _ => rfl
  | partReached onWay flying =>
      obtain ⟨id, hopened⟩ := hstage.opened_of_onWay onWay
      exact h.reached hopened onWay flying _
  | @partAnswered task call answer result onWay told =>
      have hflying := hstep.flying_of_answered
      cases told with
      | acknowledged =>
          exact h.settled task.number (List.length_map _) (fun _ => rfl) rfl
      | again pause => exact h.again onWay hflying pause fun _ => rfl
      | lost pause =>
          exact h.settled task.number (List.length_map _) (fun _ => rfl) rfl
  | @partDied task u effects onWay dropped =>
      rw [Upload.partDied_of_mem _ onWay] at dropped
      exact h.settled task.number rfl (fun _ => rfl) dropped.symm

theorem tried_of_run (hrun : Run (start config name) trace w) :
    Tried config.retryPolicy (videoObjectKey name) w trace := by
  induction hrun with
  | start => exact tried_start config name
  | step sofar step ih => exact ih.step (stage_of_run sofar) step

/-- A part that fails for good is lost, after as many attempts as there were. -/
theorem Tried.heeds (h : Tried policy key w trace) (hstage : Stage size w trace)
    (hstep : Step w (.answered (.part number) made answer effects) w') :
    Heeds policy (.part number) (triesOf (.part number) trace) made answer effects ∧
      ∀ cause, answer = .error cause → policy.Final answer (triesOf (.part number) trace).length →
        w'.upload.session.Lost
          (.fatal number (triesOf (.part number) trace).length (.refused cause)) := by
  have hflying := hstep.flying_of_answered
  have hpolicy := h.policy_eq
  cases hstep.moved with
  | @partAnswered task _ _ result onWay told =>
      obtain ⟨id, hopened⟩ := hstage.opened_of_onWay onWay
      have htrying := h.answered onWay hflying
      obtain ⟨-, hcount, -⟩ := htrying.answered
      rw [← hcount]
      cases told with
      | @acknowledged tag =>
          refine ⟨htrying.heeds_final (policy.final_ok tag _) ?_, ?_⟩
          · exact (Upload.withholds_afterPart _).silent _
          · rintro cause ⟨⟩
      | @again error delay pause =>
          rw [hpolicy] at pause
          have hgoes : ¬ policy.Final (.error error : Except StoreError String) task.attempt :=
            RetryPolicy.not_final_of_pause? pause
          obtain ⟨-, rfl⟩ := RetryPolicy.pause?_eq_some_iff.1 pause
          exact ⟨htrying.heeds_again hgoes, fun _ _ hfinal => absurd hfinal hgoes⟩
      | lost pause =>
          rw [hpolicy] at pause
          refine ⟨htrying.heeds_final (RetryPolicy.pause?_eq_none_iff.1 pause) ?_, ?_⟩
          · exact (Upload.withholds_afterPart _).silent _
          · rintro _ ⟨⟩ -
            refine Session.Lost.follows ?_ (Upload.follows_afterPart _)
            exact hopened.lost_of_settle onWay _

end Traffic

end StudySession
