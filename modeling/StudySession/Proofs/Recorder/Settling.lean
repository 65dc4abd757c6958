import StudySession.Proofs.Recorder.Fronts
import StudySession.Proofs.Upload.Workload

/-!
# What settles

Letting time pass does all that is due, and no more than the fuel that is given for it: each thing
that happens lowers the work that is left (`Recorder.work_of_tick?`), and the fuel is no less than
that work. So `Recorder.passTo` can be told by what happens next, without fuel: time may pass in
steps or at once (`Recorder.passTo_passTo`), it only touches the timeline and the pumps
(`Recorder.passTo_driving`), and in the end nothing is left to do (`Recorder.exists_quiet`).
-/

namespace StudySession

/-! ## Completions -/

namespace Upload

variable {s : Session} {out : Upload × List Effect} {result : Except UploadError Outcome}

theorem refused_of_fail {error : UploadError}
    (h : Effect.ending? (fail s error).2 = some result) : result = .error error := by
  unfold fail at h
  dsimp only at h
  split at h
  · cases h
  · exact (Option.some.inj h).symm

/-- A completion that ends at once is refused. -/
theorem refused_of_complete (h : Effect.ending? (begin s .complete).2 = some result) :
    ∃ e, result = .error e := by
  have hbegun := begun_begin s .complete
  generalize begin s .complete = out at hbegun h
  cases hbegun with
  | told phase told =>
      cases told with
      | refused gate lost => exact ⟨_, refused_of_fail h⟩
      | joined healthy empty joined =>
          cases joined with
          | waits busy => cases h
          | completes quiet acked nonempty => cases h
          | fails error => exact ⟨_, refused_of_fail h⟩
      | flushedLast healthy rest => cases h
  | dismissed shut refused =>
      obtain rfl := Option.some.inj h
      rcases refused with ⟨heq, -⟩ | hrefused
      · cases heq
      · exact hrefused
  | failed shut lost => exact ⟨_, refused_of_fail h⟩

end Upload

theorem Timeline.refused_of_complete {t : Timeline} {i : Nat} {result : Except UploadError Outcome}
    (h : (t.command i .complete).2 = some result) : ∃ e, result = .error e := by
  rw [command] at h
  cases found : t.uploads[i]? with
  | none =>
      rw [happen_eq_self found] at h
      cases h
  | some u =>
      obtain ⟨agenda, heq, -⟩ := happen_eq found (.command .complete)
      rw [heq] at h
      obtain ⟨s, awaiting⟩ := u
      cases awaiting with
      | none => exact Upload.refused_of_complete h
      | some await => cases h

namespace Timeline

/-- Only the clock tells the time: what happens takes none. -/
theorem now_happen (t : Timeline) (i : Nat) (event : Event) : (t.happen i event).1.now = t.now := by
  cases found : t.uploads[i]? with
  | none => rw [happen_eq_self found]
  | some u =>
      obtain ⟨agenda, heq, -⟩ := happen_eq found event
      rw [heq]

theorem now_command (t : Timeline) (i : Nat) (c : Command) : (t.command i c).1.now = t.now :=
  t.now_happen i (.command c)

theorem now_fire (t : Timeline) (i : Nat) (due : Due) : (t.fire i due).1.now = t.now := by
  have hoccurs := occurs_fire t ⟨0, i, due⟩
  dsimp only at hoccurs
  generalize t.contact? ⟨0, i, due⟩ = contact at hoccurs
  generalize t.fire i due = out at hoccurs
  obtain ⟨t', notice⟩ := out
  cases hoccurs with
  | woke due => rfl
  | missed due unexpected => rfl
  | made due taken => rfl
  | passed due expected performed => exact now_happen ..
  | failed due expected => exact now_happen ..
  | died due expected => exact now_happen ..

end Timeline

namespace Recorder

/-! ## The work of a recorder -/

/-- What is left to do on the timeline and by the pumps. -/
def work (r : Recorder) : Nat := r.timeline.work + 2 * (r.pumps.map (·.queue.length)).sum

theorem work_le_budget (r : Recorder) : r.work ≤ r.budget := by
  have hchunks : r.pumps.foldl (fun n pump => n + pump.queue.length) 0 =
      (r.pumps.map (·.queue.length)).sum := by
    rw [List.sum_eq_foldl, List.foldl_map]
  rw [work, budget, hchunks]
  exact r.timeline.work_le_budget _

/-- A pump that reads makes work of its chunks, and no more. -/
theorem work_readChunks (t : Timeline) (i : Nat) (p : Pump) (chunks : List ByteArray) :
    (readChunks t i p chunks).1.work + 2 * (readChunks t i p chunks).2.queue.length ≤
      t.work + 2 * chunks.length := by
  induction chunks generalizing t with
  | nil =>
      have hwork := t.work_command i .complete
      -- Another outcome might leave the pump the queue that it had.
      have hrefused := fun result => @Timeline.refused_of_complete t i result
      rw [readChunks]
      split
      · generalize t.command i .complete = out at hwork hrefused
        obtain ⟨t', result⟩ := out
        cases result with
        | none => exact hwork
        | some result =>
            obtain ⟨e, rfl⟩ := hrefused result rfl
            exact hwork
      · exact Nat.le_refl _
  | cons chunk rest ih =>
      have hwork := t.work_command i (.accept chunk)
      rw [readChunks]
      generalize t.command i (.accept chunk) = out at hwork
      obtain ⟨t', result⟩ := out
      simp only [Command.work] at hwork
      rw [List.length_cons]
      cases result with
      | none =>
          dsimp only
          omega
      | some result =>
          cases result with
          | error e =>
              dsimp only [readChunks.ended, List.length_nil]
              omega
          | ok outcome =>
              have hlater := ih t'
              dsimp only
              omega

theorem work_runPump (r : Recorder) (i : Nat) : (r.runPump i).work ≤ r.work := by
  unfold runPump
  split
  · next p upload hp hupload =>
      split
      · have hwork := work_readChunks r.timeline i p p.queue
        generalize readChunks r.timeline i p p.queue = out at hwork
        obtain ⟨t, p'⟩ := out
        have hpumps := sum_map_set (fun p : Pump => p.queue.length) hp p'
        dsimp only at hwork ⊢
        simp only [work]
        omega
      · exact Nat.le_refl _
  · exact Nat.le_refl _

/-- What a pump is told makes no work. -/
theorem work_notice (r : Recorder) (n : Notice) : (r.notice n).work ≤ r.work := by
  cases n with
  | woke i => exact r.work_runPump i
  | finished i result =>
      rw [notice]
      split
      · next p hp =>
          split
          · refine Nat.le_trans (work_runPump _ i) ?_
            have hpumps := sum_map_set (fun p : Pump => p.queue.length) hp
              (readChunks.ended p result)
            have hqueue : (readChunks.ended p result).queue.length ≤ p.queue.length := by
              unfold readChunks.ended
              split
              · exact Nat.zero_le _
              · exact Nat.le_refl _
              · exact Nat.zero_le _
            simp only [work]
            omega
          · exact Nat.le_refl _
      · exact Nat.le_refl _

/-! ## What happens next -/

/-- The instant of what is due next. -/
def due? (r : Recorder) : Option Nat := r.timeline.agenda.head?.map (·.instant)

/-- Lets what is due next happen, if it is due before a limit, and tells the pumps. -/
def tick? (r : Recorder) (limit : Option Nat) : Option Recorder :=
  (r.pop? limit).map fun (r, n) => n.elim r r.notice

variable {r r' : Recorder} {limit u v : Nat}

theorem now_readChunks (t : Timeline) (i : Nat) (p : Pump) (chunks : List ByteArray) :
    (readChunks t i p chunks).1.now = t.now := by
  induction chunks generalizing t with
  | nil =>
      have hnow := t.now_command i .complete
      rw [readChunks]
      split
      · generalize t.command i .complete = out at hnow
        obtain ⟨t', result⟩ := out
        cases result <;> exact hnow
      · rfl
  | cons chunk rest ih =>
      have hnow := t.now_command i (.accept chunk)
      rw [readChunks]
      generalize t.command i (.accept chunk) = out at hnow
      obtain ⟨t', result⟩ := out
      cases result with
      | none => exact hnow
      | some result =>
          cases result with
          | error e => exact hnow
          | ok outcome => exact (ih t').trans hnow

theorem now_runPump (r : Recorder) (i : Nat) : (r.runPump i).now = r.now := by
  unfold runPump
  split
  · next p upload _ _ =>
      split
      · exact now_readChunks r.timeline i p p.queue
      · rfl
  · rfl

theorem now_notice (r : Recorder) (n : Notice) : (r.notice n).now = r.now := by
  cases n with
  | woke i => exact r.now_runPump i
  | finished i result =>
      rw [notice]
      split
      · split
        · exact now_runPump ..
        · rfl
      · rfl

theorem isSome_tick? (r : Recorder) : (r.tick? none).isSome = r.due?.isSome := by
  rw [tick?, pop?, Timeline.pop?, due?]
  cases r.timeline.agenda <;> rfl

/-- A limit decides whether something happens, not what. -/
theorem tick?_some (r : Recorder) (limit : Nat) :
    r.tick? (some limit) = if r.due?.any (· < limit) then r.tick? none else none := by
  unfold tick? pop? Timeline.pop? due?
  cases r.timeline.agenda with
  | nil => rfl
  | cons a rest =>
      simp only [List.head?_cons, Option.map_some, Option.any_some, Option.all_some,
        Option.all_none, decide_eq_true_eq, if_true]
      split <;> rfl

theorem tick?_eq_none_iff : r.tick? (some limit) = none ↔ ∀ d, r.due? = some d → limit ≤ d := by
  have hsome := r.isSome_tick?
  rw [tick?_some]
  cases hdue : r.due? with
  | none => simp
  | some d =>
      rw [hdue, Option.isSome_some, Option.isSome_iff_ne_none] at hsome
      simp [hsome]

theorem tick?_eq_some_iff :
    r.tick? (some limit) = some r' ↔ r.tick? none = some r' ∧ ∃ d, r.due? = some d ∧ d < limit := by
  rw [tick?_some]
  cases hdue : r.due? with
  | none => simp
  | some d => simp [and_comm]

/-- The clock moves to what happens. -/
theorem now_of_tick? (h : r.tick? none = some r') :
    ∃ d, r.due? = some d ∧ r'.now = max r.now d := by
  obtain ⟨⟨next, n⟩, hpop, rfl⟩ := Option.map_eq_some_iff.1 h
  obtain ⟨⟨t, notice⟩, htimeline, heq⟩ := Option.map_eq_some_iff.1 hpop
  obtain ⟨rfl, rfl⟩ := Prod.mk.inj heq
  obtain ⟨a, hdue, hnow⟩ : ∃ d, r.due? = some d ∧ t.now = max r.now d := by
    unfold Timeline.pop? at htimeline
    split at htimeline
    · cases htimeline
    · next a rest hagenda =>
        obtain ⟨rfl, -⟩ := Prod.mk.inj (Option.some.inj htimeline)
        exact ⟨a.instant, by rw [due?, hagenda]; rfl, Timeline.now_fire ..⟩
  refine ⟨a, hdue, ?_⟩
  cases notice with
  | none => exact hnow
  | some n => exact (now_notice _ n).trans hnow

theorem work_of_tick? {limit : Option Nat} (h : r.tick? limit = some r') : r'.work < r.work := by
  obtain ⟨⟨next, n⟩, hpop, rfl⟩ := Option.map_eq_some_iff.1 h
  obtain ⟨⟨t, notice⟩, htimeline, heq⟩ := Option.map_eq_some_iff.1 hpop
  obtain ⟨rfl, rfl⟩ := Prod.mk.inj heq
  have hlt : ({ r with timeline := t } : Recorder).work < r.work :=
    Nat.add_lt_add_right (Timeline.work_of_pop? htimeline) _
  cases notice with
  | none => exact hlt
  | some n => exact Nat.lt_of_le_of_lt (work_notice _ n) hlt

/-! ## Settling -/

theorem settleBefore_succ (r : Recorder) (limit fuel : Nat) :
    r.settleBefore limit (fuel + 1) =
      ((r.tick? (some limit)).map (·.settleBefore limit fuel)).getD r := by
  rw [settleBefore, tick?]
  cases r.pop? (some limit) with
  | none => rfl
  | some next =>
      obtain ⟨next, n⟩ := next
      cases n <;> rfl

/-- Lets everything due before an instant happen. -/
def settle (r : Recorder) (limit : Nat) : Recorder := r.settleBefore limit r.work

theorem settleBefore_of_idle (h : r.tick? (some limit) = none) (fuel : Nat) :
    r.settleBefore limit fuel = r := by
  cases fuel with
  | zero => rfl
  | succ fuel =>
      rw [settleBefore_succ, h]
      rfl

/-- Any fuel that is no less than the work is enough. -/
theorem settleBefore_congr {m n : Nat} (hm : r.work ≤ m) (hn : r.work ≤ n) :
    r.settleBefore limit m = r.settleBefore limit n := by
  induction m generalizing r n with
  | zero =>
      -- Whatever happened would have to lower the work, of which there is none.
      have hidle : r.tick? (some limit) = none := by
        by_contra hbusy
        obtain ⟨r', htick⟩ := Option.ne_none_iff_exists'.1 hbusy
        have hlt := work_of_tick? htick
        omega
      rw [settleBefore_of_idle hidle, settleBefore_of_idle hidle]
  | succ m ih =>
      cases htick : r.tick? (some limit) with
      | none => rw [settleBefore_of_idle htick, settleBefore_of_idle htick]
      | some r' =>
          have hlt := work_of_tick? htick
          obtain ⟨k, rfl⟩ : ∃ k, n = k + 1 := ⟨n - 1, by omega⟩
          rw [settleBefore_succ, settleBefore_succ, htick]
          exact ih (by omega) (by omega)

theorem settle_of_idle (h : r.tick? (some limit) = none) : r.settle limit = r :=
  settleBefore_of_idle h _

theorem settle_of_tick? (h : r.tick? (some limit) = some r') :
    r.settle limit = r'.settle limit := by
  have hlt := work_of_tick? h
  rw [settle, settleBefore_congr (Nat.le_refl _) (Nat.le_succ r.work), settleBefore_succ, h]
  exact settleBefore_congr (Nat.le_of_lt hlt) (Nat.le_refl _)

/-- Passing time by what happens next, without fuel. -/
theorem passTo_eq (r : Recorder) (instant : Nat) :
    r.passTo instant = (r.settle (instant + 1)).moveTo instant := by
  rw [passTo, settle, settleBefore_congr r.work_le_budget (Nat.le_refl _)]

theorem passTo_of_idle (h : r.tick? (some (u + 1)) = none) : r.passTo u = r.moveTo u := by
  rw [passTo_eq, settle_of_idle h]

theorem passTo_of_tick?_before (h : r.tick? (some (u + 1)) = some r') :
    r.passTo u = r'.passTo u := by
  rw [passTo_eq, passTo_eq, settle_of_tick? h]

/-- What happens next happens on the way to any instant not before it. -/
theorem passTo_of_tick? (h : r.tick? none = some r') (hu : r'.now ≤ u) :
    r.passTo u = r'.passTo u := by
  obtain ⟨d, hdue, hnow⟩ := now_of_tick? h
  exact passTo_of_tick?_before (tick?_eq_some_iff.2 ⟨h, d, hdue, by omega⟩)

/-! ## Passing time in steps -/

/-- Moving the clock up to what is due next changes nothing about it. -/
theorem tick?_moveTo (h : ∀ d, r.due? = some d → v ≤ d) :
    (r.moveTo v).tick? none = r.tick? none := by
  have hpop : (r.moveTo v).timeline.pop? none = r.timeline.pop? none := by
    have hsame : (r.moveTo v).timeline.agenda = r.timeline.agenda := rfl
    unfold due? at h
    unfold Timeline.pop?
    rw [hsame]
    cases hagenda : r.timeline.agenda with
    | nil => rfl
    | cons a rest =>
        rw [hagenda] at h
        have hle : v ≤ a.instant := h a.instant rfl
        have hnow : max (max r.timeline.now v) a.instant = max r.timeline.now a.instant := by
          rw [Nat.max_assoc, Nat.max_eq_right hle]
        dsimp only [moveTo, now]
        rw [hnow]
  unfold tick? pop?
  rw [hpop]
  rfl

theorem moveTo_moveTo (r : Recorder) (hv : v ≤ u) : (r.moveTo v).moveTo u = r.moveTo u := by
  have hnow : max (max r.now v) u = max r.now u := by rw [Nat.max_assoc, Nat.max_eq_right hv]
  change { r with timeline := { r.timeline with now := max (max r.now v) u } } = _
  rw [hnow]
  rfl

/-- Where nothing is due before an instant, waiting for it makes no difference afterwards. -/
theorem passTo_moveTo (h : r.tick? (some v) = none) (hv : v ≤ u) :
    (r.moveTo v).passTo u = r.passTo u := by
  have htick := tick?_moveTo (tick?_eq_none_iff.1 h)
  have hdue : (r.moveTo v).due? = r.due? := rfl
  cases hlater : r.tick? (some (u + 1)) with
  | none =>
      have hmoved : (r.moveTo v).tick? (some (u + 1)) = none := by
        rw [tick?_some, hdue, htick, ← tick?_some, hlater]
      rw [passTo_of_idle hlater, passTo_of_idle hmoved, moveTo_moveTo r hv]
  | some r' =>
      have hmoved : (r.moveTo v).tick? (some (u + 1)) = some r' := by
        rw [tick?_some, hdue, htick, ← tick?_some, hlater]
      rw [passTo_of_tick?_before hlater, passTo_of_tick?_before hmoved]

/-- Time may pass in steps or at once. -/
theorem passTo_passTo (r : Recorder) (hv : v ≤ u) : (r.passTo v).passTo u = r.passTo u := by
  induction hn : r.work using Nat.strong_induction_on generalizing r with
  | _ n ih =>
      subst hn
      cases htick : r.tick? (some (v + 1)) with
      | none =>
          -- All that is due up to `v` has happened, so only the clock has moved.
          have hidle : r.tick? (some v) = none := tick?_eq_none_iff.2 fun d hdue =>
            Nat.le_of_succ_le (tick?_eq_none_iff.1 htick d hdue)
          rw [passTo_of_idle htick, passTo_moveTo hidle hv]
      | some r' =>
          obtain ⟨hnext, d, hdue, hd⟩ := tick?_eq_some_iff.1 htick
          have hlater : r.tick? (some (u + 1)) = some r' :=
            tick?_eq_some_iff.2 ⟨hnext, d, hdue, by omega⟩
          rw [passTo_of_tick?_before htick, passTo_of_tick?_before hlater]
          exact ih _ (work_of_tick? htick) r' rfl

theorem now_passTo (r : Recorder) (u : Nat) : (r.passTo u).now = max r.now u := by
  induction hn : r.work using Nat.strong_induction_on generalizing r with
  | _ n ih =>
      subst hn
      cases htick : r.tick? (some (u + 1)) with
      | none =>
          rw [passTo_of_idle htick]
          rfl
      | some r' =>
          obtain ⟨hnext, d, hdue, hd⟩ := tick?_eq_some_iff.1 htick
          obtain ⟨d', hdue', hnow⟩ := now_of_tick? hnext
          obtain rfl : d = d' := Option.some.inj (hdue.symm.trans hdue')
          rw [passTo_of_tick?_before htick, ih _ (work_of_tick? htick) r' rfl, hnow]
          omega

/-! ## What time does not touch -/

/-- A recorder with the timeline and the pumps of another. -/
def driving (base r : Recorder) : Recorder :=
  { base with timeline := r.timeline, pumps := r.pumps }

variable {base : Recorder}

theorem runPump_driving (i : Nat) : (base.driving r).runPump i = base.driving (r.runPump i) := by
  unfold runPump
  dsimp only [driving]
  split
  · split <;> rfl
  · rfl

theorem notice_driving (n : Notice) : (base.driving r).notice n = base.driving (r.notice n) := by
  cases n with
  | woke i => exact runPump_driving i
  | finished i result =>
      unfold notice
      dsimp only [driving]
      split
      · split
        · exact runPump_driving (r := { r with pumps := _ }) i
        · rfl
      · rfl

theorem tick?_driving (limit : Option Nat) :
    (base.driving r).tick? limit = (r.tick? limit).map base.driving := by
  unfold tick? pop?
  rw [Option.map_map, Option.map_map, Option.map_map]
  refine congrArg (r.timeline.pop? limit |>.map ·) (funext fun out => ?_)
  obtain ⟨t, n⟩ := out
  cases n with
  | none => rfl
  | some n => exact notice_driving (r := { r with timeline := t }) n

/-- Passing time depends on the timeline and the pumps, and changes nothing else. -/
theorem passTo_driving (u : Nat) : (base.driving r).passTo u = base.driving (r.passTo u) := by
  induction hn : r.work using Nat.strong_induction_on generalizing r with
  | _ n ih =>
      subst hn
      cases htick : r.tick? (some (u + 1)) with
      | none =>
          rw [passTo_of_idle htick, passTo_of_idle (by rw [tick?_driving, htick]; rfl)]
          rfl
      | some r' =>
          have hother : (base.driving r).tick? (some (u + 1)) = some (base.driving r') := by
            rw [tick?_driving, htick]
            rfl
          rw [passTo_of_tick?_before htick, passTo_of_tick?_before hother]
          exact ih _ (work_of_tick? htick) rfl

/-- So does a chunk that is emitted, which goes into the stream of the one and to the pumps of the
other. -/
theorem send_driving (h : base.capture.stream = r.capture.stream) (chunk : ByteArray) :
    ((base.driving r).send chunk).1 = base.driving (r.send chunk).1 := by
  unfold send
  rw [show (base.driving r).capture.stream = r.capture.stream from h]
  cases r.capture.stream with
  | none => rfl
  | some i =>
      have hpumps : (base.driving r).pumps = r.pumps := rfl
      dsimp only
      rw [hpumps]
      split
      · exact @passTo_driving { r.modifyPump i _ with timeline := _ } base r.now
      · rfl

end Recorder

end StudySession
