import FrameFlow.Proofs.Session.Refusals
import FrameFlow.Proofs.Session.Turns
import Mathlib.Data.Set.Basic
import Mathlib.Order.Bounds.Defs

/-!
Frames stamped by the clock among frames stamped by callers. A frame without a stamp gets the
least one that is left to it, by the clock and by the frames before, and is taken; only behind the
greatest timestamp of all there is none left. A stamp that was refused leaves no trace.
-/

namespace FrameFlow

namespace Timestamp

theorem micros_greatest : greatest.micros = 2 ^ 63 - 1 := rfl

/-- Only the greatest timestamp has none after it. -/
theorem exists_later_iff {last now : Timestamp} :
    (∃ later, now ≤ later ∧ last < later) ↔ last ≠ greatest := by
  constructor
  · rintro ⟨later, _, after⟩ rfl
    have most := later.le_greatest
    have after := lt_def.mp after
    rw [micros_greatest] at after
    omega
  · intro room
    have below : last.micros ≠ greatest.micros := fun same => room (ext same)
    rw [micros_greatest] at below
    refine ⟨greatest, now.le_greatest, lt_def.mpr ?_⟩
    have most := last.le_greatest
    rw [micros_greatest]
    omega

theorem successor_greatest : greatest.successor = greatest := rfl

theorem micros_successor_of_ne {last : Timestamp} (room : last ≠ greatest) :
    last.successor.micros = last.micros + 1 := by
  have below : last.micros ≠ greatest.micros := fun same => room (ext same)
  have most := last.le_greatest
  rw [micros_greatest] at below
  rw [micros_successor, greatestMicros]
  omega

end Timestamp

namespace Lifecycle

variable {lifecycle : Lifecycle}

/-- The stamps that are left at a reading of the clock. -/
def free (lifecycle : Lifecycle) (now : Timestamp) : Set Timestamp :=
  { timestamp | now ≤ timestamp ∧
    ∀ previous, lifecycle.lastTimestamp = some previous → previous < timestamp }

/-- Whatever the clock reads, a stamp is left unless the frame before has the greatest one. -/
theorem free_nonempty_iff (now : Timestamp) :
    (lifecycle.free now).Nonempty ↔ lifecycle.lastTimestamp ≠ some .greatest := by
  cases last : lifecycle.lastTimestamp with
  | none =>
      have any : (lifecycle.free now).Nonempty := ⟨now, Int.le_refl _, by simp [last]⟩
      simp [any]
  | some previous =>
      have later := @Timestamp.exists_later_iff previous now
      simpa [free, last, Set.Nonempty] using later

/-- The clock stamps a frame with the least stamp that is left. -/
theorem isLeast_stamp (now : Timestamp) (room : lifecycle.lastTimestamp ≠ some .greatest) :
    IsLeast (lifecycle.free now) (lifecycle.stamp now) := by
  cases last : lifecycle.lastTimestamp with
  | none =>
      simp only [stamp, last]
      refine ⟨⟨Int.le_refl _, ?_⟩, fun other free => free.1⟩
      simp [last]
  | some previous =>
      simp only [stamp, last]
      have next : previous.successor.micros = previous.micros + 1 :=
        Timestamp.micros_successor_of_ne fun same => room (by rw [last, same])
      by_cases behind : now ≤ previous
      · have reading := Timestamp.le_def.mp behind
        rw [if_pos behind]
        refine ⟨⟨Timestamp.le_def.mpr (by omega), ?_⟩, fun other free => ?_⟩
        · rintro _ known
          cases last.symm.trans known
          exact Timestamp.lt_def.mpr (by omega)
        · have after := Timestamp.lt_def.mp (free.2 previous last)
          exact Timestamp.le_def.mpr (by omega)
      · have reading : previous.micros < now.micros := Int.not_le.mp behind
        rw [if_neg behind]
        refine ⟨⟨Int.le_refl _, ?_⟩, fun other free => free.1⟩
        rintro _ known
        cases last.symm.trans known
        exact reading

theorem stamp_of_greatest (last : lifecycle.lastTimestamp = some .greatest) (now : Timestamp) :
    lifecycle.stamp now = .greatest := by
  simp only [stamp, last]
  exact (if_pos now.le_greatest).trans Timestamp.successor_greatest

theorem checkStamp_of_free {now timestamp : Timestamp} (running : lifecycle.state = .running)
    (free : timestamp ∈ lifecycle.free now) : lifecycle.checkStamp timestamp = .ok () :=
  checkStamp_eq_ok_iff.mpr ⟨running, free.2⟩

theorem checkStamp_of_greatest (running : lifecycle.state = .running)
    (last : lifecycle.lastTimestamp = some .greatest) :
    lifecycle.checkStamp .greatest = .error (.outOfOrderFrame .greatest .greatest) := by
  simp only [checkStamp, require_feed_eq_ok_iff.mpr running, last]
  exact if_pos (Int.le_refl _)

end Lifecycle

namespace Session

variable {session : Session SessionEngine}

/-- While a stamp is left, the clock finds the least one, and the frame is taken. -/
theorem Agrees.feed_of_room (agrees : session.Agrees session.engine)
    (running : session.state = .running)
    (room : session.lifecycle.lastTimestamp ≠ some .greatest) (frame : Frame) (now : Timestamp) :
    IsLeast (session.lifecycle.free now) (session.lifecycle.stamp now) ∧
      (session.feed frame now).1 = .ok (session.lifecycle.stamp now) ∧
      (session.feed frame now).2.lifecycle =
        session.lifecycle.accepted (session.lifecycle.stamp now) := by
  have least := session.lifecycle.isLeast_stamp now room
  let input : StampedFrame := ⟨session.lifecycle.stamp now, frame⟩
  have checked : session.lifecycle.checkStamp input.timestamp = .ok () :=
    Lifecycle.checkStamp_of_free running least.1
  obtain ⟨run, fed⟩ := agrees.feedAt_of_checked running checked
  rw [feed_eq, fed]
  exact ⟨least, rfl, rfl⟩

/-- Behind the greatest timestamp a frame is refused, and counted as such. -/
theorem feed_of_greatest (running : session.state = .running)
    (last : session.lifecycle.lastTimestamp = some .greatest) (frame : Frame) (now : Timestamp) :
    session.feed frame now = (.error (.outOfOrderFrame .greatest .greatest), { session with
      outlets := session.outlets.countRejected (.outOfOrderFrame .greatest .greatest) }) := by
  have refused := Lifecycle.checkStamp_of_greatest running last
  rw [feed_eq, Lifecycle.stamp_of_greatest last]
  simp only [feedAt, refused, reject]
  rfl

/-- The stamps of a run go up, and the last one is the session's last timestamp. -/
structure Ascends (last : Option Timestamp) (stamps : List Timestamp) : Prop where
  bounds : Bounds last stamps
  latest : stamps.getLast? = last
  ascending : stamps.Pairwise (· < ·)

theorem accumulates_ascends : Accumulates Ascends where
  begins := ⟨rfl, rfl, .nil⟩
  accepts := by
    intro last stamps timestamp ascends later
    refine ⟨ascends.bounds.accept later, List.getLast?_concat .., ?_⟩
    refine List.pairwise_append.mpr ⟨ascends.ascending, List.pairwise_singleton .., ?_⟩
    intro stamp known other new
    rw [List.mem_singleton.mp new]
    exact (ascends.bounds.precedes_iff timestamp).mp later stamp known

/-- What is left by the last timestamp is what is left by all stamps together. -/
theorem Ascends.free_eq {stamps : List Timestamp}
    (ascends : Ascends session.lifecycle.lastTimestamp stamps) (now : Timestamp) :
    session.lifecycle.free now =
      { timestamp | now ≤ timestamp ∧ ∀ stamp ∈ stamps, stamp < timestamp } := by
  ext timestamp
  exact and_congr_right fun _ => ascends.bounds.precedes_iff timestamp

/-- Whatever was asked of a session that runs, its clock read whatever it liked: the stamps of the
frames that it took, from callers and from the clock, go up, and its last timestamp, also when it
is stopped, is the greatest of them. A frame without a stamp gets the least one that is not before
the clock and after all of them, if there is any, and is taken; it is refused just behind the
greatest timestamp of all, and then only the count of rejected frames has changed. Where a
caller's stamp is refused, everything goes on as if the frame had never come. -/
theorem clock_stamps_after (task : Task) (layout : Layout) (config : SessionConfig)
    (actions : List Action) :
    let session := (opened task layout config).after actions
    let stamps := acceptedStamps ((opened task layout config).history actions)
    session.state = .running →
      stamps.Pairwise (· < ·) ∧ session.lifecycle.lastTimestamp = stamps.getLast? ∧
      session.stop.lifecycle.lastTimestamp = stamps.getLast? ∧
      (∀ last, session.lifecycle.lastTimestamp = some last →
        IsGreatest { stamp | stamp ∈ stamps } last) ∧
      (∀ frame now,
        let free : Set Timestamp :=
          { timestamp | now ≤ timestamp ∧ ∀ stamp ∈ stamps, stamp < timestamp }
        let fed := session.feed frame now
        (free.Nonempty → ∃ timestamp, IsLeast free timestamp ∧ fed.1 = .ok timestamp ∧
          fed.2.lifecycle.lastTimestamp = some timestamp) ∧
        ((∃ error, fed.1 = .error error) ↔
          session.lifecycle.lastTimestamp = some .greatest) ∧
        ∀ error, fed.1 = .error error →
          error = .outOfOrderFrame .greatest .greatest ∧
            fed.2 = { session with outlets := session.outlets.countRejected error }) ∧
      ∀ input error, (session.feedAt input).1 = .error error → ∀ later,
        (session.feedAt input).2.course later = session.course later := by
  intro session stamps running
  have initially : (opened task layout config).Coupled := @coupled_opened _ _ _ []
  have coupled : session.Coupled := initially.after actions
  have ascends : Ascends session.lifecycle.lastTimestamp stamps :=
    accumulates_ascends.after initially (fun state => by cases state) actions running
  have stopped : session.stop.lifecycle = session.lifecycle.stopped := by
    simp only [stop, running]
  refine ⟨ascends.ascending, ascends.latest.symm, ?_, ?_, ?_, ?_⟩
  · rw [stopped]
    exact ascends.latest.symm
  · intro last known
    have bounds := ascends.bounds
    rw [known] at bounds
    exact ⟨bounds.1, bounds.2⟩
  · intro frame now free fed
    have same : session.lifecycle.free now = free := ascends.free_eq now
    by_cases full : session.lifecycle.lastTimestamp = some .greatest
    · obtain ⟨refused, after⟩ := Prod.ext_iff.mp (feed_of_greatest running full frame now)
      have refused : fed.1 = .error (.outOfOrderFrame .greatest .greatest) := refused
      have none : ¬ free.Nonempty := by
        rw [← same, Lifecycle.free_nonempty_iff]
        exact not_not_intro full
      refine ⟨fun some => absurd some none, ⟨fun _ => full, fun _ => ⟨_, refused⟩⟩, ?_⟩
      intro error other
      rw [refused, Except.error.injEq] at other
      exact ⟨other.symm, other ▸ after⟩
    · obtain ⟨least, taken, lifecycle⟩ := coupled.agrees.feed_of_room running full frame now
      have taken : fed.1 = .ok (session.lifecycle.stamp now) := taken
      rw [same] at least
      refine ⟨fun _ => ⟨_, least, taken, congrArg (·.lastTimestamp) lifecycle⟩, ?_, ?_⟩
      · simp [taken, full]
      · simp [taken]
  · intro input error refused later
    have step := session.perform_step (.feedAt input)
    have answer : (session.perform (.feedAt input)).1 = .refused error := by
      simp only [perform]
      cases fed : session.feedAt input with
      | mk result after =>
          rw [fed] at refused
          cases refused
          rfl
    rw [answer, perform, answered_snd] at step
    exact (alike_refused coupled step (by simp)).course later

/-- A clock that lags behind a caller's stamp, and a stamp that came too late. -/
theorem clock_stamps_after_late_stamp :
    let fed (micros : Int) : Action := .feedAt ⟨.clamp micros, .black⟩
    let actions := [.configure (.text "\x7b\x7d"), .start, fed 9, .feed .black (.clamp 4), fed 3]
    let session := (opened .detection [] {}).after actions
    session.state = .running ∧ session.lifecycle.lastTimestamp = some (.clamp 10) ∧
      (session.feed .black (.clamp 4)).1 = .ok (.clamp 11) ∧
      ∀ later, (session.feedAt ⟨.clamp 10, .black⟩).2.course later = session.course later := by
  intro fed actions session
  have running : session.state = .running := by decide +kernel
  have stamps : acceptedStamps ((opened .detection [] {}).history actions) =
      [.clamp 9, .clamp 10] := by decide +kernel
  obtain ⟨_, last, _, _, feeds, refuses⟩ := clock_stamps_after .detection [] {} actions running
  rw [stamps] at last feeds
  refine ⟨running, last, ?_, fun later => ?_⟩
  · have free : (Timestamp.clamp 11) ∈ { timestamp | Timestamp.clamp 4 ≤ timestamp ∧
        ∀ stamp ∈ [Timestamp.clamp 9, .clamp 10], stamp < timestamp } := by
      refine ⟨by decide, ?_⟩
      decide
    obtain ⟨timestamp, least, taken, _⟩ := (feeds .black (.clamp 4)).1 ⟨_, free⟩
    have most := Timestamp.le_def.mp (least.2 free)
    have after := Timestamp.lt_def.mp (least.1.2 (.clamp 10) (by simp))
    have same : timestamp = .clamp 11 := by
      refine Timestamp.ext ?_
      have eleven : (Timestamp.clamp 11).micros = 11 := rfl
      have ten : (Timestamp.clamp 10).micros = 10 := rfl
      omega
    rw [taken, same]
  · have refused : (session.feedAt ⟨.clamp 10, .black⟩).1 =
        .error (.outOfOrderFrame (.clamp 10) (.clamp 10)) := by decide +kernel
    exact refuses _ _ refused later

end Session

end FrameFlow
