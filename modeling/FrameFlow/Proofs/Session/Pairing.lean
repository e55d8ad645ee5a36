import FrameFlow.Proofs.Graph.Packets
import FrameFlow.Proofs.Session.Traffic

/-!
Which payload goes with which presence. A gate pairs the true presences with the payloads
one by one, by their places in the queues; only then it looks at timestamps.
-/

namespace FrameFlow

namespace Gate

variable {presenceStream payloadStream : String}

theorem length_judged (presences payloads : List Packet) :
    (judged presenceStream payloadStream presences payloads).length = presences.length := by
  induction presences generalizing payloads with
  | nil => rfl
  | cons presence rest ih =>
      obtain ⟨timestamp, content⟩ := presence
      cases content with
      | presence isPresent => cases isPresent <;> simp [judged, ih]
      | _ => simp [judged, ih]

theorem judged_append (before later payloads : List Packet) :
    judged presenceStream payloadStream (before ++ later) payloads =
      judged presenceStream payloadStream before payloads ++
        judged presenceStream payloadStream later
          (payloads.drop (before.countP Packet.signals)) := by
  induction before generalizing payloads with
  | nil => rfl
  | cons presence rest ih =>
      obtain ⟨timestamp, content⟩ := presence
      cases content with
      | presence isPresent =>
          cases isPresent with
          | true => simp [judged, ih, Packet.signals]
          | false => simp [judged, ih, Packet.signals]
      | _ => simp [judged, ih, Packet.signals]

end Gate

namespace OutputPoller

/-- The observations among the answers of polls. -/
def observed (answers : List (Except SessionError (PollResult Observation))) :
    List Observation :=
  answers.filterMap fun
    | .ok (.ready observation) => some observation
    | _ => none

theorem observed_append (before later : List (Except SessionError (PollResult Observation))) :
    observed (before ++ later) = observed before ++ observed later :=
  List.filterMap_append

/-- Polls that say nothing make no difference. -/
theorem observed_filter (answers : List (Except SessionError (PollResult Observation))) :
    observed (answers.filter (!saysNothing ·)) = observed answers := by
  induction answers with
  | nil => rfl
  | cons answer rest ih =>
      rcases answer with error | (observation | _ | _) <;>
        simpa [observed, saysNothing] using ih

theorem observed_andThen {answers : List (Except SessionError (PollResult Observation))}
    {number : Nat} (enough : answers.length ≤ number) :
    observed (andThen (.ok .closed) answers number) = observed answers := by
  induction number generalizing answers with
  | zero =>
      rw [List.eq_nil_of_length_eq_zero (Nat.le_zero.mp enough)]
      rfl
  | succ number ih =>
      cases answers with
      | nil => exact ih (Nat.zero_le _)
      | cons answer rest =>
          have same := ih (Nat.le_of_succ_le_succ enough)
          rw [andThen, ← List.singleton_append, observed_append, same, ← observed_append]
          rfl

/-- What is observed of presences and payloads that were all sent. -/
def judged (poller : OutputPoller) (presenceStream payloadStream : String)
    (presences payloads : List Packet) : List Observation :=
  observed ((Gate.judged presenceStream payloadStream presences payloads).map poller.answerOf)

variable {poller : OutputPoller} {presenceStream payloadStream : String}
  {presences payloads : List Packet} {timestamp due : Timestamp}

theorem judged_append (before later payloads : List Packet) :
    poller.judged presenceStream payloadStream (before ++ later) payloads =
      poller.judged presenceStream payloadStream before payloads ++
        poller.judged presenceStream payloadStream later
          (payloads.drop (before.countP Packet.signals)) := by
  rw [judged, Gate.judged_append, List.map_append, observed, List.filterMap_append]
  rfl

/-- A payload is observed with the presence that it is taken for, if their timestamps agree
and it can be decoded. -/
theorem observed_paired (payloadStream : String) (due : Timestamp) (packets : List Packet) :
    observed [poller.answerOf (Gate.paired payloadStream due packets)] =
      ((packets.head?.filter (·.timestamp = due)).bind fun packet =>
        (poller.task.decode poller.stream packet.payload).toOption.map fun output =>
          ⟨due, some output⟩).toList := by
  cases packets with
  | nil => rfl
  | cons packet rest =>
      by_cases same : packet.timestamp = due
      · simp only [Gate.paired, same, if_true, answerOf, observe, observed, List.head?_cons,
          Option.filter_some, decide_true, Option.bind_some]
        cases poller.task.decode poller.stream packet.payload <;> rfl
      · simp only [Gate.paired, same, if_false, List.head?_cons, Option.filter_some, decide_false]
        rfl

theorem judged_singleton (presence : Packet) (payloads : List Packet) :
    poller.judged presenceStream payloadStream [presence] payloads =
      match presence.payload with
      | .presence true =>
          observed [poller.answerOf (Gate.paired payloadStream presence.timestamp payloads)]
      | .presence false => [⟨presence.timestamp, none⟩]
      | _ => [] := by
  obtain ⟨timestamp, content⟩ := presence
  cases content with
  | presence isPresent => cases isPresent <;> rfl
  | _ => rfl

theorem timestamp_of_mem_judged {observation : Observation}
    (member : observation ∈
      poller.judged presenceStream payloadStream presences payloads) :
    ∃ presence ∈ presences, presence.timestamp = observation.timestamp := by
  induction presences generalizing payloads with
  | nil => contradiction
  | cons presence rest ih =>
      rw [← List.singleton_append, judged_append, List.mem_append] at member
      rcases member with first | later
      · refine ⟨presence, List.mem_cons_self .., ?_⟩
        rw [judged_singleton] at first
        split at first
        · rw [observed_paired, Option.mem_toList, Option.bind_eq_some_iff] at first
          obtain ⟨_, _, found⟩ := first
          obtain ⟨_, _, rfl⟩ := Option.map_eq_some_iff.mp found
          rfl
        · rw [List.mem_singleton.mp first]
        · contradiction
      · obtain ⟨other, known, same⟩ := ih later
        exact ⟨other, List.mem_cons_of_mem _ known, same⟩

/-- What is observed at the timestamp of a presence comes from that presence. -/
theorem count_judged {before later : List Packet} {presence : Packet} {observation : Observation}
    (increasing : Increasing (before ++ presence :: later))
    (same : observation.timestamp = presence.timestamp) (payloads : List Packet) :
    (poller.judged presenceStream payloadStream (before ++ presence :: later) payloads).count
        observation =
      (poller.judged presenceStream payloadStream [presence]
        (payloads.drop (before.countP Packet.signals))).count observation := by
  obtain ⟨_, after, earlier⟩ := List.pairwise_append.mp increasing
  have unlike := (List.pairwise_cons.mp after).1
  have notBefore : observation ∉ poller.judged presenceStream payloadStream before payloads := by
    intro member
    obtain ⟨other, known, alike⟩ := timestamp_of_mem_judged member
    exact Timestamp.ne_of_lt (earlier other known presence (List.mem_cons_self ..))
      (alike.trans same)
  have notAfter (payloads) :
      observation ∉ poller.judged presenceStream payloadStream later payloads := by
    intro member
    obtain ⟨other, known, alike⟩ := timestamp_of_mem_judged member
    exact Timestamp.ne_of_lt (unlike other known) (same.symm.trans alike.symm)
  rw [judged_append, ← List.singleton_append, judged_append, List.count_append,
    List.count_append, List.count_eq_zero.mpr notBefore, List.count_eq_zero.mpr (notAfter _),
    Nat.zero_add, Nat.add_zero]

theorem count_absent {before later : List Packet}
    (increasing : Increasing (before ++ ⟨timestamp, .presence false⟩ :: later)) :
    (poller.judged presenceStream payloadStream
      (before ++ ⟨timestamp, .presence false⟩ :: later) payloads).count ⟨timestamp, none⟩ = 1 := by
  rw [count_judged increasing rfl, judged_singleton]
  exact List.count_singleton_self

/-- A true presence is observed with the payload of its timestamp just if as many payloads as
true presences came before. -/
theorem count_present {before later earlier rest : List Packet} {content : Payload}
    {output : Output} (increasing : Increasing (before ++ ⟨timestamp, .presence true⟩ :: later))
    (ordered : Increasing (earlier ++ ⟨timestamp, content⟩ :: rest))
    (decoded : poller.task.decode poller.stream content = .ok output) :
    (poller.judged presenceStream payloadStream
        (before ++ ⟨timestamp, .presence true⟩ :: later)
        (earlier ++ ⟨timestamp, content⟩ :: rest)).count ⟨timestamp, some output⟩ =
      if before.countP Packet.signals = earlier.length then 1 else 0 := by
  rw [count_judged increasing rfl, judged_singleton]
  simp only [observed_paired]
  by_cases even : before.countP Packet.signals = earlier.length
  · simp [even, Option.filter, decoded, Except.toOption]
  · have apart : (earlier ++ ⟨timestamp, content⟩ :: rest)[before.countP Packet.signals]?.filter
        (·.timestamp = timestamp) = none := by
      refine Option.filter_eq_none_iff.mpr fun other found same => ?_
      exact even (ordered.place_unique found (of_decide_eq_true same))
    simp [even, List.head?_drop, apart]

end OutputPoller

end FrameFlow
