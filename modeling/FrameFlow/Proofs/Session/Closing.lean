import FrameFlow.Proofs.Session.Traffic

/-!
What a closed answer of a gate means. It is the end if both queues came to theirs. But a
gate also answers so for a true presence whose payload never comes, and then it goes on.
-/

namespace FrameFlow

namespace Gate

theorem length_polls (gate : Gate) (number : Nat) : (gate.polls number).length = number := by
  induction number generalizing gate with
  | zero => rfl
  | succ number ih => simp [polls, ih]

/-- Polls that read all presences of a queue that may get more, and then one poll more. -/
theorem polls_unclosed (presenceStream payloadStream : String)
    (presences payloads : List Packet) :
    polls (presences.length + 1)
        ⟨presenceStream, payloadStream, ⟨presences, true⟩, ⟨payloads, false⟩, none⟩ =
      judged presenceStream payloadStream presences payloads ++ [.ok .empty] := by
  induction presences generalizing payloads with
  | nil => rfl
  | cons presence rest ih =>
      obtain ⟨timestamp, content⟩ := presence
      rw [List.length_cons, polls]
      cases content with
      | presence isPresent =>
          cases isPresent with
          | true =>
              let taken : Gate :=
                ⟨presenceStream, payloadStream, ⟨rest, true⟩, ⟨payloads, false⟩, none⟩
              have paid : taken.takePayload timestamp = _ := takePayload_abandoned rfl timestamp
              simp only [poll_eq, Inbox.take, judged]
              rw [paid]
              exact congrArg _ (ih payloads.tail)
          | false => exact congrArg _ (ih payloads)
      | _ => exact congrArg _ (ih payloads)

theorem closed_mem_judged_iff {presenceStream payloadStream : String}
    {presences payloads : List Packet} :
    .ok .closed ∈ judged presenceStream payloadStream presences payloads ↔
      payloads.length < presences.countP Packet.signals := by
  induction presences generalizing payloads with
  | nil => simp [judged]
  | cons presence rest ih =>
      obtain ⟨timestamp, content⟩ := presence
      cases content with
      | presence isPresent =>
          cases isPresent with
          | true =>
              cases payloads with
              | nil => simp [judged, paired, Packet.signals]
              | cons payload others => simp [judged, ih, Packet.signals, paired_ne_closed.symm]
          | false => simp [judged, ih, Packet.signals]
      | _ => simp [judged, ih, Packet.signals]

end Gate

namespace Traffic

variable {traffic next : Traffic} {presences payloads : List Packet}

/-- All presences were read and answered, and none follows. -/
structure Ended (presences : List Packet) (traffic : Traffic) : Prop where
  taken : traffic.presencesTaken = presences
  pending : traffic.gate.pending = none
  presence : traffic.gate.presence = ⟨[], false⟩
  ahead : traffic.presencesAhead = []

theorem Ended.step (ended : traffic.Ended presences) (step : traffic.Step next) :
    next.Ended presences ∧
      (next.answers = traffic.answers ∨ next.answers = traffic.answers ++ [.ok .closed]) := by
  obtain ⟨taken, pending, presence, ahead⟩ := ended
  have read : traffic.gate.presence.packets = [] := congrArg Inbox.packets presence
  have kept : traffic.Ended presences := ⟨taken, pending, presence, ahead⟩
  cases step with
  | idled => exact ⟨kept, .inl rfl⟩
  | presenceSent some => simp [ahead] at some
  | payloadSent some => exact ⟨⟨taken, pending, presence, ahead⟩, .inl rfl⟩
  | presenceClosed none => exact ⟨⟨taken, pending, by simp [presence], ahead⟩, .inl rfl⟩
  | payloadClosed none => exact ⟨⟨taken, pending, presence, ahead⟩, .inl rfl⟩
  | asked patience => exact ⟨⟨taken, pending, presence, ahead⟩, .inl rfl⟩
  | gaveUp bare =>
      rw [Gate.IsBare, pending] at bare
      simp [presence] at bare
  | wentOn patience due => simp [pending] at due
  | ended free closed => exact ⟨⟨taken, pending, presence, ahead⟩, .inr rfl⟩
  | signalled patience free waiting => simp [read] at waiting
  | absent free waiting => simp [read] at waiting
  | mistaken packet free waiting other => simp [read] at waiting
  | paid due waiting => simp [pending] at due
  | unpaid due closed => simp [pending] at due

theorem Ended.after (ended : traffic.Ended presences) (sound : traffic.Sound presences payloads)
    (moves : List Move) :
    ∃ number, (traffic.after moves).answers =
      traffic.answers ++ List.replicate number (.ok .closed) := by
  induction moves generalizing traffic with
  | nil => exact ⟨0, by simp [Traffic.after]⟩
  | cons move rest ih =>
      have step := move_step sound.staged move
      obtain ⟨still, answers⟩ := ended.step step
      obtain ⟨number, later⟩ := ih still (sound.step step)
      change (traffic.move move |>.after rest).answers = _ at later
      rcases answers with same | more
      · exact ⟨number, by rw [← same]; exact later⟩
      · refine ⟨number + 1, later.trans ?_⟩
        rw [more, List.append_assoc, List.replicate_succ, List.singleton_append]

/-- With a payload for every true presence, no poll misses one. -/
theorem Sound.not_unpaid (sound : traffic.Sound presences payloads)
    (enough : presences.countP Packet.signals ≤ payloads.length) {due : Timestamp}
    (pending : traffic.gate.pending = some due) : traffic.gate.payload ≠ ⟨[], false⟩ := by
  intro closed
  have ahead := sound.may.payloads (by rw [closed])
  have paid := sound.paid
  have all := sound.payloads
  have some := congrArg (List.countP Packet.signals) sound.presences
  simp only [ahead, closed, List.append_nil] at all
  simp only [all, pending, Option.toList_some, List.length_singleton] at paid
  simp only [List.countP_append] at some
  omega

theorem Step.closes (sound : traffic.Sound presences payloads)
    (enough : presences.countP Packet.signals ≤ payloads.length) (step : traffic.Step next) :
    next.answers = traffic.answers ∨ ∃ answer, next.answers = traffic.answers ++ [answer] ∧
      (answer = .ok .closed → traffic.Ended presences) := by
  cases step with
  | gaveUp bare => exact .inr ⟨_, rfl, nofun⟩
  | ended free closed =>
      have ahead := sound.may.presences (by rw [closed])
      have all := sound.presences
      simp only [ahead, closed, List.append_nil] at all
      exact .inr ⟨_, rfl, fun _ => ⟨all, free, closed, ahead⟩⟩
  | absent free waiting => exact .inr ⟨_, rfl, nofun⟩
  | mistaken packet free waiting other => exact .inr ⟨_, rfl, nofun⟩
  | paid due waiting => exact .inr ⟨_, rfl, fun closed => absurd closed Gate.paired_ne_closed⟩
  | unpaid due closed => exact absurd closed (sound.not_unpaid enough due)
  | _ => exact .inl rfl

theorem Sound.ended (sound : traffic.Sound presences payloads)
    (enough : presences.countP Packet.signals ≤ payloads.length)
    (initially : traffic.answers.getLast? = some (.ok .closed) → traffic.Ended presences)
    (moves : List Move)
    (closed : (traffic.after moves).answers.getLast? = some (.ok .closed)) :
    (traffic.after moves).Ended presences := by
  induction moves generalizing traffic with
  | nil => exact initially closed
  | cons move rest ih =>
      have step := move_step sound.staged move
      refine ih (sound.step step) (fun last => ?_) closed
      rcases step.closes sound enough with same | ⟨answer, more, ends⟩
      · exact ((initially (same ▸ last)).step step).1
      · rw [more, List.getLast?_concat, Option.some.injEq] at last
        exact ((ends last).step step).1

/-- A poll with nothing in between. -/
def poll : List Move := [.ask .never, .look true, .look true]

theorem after_append (traffic : Traffic) (before later : List Move) :
    traffic.after (before ++ later) = (traffic.after before).after later :=
  List.foldl_append

theorem after_poll (idle : traffic.stage = .idle) :
    (traffic.after poll).gate = traffic.gate.poll.2 ∧
      (traffic.after poll).answers = traffic.answers ++ [traffic.gate.poll.1] ∧
      (traffic.after poll).stage = .idle := by
  obtain ⟨gate, presencesAhead, payloadsAhead, stage, answers, presencesTaken, payloadsTaken⟩ :=
    traffic
  obtain rfl : stage = .idle := idle
  have answered (traffic : Traffic) (found) :
      traffic.find (Patience.never.waits true) found = traffic.answer found := by
    simp [find, Patience.waits]
  let asked : Traffic := ⟨gate, presencesAhead, payloadsAhead, .atPresence .never, answers,
    presencesTaken, payloadsTaken⟩
  change (look true (look true asked)).gate = _ ∧ (look true (look true asked)).answers = _ ∧
    (look true (look true asked)).stage = _
  cases found : gate.readPresence with
  | mk answer after =>
      cases answer with
      | none =>
          simp only [asked, look, found, answered, Gate.poll]
          exact ⟨rfl, rfl, rfl⟩
      | some answer =>
          simp only [asked, look, found, answered, Gate.poll]
          exact ⟨rfl, rfl, rfl⟩

def polls : Nat → List Move
  | 0 => []
  | number + 1 => poll ++ polls number

theorem polls_add (number more : Nat) : polls (number + more) = polls number ++ polls more := by
  induction number with
  | zero => rw [Nat.zero_add]; rfl
  | succ number ih => rw [Nat.succ_add, polls, ih, polls, List.append_assoc]

theorem after_polls (idle : traffic.stage = .idle) (number : Nat) :
    (traffic.after (polls number)).answers = traffic.answers ++ traffic.gate.polls number ∧
      (traffic.after (polls number)).stage = .idle := by
  induction number generalizing traffic with
  | zero => exact ⟨(List.append_nil _).symm, idle⟩
  | succ number ih =>
      obtain ⟨gate, answers, polled⟩ := after_poll idle
      obtain ⟨later, rests⟩ := ih polled
      rw [polls, after_append]
      refine ⟨?_, rests⟩
      rw [later, gate, answers, List.append_assoc, List.singleton_append, Gate.polls]

/-- The moves that send everything. Only the payload queue is closed then. -/
def sendAll (presences payloads : List Packet) : List Move :=
  presences.map (fun _ => .sendPresence) ++ payloads.map (fun _ => .sendPayload) ++
    [.closePayload]

/-- A move that sends one packet sends all of them, one after the other. -/
theorem after_sends {send : Move} {state : List Packet → List Packet → Traffic}
    (sends : ∀ sent packet rest,
      (state sent (packet :: rest)).move send = state (sent ++ [packet]) rest)
    (sent packets : List Packet) :
    (state sent packets).after (packets.map fun _ => send) = state (sent ++ packets) [] := by
  induction packets generalizing sent with
  | nil =>
      rw [List.append_nil]
      rfl
  | cons packet rest ih =>
      have more := ih (sent ++ [packet])
      rw [← sends, List.append_assoc, List.singleton_append] at more
      exact more

theorem after_sendAll (presenceStream payloadStream : String)
    (presences payloads : List Packet) :
    (opened presenceStream payloadStream presences payloads).after
        (sendAll presences payloads) =
      sending ⟨presenceStream, payloadStream, ⟨presences, true⟩, ⟨payloads, false⟩, none⟩
        [] [] := by
  let gate (presences payloads : List Packet) : Gate :=
    ⟨presenceStream, payloadStream, ⟨presences, true⟩, ⟨payloads, true⟩, none⟩
  let first (sent ahead : List Packet) : Traffic := sending (gate sent []) ahead payloads
  let second (sent ahead : List Packet) : Traffic := sending (gate presences sent) [] ahead
  have presencesSent : (first [] presences).after (presences.map fun _ => .sendPresence) =
      second [] payloads := after_sends (fun _ _ _ => rfl) [] presences
  have payloadsSent : (second [] payloads).after (payloads.map fun _ => .sendPayload) =
      second payloads [] := after_sends (fun _ _ _ => rfl) [] payloads
  rw [sendAll, after_append, after_append]
  change after (after (after (first [] presences) _) _) _ = _
  rw [presencesSent, payloadsSent]
  rfl

/-- Polls after everything is sent answer to the presences, and then that nothing came. -/
theorem after_polls_sent {presenceStream payloadStream : String}
    {before later : List (Except SessionError (PollResult Gated))}
    (answers : Gate.judged presenceStream payloadStream presences payloads ++ [.ok .empty] =
      before ++ later) :
    let sent := (opened presenceStream payloadStream presences payloads).after
      (sendAll presences payloads)
    let polled := sent.after (polls before.length)
    polled.answers = before ∧ (polled.after (polls later.length)).answers = before ++ later := by
  intro sent polled
  have same := after_sendAll presenceStream payloadStream presences payloads
  have idle : sent.stage = .idle := congrArg stage same
  have none : sent.answers = [] := congrArg Traffic.answers same
  have number : before.length + later.length = presences.length + 1 := by
    rw [← List.length_append, ← answers, ← Gate.polls_unclosed, Gate.length_polls]
  have total : (sent.after (polls (before.length + later.length))).answers = before ++ later := by
    rw [(after_polls idle _).1, none, List.nil_append, number, ← answers]
    exact (congrArg (Gate.polls _ ·.gate) same).trans (Gate.polls_unclosed ..)
  rw [polls_add, after_append] at total
  obtain ⟨first, rests⟩ := after_polls idle before.length
  have split := total
  rw [(after_polls rests later.length).1] at split
  have length : polled.answers.length = before.length := by
    rw [first, none, List.nil_append, Gate.length_polls]
  exact ⟨(List.append_inj split length).1, total⟩

/-- A closed answer is the end, with all presences read and nothing but closed answers after
it, just if there is a payload for every true presence. -/
theorem closed_isFinal_iff (presenceStream payloadStream : String)
    (presences payloads : List Packet) :
    (∀ moves more,
      let traffic := (opened presenceStream payloadStream presences payloads).after moves
      traffic.answers.getLast? = some (.ok .closed) →
        traffic.presencesTaken = presences ∧
          ∃ number, (traffic.after more).answers =
            traffic.answers ++ List.replicate number (.ok .closed)) ↔
      presences.countP Packet.signals ≤ payloads.length := by
  have sound := sound_opened presenceStream payloadStream presences payloads
  constructor
  · intro isFinal
    refine Nat.le_of_not_lt fun short => ?_
    have missed : .ok .closed ∈ Gate.judged presenceStream payloadStream presences payloads :=
      Gate.closed_mem_judged_iff.mpr short
    obtain ⟨earlier, rest, judged⟩ := List.append_of_mem missed
    let before := earlier ++ [.ok .closed]
    let later := rest ++ [.ok .empty]
    have answers : Gate.judged presenceStream payloadStream presences payloads ++ [.ok .empty] =
        before ++ later := by
      rw [judged]
      simp [before, later]
    obtain ⟨closed, after⟩ := after_polls_sent answers
    obtain ⟨_, number, final⟩ := isFinal (sendAll presences payloads ++ polls before.length)
      (polls later.length) (by rw [after_append, closed, List.getLast?_concat])
    rw [after_append, after, closed, List.append_cancel_left_eq] at final
    have last : .ok .empty ∈ later := List.mem_append_right rest (List.mem_singleton_self _)
    rw [final] at last
    exact nomatch List.eq_of_mem_replicate last
  · intro enough moves more traffic closed
    have ended := sound.ended enough nofun moves closed
    exact ⟨ended.taken, ended.after (sound.after moves) more⟩

/-- A true presence without its payload, and an absent frame behind it. -/
theorem closed_before_absent :
    let presences : List Packet := [⟨.clamp 1, .presence true⟩, ⟨.clamp 2, .presence false⟩]
    let sent := (opened "presence" "payload" presences []).after
      [.sendPresence, .sendPresence, .closePresence, .closePayload]
    let polled := sent.after poll
    polled.answers = [.ok .closed] ∧
      polled.gate.presence.packets = [⟨.clamp 2, .presence false⟩] ∧
      (polled.after poll).answers = [.ok .closed, .ok (.ready (.absent (.clamp 2)))] :=
  ⟨rfl, rfl, rfl⟩

end Traffic

end FrameFlow
