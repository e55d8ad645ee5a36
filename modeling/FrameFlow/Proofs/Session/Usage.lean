import FrameFlow.Session.Basic

/-!
Sessions in use: callers act on a session and on what it handed out, in any order and with
anything as arguments.
-/

namespace FrameFlow

inductive Action where
  | configure (source : GraphSource)
  | bindCallback (port : Port) (listener : Listener)
  | observeStream (stream : String) (listener : Listener)
  | bindPreview (listener : Listener)
  | previewLatest
  | bindPoller (port : Port)
  | pollStream (stream : String)
  | listenForErrors (listener : Listener)
  | start
  | feed (frame : Frame) (now : Timestamp)
  | feedAt (input : StampedFrame)
  | stop
  | poll (poller : OutputPoller)
  | fill (poller : OutputPoller) (buffer : List Element)
  | release (poller : OutputPoller)
  | pollPackets (poller : Poller)
  | releasePackets (poller : Poller)
  | lookAt (place : PlaceId)
  | take (place : PlaceId)

/-- What a caller gets back. Only the session itself refuses anything: an error of a poll
has taken its packet and comes with the handle after it. -/
inductive Answer where
  | done
  | refused (error : SessionError)
  | stamped (timestamp : Timestamp)
  | placed (place : PlaceId)
  | packets (poller : Poller)
  | outputs (poller : OutputPoller)
  | polled (result : Except SessionError (PollResult Observation)) (poller : OutputPoller)
  | filled (copied : Except SessionError Bool) (buffer : List Element) (poller : OutputPoller)
  | received (result : PollResult Packet)
  | viewed (frame : Option StampedFrame)

def Answer.isRefusal : Answer → Bool
  | .refused _ => true
  | _ => false

theorem Answer.isRefusal_iff {answer : Answer} :
    answer.isRefusal = true ↔ ∃ error, answer = .refused error := by
  cases answer <;> simp [isRefusal]

namespace Session

variable {ε : Type}

def fresh (engine : ε) (task : Task) (layout : Layout) (config : SessionConfig) : Session ε :=
  { engine, task, layout, config }

abbrev opened (task : Task) (layout : Layout) (config : SessionConfig) : Session SessionEngine :=
  fresh {} task layout config

def answered (granted : α → Answer) :
    Except SessionError α × Session ε → Answer × Session ε
  | (.ok value, after) => (granted value, after)
  | (.error error, after) => (.refused error, after)

theorem answered_snd (granted : α → Answer) (outcome : Except SessionError α × Session ε) :
    (answered granted outcome).2 = outcome.2 := by
  obtain ⟨result, after⟩ := outcome
  cases result <;> rfl

variable [GraphEngine ε]

def perform (session : Session ε) : Action → Answer × Session ε
  | .configure source => answered (fun () => .done) (session.configure source)
  | .bindCallback port listener =>
      answered (fun () => .done) (session.bindCallback port listener)
  | .observeStream stream listener =>
      answered (fun () => .done) (session.observeStream stream listener)
  | .bindPreview listener => answered (fun () => .done) (session.bindPreview listener)
  | .previewLatest => answered .placed session.previewLatest
  | .bindPoller port => answered .outputs (session.bindPoller port)
  | .pollStream stream => answered .packets (session.pollStream stream)
  | .listenForErrors listener => (.done, session.setErrorListener listener)
  | .start => answered (fun () => .done) session.start
  | .feed frame now => answered .stamped (session.feed frame now)
  | .feedAt input => answered (fun () => .done) (session.feedAt input)
  | .stop => (.done, session.stop)
  | .poll poller =>
      let (result, poller, after) := session.poll poller
      (.polled result poller, after)
  | .fill poller buffer =>
      let (copied, buffer, poller, after) := session.getOutput poller buffer
      (.filled copied buffer poller, after)
  | .release poller => (.done, session.release poller)
  | .pollPackets poller =>
      let (result, after) := session.pollPackets poller
      (.received result, after)
  | .releasePackets poller => (.done, session.releasePackets poller)
  | .lookAt place => (.viewed (session.outlets.place place).snapshot, session)
  | .take place =>
      let (frame, latest) := (session.outlets.place place).take
      (.viewed frame, { session with outlets := session.outlets.setPlace place latest })

def after (session : Session ε) : List Action → Session ε
  | [] => session
  | action :: rest => (session.perform action).2.after rest

def history (session : Session ε) : List Action → List (Action × Answer)
  | [] => []
  | action :: rest =>
      let (answer, next) := session.perform action
      (action, answer) :: next.history rest

theorem length_history (session : Session ε) (actions : List Action) :
    (session.history actions).length = actions.length := by
  induction actions generalizing session with
  | nil => rfl
  | cons action rest ih => exact congrArg (· + 1) (ih _)

theorem after_append (session : Session ε) (before later : List Action) :
    session.after (before ++ later) = (session.after before).after later := by
  induction before generalizing session with
  | nil => rfl
  | cons action rest ih => exact ih _

theorem history_append (session : Session ε) (before later : List Action) :
    session.history (before ++ later) =
      session.history before ++ (session.after before).history later := by
  induction before generalizing session with
  | nil => rfl
  | cons action rest ih => exact congrArg (List.cons _) (ih _)

end Session

def stampsAfter (stamps : List Timestamp) : Action × Answer → List Timestamp
  | (.start, .done) => []
  | (.feedAt input, .done) => stamps ++ [input.timestamp]
  | (.feed _ _, .stamped timestamp) => stamps ++ [timestamp]
  | _ => stamps

/-- The stamps of the frames that the latest run accepted, as callers know them. -/
def acceptedStamps (history : List (Action × Answer)) : List Timestamp :=
  history.foldl stampsAfter []

theorem stampsAfter_refused (stamps : List Timestamp) (action : Action) (error : SessionError) :
    stampsAfter stamps (action, .refused error) = stamps := by
  cases action <;> rfl

end FrameFlow
