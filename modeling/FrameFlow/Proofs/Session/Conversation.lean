import FrameFlow.Proofs.Session.Front

/-!
What a session and its engine say to each other, call by call. The calls come in cycles: a
graph is loaded, faults are connected, streams are observed, a run is started and gets its
frames, its input is closed, and it is waited for, or cancelled if it does not drain. A
refusal ends a cycle early.
-/

namespace FrameFlow

/-- A call with its answer and the engine that is left, or the connection for faults, which
is not answered. -/
inductive Exchange (ε : Type) where
  | connected
  | called (call : Call Binding) (answer : Except Status Unit) (engine : ε)

/-- An engine, and all that was asked of it so far. -/
structure WatchedEngine (ε : Type) where
  engine : ε
  exchanges : List (Exchange ε) := []

namespace WatchedEngine

variable {ε : Type} [GraphEngine ε]

def exchange (call : Call Binding) (watched : WatchedEngine ε) :
    Except Status Unit × WatchedEngine ε :=
  let (answer, engine) := GraphEngine.perform watched.engine call
  (answer, { engine, exchanges := watched.exchanges ++ [.called call answer engine] })

instance : GraphEngine (WatchedEngine ε) where
  load text := exchange (.load text)
  connectFaults watched :=
    { engine := GraphEngine.connectFaults watched.engine
      exchanges := watched.exchanges ++ [.connected] }
  hasInput stream watched := GraphEngine.hasInput stream watched.engine
  observe stream binding := exchange (.observe stream binding)
  start := exchange .start
  addPacket stream input := exchange (.addPacket stream input)
  closeInput stream := exchange (.closeInput stream)
  waitUntilDone := exchange .waitUntilDone
  cancel := exchange .cancel
  close watched := { watched with engine := GraphEngine.close watched.engine }
  advance watched outlets :=
    let (engine, outlets) := GraphEngine.advance watched.engine outlets
    ({ watched with engine }, outlets)
  holds channel watched := GraphEngine.holds channel watched.engine
  remaining watched := GraphEngine.remaining watched.engine

theorem perform_eq (watched : WatchedEngine ε) (call : Call Binding) :
    GraphEngine.perform watched call = watched.exchange call := by
  cases call <;> rfl

end WatchedEngine

namespace Exchange

variable {ε : Type}

def StartsRun : Exchange ε → Prop
  | .called .start (.ok ()) _ => True
  | _ => False

def EndsRun : Exchange ε → Prop
  | .called .waitUntilDone (.ok ()) _ | .called .cancel _ _ => True
  | _ => False

def FailsDrain : Exchange ε → Prop
  | .called (.closeInput _) (.error _) _ | .called .waitUntilDone (.error _) _ => True
  | _ => False

def observed? : Exchange ε → Option String
  | .called (.observe stream _) (.ok ()) _ => some stream
  | _ => none

def stamp? : Exchange ε → Option Timestamp
  | .called (.addPacket _ input) (.ok ()) _ => some input.timestamp
  | _ => none

def Hands (stream : String) (exchange : Exchange ε) : Prop :=
  ∃ input answer engine, exchange = .called (.addPacket stream input) answer engine

end Exchange

section Rules

variable {ε : Type}

/-- A run was started that is neither drained nor cancelled since. -/
def RunOpen (exchanges : List (Exchange ε)) : Prop :=
  ∃ before start after, exchanges = before ++ start :: after ∧ start.StartsRun ∧
    ∀ exchange ∈ after, ¬ exchange.EndsRun

/-- A run was started, and since then it got frames; those with the stamps were taken. -/
def InRun (input : String) (exchanges : List (Exchange ε)) (stamps : List Timestamp) : Prop :=
  ∃ before start frames, exchanges = before ++ start :: frames ∧ start.StartsRun ∧
    (∀ frame ∈ frames, frame.Hands input) ∧ frames.filterMap (·.stamp?) = stamps

/-- Frames come, as many as there are, and then the input is closed. -/
def ClosesInput (input : String) (exchanges : List (Exchange ε)) : Prop :=
  ∃ frames answer engine rest,
    exchanges = frames ++ .called (.closeInput input) answer engine :: rest ∧
      ∀ frame ∈ frames, frame.Hands input

theorem ClosesInput.hand {input : String} {exchange : Exchange ε} {rest : List (Exchange ε)}
    (hands : exchange.Hands input) (closes : ClosesInput input rest) :
    ClosesInput input (exchange :: rest) := by
  obtain ⟨frames, answer, engine, others, rfl, handed⟩ := closes
  exact ⟨exchange :: frames, answer, engine, others, rfl,
    List.forall_mem_cons.mpr ⟨hands, handed⟩⟩

variable [GraphEngine ε]

/-- A graph that takes frames on the input was loaded, faults were connected, and since then
the streams were observed, all of them with success. -/
def Attempt (input : String) (exchanges : List (Exchange ε)) (streams : List String) : Prop :=
  ∃ before text loaded observed,
    exchanges = before ++ .called (.load text) (.ok ()) loaded :: .connected :: observed ∧
      GraphEngine.hasInput input loaded = true ∧
      observed.map (·.observed?) = streams.map some

/-- What has to come before an exchange. -/
def Allowed (input : String) (before : List (Exchange ε)) : Exchange ε → Prop
  | .connected => ∃ earlier text loaded,
      before = earlier ++ [.called (.load text) (.ok ()) loaded] ∧
        GraphEngine.hasInput input loaded = true
  | .called (.load _) _ _ => ¬ RunOpen before
  | .called (.observe stream _) _ _ =>
      ∃ streams, Attempt input before streams ∧ ∀ earlier ∈ streams, earlier < stream
  | .called .start _ _ => ∃ streams, Attempt input before streams ∧ streams.Pairwise (· < ·)
  | .called (.addPacket stream frame) _ _ => stream = input ∧
      ∃ stamps, InRun input before stamps ∧ ∀ earlier ∈ stamps, earlier < frame.timestamp
  | .called (.closeInput stream) _ _ => stream = input ∧ ∃ stamps, InRun input before stamps
  | .called .waitUntilDone _ _ => ∃ earlier engine,
      before = earlier ++ [.called (.closeInput input) (.ok ()) engine]
  | .called .cancel _ _ => ∃ earlier failed, before = earlier ++ [failed] ∧ failed.FailsDrain

/-- What has to come after an exchange. -/
def Followed (input : String) (after : List (Exchange ε)) : Exchange ε → Prop
  | .called (.observe _ _) (.error _) _ | .called .start (.error _) _ =>
      ∀ next ∈ after.head?, ∃ text answer engine, next = .called (.load text) answer engine
  | .called .start (.ok ()) _ => ClosesInput input after
  | .called (.closeInput _) (.ok ()) _ =>
      ∃ answer engine rest, after = .called .waitUntilDone answer engine :: rest
  | .called (.closeInput _) (.error _) _ | .called .waitUntilDone (.error _) _ =>
      ∃ answer engine rest, after = .called .cancel answer engine :: rest
  | _ => True

/-- The rules for all that is ever said to an engine. -/
structure FollowsProtocol (input : String) (exchanges : List (Exchange ε)) : Prop where
  allowed : ∀ before exchange after, exchanges = before ++ exchange :: after →
    Allowed input before exchange
  followed : ∀ before exchange after, exchanges = before ++ exchange :: after →
    Followed input after exchange

end Rules

/-- How far a cycle of calls has come. -/
inductive Phase where
  | idle
  | loaded
  | observing (streams : List String)
  | running (stamps : List Timestamp)
  | closed
  | undrained

def Phase.hasRun : Phase → Bool
  | .running _ | .closed | .undrained => true
  | _ => false

section Phases

variable {ε : Type} [GraphEngine ε]

/-- How an exchange takes a cycle from one phase to another. -/
inductive Phase.Goes (input : String) : Phase → Exchange ε → Phase → Prop
  | discarded {text answer engine} :
      Goes input .idle (.called (.load text) answer engine) .idle
  | loaded {text engine} : GraphEngine.hasInput input engine = true →
      Goes input .idle (.called (.load text) (.ok ()) engine) .loaded
  | connected : Goes input .loaded .connected (.observing [])
  | observed {streams stream binding engine} : (∀ earlier ∈ streams, earlier < stream) →
      Goes input (.observing streams) (.called (.observe stream binding) (.ok ()) engine)
        (.observing (streams ++ [stream]))
  | unobserved {streams stream binding status engine} :
      (∀ earlier ∈ streams, earlier < stream) →
      Goes input (.observing streams) (.called (.observe stream binding) (.error status) engine)
        .idle
  | started {streams engine} :
      Goes input (.observing streams) (.called .start (.ok ()) engine) (.running [])
  | unstarted {streams status engine} :
      Goes input (.observing streams) (.called .start (.error status) engine) .idle
  | fed {stamps frame engine} : (∀ earlier ∈ stamps, earlier < frame.timestamp) →
      Goes input (.running stamps) (.called (.addPacket input frame) (.ok ()) engine)
        (.running (stamps ++ [frame.timestamp]))
  | unfed {stamps frame status engine} : (∀ earlier ∈ stamps, earlier < frame.timestamp) →
      Goes input (.running stamps) (.called (.addPacket input frame) (.error status) engine)
        (.running stamps)
  | closed {stamps engine} :
      Goes input (.running stamps) (.called (.closeInput input) (.ok ()) engine) .closed
  | unclosed {stamps status engine} :
      Goes input (.running stamps) (.called (.closeInput input) (.error status) engine) .undrained
  | drained {engine} : Goes input .closed (.called .waitUntilDone (.ok ()) engine) .idle
  | undrained {status engine} :
      Goes input .closed (.called .waitUntilDone (.error status) engine) .undrained
  | cancelled {answer engine} :
      Goes input .undrained (.called .cancel answer engine) .idle

/-- Exchanges that brought a cycle to a phase. A graph that was loaded may be given up. -/
inductive Conversation (input : String) : Phase → List (Exchange ε) → Prop
  | opened : Conversation input .idle []
  | givenUp {exchanges} : Conversation input .loaded exchanges →
      Conversation input .idle exchanges
  | continued {phase exchanges exchange next} : Conversation input phase exchanges →
      phase.Goes input exchange next → Conversation input next (exchanges ++ [exchange])

variable {input : String} {phase next : Phase} {before after exchanges : List (Exchange ε)}
  {exchange : Exchange ε}

theorem Conversation.last (talk : Conversation input next (before ++ [exchange])) :
    ∃ phase reached, Conversation input phase before ∧ phase.Goes input exchange reached ∧
      (next = reached ∨ next = .idle ∧ reached = .loaded) := by
  generalize same : before ++ [exchange] = exchanges at talk
  induction talk with
  | opened => simp at same
  | givenUp earlier ih =>
      obtain ⟨phase, reached, talk, goes, is⟩ := ih same
      rcases is with is | ⟨contradictory, _⟩
      · exact ⟨phase, reached, talk, goes, .inr ⟨rfl, is.symm⟩⟩
      · contradiction
  | continued talk goes ih =>
      obtain ⟨rfl, rfl⟩ := List.append_singleton_inj.mp same
      exact ⟨_, _, talk, goes, .inl rfl⟩

theorem Conversation.within (talk : Conversation input next (before ++ exchange :: after)) :
    ∃ phase reached, Conversation input phase before ∧ phase.Goes input exchange reached := by
  generalize same : before ++ exchange :: after = exchanges at talk
  induction talk generalizing after with
  | opened => simp at same
  | givenUp earlier ih => exact ih same
  | continued talk goes ih =>
      rcases List.eq_nil_or_concat after with rfl | ⟨rest, final, rfl⟩
      · obtain ⟨rfl, rfl⟩ := List.append_singleton_inj.mp same
        exact ⟨_, _, talk, goes⟩
      · rw [List.concat_eq_append, ← List.cons_append, ← List.append_assoc] at same
        exact ih (List.append_singleton_inj.mp same).1

/-- What was said last, as far as it shows in the phase. -/
def Phase.Shows (input : String) (exchanges : List (Exchange ε)) : Phase → Prop
  | .idle => True
  | .loaded => ∃ earlier text loaded,
      exchanges = earlier ++ [.called (.load text) (.ok ()) loaded] ∧
        GraphEngine.hasInput input loaded = true
  | .observing streams => Attempt input exchanges streams ∧ streams.Pairwise (· < ·)
  | .running stamps => InRun input exchanges stamps
  | .closed => ∃ earlier engine,
      exchanges = earlier ++ [.called (.closeInput input) (.ok ()) engine]
  | .undrained => ∃ earlier failed, exchanges = earlier ++ [failed] ∧ failed.FailsDrain

omit [GraphEngine ε] in
theorem InRun.hand {stamps : List Timestamp} (run : InRun input exchanges stamps)
    (hands : exchange.Hands input) :
    InRun input (exchanges ++ [exchange]) (stamps ++ exchange.stamp?.toList) := by
  obtain ⟨before, start, frames, rfl, starts, handed, rfl⟩ := run
  refine ⟨before, start, frames ++ [exchange], by simp, starts, fun frame member => ?_, ?_⟩
  · rcases List.mem_append.mp member with old | new
    · exact handed frame old
    · rw [List.mem_singleton.mp new]
      exact hands
  · cases stamped : exchange.stamp? <;> simp [stamped]

theorem Attempt.observe {streams : List String} {stream : String}
    (attempt : Attempt input exchanges streams) (observed : exchange.observed? = some stream) :
    Attempt input (exchanges ++ [exchange]) (streams ++ [stream]) := by
  obtain ⟨before, text, loaded, earlier, rfl, found, same⟩ := attempt
  exact ⟨before, text, loaded, earlier ++ [exchange], by simp, found, by simp [same, observed]⟩

theorem Phase.Goes.shows (goes : phase.Goes input exchange next)
    (shows : phase.Shows input exchanges) : next.Shows input (exchanges ++ [exchange]) := by
  cases goes with
  | loaded found => exact ⟨exchanges, _, _, rfl, found⟩
  | connected =>
      obtain ⟨earlier, text, loaded, rfl, found⟩ := shows
      exact ⟨⟨earlier, text, loaded, [], by simp, found, rfl⟩, .nil⟩
  | observed later =>
      obtain ⟨attempt, sorted⟩ := shows
      refine ⟨attempt.observe rfl, List.pairwise_append.mpr ⟨sorted, by simp, ?_⟩⟩
      intro earlier member other same
      rw [List.mem_singleton.mp same]
      exact later earlier member
  | started => exact ⟨exchanges, _, [], rfl, trivial, by simp, rfl⟩
  | @fed stamps frame engine later =>
      have fed : Exchange.Hands input (.called (.addPacket input frame) (.ok ()) engine) :=
        ⟨_, _, _, rfl⟩
      exact InRun.hand shows fed
  | @unfed stamps frame status engine later =>
      have fed : Exchange.Hands input (.called (.addPacket input frame) (.error status) engine) :=
        ⟨_, _, _, rfl⟩
      have run := InRun.hand shows fed
      change InRun _ _ (stamps ++ []) at run
      rwa [List.append_nil] at run
  | closed => exact ⟨exchanges, _, rfl⟩
  | unclosed => exact ⟨exchanges, _, rfl, trivial⟩
  | undrained => exact ⟨exchanges, _, rfl, trivial⟩
  | _ => trivial

theorem Conversation.shows (talk : Conversation input phase exchanges) :
    phase.Shows input exchanges := by
  induction talk with
  | opened => trivial
  | givenUp earlier ih => trivial
  | continued talk goes ih => exact goes.shows ih

omit [GraphEngine ε] in
theorem runOpen_append :
    RunOpen (exchanges ++ [exchange]) ↔
      exchange.StartsRun ∨ RunOpen exchanges ∧ ¬ exchange.EndsRun := by
  constructor
  · rintro ⟨before, start, after, same, starts, lasting⟩
    rcases List.eq_nil_or_concat after with rfl | ⟨rest, final, rfl⟩
    · obtain ⟨rfl, rfl⟩ := List.append_singleton_inj.mp same
      exact .inl starts
    · rw [List.concat_eq_append, ← List.cons_append, ← List.append_assoc] at same
      obtain ⟨rfl, rfl⟩ := List.append_singleton_inj.mp same
      rw [List.concat_eq_append] at lasting
      exact .inr ⟨⟨before, start, rest, rfl, starts, fun other member =>
        lasting other (List.mem_append_left _ member)⟩, lasting _ (by simp)⟩
  · rintro (starts | ⟨⟨before, start, after, rfl, starts, lasting⟩, continues⟩)
    · exact ⟨exchanges, exchange, [], rfl, starts, by simp⟩
    · refine ⟨before, start, after ++ [exchange], by simp, starts, fun other member => ?_⟩
      rcases List.mem_append.mp member with old | new
      · exact lasting other old
      · rwa [List.mem_singleton.mp new]

theorem Conversation.runOpen_iff (talk : Conversation input phase exchanges) :
    RunOpen exchanges ↔ phase.hasRun = true := by
  induction talk with
  | opened =>
      refine ⟨?_, nofun⟩
      rintro ⟨before, start, after, same, _⟩
      simp at same
  | givenUp earlier ih => exact ih
  | continued talk goes ih =>
      rw [runOpen_append, ih]
      cases goes <;> simp [Exchange.StartsRun, Exchange.EndsRun, Phase.hasRun]

theorem Conversation.allowed (talk : Conversation input phase before)
    (goes : phase.Goes input exchange next) : Allowed input before exchange := by
  have shows := talk.shows
  have running := talk.runOpen_iff
  cases goes with
  | discarded => exact fun opened => nomatch running.mp opened
  | loaded found => exact fun opened => nomatch running.mp opened
  | connected => exact shows
  | observed later => exact ⟨_, shows.1, later⟩
  | unobserved later => exact ⟨_, shows.1, later⟩
  | started => exact ⟨_, shows⟩
  | unstarted => exact ⟨_, shows⟩
  | fed later => exact ⟨rfl, _, shows, later⟩
  | unfed later => exact ⟨rfl, _, shows, later⟩
  | closed => exact ⟨rfl, _, shows⟩
  | unclosed => exact ⟨rfl, _, shows⟩
  | drained => exact shows
  | undrained => exact shows
  | cancelled => exact shows

/-- Between two exchanges a cycle is in a phase where the first one led and the second one
starts; at the end of a conversation it is idle. -/
theorem Conversation.onward {leadsTo : Phase → Prop}
    (talk : Conversation input .idle (before ++ exchange :: after))
    (leads : ∀ {phase reached : Phase}, phase.Goes input exchange reached → leadsTo reached)
    (kept : ¬ leadsTo .loaded) :
    match after with
    | [] => leadsTo .idle
    | following :: _ => ∃ middle later, leadsTo middle ∧ middle.Goes input following later := by
  have reaches : ∀ {phase}, Conversation input phase (before ++ [exchange]) →
      leadsTo phase := by
    intro phase talk
    obtain ⟨_, reached, _, goes, rfl | ⟨_, rfl⟩⟩ := talk.last
    · exact leads goes
    · exact absurd (leads goes) kept
  cases after with
  | nil => exact reaches talk
  | cons following rest =>
      rw [← List.singleton_append, ← List.append_assoc] at talk
      obtain ⟨middle, later, earlier, goes⟩ := talk.within
      exact ⟨middle, later, reaches earlier, goes⟩

theorem Conversation.closesInput
    (talk : Conversation input .idle (before ++ exchange :: after))
    (leads : ∀ {phase reached : Phase}, phase.Goes input exchange reached →
      ∃ stamps, reached = .running stamps) : ClosesInput input after := by
  induction after generalizing before exchange with
  | nil =>
      obtain ⟨_, contradictory⟩ := talk.onward leads nofun
      contradiction
  | cons following rest ih =>
      obtain ⟨_, _, ⟨stamps, rfl⟩, goes⟩ := talk.onward leads nofun
      rw [← List.singleton_append, ← List.append_assoc] at talk
      cases goes with
      | fed later =>
          exact .hand ⟨_, _, _, rfl⟩ (ih talk fun goes => by cases goes; exact ⟨_, rfl⟩)
      | unfed later =>
          exact .hand ⟨_, _, _, rfl⟩ (ih talk fun goes => by cases goes; exact ⟨_, rfl⟩)
      | closed => exact ⟨[], _, _, rest, rfl, by simp⟩
      | unclosed => exact ⟨[], _, _, rest, rfl, by simp⟩

theorem Conversation.followed (talk : Conversation input .idle (before ++ exchange :: after)) :
    Followed input after exchange := by
  -- A refusal at the start of a run leaves the cycle idle, and then only a graph is loaded.
  have restarts (leads : ∀ {phase reached : Phase}, phase.Goes input exchange reached →
      reached = .idle) :
      ∀ next ∈ after.head?, ∃ text answer engine,
        next = .called (.load text) answer engine := by
    intro next first
    cases after with
    | nil => contradiction
    | cons following rest =>
        cases first
        obtain ⟨_, _, rfl, goes⟩ := talk.onward leads nofun
        cases goes <;> exact ⟨_, _, _, rfl⟩
  have cancels (leads : ∀ {phase reached : Phase}, phase.Goes input exchange reached →
      reached = .undrained) :
      ∃ answer engine rest, after = .called .cancel answer engine :: rest := by
    cases after with
    | nil => exact nomatch talk.onward leads nofun
    | cons following rest =>
        obtain ⟨_, _, rfl, goes⟩ := talk.onward leads nofun
        cases goes
        exact ⟨_, _, rest, rfl⟩
  cases exchange with
  | connected => trivial
  | called call answer engine =>
      cases call with
      | observe stream binding =>
          cases answer with
          | ok done => trivial
          | error status => exact restarts fun goes => by cases goes; rfl
      | start =>
          cases answer with
          | ok done => exact talk.closesInput fun goes => by cases goes; exact ⟨_, rfl⟩
          | error status => exact restarts fun goes => by cases goes; rfl
      | closeInput stream =>
          cases answer with
          | error status => exact cancels fun goes => by cases goes; rfl
          | ok done =>
              have leads : ∀ {phase reached : Phase}, phase.Goes input
                  (.called (.closeInput stream) (.ok done) engine) reached →
                  reached = .closed := fun goes => by cases goes; rfl
              cases after with
              | nil => exact nomatch talk.onward leads nofun
              | cons following rest =>
                  obtain ⟨_, _, rfl, goes⟩ := talk.onward leads nofun
                  cases goes <;> exact ⟨_, _, rest, rfl⟩
      | waitUntilDone =>
          cases answer with
          | ok done => trivial
          | error status => exact cancels fun goes => by cases goes; rfl
      | _ => trivial

theorem Conversation.followsProtocol (talk : Conversation input .idle exchanges) :
    FollowsProtocol input exchanges where
  allowed before exchange after same := by
    obtain ⟨phase, reached, earlier, goes⟩ := (same ▸ talk).within
    exact earlier.allowed goes
  followed before exchange after same := (same ▸ talk).followed

end Phases

end FrameFlow
