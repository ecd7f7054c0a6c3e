import NetBench.Proofs.Stream.Sending
import NetBench.Settings.File

/-! The calls of a session. Whatever the transport gives, a connection that was made is given up
once, as the last call, unless some call before never completes. -/
namespace NetBench.Stream.Sender
open Talk

def fills (s : Settings) (conn : Nat) (counts : List Nat) : List (Act (interface Phase)) :=
  counts.map fun n =>
    ⟨.write conn (List.replicate s.writeBufferSize.toNat s.fillerByte), some (.ok n)⟩

/-- The calls from the greeting on to the last write, with the result that they lead to. -/
inductive Conversation (s : Settings) (conn : Nat) :
    List (Act (interface Phase)) → Except Failure Nat → Prop where
  | refused (why : Fault) :
      Conversation s conn [⟨.write conn (Text.utf8 s.greeting ++ [0]), some (.error why)⟩]
        (.error (.handshake why))
  | streamed (greeted : Nat) (counts : List Nat) (last : Except Fault Nat) :
      Conversation s conn (⟨.write conn (Text.utf8 s.greeting ++ [0]), some (.ok greeted)⟩ ::
        fills s conn counts ++
        [⟨.write conn (List.replicate s.writeBufferSize.toNat s.fillerByte), some last⟩])
        (last.mapError .write)

/-- The calls of a session that returns, with its result. -/
inductive Lifecycle (s : Settings) : List (Act (interface Phase)) → Except Failure Nat → Prop where
  | unreadable {why : Fault} (h : parseAddress s.remoteHost = .error why) :
      Lifecycle s [] (.error (.address why))
  | refused {ip : Ip} (h : parseAddress s.remoteHost = .ok ip) (why : Fault) :
      Lifecycle s [⟨.connect ⟨ip, s.remotePort⟩, some (.error why)⟩] (.error (.connect why))
  | conversed {ip : Ip} (h : parseAddress s.remoteHost = .ok ip) (conn : Nat)
      {middle : List (Act (interface Phase))} {result : Except Failure Nat}
      (hm : Conversation s conn middle result) :
      Lifecycle s (⟨.connect ⟨ip, s.remotePort⟩, some (.ok conn)⟩ ::
        middle ++ [⟨.disconnect conn, some ()⟩]) result

/-- Where a session stands while it waits, by the calls that were answered before. It streams as
soon as the second of them, the greeting, was taken. -/
def phaseAmid : List (Act (interface Phase)) → Phase
  | [] => .connecting
  | _ :: ⟨.write _ _, some (.ok _)⟩ :: _ => .streaming
  | _ => .connected

variable {σ : Type} {s : Settings} {conn depth : Nat} {acts : List (Act (interface Phase))}

@[simp] private theorem calls_opening (p : Progress) (now : UInt64) : calls (p.opening now) = [] := by
  simp [Progress.opening, calls]

@[simp] private theorem phaseAfter_opening (p : Progress) (now : UInt64) (start : Phase) :
    phaseAfter start (p.opening now) = start := by
  cases h : (p.meter.poll now).1 <;> simp [Progress.opening, h]

private theorem calls_turns (p : Progress) (ts : List Turn) :
    calls (turns s conn p ts) = fills s conn (ts.map Turn.taken) := by
  induction ts generalizing p with
  | nil => rfl
  | cons t ts ih =>
    rw [turns, calls_append, calls_opening, calls_cons, ih]
    rfl

private theorem phaseAfter_turns (p : Progress) (ts : List Turn) (start : Phase) :
    phaseAfter start (turns s conn p ts) = start := by
  induction ts generalizing p with
  | nil => rfl
  | cons t ts ih => simp [turns, ih]

private theorem calls_streamed (greeted : Nat) (start : UInt64) (p : Progress) (ts : List Turn)
    (last : List (Act (interface Phase))) :
    calls (⟨.note (.greeting s.greeting), some ()⟩ ::
        ⟨.write conn (greetingBytes s.greeting), some (.ok greeted)⟩ ::
        ⟨.enter .streaming, some ()⟩ :: ⟨.clock, some start⟩ :: (turns s conn p ts ++ last)) =
      ⟨.write conn (Text.utf8 s.greeting ++ [0]), some (.ok greeted)⟩ ::
        fills s conn (ts.map Turn.taken) ++ calls last := by
  simp [calls_turns, greetingBytes]

private theorem conversation_of_returned {result : Except Failure Nat}
    (h : Conversed s conn depth acts (.returned result)) :
    Conversation s conn (calls acts) result ∧
      ∀ made, phaseAfter .connected acts = phaseAmid (made :: calls acts) := by
  cases h with
  | refused why => exact ⟨.refused why, fun _ => rfl⟩
  | streamed greeted start h =>
    rcases h with ⟨ts, -, ⟨_, _, he⟩ | ⟨last, rfl, hf⟩⟩
    · cases he
    · rw [calls_streamed]
      cases hf with
      | failed now why =>
        rw [calls_append, calls_opening]
        refine ⟨.streamed greeted (ts.map Turn.taken) (.error why), ?_⟩
        intro made
        simp [phaseAfter_turns, phaseAmid]
      | limited now taken =>
        rw [calls_append, calls_opening]
        refine ⟨.streamed greeted (ts.map Turn.taken) (.ok taken), ?_⟩
        intro made
        simp [phaseAfter_turns, phaseAmid]

private theorem conversation_of_waiting (h : Conversed s conn depth acts .waiting) :
    ∃ front x back result, Conversation s conn (front ++ x :: back) result ∧
      calls acts = front ++ [x.unanswered] ∧
      ∀ made, phaseAfter .connected acts = phaseAmid (made :: front) := by
  cases h with
  | stalled => exact ⟨[], _, [], _, .refused .closed, rfl, fun _ => rfl⟩
  | streamed greeted start h =>
    rcases h with ⟨ts, -, ⟨_, _, he⟩ | ⟨last, rfl, hf⟩⟩
    · cases he
    · rw [calls_streamed]
      cases hf with
      | stalled now =>
        rw [calls_append, calls_opening]
        refine ⟨_, _, [], _, .streamed greeted (ts.map Turn.taken) (.ok 0), rfl, ?_⟩
        intro made
        simp [phaseAfter_turns, phaseAmid]

private theorem conversation_of_unfinished (h : Conversed s conn depth acts .unfinished) :
    ∃ greeted counts, counts.length = depth ∧
      calls acts = ⟨.write conn (Text.utf8 s.greeting ++ [0]), some (.ok greeted)⟩ ::
        fills s conn counts ∧
      phaseAfter .connected acts = .streaming := by
  cases h with
  | streamed greeted start h =>
    rcases h with ⟨ts, -, ⟨hlen, rfl, _⟩ | ⟨last, rfl, hf⟩⟩
    · refine ⟨greeted, ts.map Turn.taken, by simpa using hlen, ?_, ?_⟩
      · simpa using calls_streamed greeted start _ ts []
      · simp [phaseAfter_turns]
    · cases hf

/-- How a session unfolded to `depth` writes of filler went, by its calls, its last phase and its
end: a whole lifecycle, or one that breaks off at a call that never completes, or filler for as long
as the unfolding lasts. -/
def Went (s : Settings) (depth : Nat) (called : List (Act (interface Phase))) (phase : Phase) :
    Ending (Except Failure Nat) → Prop
  | .returned result => Lifecycle s called result ∧ phase = .terminated
  | .waiting => ∃ front x back result, Lifecycle s (front ++ x :: back) result ∧
      called = front ++ [x.unanswered] ∧ phase = phaseAmid front
  | .unfinished => ∃ ip conn greeted counts, parseAddress s.remoteHost = .ok ip ∧
      counts.length = depth ∧
      called = ⟨.connect ⟨ip, s.remotePort⟩, some (.ok conn)⟩ ::
        ⟨.write conn (Text.utf8 s.greeting ++ [0]), some (.ok greeted)⟩ :: fills s conn counts ∧
      phase = .streaming

private theorem went_of_sessioned {ending : Ending (Except Failure Nat)} (start : Phase)
    (h : Sessioned s depth acts ending) : Went s depth (calls acts) (phaseAfter start acts) ending := by
  cases h with
  | unreadable hp => exact ⟨.unreadable hp, rfl⟩
  | unanswered hp => exact ⟨[], _, [], _, .refused hp .closed, rfl, rfl⟩
  | refused hp why => exact ⟨.refused hp why, rfl⟩
  | parted hp conn hm =>
    obtain ⟨hconv, -⟩ := conversation_of_returned hm
    exact ⟨by simpa [dialling, hangingUp] using .conversed hp conn hconv, by simp [hangingUp]⟩
  | @parting ip hp conn middle result hm =>
    obtain ⟨hconv, hphase⟩ := conversation_of_returned hm
    refine ⟨⟨.connect ⟨ip, s.remotePort⟩, some (.ok conn)⟩ :: calls middle,
      ⟨.disconnect conn, some ()⟩, [], result, .conversed hp conn hconv, ?_, ?_⟩
    · simp [dialling, Act.unanswered]
    · simpa [dialling] using hphase _
  | @conversing ip hp conn middle ending hm he =>
    cases ending with
    | returned result => exact absurd rfl (he result)
    | waiting =>
      obtain ⟨front, x, back, result, hconv, hcalls, hphase⟩ := conversation_of_waiting hm
      refine ⟨⟨.connect ⟨ip, s.remotePort⟩, some (.ok conn)⟩ :: front, x,
        back ++ [⟨.disconnect conn, some ()⟩], result, ?_, ?_, ?_⟩
      · simpa using Lifecycle.conversed hp conn hconv
      · simp [dialling, hcalls]
      · simpa [dialling] using hphase _
    | unfinished =>
      obtain ⟨greeted, counts, hlen, hcalls, hphase⟩ := conversation_of_unfinished hm
      exact ⟨ip, conn, greeted, counts, hp, hlen, by simp [dialling, hcalls],
        by simpa [dialling] using hphase⟩

/-- Every one of consecutive sessions makes the calls of a lifecycle: none, a connect that fails, or
a connect and a conversation that ends in giving up that very connection, once and last. It leaves
the sender terminated if it returns; if it is abandoned, in the phase of the call it waits for. -/
theorem sessions_lifecycle {h : Handler (interface Phase) σ} (hh : h.Within Prompt) {n : Nat} {w : σ}
    {run : Run (interface Phase) σ (Except Failure Nat)}
    (hr : run ∈ playTimes h (session s depth) n w) (start : Phase) :
    Went s depth (calls run.acts) (phaseAfter start run.acts) run.ending := by
  obtain ⟨w', rfl⟩ := mem_playTimes hr
  exact went_of_sessioned start (records_session (records_play hh _ w'))

/-- It connects at once, takes the greeting and one byte of filler, and then never answers a write
again. The next time it refuses to connect. -/
def stalling : Script.Connections where
  listens := []
  accepts := []
  connects := [.now (.ok ()), ⟨5, some (.error .timedOut)⟩]
  reads := []
  writes := [.now (.ok .full), .now (.ok (.count 1)), .never]
  clock := Clock.stepping 0 1000

theorem sessions_lifecycle_stalling :
    let handler := Script.Connections.handler Phase
    let run := play handler (session Settings.default 5) stalling
    handler.Within Prompt ∧ run ∈ playTimes handler (session Settings.default 5) 2 stalling ∧
      run.ending = .waiting ∧ phaseAfter .idle run.acts = .streaming ∧
      Went Settings.default 5 (calls run.acts) (phaseAfter .idle run.acts) run.ending :=
  ⟨prompt_script, .head _, rfl, rfl,
    sessions_lifecycle (n := 2) (w := stalling) prompt_script (.head _) .idle⟩

end NetBench.Stream.Sender
