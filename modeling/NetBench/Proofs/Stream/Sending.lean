import NetBench.Proofs.Stream.Acts
import NetBench.Stream.Sender

/-! The record of a session, act by act: what it is up to the first filler, then one turn for each
write that the stream outlasts, and at the end one of three ways to stop. -/
namespace NetBench.Stream.Sender
open Talk Rate

/-- A write of filler after which the stream goes on: what the clock showed before it, and how many
bytes were taken. -/
structure Turn where
  now : UInt64
  taken : Nat

/-- The reading before a write, and the report that it may lead to. -/
def Progress.opening (p : Progress) (now : UInt64) : List (Act (interface Phase)) :=
  ⟨.clock, some now⟩ ::
    (p.meter.poll now).1.toList.map fun report => ⟨.note (.sendSpeed report), some ()⟩

def Progress.after (p : Progress) (t : Turn) : Progress :=
  ⟨(p.meter.poll t.now).2.record t.taken, addBytes p.total t.taken⟩

def turns (s : Settings) (conn : Nat) : Progress → List Turn → List (Act (interface Phase))
  | _, [] => []
  | p, t :: ts =>
    p.opening t.now ++ ⟨.write conn (filler s), some (.ok t.taken)⟩ :: turns s conn (p.after t) ts

/-- So many bytes reach the byte limit, if there is one. -/
def Reached (s : Settings) (total : UInt64) : Prop :=
  ∃ limit, s.maxBytes = some limit ∧ limit ≤ total

/-- The last turn of a stream: a write that is never answered, one that fails, or the one that
reaches the byte limit. -/
inductive Final (s : Settings) (conn : Nat) (p : Progress) :
    List (Act (interface Phase)) → Ending (Except Failure Nat) → Prop where
  | stalled (now : UInt64) :
      Final s conn p (p.opening now ++ [⟨.write conn (filler s), none⟩]) .waiting
  | failed (now : UInt64) (why : Fault) :
      Final s conn p (p.opening now ++ [⟨.write conn (filler s), some (.error why)⟩,
        ⟨.note (.writeFailed p.total (p.meter.poll now).2.pending why), some ()⟩])
        (.returned (.error (.write why)))
  | limited (now : UInt64) (taken : Nat) (h : Reached s (addBytes p.total taken)) :
      Final s conn p (p.opening now ++ [⟨.write conn (filler s), some (.ok taken)⟩,
        ⟨.note (.limitReached (addBytes p.total taken)), some ()⟩]) (.returned (.ok taken))

/-- The record of a stream unfolded to `depth` turns. It goes on only below the byte limit. -/
def Streamed (s : Settings) (conn depth : Nat) (p : Progress) (acts : List (Act (interface Phase)))
    (ending : Ending (Except Failure Nat)) : Prop :=
  ∃ ts, (ts ≠ [] → ¬Reached s (ts.foldl Progress.after p).total) ∧
    (ts.length = depth ∧ acts = turns s conn p ts ∧ ending = .unfinished ∨
      ∃ last, acts = turns s conn p ts ++ last ∧ Final s conn (ts.foldl Progress.after p) last ending)

/-- The record of a conversation, from the greeting on. -/
inductive Conversed (s : Settings) (conn depth : Nat) :
    List (Act (interface Phase)) → Ending (Except Failure Nat) → Prop where
  | stalled :
      Conversed s conn depth [⟨.note (.greeting s.greeting), some ()⟩,
        ⟨.write conn (greetingBytes s.greeting), none⟩] .waiting
  | refused (why : Fault) :
      Conversed s conn depth [⟨.note (.greeting s.greeting), some ()⟩,
        ⟨.write conn (greetingBytes s.greeting), some (.error why)⟩,
        ⟨.note (.greetingFailed why), some ()⟩] (.returned (.error (.handshake why)))
  | streamed {acts : List (Act (interface Phase))} {ending : Ending (Except Failure Nat)}
      (greeted : Nat) (start : UInt64)
      (h : Streamed s conn depth ⟨Meter.new s.reportIntervalUs start, 0⟩ acts ending) :
      Conversed s conn depth (⟨.note (.greeting s.greeting), some ()⟩ ::
        ⟨.write conn (greetingBytes s.greeting), some (.ok greeted)⟩ ::
        ⟨.enter .streaming, some ()⟩ :: ⟨.clock, some start⟩ :: acts) ending

def dialling (remote : Endpoint) (conn : Nat) : List (Act (interface Phase)) :=
  [⟨.enter .connecting, some ()⟩, ⟨.connect remote, some (.ok conn)⟩,
    ⟨.enter .connected, some ()⟩, ⟨.note (.connected remote), some ()⟩]

def hangingUp (conn : Nat) : List (Act (interface Phase)) :=
  [⟨.disconnect conn, some ()⟩, ⟨.enter .terminated, some ()⟩, ⟨.note .hungUp, some ()⟩]

/-- The record of a session. -/
inductive Sessioned (s : Settings) (depth : Nat) :
    List (Act (interface Phase)) → Ending (Except Failure Nat) → Prop where
  | unreadable {why : Fault} (h : parseAddress s.remoteHost = .error why) :
      Sessioned s depth [⟨.enter .terminated, some ()⟩] (.returned (.error (.address why)))
  | unanswered {ip : Ip} (h : parseAddress s.remoteHost = .ok ip) :
      Sessioned s depth [⟨.enter .connecting, some ()⟩, ⟨.connect ⟨ip, s.remotePort⟩, none⟩] .waiting
  | refused {ip : Ip} (h : parseAddress s.remoteHost = .ok ip) (why : Fault) :
      Sessioned s depth [⟨.enter .connecting, some ()⟩,
        ⟨.connect ⟨ip, s.remotePort⟩, some (.error why)⟩,
        ⟨.note (.connectFailed ⟨ip, s.remotePort⟩ why), some ()⟩, ⟨.enter .terminated, some ()⟩]
        (.returned (.error (.connect why)))
  | parted {ip : Ip} (h : parseAddress s.remoteHost = .ok ip) (conn : Nat)
      {middle : List (Act (interface Phase))} {result : Except Failure Nat}
      (hm : Conversed s conn depth middle (.returned result)) :
      Sessioned s depth (dialling ⟨ip, s.remotePort⟩ conn ++ middle ++ hangingUp conn)
        (.returned result)
  | parting {ip : Ip} (h : parseAddress s.remoteHost = .ok ip) (conn : Nat)
      {middle : List (Act (interface Phase))} {result : Except Failure Nat}
      (hm : Conversed s conn depth middle (.returned result)) :
      Sessioned s depth (dialling ⟨ip, s.remotePort⟩ conn ++ middle ++ [⟨.disconnect conn, none⟩])
        .waiting
  | conversing {ip : Ip} (h : parseAddress s.remoteHost = .ok ip) (conn : Nat)
      {middle : List (Act (interface Phase))} {ending : Ending (Except Failure Nat)}
      (hm : Conversed s conn depth middle ending) (he : ∀ result, ending ≠ .returned result) :
      Sessioned s depth (dialling ⟨ip, s.remotePort⟩ conn ++ middle) ending

/-- The record of a session up to its stream. -/
def preamble (s : Settings) (remote : Endpoint) (conn greeted : Nat) (start : UInt64) :
    List (Act (interface Phase)) :=
  dialling remote conn ++ [⟨.note (.greeting s.greeting), some ()⟩,
    ⟨.write conn (greetingBytes s.greeting), some (.ok greeted)⟩, ⟨.enter .streaming, some ()⟩,
    ⟨.clock, some start⟩]

/-- What follows a stream on record, by how the stream ends and how the session does. -/
inductive Parting (conn : Nat) : Ending (Except Failure Nat) → List (Act (interface Phase)) →
    Ending (Except Failure Nat) → Prop where
  | parted (result : Except Failure Nat) :
      Parting conn (.returned result) (hangingUp conn) (.returned result)
  | parting (result : Except Failure Nat) :
      Parting conn (.returned result) [⟨.disconnect conn, none⟩] .waiting
  | streaming (ending : Ending (Except Failure Nat)) : Parting conn ending [] ending

/-- A record that does not come to streaming, and has no greeting that got through. -/
def Unstreamed (acts : List (Act (interface Phase))) : Prop :=
  ⟨.enter .streaming, some ()⟩ ∉ acts ∧
    ∀ greeted results, answers acts ≠ some (.ok greeted) :: results

/-- The record of a session, by whether it comes to a stream. -/
inductive Divided (s : Settings) (depth : Nat) :
    List (Act (interface Phase)) → Ending (Except Failure Nat) → Prop where
  | unstreamed {acts : List (Act (interface Phase))} {ending : Ending (Except Failure Nat)}
      (h : Unstreamed acts) : Divided s depth acts ending
  | streamed (remote : Endpoint) (conn greeted : Nat) (start : UInt64)
      {stream back : List (Act (interface Phase))} {streamed ending : Ending (Except Failure Nat)}
      (h : Streamed s conn depth ⟨Meter.new s.reportIntervalUs start, 0⟩ stream streamed)
      (hb : Parting conn streamed back ending) :
      Divided s depth (preamble s remote conn greeted start ++ stream ++ back) ending

variable {s : Settings} {conn depth : Nat} {p : Progress} {acts : List (Act (interface Phase))}

private theorem records_report {α : Type} {report? : Option Report} {rest : Unit → Program Phase α}
    {ending : Ending α}
    (h : Records Prompt (match report? with
      | some report => note (.sendSpeed report) >>= rest
      | none => rest ()) acts ending) :
    ∃ after, acts = (report?.toList.map fun report => ⟨.note (.sendSpeed report), some ()⟩) ++ after ∧
      Records Prompt (rest ()) after ending := by
  cases report? with
  | none => exact ⟨acts, rfl, h⟩
  | some report =>
    obtain ⟨_, after, rfl, hr⟩ := records_own rfl h
    exact ⟨after, rfl, hr⟩

/-- What one turn of the stream may do. -/
theorem records_step {ending : Ending (Progress ⊕ Except Failure Nat)}
    (h : Records Prompt (step s (filler s) conn p) acts ending) :
    (∃ t : Turn, acts = p.opening t.now ++ [⟨.write conn (filler s), some (.ok t.taken)⟩] ∧
        ¬Reached s (p.after t).total ∧ ending = .returned (.inl (p.after t))) ∨
      ∃ last, Final s conn p acts last ∧ ending = last.map .inr := by
  obtain ⟨now, after, rfl, hn⟩ := records_own rfl h
  change UInt64 at now
  have hopen : p.opening now = ⟨.clock, some now⟩ :: ((p.meter.poll now).1.toList.map fun report =>
      ⟨.note (.sendSpeed report), some ()⟩) := rfl
  have hafter (taken : Nat) :
      p.after ⟨now, taken⟩ = ⟨(p.meter.poll now).2.record taken, addBytes p.total taken⟩ := rfl
  have hfailed := @Final.failed s conn p now
  cases hpoll : p.meter.poll now with
  | mk report? meter =>
    rw [hpoll] at hn hopen hfailed
    simp only [hpoll] at hafter
    obtain ⟨written, rfl, hw⟩ := records_report hn
    rw [← List.cons_append, ← hopen]
    rcases records_call hw with ⟨rfl, rfl⟩ | ⟨result, last, rfl, hl⟩
    · exact .inr ⟨_, .stalled now, rfl⟩
    change Except Fault Nat at result
    cases result with
    | error why =>
      obtain ⟨_, _, rfl, hd⟩ := records_own rfl hl
      obtain ⟨rfl, rfl⟩ := records_done_iff.mp hd
      exact .inr ⟨_, hfailed why, rfl⟩
    | ok taken =>
      have honward (hb : ¬Reached s (addBytes p.total taken))
          (hd : Records Prompt (.done (.inl ⟨meter.record taken, addBytes p.total taken⟩) :
            Program Phase (Progress ⊕ Except Failure Nat)) last ending) :
          last = [] ∧ ¬Reached s (p.after ⟨now, taken⟩).total ∧
            ending = .returned (.inl (p.after ⟨now, taken⟩)) := by
        rw [hafter]
        obtain ⟨hlast, hending⟩ := records_done_iff.mp hd
        exact ⟨hlast, hb, hending⟩
      cases hm : s.maxBytes with
      | none =>
        rw [hm] at hl
        have hb : ¬Reached s (addBytes p.total taken) := by simp [Reached, hm]
        obtain ⟨rfl, hb, rfl⟩ := honward hb hl
        exact .inl ⟨⟨now, taken⟩, rfl, hb, rfl⟩
      | some limit =>
        have hreached : Reached s (addBytes p.total taken) ↔ limit ≤ addBytes p.total taken := by
          simp [Reached, hm]
        simp only [hm] at hl
        split at hl
        · obtain ⟨_, _, rfl, hd⟩ := records_own rfl hl
          obtain ⟨rfl, rfl⟩ := records_done_iff.mp hd
          exact .inr ⟨_, .limited now taken (hreached.mpr ‹_›), rfl⟩
        · obtain ⟨rfl, hb, rfl⟩ := honward (mt hreached.mp ‹_›) hl
          exact .inl ⟨⟨now, taken⟩, rfl, hb, rfl⟩

/-- The record of the stream: some turns, and then its last one. -/
theorem records_stream {ending : Ending (Except Failure Nat)}
    (h : Records Prompt (loop (step s (filler s) conn) depth p) acts ending) :
    Streamed s conn depth p acts ending := by
  induction depth generalizing p acts with
  | zero =>
    obtain ⟨rfl, rfl⟩ := records_rest_iff.mp h
    exact ⟨[], fun hn => absurd rfl hn, .inl ⟨rfl, rfl, rfl⟩⟩
  | succ depth ih =>
    rcases records_loop h with ⟨p', front, back, rfl, hf, hb⟩ | hlast
    · rcases records_step hf with ⟨t, rfl, hbelow, ht⟩ | ⟨last, _, he⟩
      · obtain rfl : p' = p.after t := by simpa using ht
        obtain ⟨ts, hts, hstream⟩ := ih hb
        have honward : ¬Reached s ((t :: ts).foldl Progress.after p).total := by
          cases ts with
          | nil => exact hbelow
          | cons t' ts => exact hts nofun
        rcases hstream with ⟨hlen, rfl, rfl⟩ | ⟨last, rfl, hfinal⟩
        · exact ⟨t :: ts, fun _ => honward, .inl ⟨by simp [hlen], by simp [turns], rfl⟩⟩
        · exact ⟨t :: ts, fun _ => honward, .inr ⟨last, by simp [turns], hfinal⟩⟩
      · obtain ⟨_, hinl, -⟩ := Ending.map_eq_returned.mp he.symm
        cases hinl
    · rcases records_step hlast with ⟨t, _, _, he⟩ | ⟨last, hfinal, he⟩
      · simp at he
      · obtain rfl := Ending.map_injective (fun _ _ => Sum.inr.inj) he
        exact ⟨[], fun hn => absurd rfl hn, .inr ⟨acts, rfl, hfinal⟩⟩

theorem records_converse {ending : Ending (Except Failure Nat)}
    (h : Records Prompt (converse s conn depth) acts ending) :
    Conversed s conn depth acts ending := by
  obtain ⟨_, after, rfl, hw⟩ := records_own rfl h
  rcases records_call hw with ⟨rfl, rfl⟩ | ⟨result, after, rfl, hr⟩
  · exact .stalled
  change Except Fault Nat at result
  cases result with
  | error why =>
    obtain ⟨_, _, rfl, hd⟩ := records_own rfl hr
    obtain ⟨rfl, rfl⟩ := records_done_iff.mp hd
    exact .refused why
  | ok greeted =>
    obtain ⟨_, after, rfl, hs⟩ := records_own rfl hr
    obtain ⟨start, after, rfl, hl⟩ := records_own rfl hs
    exact .streamed greeted start (records_stream hl)

private theorem records_hangUp {result : Except Failure Nat} {ending : Ending (Except Failure Nat)}
    (h : Records Prompt (do disconnect conn; enter .terminated; note .hungUp; return result) acts
      ending) :
    acts = [⟨.disconnect conn, none⟩] ∧ ending = .waiting ∨
      acts = hangingUp conn ∧ ending = .returned result := by
  rcases records_call h with ⟨rfl, rfl⟩ | ⟨_, _, rfl, he⟩
  · exact .inl ⟨rfl, rfl⟩
  · obtain ⟨_, _, rfl, hn⟩ := records_own rfl he
    obtain ⟨_, _, rfl, hd⟩ := records_own rfl hn
    obtain ⟨rfl, rfl⟩ := records_done_iff.mp hd
    exact .inr ⟨rfl, rfl⟩

/-- What a session may do. -/
theorem records_session {ending : Ending (Except Failure Nat)}
    (h : Records Prompt (session s depth) acts ending) : Sessioned s depth acts ending := by
  unfold session at h
  cases hp : parseAddress s.remoteHost with
  | error why =>
    rw [hp] at h
    obtain ⟨_, _, rfl, hd⟩ := records_own rfl h
    obtain ⟨rfl, rfl⟩ := records_done_iff.mp hd
    exact .unreadable hp
  | ok ip =>
    rw [hp] at h
    obtain ⟨_, _, rfl, hc⟩ := records_own rfl h
    rcases records_call hc with ⟨rfl, rfl⟩ | ⟨made, _, rfl, hm⟩
    · exact .unanswered hp
    change Except Fault Nat at made
    cases made with
    | error why =>
      obtain ⟨_, _, rfl, he⟩ := records_own rfl hm
      obtain ⟨_, _, rfl, hd⟩ := records_own rfl he
      obtain ⟨rfl, rfl⟩ := records_done_iff.mp hd
      exact .refused hp why
    | ok conn =>
      obtain ⟨_, _, rfl, hn⟩ := records_own rfl hm
      obtain ⟨_, middle, rfl, hb⟩ := records_own rfl hn
      rcases records_bind hb with ⟨result, front, back, rfl, hf, hh⟩ | ⟨hw, rfl⟩ | ⟨hu, rfl⟩
      · rcases records_hangUp hh with ⟨rfl, rfl⟩ | ⟨rfl, rfl⟩
        · exact .parting hp conn (records_converse hf)
        · exact .parted hp conn (records_converse hf)
      · exact .conversing hp conn (records_converse hw) (fun _ he => nomatch he)
      · exact .conversing hp conn (records_converse hu) (fun _ he => nomatch he)

private theorem unstreamed_around (h : Unstreamed acts) (remote : Endpoint)
    {back : List (Act (interface Phase))} {ending ending' : Ending (Except Failure Nat)}
    (hb : Parting conn ending back ending') : Unstreamed (dialling remote conn ++ acts ++ back) := by
  obtain ⟨hphase, hanswers⟩ := h
  cases hb <;> exact ⟨by simpa [dialling, hangingUp] using hphase,
    by simpa [dialling, hangingUp] using hanswers⟩

private theorem divided_conversed {conversed ending : Ending (Except Failure Nat)}
    {back : List (Act (interface Phase))} (h : Conversed s conn depth acts conversed)
    (remote : Endpoint) (hb : Parting conn conversed back ending) :
    Divided s depth (dialling remote conn ++ acts ++ back) ending := by
  cases h with
  | stalled => exact .unstreamed (unstreamed_around ⟨by simp, by simp⟩ remote hb)
  | refused why => exact .unstreamed (unstreamed_around ⟨by simp, by simp⟩ remote hb)
  | streamed greeted start h =>
    have hdivided := Divided.streamed remote conn greeted start h hb
    simpa [preamble] using hdivided

/-- A session comes to a stream, or it does not. -/
theorem divided_sessioned {ending : Ending (Except Failure Nat)} (h : Sessioned s depth acts ending) :
    Divided s depth acts ending := by
  cases h with
  | unreadable => exact .unstreamed ⟨by simp, by simp⟩
  | unanswered => exact .unstreamed ⟨by simp, by simp⟩
  | refused => exact .unstreamed ⟨by simp, by simp⟩
  | parted _ conn hm => exact divided_conversed hm _ (.parted _)
  | parting _ conn hm => exact divided_conversed hm _ (.parting _)
  | @conversing ip _ conn _ _ hm _ =>
    simpa using divided_conversed hm ⟨ip, s.remotePort⟩ (.streaming _)

end NetBench.Stream.Sender
