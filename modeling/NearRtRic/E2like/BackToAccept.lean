import NearRtRic.E2like.ReceiveLoop

/-! When the loops of a connection end: at the first send that raises, if the peer's data lets
them get to it. -/

namespace NearRtRic.E2like

open Framing

variable {app : XApp}

def XApp.Takes (app : XApp) (data : List UInt8) : Prop := app.logs data ∧ wholeSamples data

namespace Connection

variable (connection : Connection app)

def buffers : List (List UInt8) := frames app.spectrogramSize [] connection.stream

def rest : List UInt8 := leftover app.spectrogramSize [] connection.stream

/-- The sends before an iteration: the requests, and the commands for the buffers. -/
def sendsBefore : ℕ → ℕ
  | 0 => 0
  | iteration + 1 =>
      sendsBefore iteration + (connection.requests iteration).toNat +
        if iteration < connection.buffers.length then (connection.commands iteration).toNat else 0

/-- A send of the iteration raises `OSError`. -/
def RaisesAt (iteration : ℕ) : Prop :=
  (connection.requests iteration ∧ connection.sendFails (connection.sendsBefore iteration)) ∨
  ∃ data, connection.buffers[iteration]? = some data ∧ app.Takes data ∧
    connection.commands iteration ∧
    connection.sendFails
      (connection.sendsBefore iteration + (connection.requests iteration).toNat)

/-- An iteration with a send that raises, which the loops get to: behind the last buffer only if
nothing of another one has come, and with every buffer before it taken. -/
def ReachesRaise : Prop :=
  ∃ iteration, (iteration ≤ connection.buffers.length ∨ connection.rest = []) ∧
    (∀ earlier < iteration, ∀ data, connection.buffers[earlier]? = some data →
      app.Takes data) ∧
    connection.RaisesAt iteration

/-- The loops end and the server accepts again, and every buffer that was read as samples has
whole samples. -/
def ComesBack : Prop :=
  ∃ fuel handed, serve connection fuel { chunks := connection.stream } = some (.accepts handed) ∧
    ∀ buffer ∈ handed, buffer.length % 8 = 0

end Connection

/-- A session at the start of a turn that the data lets the loops get to. -/
structure Follows (connection : Connection app) (session : Session) : Prop where
  sends_eq : session.sends = connection.sendsBefore session.iteration
  frames_eq : frames app.spectrogramSize [] session.chunks =
    connection.buffers.drop session.iteration
  leftover_eq : leftover app.spectrogramSize [] session.chunks = connection.rest
  reached : session.iteration ≤ connection.buffers.length ∨ connection.rest = []
  nonempty : ∀ chunk ∈ session.chunks, chunk ≠ []
  aligned : ∀ buffer ∈ session.handed, buffer.length % 8 = 0

section Turns

variable {connection : Connection app} {session next : Session} {fuel : ℕ}
variable {data chunk : List UInt8} {later chunks handed : List (List UInt8)}

theorem follows_start (connection : Connection app) :
    Follows connection { chunks := connection.stream } where
  sends_eq := rfl
  frames_eq := rfl
  leftover_eq := rfl
  reached := .inl (Nat.zero_le _)
  nonempty := by
    intro chunk member
    rcases List.mem_map.mp member with ⟨received, -, rfl⟩
    exact received.property.1
  aligned := by simp

theorem turn_request (raised : requestRaises connection session = true) :
    turn connection fuel session = .ends (.accepts session.handed) :=
  if_pos raised

theorem turn_calm (calm : ¬ requestRaises connection session = true) :
    turn connection fuel session = receive connection fuel (afterRequest connection session) :=
  if_neg calm

theorem receive_closed (closed : session.chunks = []) :
    receive connection fuel session =
      .next { session with iteration := session.iteration + 1, chunks := [] } := by
  simp only [receive, closed, recv, if_true]

theorem receive_waits (hchunks : session.chunks = chunk :: later) (nonempty : chunk ≠ [])
    (waits : fill app.spectrogramSize fuel chunk later = none) :
    receive connection fuel session = .waits := by
  simp only [receive, hchunks, recv, if_neg nonempty, waits]

theorem receive_filled (hchunks : session.chunks = chunk :: later) (nonempty : chunk ≠ [])
    (filled : fill app.spectrogramSize fuel chunk later = some (data, chunks)) :
    receive connection fuel session = handle connection session data chunks := by
  simp only [receive, hchunks, recv, if_neg nonempty, filled]

theorem Follows.requestRaises_iff (follows : Follows connection session) :
    requestRaises connection session = true ↔
      connection.requests session.iteration ∧
        connection.sendFails (connection.sendsBefore session.iteration) := by
  rw [requestRaises, follows.sends_eq, Bool.and_eq_true]

theorem Follows.closed (follows : Follows connection session) (closed : session.chunks = []) :
    connection.buffers.length ≤ session.iteration ∧ connection.rest = [] := by
  have none_left := follows.frames_eq
  have nothing := follows.leftover_eq
  rw [closed] at none_left nothing
  exact ⟨List.drop_eq_nil_iff.mp none_left.symm, nothing.symm⟩

theorem Follows.unfilled (follows : Follows connection session)
    (hchunks : session.chunks = chunk :: later)
    (unfilled : frame app.spectrogramSize chunk later = none) :
    connection.buffers.length ≤ session.iteration ∧ connection.rest ≠ [] := by
  have nonempty := follows.nonempty chunk (by simp [hchunks])
  rcases frames_of_none (show frame app.spectrogramSize ([] ++ chunk) later = none from unfilled)
    with ⟨none_left, incomplete⟩
  rw [← hchunks, follows.frames_eq] at none_left
  rw [← hchunks, follows.leftover_eq] at incomplete
  refine ⟨List.drop_eq_nil_iff.mp none_left, ?_⟩
  rw [incomplete]
  simp [nonempty]

theorem Follows.filled (follows : Follows connection session)
    (hchunks : session.chunks = chunk :: later)
    (filled : frame app.spectrogramSize chunk later = some (data, chunks)) :
    connection.buffers[session.iteration]? = some data ∧
      frames app.spectrogramSize [] chunks = connection.buffers.drop (session.iteration + 1) ∧
      leftover app.spectrogramSize [] chunks = connection.rest := by
  rcases frames_of_frame (show frame app.spectrogramSize ([] ++ chunk) later = _ from filled)
    with ⟨hframes, hleftover⟩
  rw [← hchunks, follows.frames_eq] at hframes
  rw [← hchunks, follows.leftover_eq] at hleftover
  refine ⟨?_, ?_, hleftover.symm⟩
  · have first := congrArg List.head? hframes
    rwa [List.head?_drop, List.head?_cons] at first
  · have others := congrArg List.tail hframes
    rwa [List.tail_drop, List.tail_cons, eq_comm] at others

def commandRaises (connection : Connection app) (session : Session) : Bool :=
  connection.commands session.iteration && connection.sendFails session.sends

def afterCommand (connection : Connection app) (session : Session) (data : List UInt8)
    (chunks : List (List UInt8)) : Session where
  iteration := session.iteration + 1
  sends := session.sends + (connection.commands session.iteration).toNat
  chunks := chunks
  handed := session.handed ++ [data]

theorem handle_refused (refused : ¬ app.Takes data) :
    ∃ handed, handle connection session data chunks = .ends (.raises handed) := by
  unfold handle
  by_cases logged : app.logs data
  · have partly : wholeSamples data = false := by
      rw [← Bool.not_eq_true]
      exact fun whole => refused ⟨logged, whole⟩
    exact ⟨_, by simp only [logged, partly]; rfl⟩
  · rw [Bool.not_eq_true] at logged
    exact ⟨_, by simp only [logged]; rfl⟩

theorem handle_raised (takes : app.Takes data)
    (raised : commandRaises connection session = true) :
    handle connection session data chunks = .ends (.accepts (session.handed ++ [data])) := by
  rw [commandRaises] at raised
  simp only [handle, takes.1, takes.2, raised]
  rfl

theorem handle_calm (takes : app.Takes data)
    (calm : ¬ commandRaises connection session = true) :
    handle connection session data chunks =
      .next (afterCommand connection session data chunks) := by
  rw [commandRaises, Bool.not_eq_true] at calm
  simp only [handle, takes.1, takes.2, calm]
  rfl

theorem aligned_of_takes (takes : app.Takes data) : data.length % 8 = 0 :=
  beq_iff_eq.mp takes.2

theorem Follows.commandRaises_iff (follows : Follows connection session) :
    commandRaises connection (afterRequest connection session) = true ↔
      connection.commands session.iteration ∧ connection.sendFails
        (connection.sendsBefore session.iteration +
          (connection.requests session.iteration).toNat) := by
  rw [commandRaises, afterRequest, follows.sends_eq, Bool.and_eq_true]

theorem Follows.afterClosed (follows : Follows connection session)
    (closed : session.chunks = []) :
    Follows connection
      { afterRequest connection session with
        iteration := session.iteration + 1, chunks := [] } := by
  rcases follows.closed closed with ⟨bound, nothing⟩
  refine ⟨?_, ?_, ?_, .inr nothing, by simp, follows.aligned⟩
  · rw [Connection.sendsBefore, if_neg (Nat.not_lt.mpr bound), Nat.add_zero, ← follows.sends_eq]
    rfl
  · rw [frames, List.drop_eq_nil_of_le (Nat.le_succ_of_le bound)]
  · rw [leftover, nothing]

theorem Follows.afterFilled (follows : Follows connection session)
    (hchunks : session.chunks = chunk :: later)
    (filled : frame app.spectrogramSize chunk later = some (data, chunks))
    (takes : app.Takes data) :
    Follows connection
      (afterCommand connection (afterRequest connection session) data chunks) := by
  rcases follows.filled hchunks filled with ⟨hbuffer, hframes, hleftover⟩
  have here : session.iteration < connection.buffers.length := by
    rcases List.getElem?_eq_some_iff.mp hbuffer with ⟨here, -⟩
    exact here
  refine ⟨?_, hframes, hleftover, .inl here, ?_, ?_⟩
  · change session.sends + _ + _ = connection.sendsBefore (session.iteration + 1)
    rw [Connection.sendsBefore, if_pos here, ← follows.sends_eq]
    rfl
  · intro received member
    have kept : received ∈ later := (frame_suffix filled).subset member
    exact follows.nonempty received (by simp [hchunks, kept])
  · change ∀ buffer ∈ session.handed ++ [data], buffer.length % 8 = 0
    rw [List.forall_mem_append, List.forall_mem_singleton]
    exact ⟨follows.aligned, aligned_of_takes takes⟩

end Turns

inductive TurnOf (connection : Connection app) (session : Session) (fuel : ℕ) : Turn → Prop where
  | request (raised : requestRaises connection session = true) :
      TurnOf connection session fuel (.ends (.accepts session.handed))
  | closed (calm : ¬ requestRaises connection session = true) (hchunks : session.chunks = []) :
      TurnOf connection session fuel
        (.next
          { afterRequest connection session with
            iteration := session.iteration + 1, chunks := [] })
  | waits {chunk later} (calm : ¬ requestRaises connection session = true)
      (hchunks : session.chunks = chunk :: later)
      (unfilled : fill app.spectrogramSize fuel chunk later = none) :
      TurnOf connection session fuel .waits
  | refused {chunk later data chunks handed} (hchunks : session.chunks = chunk :: later)
      (filled : fill app.spectrogramSize fuel chunk later = some (data, chunks))
      (refused : ¬ app.Takes data) : TurnOf connection session fuel (.ends (.raises handed))
  | command {chunk later data chunks} (calm : ¬ requestRaises connection session = true)
      (hchunks : session.chunks = chunk :: later)
      (filled : fill app.spectrogramSize fuel chunk later = some (data, chunks))
      (takes : app.Takes data)
      (raised : commandRaises connection (afterRequest connection session) = true) :
      TurnOf connection session fuel (.ends (.accepts (session.handed ++ [data])))
  | filled {chunk later data chunks} (calm : ¬ requestRaises connection session = true)
      (hchunks : session.chunks = chunk :: later)
      (filled : fill app.spectrogramSize fuel chunk later = some (data, chunks))
      (takes : app.Takes data)
      (quiet : ¬ commandRaises connection (afterRequest connection session) = true) :
      TurnOf connection session fuel
        (.next (afterCommand connection (afterRequest connection session) data chunks))

section Runs

variable {connection : Connection app} {session next : Session} {fuel iteration : ℕ}
variable {handed : List (List UInt8)}

theorem turn_turnOf (connection : Connection app)
    (nonempty : ∀ chunk ∈ session.chunks, chunk ≠ []) (fuel : ℕ) :
    TurnOf connection session fuel (turn connection fuel session) := by
  by_cases raised : requestRaises connection session = true
  · rw [turn_request raised]
    exact .request raised
  rw [turn_calm raised]
  cases hchunks : session.chunks with
  | nil =>
      have closed : (afterRequest connection session).chunks = [] := hchunks
      rw [receive_closed closed]
      exact .closed raised hchunks
  | cons chunk later =>
      have received : (afterRequest connection session).chunks = chunk :: later := hchunks
      have first := nonempty chunk (by simp [hchunks])
      cases filled : fill app.spectrogramSize fuel chunk later with
      | none =>
          rw [receive_waits received first filled]
          exact .waits raised hchunks filled
      | some answer =>
          rcases answer with ⟨data, chunks⟩
          rw [receive_filled received first filled]
          by_cases takes : app.Takes data
          · by_cases commanded :
                commandRaises connection (afterRequest connection session) = true
            · rw [handle_raised takes commanded]
              exact .command raised hchunks filled takes commanded
            · rw [handle_calm takes commanded]
              exact .filled raised hchunks filled takes commanded
          · rcases handle_refused takes with ⟨handed, refused⟩
            rw [refused]
            exact .refused hchunks filled takes

theorem Follows.of_next (follows : Follows connection session)
    (run : turn connection fuel session = .next next) :
    Follows connection next ∧ next.iteration = session.iteration + 1 ∧
      ∀ data, connection.buffers[session.iteration]? = some data → app.Takes data := by
  have shape := turn_turnOf connection follows.nonempty fuel
  rw [run] at shape
  cases shape with
  | closed calm hchunks =>
      refine ⟨follows.afterClosed hchunks, rfl, fun data hdata => ?_⟩
      rw [List.getElem?_eq_none (follows.closed hchunks).1] at hdata
      cases hdata
  | filled calm hchunks filled takes quiet =>
      have framed := fill_sound filled
      refine ⟨follows.afterFilled hchunks framed takes, rfl, fun data hdata => ?_⟩
      rw [(follows.filled hchunks framed).1, Option.some.injEq] at hdata
      rwa [← hdata]

theorem Follows.of_accepts (follows : Follows connection session)
    (run : turn connection fuel session = .ends (.accepts handed)) :
    connection.RaisesAt session.iteration := by
  have shape := turn_turnOf connection follows.nonempty fuel
  rw [run] at shape
  cases shape with
  | request raised => exact .inl (follows.requestRaises_iff.mp raised)
  | command calm hchunks filled takes raised =>
      rcases follows.commandRaises_iff.mp raised with ⟨commands, fails⟩
      exact .inr ⟨_, (follows.filled hchunks (fill_sound filled)).1, takes, commands, fails⟩

def ReachesFrom (connection : Connection app) (start : ℕ) : Prop :=
  ∃ iteration, start ≤ iteration ∧
    (iteration ≤ connection.buffers.length ∨ connection.rest = []) ∧
    (∀ earlier, start ≤ earlier → earlier < iteration → ∀ data,
      connection.buffers[earlier]? = some data → app.Takes data) ∧
    connection.RaisesAt iteration

theorem ReachesFrom.back {start : ℕ} (reaches : ReachesFrom connection (start + 1))
    (takes : ∀ data, connection.buffers[start]? = some data → app.Takes data) :
    ReachesFrom connection start := by
  rcases reaches with ⟨iteration, later, hreached, htakes, raises⟩
  refine ⟨iteration, Nat.le_of_succ_le later, hreached, fun earlier from_start before => ?_, raises⟩
  rcases Nat.eq_or_lt_of_le from_start with rfl | beyond
  · exact takes
  · exact htakes earlier beyond before

theorem reaches_of_accepts (follows : Follows connection session)
    (run : serve connection fuel session = some (.accepts handed)) :
    ReachesFrom connection session.iteration := by
  induction fuel generalizing session with
  | zero => cases run
  | succ fuel ih =>
      rw [serve] at run
      cases hturn : turn connection fuel session with
      | next session' =>
          rw [hturn] at run
          rcases follows.of_next hturn with ⟨follows', same, takes⟩
          have later := ih follows' run
          rw [same] at later
          exact later.back takes
      | ends outcome =>
          rw [hturn] at run
          cases run
          refine ⟨session.iteration, Nat.le_refl _, follows.reached, ?_, follows.of_accepts hturn⟩
          intro earlier from_start before
          omega
      | waits =>
          rw [hturn] at run
          cases run

/-- With enough fuel for the chunks, the turn with a send that raises ends there. -/
theorem Follows.turn_accepts (follows : Follows connection session)
    (raises : connection.RaisesAt session.iteration) (enough : session.chunks.length ≤ fuel) :
    ∃ handed, turn connection fuel session = .ends (.accepts handed) ∧
      ∀ buffer ∈ handed, buffer.length % 8 = 0 := by
  by_cases raised : requestRaises connection session = true
  · exact ⟨session.handed, turn_request raised, follows.aligned⟩
  rcases raises with request | ⟨data, hdata, takes, commands, fails⟩
  · exact absurd (follows.requestRaises_iff.mpr request) raised
  have shape := turn_turnOf connection follows.nonempty fuel
  generalize turn connection fuel session = result at shape
  cases shape with
  | request again => exact absurd again raised
  | closed calm hchunks =>
      rw [List.getElem?_eq_none (follows.closed hchunks).1] at hdata
      cases hdata
  | @waits chunk later calm hchunks unfilled =>
      cases framed : frame app.spectrogramSize chunk later with
      | none =>
          rw [List.getElem?_eq_none (follows.unfilled hchunks framed).1] at hdata
          cases hdata
      | some answer =>
          rw [fill_complete framed (by rwa [hchunks] at enough)] at unfilled
          cases unfilled
  | refused hchunks filled refused =>
      rw [(follows.filled hchunks (fill_sound filled)).1, Option.some.injEq] at hdata
      exact absurd (hdata ▸ takes) refused
  | command calm hchunks filled taken commanded =>
      exact ⟨_, rfl, (follows.afterFilled hchunks (fill_sound filled) taken).aligned⟩
  | filled calm hchunks filled taken quiet =>
      exact absurd (follows.commandRaises_iff.mpr ⟨commands, fails⟩) quiet

/-- A turn without one goes on, if a later iteration can be reached and its buffer is taken. -/
theorem Follows.turn_next (follows : Follows connection session)
    (quiet : ¬ connection.RaisesAt session.iteration)
    (reached : session.iteration < connection.buffers.length ∨ connection.rest = [])
    (taken : ∀ data, connection.buffers[session.iteration]? = some data → app.Takes data)
    (enough : session.chunks.length ≤ fuel) :
    ∃ next, turn connection fuel session = .next next ∧
      next.chunks.length ≤ session.chunks.length := by
  have shape := turn_turnOf connection follows.nonempty fuel
  generalize turn connection fuel session = result at shape
  cases shape with
  | request raised => exact absurd (.inl (follows.requestRaises_iff.mp raised)) quiet
  | closed calm hchunks => exact ⟨_, rfl, Nat.zero_le _⟩
  | @waits chunk later calm hchunks unfilled =>
      cases framed : frame app.spectrogramSize chunk later with
      | none =>
          rcases follows.unfilled hchunks framed with ⟨bound, incomplete⟩
          exact absurd (reached.resolve_right incomplete) (Nat.not_lt.mpr bound)
      | some answer =>
          rw [fill_complete framed (by rwa [hchunks] at enough)] at unfilled
          cases unfilled
  | refused hchunks filled refused =>
      exact absurd (taken _ (follows.filled hchunks (fill_sound filled)).1) refused
  | command calm hchunks filled takes raised =>
      rcases follows.commandRaises_iff.mp raised with ⟨commands, fails⟩
      have own := (follows.filled hchunks (fill_sound filled)).1
      exact absurd (.inr ⟨_, own, takes, commands, fails⟩) quiet
  | filled calm hchunks filled takes silent =>
      refine ⟨_, rfl, ?_⟩
      rw [hchunks, List.length_cons]
      exact (frame_suffix (fill_sound filled)).length_le.trans (Nat.le_succ _)

theorem accepts_of_reaches (distance : ℕ) (follows : Follows connection session)
    (same : session.iteration + distance = iteration)
    (reached : iteration ≤ connection.buffers.length ∨ connection.rest = [])
    (taken : ∀ earlier < iteration, ∀ data, connection.buffers[earlier]? = some data →
      app.Takes data)
    (raises : connection.RaisesAt iteration)
    (enough : session.chunks.length + distance < fuel) :
    ∃ handed, serve connection fuel session = some (.accepts handed) ∧
      ∀ buffer ∈ handed, buffer.length % 8 = 0 := by
  induction distance generalizing session fuel with
  | zero =>
      subst same
      rcases Nat.exists_eq_succ_of_ne_zero (Nat.ne_zero_of_lt enough) with ⟨fuel, rfl⟩
      rcases follows.turn_accepts raises (Nat.le_of_lt_succ enough) with ⟨handed, run, aligned⟩
      exact ⟨handed, by rw [serve, run], aligned⟩
  | succ distance ih =>
      rcases Nat.exists_eq_succ_of_ne_zero (Nat.ne_zero_of_lt enough) with ⟨fuel, rfl⟩
      have fuelled : session.chunks.length ≤ fuel := by omega
      by_cases now : connection.RaisesAt session.iteration
      · rcases follows.turn_accepts now fuelled with ⟨handed, run, aligned⟩
        exact ⟨handed, by rw [serve, run], aligned⟩
      · have before : session.iteration < iteration := by omega
        have beyond : session.iteration < connection.buffers.length ∨ connection.rest = [] :=
          reached.imp_left before.trans_le
        rcases follows.turn_next now beyond (taken _ before) fuelled with ⟨next, run, fewer⟩
        rcases follows.of_next run with ⟨follows', hiteration, -⟩
        have fewer_turns : next.chunks.length + distance < fuel := by omega
        rcases ih follows' (by omega) fewer_turns with ⟨handed, hserve, aligned⟩
        exact ⟨handed, by rw [serve, run]; exact hserve, aligned⟩

end Runs

/-- The loops come back to `accept` exactly when the data lets them get to a send that raises. -/
theorem comes_back_iff (app : XApp) (connection : Connection app) :
    connection.ComesBack ↔ connection.ReachesRaise := by
  constructor
  · intro back
    rcases back with ⟨fuel, handed, run, -⟩
    rcases reaches_of_accepts (follows_start connection) run with
      ⟨iteration, -, reached, taken, raises⟩
    exact ⟨iteration, reached, fun earlier before => taken earlier (Nat.zero_le _) before, raises⟩
  · intro reaches
    rcases reaches with ⟨iteration, reached, taken, raises⟩
    rcases accepts_of_reaches iteration (follows_start connection) (Nat.zero_add _) reached taken
      raises (Nat.lt_succ_self _) with ⟨handed, run, aligned⟩
    exact ⟨_, handed, run, aligned⟩

def closedAtOnce (app : XApp) (result : app.Result) : Connection app where
  chunks := []
  sendFails _ := false
  early iteration := decide (iteration < 3)
  result _ := result

def oneSample (app : XApp) (result : app.Result) : Connection app :=
  { closedAtOnce app result with chunks := [⟨List.replicate 8 0, by decide, by decide⟩] }

theorem not_comesBack_of_silent {connection : Connection app}
    (silent : ∀ send, connection.sendFails send = false) : ¬ connection.ComesBack := by
  intro back
  rcases back with ⟨fuel, handed, run, -⟩
  rcases reaches_of_accepts (follows_start connection) run with ⟨iteration, -, -, -, raises⟩
  rcases raises with ⟨-, fails⟩ | ⟨data, -, -, -, fails⟩
  · rw [silent] at fails
    cases fails
  · rw [silent] at fails
    cases fails

/-- Neither server ever accepts again after a peer that closes at once, or behind one sample. -/
theorem closed_peers_keep_the_server :
    ¬ (closedAtOnce .ic .soi).ComesBack ∧ ¬ (closedAtOnce .ml none).ComesBack ∧
      ¬ (oneSample .ic .soi).ComesBack ∧ ¬ (oneSample .ml none).ComesBack :=
  ⟨not_comesBack_of_silent fun _ => rfl, not_comesBack_of_silent fun _ => rfl,
    not_comesBack_of_silent fun _ => rfl, not_comesBack_of_silent fun _ => rfl⟩

end NearRtRic.E2like
