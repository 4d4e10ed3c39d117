import GameCapturer.Session

namespace GameCapturer

open Foundation Foundation.StepFunction Foundation.StructLoad
open Foundation.CallSequence

/-!
# Reads without an established session

A Read rests on seven calls of the two parties.  Six of them are not checked:
when none of these fails, the order of the calls, the client's check of
`Connect` and the connection protocol give the rest.  When one fails, the
server posts Reads all the same.
-/

namespace Session

/-- A posted Read rests on an established session and the sent channel. -/
structure FailSafe (setting : Setting) (state : State) : Prop where
  established : state.posted ≠ [] → Established state
  advertised :
    ∀ request ∈ state.posted,
      request.remoteAddress = setting.clientBuffer ∧
        request.remoteToken = setting.remoteToken ∧
        request.sge.bufferLength =
          WordArithmetic.truncate
            (frameProduct setting.window.width
              setting.window.height)

section Completed

variable
  {setting : Setting}
  {state : State}
  (invariant : Invariant setting state)

include invariant

/-- Once `CompleteConnect` is issued, `Connect` has succeeded. -/
theorem Invariant.connected
    (begun : state.client.Begun .completeConnect) :
    (Client.Call.connect, Outcome.success) ∈
        state.client.done ∧
      ∃ outcome,
        (Client.Call.register, outcome) ∈ state.client.done := by
  have split :
      Client.program =
        [.createConnector, .bind, .createQueuePair,
          .createMemoryRegion, .register, .connect] ++
            .completeConnect :: [] :=
    rfl
  have distinct : Client.program.Nodup := by
    decide
  obtain ⟨connected, connectSettled, passes⟩ :=
    invariant.client.settled_of_begun split distinct begun
      (show .connect ∈ _ by decide)
  obtain ⟨registered, registerSettled, -⟩ :=
    invariant.client.settled_of_begun split distinct begun
      (show .register ∈ _ by decide)
  have succeeded : connected = .success := by
    simpa [Client.discipline] using passes
  rw [succeeded] at connectSettled
  exact ⟨connectSettled, registered, registerSettled⟩

/-- Without a failing unchecked call, a posted Read is safe. -/
theorem Invariant.failSafe
    (unfailing : Unfailing state) :
    FailSafe setting state := by
  have settled :
      state.server.remaining = [] →
      ∀ call ∈ serverUnchecked,
        (call, Outcome.success) ∈ state.server.done := by
    intro completed call unchecked
    obtain ⟨outcome, done, -⟩ :=
      invariant.server_settled completed call
    have succeeded : outcome = .success :=
      unfailing.server _ done unchecked
    rw [← succeeded]
    exact done
  refine {
    established := ?_
    advertised := ?_
  }
  · intro somePosted
    obtain ⟨request, member⟩ :=
      List.exists_mem_of_ne_nil state.posted somePosted
    have completed := (invariant.posted request member).1
    have succeeded := settled completed
    -- `Accept` rests on `CompleteConnect`, which the client reaches only
    -- past its one checked call.
    have accepted := succeeded .accept (by decide)
    obtain ⟨connected, outcome, registered⟩ :=
      invariant.connected (invariant.completing accepted)
    have registerSucceeded : outcome = .success :=
      unfailing.client _ registered
        (show .register ∈ clientUnchecked by decide)
    rw [registerSucceeded] at registered
    exact {
      clientRegister := registered
      clientConnect := connected
      getConnectionRequest :=
        succeeded .getConnectionRequest (by decide)
      getPrivateData := succeeded .getPrivateData (by decide)
      serverRegister := succeeded .register (by decide)
      createQueuePair := succeeded .createQueuePair (by decide)
      accept := accepted
    }
  · intro request member
    obtain ⟨completed, isRequest⟩ :=
      invariant.posted request member
    have filled :=
      invariant.filled
        (settled completed .getPrivateData (by decide))
    rw [isRequest, filled.readFrame state.view]
    exact ⟨rfl, rfl, rfl⟩

/-- Where a Read is posted, safety is exactly that no unchecked call failed. -/
theorem Invariant.established_iff
    (somePosted : state.posted ≠ []) :
    Established state ↔ Unfailing state := by
  constructor
  · intro established
    have clientDistinct : Client.program.Nodup := by
      decide
    have serverDistinct : Server.program.Nodup := by
      decide
    refine {
      client := ?_
      server := ?_
    }
    · rintro ⟨call, outcome⟩ settled unchecked
      have isRegister : call = .register :=
        List.mem_singleton.mp unchecked
      subst isRegister
      exact invariant.client.outcome_unique clientDistinct
        settled established.clientRegister
    · rintro ⟨call, outcome⟩ settled unchecked
      have succeeded :
          (call, Outcome.success) ∈ state.server.done := by
        simp only [serverUnchecked, List.mem_cons,
          List.not_mem_nil, or_false] at unchecked
        rcases unchecked with rfl | rfl | rfl | rfl | rfl
        · exact established.getConnectionRequest
        · exact established.getPrivateData
        · exact established.serverRegister
        · exact established.createQueuePair
        · exact established.accept
      exact invariant.server.outcome_unique serverDistinct
        settled succeeded
  · intro unfailing
    exact (invariant.failSafe unfailing).established somePosted

end Completed

/--
In every run in which no unchecked call fails, every Read is posted on an
established session and reads the buffer that the client advertised.
-/
theorem failSafe_of_everyStep
    (setting : Setting)
    {actions : List Action}
    {final : State}
    (permitted :
      EveryStep (step? setting)
        (fun state action =>
          Conforms setting state action ∧ Succeeds state action)
        .initial actions)
    (ran : run? (step? setting) .initial actions = some final) :
    FailSafe setting final := by
  have kept :
      ∀ {state next : State} {action : Action},
        Invariant setting state ∧ Unfailing state →
        Conforms setting state action ∧ Succeeds state action →
        step? setting state action = some next →
        Invariant setting next ∧ Unfailing next := by
    rintro state next action ⟨invariant, unfailing⟩
      ⟨conforms, succeeds⟩ stepped
    exact ⟨invariant.step conforms stepped,
      unfailing.step succeeds stepped⟩
  have unfailing : Unfailing .initial := {
    client := List.forall_mem_nil _
    server := List.forall_mem_nil _
  }
  obtain ⟨invariant, unfailing⟩ :=
    invariant_of_everyStep kept
      ⟨invariant_initial setting, unfailing⟩ permitted ran
  exact invariant.failSafe unfailing

/-- A setting whose `channel` holds the client's private data. -/
def sample : Setting where
  window := Window.launcher
  clientBuffer := 0x10000
  remoteToken := 5
  padding := Vector.replicate 4 0
  channel :=
    block
      ((Client.channel Window.launcher 0x10000 5).encode
        (Vector.replicate 4 0))
      (fun _ => 0)
  localToken := 7

/-- A call of the client that answers at once. -/
def clientCall (outcome : Outcome) : List Action :=
  [.client .issue, .client (.answer outcome)]

/-- A call of the server that answers at once. -/
def serverCall (outcome : Outcome) : List Action :=
  [.server .issue, .server (.answer outcome)]

/--
Both parties up to the first Read.  Every call succeeds except `Accept`, which
is pending until the client completes the connection and then finishes with
the given outcome.
-/
def handshake (accepted : Outcome) : List Action :=
  (List.replicate 5 (clientCall .success)).flatten ++
    clientCall (.status ndPending) ++
    (List.replicate 5 (serverCall .success)).flatten ++
    serverCall (.handle 1) ++
    serverCall (.handle 0x20000) ++
    (List.replicate 2 (serverCall .success)).flatten ++
    serverCall (.status ndPending) ++
    [.client (.finish .success), .client .issue,
      .server (.finish accepted),
      .client (.answer .success), .postRead]

/-- The state after a handshake. -/
def State.afterHandshake (accepted : Outcome) : State :=
  (run? (step? sample) .initial (handshake accepted)).getD .initial

/-- When every call succeeds, the first Read is safe. -/
theorem failSafe_handshake :
    (State.afterHandshake .success).posted ≠ [] ∧
      FailSafe sample (.afterHandshake .success) := by
  refine ⟨by decide, ?_⟩
  exact failSafe_of_everyStep sample
    (show EveryStep _ _ _ (handshake .success) by decide) rfl

/-- `Accept` fails, and the read loop is started and posts a Read. -/
theorem not_forall_failSafe :
    ¬ ∀ (setting : Setting) (actions : List Action)
        (final : State),
        EveryStep (step? setting) (Conforms setting)
          .initial actions →
        run? (step? setting) .initial actions = some final →
        FailSafe setting final := by
  intro always
  have safe :=
    always sample (handshake (.status ndConnectionAborted))
      (.afterHandshake (.status ndConnectionAborted))
      (by decide) rfl
  have accepted := (safe.established (by decide)).accept
  exact absurd accepted (by decide)

/--
In every run of a conforming provider, a Read that has been posted rests on an
established session exactly when no unchecked call of either party has failed.
-/
theorem established_iff_of_run
    (setting : Setting)
    {actions : List Action}
    {final : State}
    (permitted :
      EveryStep (step? setting) (Conforms setting) .initial actions)
    (ran : run? (step? setting) .initial actions = some final)
    (somePosted : final.posted ≠ []) :
    Established final ↔ Unfailing final :=
  (invariant_of_everyStep
    (fun invariant conforms stepped =>
      Invariant.step invariant conforms stepped)
    (invariant_initial setting) permitted ran).established_iff somePosted

/-- After a handshake whose `Accept` fails, a failed call is on record. -/
theorem established_sample :
    ¬ Unfailing (.afterHandshake (.status ndConnectionAborted)) := by
  have establishedIff :=
    established_iff_of_run sample
      (show EveryStep _ _ _
        (handshake (.status ndConnectionAborted)) by decide)
      (rfl : _ = some
        (State.afterHandshake (.status ndConnectionAborted)))
      (by decide)
  intro unfailing
  exact absurd (establishedIff.mpr unfailing).accept (by decide)

/-!
### The session that is started
-/

/--
Whatever the provider does, the two Win32 handles start a session of
`Server::run`, and every posted Read is the one that its read loop posts.
-/
theorem posted_by_session_of_run
    {setting : Setting}
    {privateData : List UInt8}
    {beyond : Bytes}
    {answers : Server.MappingAnswers}
    (channel : setting.channel = block privateData beyond)
    (token : setting.localToken = answers.localToken)
    {actions : List Action}
    {final : State}
    (ran : run? (step? setting) .initial actions = some final)
    (mapped :
      (Server.Call.createFileMapping,
          Outcome.handle answers.fileMapping) ∈
        final.server.done)
    (viewed :
      (Server.Call.mapViewOfFile, Outcome.handle answers.view) ∈
        final.server.done) :
    ∃ session,
      Server.run privateData beyond answers = .ok session ∧
        ∀ request ∈ final.posted, request = session.request := by
  have ordered : Ordered setting final :=
    invariant_of_run Ordered.step (ordered_initial setting) ran
  have fileMapping :=
    ordered.handle_ne_zero List.mem_cons_self mapped
  have view :=
    ordered.handle_ne_zero
      (List.mem_cons_of_mem _ List.mem_cons_self) viewed
  refine ⟨_, Server.run_eq_ok_iff.mpr ⟨fileMapping, view, rfl⟩, ?_⟩
  intro request member
  rw [(ordered.posted request member).2, ordered.view_eq viewed, channel,
    token]
  rfl

/-- The Read after a handshake is that of the session it starts. -/
theorem posted_by_session_sample :
    ∃ session,
      Server.run sample.privateData (fun _ => 0) .succeeding =
          .ok session ∧
        ∀ request ∈ (State.afterHandshake .success).posted,
          request = session.request :=
  posted_by_session_of_run
    (show sample.channel = block sample.privateData fun _ => 0 from rfl)
    rfl
    (rfl : run? (step? sample) .initial (handshake .success) =
      some (.afterHandshake .success))
    (by decide) (by decide)

end Session

end GameCapturer
