import BoltClient.Proofs.Connection.History

/-!
Nothing is asked of a server that does not know who asks. A request of a session is written only
behind a HELLO and a LOGON that have succeeded, and when no LOGOFF has succeeded since; and a
client logs on only when it has greeted the server and is not logged on. Each state says which
part of the conversation its history has come to, and every passage keeps that.
-/

namespace BoltClient.Connection

def Greeted (history : History) : Prop := ∃ exchange ∈ history, Succeeded .hello exchange

/-- That a HELLO has succeeded, a LOGON behind it, and no LOGOFF since. -/
def LoggedOn (history : History) : Prop :=
  ∃ before greeting between logon after, history = before ++ greeting :: between ++ logon :: after ∧
    Succeeded .hello greeting ∧ Succeeded .logon logon ∧
    ∀ exchange ∈ after, ¬ Succeeded .logoff exchange

theorem Greeted.append {history : History} (greeted : Greeted history) (later : History) :
    Greeted (history ++ later) := by
  obtain ⟨exchange, member, succeeded⟩ := greeted
  exact ⟨exchange, List.mem_append_left later member, succeeded⟩

theorem LoggedOn.greeted {history : History} (loggedOn : LoggedOn history) : Greeted history := by
  obtain ⟨before, greeting, between, logon, after, rfl, succeeded, -, -⟩ := loggedOn
  refine ⟨greeting, ?_, succeeded⟩
  apply List.mem_append_left
  exact List.mem_append_right before List.mem_cons_self

/-- Whatever else is answered, a client stays logged on. -/
theorem LoggedOn.concat {history : History} (loggedOn : LoggedOn history)
    {exchange : Request.Kind × Summary} (stays : ¬ Succeeded .logoff exchange) :
    LoggedOn (history ++ [exchange]) := by
  obtain ⟨before, greeting, between, logon, after, rfl, greeted, logged, none⟩ := loggedOn
  refine ⟨before, greeting, between, logon, after ++ [exchange], ?_, greeted, logged, ?_⟩
  · rw [List.append_assoc _ (logon :: after), List.cons_append]
  · intro other member
    rcases List.mem_append.1 member with earlier | last
    · exact none other earlier
    · rw [List.mem_singleton.1 last]
      exact stays

/-- A greeted client that logs on is logged on. -/
theorem Greeted.logsOn {history : History} (greeted : Greeted history)
    {exchange : Request.Kind × Summary} (succeeded : Succeeded .logon exchange) :
    LoggedOn (history ++ [exchange]) := by
  obtain ⟨greeting, member, hello⟩ := greeted
  obtain ⟨before, between, rfl⟩ := List.append_of_mem member
  refine ⟨before, greeting, between, exchange, [], rfl, hello, succeeded, ?_⟩
  intro other member
  cases member

/-- A client that logs off is logged on no more. -/
theorem not_loggedOn_concat {history : History} {exchange : Request.Kind × Summary}
    (leaves : Succeeded .logoff exchange) : ¬ LoggedOn (history ++ [exchange]) := by
  rintro ⟨before, greeting, between, logon, after, shape, -, logged, none⟩
  rcases concat_eq_append_cons shape with ⟨-, rfl, -⟩ | ⟨inside, rfl, -⟩
  · cases leaves.1.symm.trans logged.1
  · exact none exchange (List.mem_append_right inside (List.mem_singleton_self _)) leaves

/-- What is known of the history in each state. -/
structure Authenticated (history : History) (state : ServerState) : Prop where
  fresh : state = .negotiation → history = []
  greeted : state = .authentication → Greeted history ∧ ¬ LoggedOn history
  session : state.inSession = true → LoggedOn history

/-- Every passage keeps to what the next state says of the history. -/
theorem Authenticated.step {history : History} {state next : ServerState} {kind : Request.Kind}
    {summary : Summary} (before : Authenticated history state)
    (passage : kind.Passage summary state next) :
    Authenticated (history ++ [(kind, summary)]) next := by
  cases passage with
  | hello =>
    cases success : summary.isSuccess with
    | false => constructor <;> intro same <;> cases same
    | true =>
      refine ⟨nofun, fun _ => ?_, nofun⟩
      rw [before.fresh rfl]
      refine ⟨⟨_, List.mem_singleton_self _, rfl, success⟩, ?_⟩
      rintro ⟨front, greeting, between, logon, after, shape, -⟩
      have lengths := congrArg List.length shape
      simp only [List.length_append, List.length_cons, List.length_nil] at lengths
      omega
  | logon =>
    cases success : summary.isSuccess with
    | false => constructor <;> intro same <;> cases same
    | true => exact ⟨nofun, nofun, fun _ => (before.greeted rfl).1.logsOn ⟨rfl, success⟩⟩
  | logoff inside =>
    cases success : summary.isSuccess with
    | false => constructor <;> intro same <;> cases same
    | true =>
      have greeted := (before.session inside).greeted
      exact ⟨nofun, fun _ => ⟨greeted.append _, not_loggedOn_concat ⟨rfl, success⟩⟩, nofun⟩
  | other working inside leads =>
    have stays : LoggedOn (history ++ [(kind, summary)]) :=
      (before.session inside).concat fun leaves => working.2.2 leaves.1
    rcases leads with session | rfl
    · refine ⟨?_, ?_, fun _ => stays⟩ <;> rintro rfl <;> cases session
    · exact ⟨nofun, nofun, nofun⟩

theorem Conversed.authenticated {history : History} {state : ServerState}
    (conversed : Conversed history state) : Authenticated history state := by
  induction conversed with
  | start => exact ⟨fun _ => rfl, nofun, nofun⟩
  | step _ allowed leads ih => exact ih.step (Request.Kind.passage allowed leads)

/-- In every run what is written is the handshake, or the bytes of one request that has its turn and
is allowed. Whenever a request has its turn and is allowed, it was submitted, and the history
consists of the requests that were written before with their summaries. A request that is neither
HELLO nor LOGON comes only behind a HELLO answered SUCCESS and a LOGON answered SUCCESS behind
that, with no LOGOFF answered SUCCESS since; and a LOGON only behind a HELLO answered SUCCESS,
and never when already logged on. -/
theorem writes_after_authentication (versions : List Version) (events : List Event) :
    let connection := ((start versions).run events).1
    let journal := (start versions).journal events
    let history := collect Notes.heard journal
    ∀ event,
      (bytesOf (connection.step event).2 ≠ [] →
        (∃ greeting, Handshake.request versions = .ok greeting ∧
          bytesOf (connection.step event).2 <+: greeting) ∨
        ∃ turn, turn ∈ (connection.notes event).turns ∧ turn.isAllowed = true ∧
          bytesOf (connection.step event).2 = turn.bytes) ∧
      ∀ turn, turn ∈ (connection.notes event).turns → turn.isAllowed = true →
        (∃ request, (turn.request.ticket, request) ∈ collect Notes.submitted journal ∧
          request.encode = .ok turn.request.payload ∧ turn.request.kind = request.kind) ∧
        history.map Prod.fst = (log journal).map (·.request.kind) ∧
        (turn.request.kind ≠ .hello → turn.request.kind ≠ .logon → LoggedOn history) ∧
        (turn.request.kind = .logon → Greeted history ∧ ¬ LoggedOn history) := by
  intro connection journal history event
  have reached : Reached versions journal connection := reached_run versions events
  refine ⟨?_, ?_⟩
  · intro sends
    rw [← reached.logged.offered]
    exact sent_of_step sends
  · intro turn comes allowed
    obtain ⟨running, -, state⟩ := running_of_turn comes
    have authenticated := (reached.conversed running).authenticated
    have sent : turn.request.kind.isAllowed connection.state = true := by
      rw [← state]
      exact allowed
    refine ⟨reached.submitted_of_turn comes, (reached.turn comes).2, ?_, ?_⟩
    · intro later logged
      exact authenticated.session (Request.Kind.inSession_of_isAllowed later logged sent)
    · intro logon
      rw [logon] at sent
      exact authenticated.greeted (Request.Kind.isAllowed_logon.1 sent)

/-- A RESET behind a HELLO and a LOGON that were both answered SUCCESS. -/
theorem reset_behind_logon :
    let success : Bytes := [0xB1, 0x70, 0xA0]
    let events := [.submit 0 (.hello { userAgent := "a/1" }), .submit 1 (.logon .anonymous),
      .submit 2 .reset] ++ opening ++ answered success ++ answered success
    let connection := ((start [.current]).run events).1
    let journal := (start [.current]).journal events
    (∃ turn, turn ∈ (connection.notes (.take .whole)).turns ∧ turn.request.kind = .reset ∧
      turn.isAllowed = true) ∧
    LoggedOn (collect Notes.heard journal) := by
  intro success events connection journal
  have comes : (connection.notes (.take .whole)).turns.map (fun turn =>
      (turn.request.kind, turn.isAllowed)) = [(.reset, true)] := by decide +kernel
  obtain ⟨turn, member, same⟩ := exists_turn comes
  obtain ⟨kind, allowed⟩ := Prod.mk.inj same
  obtain ⟨-, each⟩ := writes_after_authentication [.current] events (.take .whole)
  obtain ⟨-, -, later, -⟩ := each turn member allowed
  exact ⟨⟨turn, member, kind, allowed⟩, later (by rw [kind]; decide) (by rw [kind]; decide)⟩

end BoltClient.Connection
