import BoltClient.Proofs.Connection.Journal

/-!
What a server has to say, read without a clock. The payloads of its stream are
messages up to the first that is broken; the records before each summary are the
response that it ends; and requests that are served in order, one response for
each that is allowed, have the outcomes that these responses give them.
-/

namespace BoltClient

/-- The messages of payloads, up to the first that is none. -/
def ServerMessage.understood : List Bytes → List ServerMessage
  | [] => []
  | payload :: rest =>
    match ofPayload payload with
    | .ok message => message :: understood rest
    | .error _ => []

theorem ServerMessage.understood_append {payloads : List Bytes} {messages : List ServerMessage}
    (sound : payloads.map ofPayload = messages.map .ok) (more : List Bytes) :
    understood (payloads ++ more) = messages ++ understood more := by
  induction payloads generalizing messages with
  | nil =>
    cases messages with
    | nil => rfl
    | cons message rest => cases sound
  | cons payload payloads ih =>
    cases messages with
    | nil => cases sound
    | cons message rest =>
      obtain ⟨first, later⟩ := List.cons.inj sound
      rw [List.cons_append, understood, first, List.cons_append]
      exact congrArg (message :: ·) (ih later)

namespace Response

/-- The responses in messages that follow the records gathered so far, and the records
that are left when the messages end. -/
def assemble (gathered : Gathered) : List ServerMessage → List Response × Gathered
  | [] => ([], gathered)
  | .record fields :: rest => assemble (gathered ++ [fields]) rest
  | .summary summary :: rest =>
    let (responses, left) := assemble [] rest
    (⟨gathered, summary⟩ :: responses, left)

theorem assemble_append (gathered : Gathered) (first second : List ServerMessage) :
    assemble gathered (first ++ second) =
      ((assemble gathered first).1 ++ (assemble (assemble gathered first).2 second).1,
        (assemble (assemble gathered first).2 second).2) := by
  induction first generalizing gathered with
  | nil => rfl
  | cons message rest ih =>
    cases message with
    | record fields => exact ih (gathered ++ [fields])
    | summary summary =>
      rw [List.cons_append, assemble, ih []]
      rfl

/-- The responses that payloads hold. -/
def ofPayloads (payloads : List Bytes) : List Response :=
  (assemble [] (ServerMessage.understood payloads)).1

end Response

/-- The outcomes of requests that are served in order, from a state on, while there are
responses for those that are allowed. -/
def Outcome.served (state : ServerState) : List Request.Kind → List Response → List Outcome
  | [], _ => []
  | kind :: later, responses =>
    if state.isTerminal then .error .shutDown :: served state later responses
    else if kind.isAllowed state then
      match responses with
      | [] => []
      | response :: rest =>
        match kind.nextState state response.summary with
        | some next => .ok response :: served next later rest
        | none => []
    else .error (.forbidden kind.name state) :: served state later responses

namespace Outcome

variable {state next : ServerState} {kind : Request.Kind}

theorem served_barred (alive : state.isTerminal = false) (barred : kind.isAllowed state = false)
    (later : List Request.Kind) (responses : List Response) :
    served state (kind :: later) responses =
      .error (.forbidden kind.name state) :: served state later responses := by
  simp [served, alive, barred]

theorem served_answered (alive : state.isTerminal = false) (allowed : kind.isAllowed state = true)
    {summary : Summary} (leads : kind.nextState state summary = some next) (records : Gathered)
    (later : List Request.Kind) (rest : List Response) :
    served state (kind :: later) (⟨records, summary⟩ :: rest) =
      .ok ⟨records, summary⟩ :: served next later rest := by
  simp [served, alive, allowed, leads]

theorem served_defunct (queue later : List Request.Kind) (responses : List Response) :
    served .defunct (queue ++ later) responses =
      queue.map (fun _ => .error .shutDown) ++ served .defunct later responses := by
  induction queue with
  | nil => rfl
  | cons kind rest ih => simpa [served, ServerState.isTerminal] using ih

end Outcome
end BoltClient
