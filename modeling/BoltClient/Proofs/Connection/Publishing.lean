import BoltClient.Proofs.Connection.Journal

/-!
What is known outside when an answer is given. A step first publishes what has
become of the connection and then answers, so whoever is answered and looks finds
the status that the step leads to, and never the one before it. Nothing else is
ever published.
-/

namespace BoltClient.Connection

/-- The status that was published last, behind some effects. -/
def published (status : Status) : List Effect → Status
  | [] => status
  | .publish next :: rest => published next rest
  | _ :: rest => published status rest

/-- That effects publish `final` in the end, and answer only when it is published. -/
inductive Announces (final : Status) : Status → List Effect → Prop where
  | nil : Announces final final []
  | write {status : Status} {rest : List Effect} (bytes : Bytes)
    (later : Announces final status rest) : Announces final status (.write bytes :: rest)
  | publish {next : Status} {rest : List Effect} (status : Status)
    (later : Announces final next rest) : Announces final status (.publish next :: rest)
  | answer {rest : List Effect} (ticket : Nat) (outcome : Outcome)
    (later : Announces final final rest) : Announces final final (.answer ticket outcome :: rest)

theorem published_append (status : Status) (first second : List Effect) :
    published status (first ++ second) = published (published status first) second := by
  induction first generalizing status with
  | nil => rfl
  | cons effect rest ih => cases effect <;> exact ih _

theorem Announces.published_eq {final status : Status} {effects : List Effect}
    (announces : Announces final status effects) : published status effects = final := by
  induction announces with
  | nil => rfl
  | write _ _ ih | publish _ _ ih | answer _ _ _ ih => exact ih

/-- Before each answer the last status has been published. -/
theorem Announces.published_before {final status : Status} {before later : List Effect}
    {ticket : Nat} {outcome : Outcome}
    (announces : Announces final status (before ++ .answer ticket outcome :: later)) :
    published status before = final := by
  induction before generalizing status with
  | nil =>
    cases announces with
    | answer => rfl
  | cons effect rest ih =>
    cases announces with
    | write bytes goesOn => exact ih goesOn
    | publish _ goesOn => exact ih goesOn
    | answer _ _ goesOn => exact ih goesOn

section Steps

variable (connection : Connection)

theorem abandon_announces :
    Announces connection.abandon.1.status connection.status connection.abandon.2 :=
  .publish _ .nil

theorem fail_announces (ticket : Nat) (fault : ProtocolFault) :
    Announces (connection.fail ticket fault).1.status connection.status
      (connection.fail ticket fault).2 :=
  .publish _ (.answer _ _ .nil)

theorem submit_announces (ticket : Nat) (request : Request) :
    Announces (connection.submit ticket request).1.status connection.status
      (connection.submit ticket request).2 := by
  unfold submit
  split
  · exact .answer _ _ .nil
  · split
    · exact .answer _ _ .nil
    · exact .nil

theorem greet_announces (delivery : Delivery) :
    Announces (connection.greet delivery).1.status connection.status
      (connection.greet delivery).2 := by
  unfold greet
  split
  · exact connection.abandon_announces
  · cases delivery with
    | whole => exact .write _ .nil
    | cut count fault => exact .write _ connection.abandon_announces

theorem negotiate_announces :
    Announces connection.negotiate.1.status connection.status connection.negotiate.2 := by
  unfold negotiate
  split
  · exact .publish _ .nil
  · exact connection.abandon_announces
  · exact connection.abandon_announces
  · exact .nil

theorem watch_announces :
    Announces connection.watch.1.status connection.status connection.watch.2 := by
  unfold watch
  split
  · exact .nil
  · split
    · exact connection.abandon_announces
    · exact .nil

theorem finish_announces (ticket : Nat) (kind : Request.Kind) (response : Response) :
    Announces (connection.finish ticket kind response).1.status connection.status
      (connection.finish ticket kind response).2 := by
  unfold finish
  split
  · exact connection.fail_announces ticket _
  · exact .publish _ (.answer _ _ .nil)

theorem takeMessage_announces (ticket : Nat) (kind : Request.Kind) (message : Bytes) :
    Announces (connection.takeMessage ticket kind message).1.status connection.status
      (connection.takeMessage ticket kind message).2 := by
  unfold takeMessage
  split
  · exact connection.fail_announces ticket _
  · split
    · exact connection.fail_announces ticket _
    · exact .nil
    · next gathered _ =>
      exact finish_announces { connection with gathered } ticket kind _

theorem readOn_announces (ticket : Nat) (kind : Request.Kind) :
    Announces (connection.readOn ticket kind).1.status connection.status
      (connection.readOn ticket kind).2 := by
  unfold readOn
  split
  · next rest _ =>
    exact takeMessage_announces { connection with incoming := rest } ticket kind _
  · exact connection.fail_announces ticket _
  · exact .nil

theorem serve_announces (next : Queued) (rest : List Queued) (delivery : Delivery) :
    Announces (connection.serve next rest delivery).1.status connection.status
      (connection.serve next rest delivery).2 := by
  unfold serve
  simp only
  split
  · cases delivery with
    | whole => exact .write _ .nil
    | cut count fault =>
      exact .write _ (fail_announces { connection with queue := rest } next.ticket _)
  · exact .answer _ _ .nil

theorem drain_announces : Announces connection.status connection.status connection.drain.2 := by
  unfold drain
  induction connection.queue with
  | nil => exact .nil
  | cons queued rest ih => exact .answer _ _ ih

/-- Every step publishes before it answers. -/
theorem step_announces (event : Event) :
    Announces (connection.step event).1.status connection.status (connection.step event).2 := by
  cases event with
  | submit ticket request => exact connection.submit_announces ticket request
  | opened delivery =>
    simp only [step]
    split
    · exact connection.greet_announces delivery
    · exact .nil
  | unreachable fault =>
    simp only [step]
    split
    · exact connection.abandon_announces
    · exact .nil
  | receive bytes =>
    simp only [step]
    split <;> exact .nil
  | hangUp ending => exact .nil
  | take delivery =>
    simp only [step]
    split
    · exact connection.serve_announces _ _ delivery
    · exact .nil
  | poll =>
    simp only [step]
    split
    · exact connection.negotiate_announces
    · exact connection.watch_announces
    · exact connection.readOn_announces _ _
    · exact .nil
  | drain =>
    simp only [step]
    split
    · exact connection.drain_announces
    · exact .nil

end Steps

/-- What was published last in a run is the status of the connection. -/
theorem published_run (connection : Connection) (events : List Event) :
    published connection.status (connection.run events).2 = (connection.run events).1.status := by
  induction events generalizing connection with
  | nil => rfl
  | cons event rest ih =>
    rw [run, published_append, (connection.step_announces event).published_eq]
    exact ih (connection.step event).1

section Statuses

variable {status : Status}

theorem status_of_abandon (connection : Connection) :
    .publish status ∈ connection.abandon.2 → status = connection.abandon.1.status := by
  simp [abandon, announce]

theorem status_of_fail (connection : Connection) (ticket : Nat) (fault : ProtocolFault) :
    .publish status ∈ (connection.fail ticket fault).2 →
      status = (connection.fail ticket fault).1.status := by
  simp [fail, announce]

theorem status_of_takeMessage (connection : Connection) (ticket : Nat) (kind : Request.Kind)
    (message : Bytes) :
    .publish status ∈ (connection.takeMessage ticket kind message).2 →
      status = (connection.takeMessage ticket kind message).1.status := by
  unfold takeMessage
  split
  · exact status_of_fail connection ticket _
  · split
    · exact status_of_fail connection ticket _
    · exact nofun
    · unfold finish
      split
      · exact status_of_fail _ ticket _
      · simp [announce]

theorem status_of_serve (connection : Connection) (next : Queued) (rest : List Queued)
    (delivery : Delivery) :
    .publish status ∈ (connection.serve next rest delivery).2 →
      status = (connection.serve next rest delivery).1.status := by
  unfold serve
  simp only
  split
  · cases delivery with
    | whole => simp [send]
    | cut count fault => simp [send, lose, fail, announce]
  · simp

/-- What a step publishes is the status that it leads to. -/
theorem status_of_step (connection : Connection) (event : Event) :
    .publish status ∈ (connection.step event).2 → status = (connection.step event).1.status := by
  cases event with
  | submit ticket request =>
    simp only [step, submit]
    split
    · simp
    · split <;> simp
  | opened delivery =>
    simp only [step]
    split
    · unfold greet
      split
      · exact connection.status_of_abandon
      · cases delivery <;> simp [send, abandon, announce]
    · exact nofun
  | unreachable fault =>
    simp only [step]
    split
    · exact connection.status_of_abandon
    · exact nofun
  | receive bytes =>
    simp only [step]
    split <;> exact nofun
  | hangUp ending => exact nofun
  | take delivery =>
    simp only [step]
    split
    · exact connection.status_of_serve _ _ delivery
    · exact nofun
  | poll =>
    simp only [step]
    split
    · unfold negotiate
      split
      · simp [announce]
      · exact connection.status_of_abandon
      · exact connection.status_of_abandon
      · exact nofun
    · unfold watch
      split
      · exact nofun
      · split
        · exact connection.status_of_abandon
        · exact nofun
    · unfold readOn
      split
      · exact status_of_takeMessage _ _ _ _
      · exact connection.status_of_fail _ _
      · exact nofun
    · exact nofun
  | drain =>
    simp only [step]
    split
    · simp [drain]
    · exact nofun

end Statuses

end BoltClient.Connection
