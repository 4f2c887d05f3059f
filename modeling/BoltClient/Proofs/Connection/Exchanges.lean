import BoltClient.Proofs.Connection.History

/-!
The requests of a history. What waits in a queue is a kind and some bytes; the requests that these
stand for are found by their order, since a queue keeps to the order of submission and summaries
keep to the order of the requests that were written. So each exchange of a history has its
request, with all that it asks for.
-/

namespace BoltClient.Connection

/-- The requests that can be packed, in the order in which they were submitted. -/
def packable (journal : Journal) : List Request :=
  ((collect Notes.submitted journal).map Prod.snd).filter (·.encode.toOption.isSome)

/-- The requests that were written, each with its turn. -/
def written (journal : Journal) : List (Request × Turn) :=
  ((packable journal).zip (collect Notes.turns journal)).filter (·.2.isAllowed)

/-- The requests that were answered by the server, each with its summary. -/
def exchanges (journal : Journal) : List (Request × Summary) :=
  ((written journal).zip (collect Notes.heard journal)).map fun (sent, answer) =>
    (sent.1, answer.2)

/-- Two lists, one of which goes on like the other begins, can be zipped without loss. -/
theorem zip_of_prefix {α β γ : Type} {first : List α} {second : List β} {left : α → γ}
    {right : β → γ} (begins : second.map right <+: first.map left) :
    (first.zip second).map Prod.snd = second ∧
      ∀ pair ∈ first.zip second, left pair.1 = right pair.2 := by
  induction second generalizing first with
  | nil => simp
  | cons entry second ih =>
    cases first with
    | nil =>
      have none := List.prefix_nil.1 begins
      cases none
    | cons item first =>
      obtain ⟨same, later⟩ := List.cons_prefix_cons.1 begins
      obtain ⟨whole, agree⟩ := ih later
      rw [List.zip_cons_cons, List.map_cons, whole]
      exact ⟨rfl, List.forall_mem_cons.2 ⟨same.symm, agree⟩⟩

/-- What is put into the queue is what the packable requests are packed to. -/
theorem packable_eq (journal : Journal) :
    (packable journal).map (fun request => (request.kind, request.encode)) =
      ((collect Notes.submitted journal).filterMap packed?).map fun queued =>
        (queued.kind, .ok queued.payload) := by
  unfold packable
  induction collect Notes.submitted journal with
  | nil => rfl
  | cons submission rest ih =>
    obtain ⟨ticket, request⟩ := submission
    cases packed : request.encode with
    | error fault => simpa [packed?, packed, Except.toOption] using ih
    | ok payload => simpa [packed?, packed, Except.toOption] using ih

/-- The requests that were written are those of the log. -/
theorem Reached.written_eq {versions : List Version} {journal : Journal} {connection : Connection}
    (reached : Reached versions journal connection) :
    (written journal).map Prod.snd = log journal ∧
      ∀ sent ∈ written journal, sent.1.kind = sent.2.request.kind ∧
        sent.1.encode = .ok sent.2.request.payload := by
  have begins : (collect Notes.turns journal).map Turn.request <+:
      (collect Notes.submitted journal).filterMap packed? := by
    apply List.IsPrefix.trans _ reached.admitted.inOrder
    rw [reached.ordered.queue]
    exact List.prefix_append ..
  have same := begins.map fun queued =>
    (queued.kind, (.ok queued.payload : Except CodecFault Bytes))
  rw [← packable_eq, List.map_map] at same
  obtain ⟨whole, agree⟩ := zip_of_prefix same
  constructor
  · calc
      (written journal).map Prod.snd =
          (((packable journal).zip (collect Notes.turns journal)).map Prod.snd).filter
            Turn.isAllowed := by rw [List.filter_map]; rfl
      _ = log journal := by rw [whole, log]
  · intro sent member
    exact Prod.mk.inj (agree sent (List.mem_filter.1 member).1)

/-- Each exchange of the history has its request. -/
theorem Reached.exchanges_eq {versions : List Version} {journal : Journal} {connection : Connection}
    (reached : Reached versions journal connection) :
    (exchanges journal).map (fun exchange => (exchange.1.kind, exchange.2)) =
      collect Notes.heard journal := by
  obtain ⟨logged, requests⟩ := reached.written_eq
  have kinds : (log journal).map (·.request.kind) = (written journal).map (·.1.kind) := by
    rw [← logged, List.map_map]
    apply List.map_congr_left
    intro sent member
    exact (requests sent member).1.symm
  have begins := reached.served.heard_prefix reached.tracked
  rw [kinds] at begins
  obtain ⟨whole, agree⟩ := zip_of_prefix begins
  rw [exchanges, List.map_map]
  calc
    _ = ((written journal).zip (collect Notes.heard journal)).map Prod.snd := by
      apply List.map_congr_left
      intro pair member
      exact Prod.ext (agree pair member) rfl
    _ = collect Notes.heard journal := whole

end BoltClient.Connection
