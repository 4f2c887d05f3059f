import Mathlib.Data.List.Induction
import BoltClient.Message.Response

/-!
The answers that messages make up. `Conveys` lists the messages of a server with what they
convey; whatever else comes is refused. The records since the last summary are held, in order,
and nothing that is refused takes part in that. So each answer has the records between two
summaries, whatever stands among them.
-/

namespace BoltClient

open Response

namespace ServerMessage

/-- The messages of a server, as values, and what they convey. -/
inductive Conveys : Value → ServerMessage → Prop where
  | record (fields : List Value) : Conveys (.struct 0x71 [.list fields]) (.record fields)
  | success {content : Value} {metadata : SuccessMetadata}
    (read : SuccessMetadata.decoder content = .ok metadata) :
    Conveys (.struct 0x70 [content]) (.summary (.success metadata))
  | failure {content : Value} {metadata : FailureMetadata}
    (read : FailureMetadata.decoder content = .ok metadata) :
    Conveys (.struct 0x7F [content]) (.summary (.failure metadata))
  | ignored : Conveys (.struct 0x7E []) (.summary .ignored)

def signatures : List UInt8 := [0x70, 0x71, 0x7E, 0x7F]

/-- A structure under a signature of the server's messages, whatever its fields are. -/
def Known (message : Value) : Prop :=
  ∃ tagged, message.structure? = some tagged ∧ tagged.signature ∈ signatures

section Read

variable {α : Type} {form : StructureForm α} {fields : List Value} {said : ServerMessage}
  {fault : ProtocolFault} {view : α → ServerMessage}

/-- A structure under the signature of a form is understood if its fields are. -/
theorem fields_of_understood
    (understood : ((form.ofStructure ⟨form.signature, fields⟩).map view).mapError
      ProtocolFault.codec = .ok said) :
    ∃ data, form.ofFields? fields = some (.ok data) ∧ said = view data := by
  rw [StructureForm.ofStructure, if_neg (not_not_intro rfl)] at understood
  cases parts : form.ofFields? fields with
  | none =>
    rw [parts] at understood
    cases understood
  | some result =>
    rw [parts] at understood
    cases result with
    | error cause => cases understood
    | ok data =>
      cases understood
      exact ⟨data, rfl, rfl⟩

theorem codec_of_refused {result : Except CodecFault α}
    (refused : (result.map view).mapError ProtocolFault.codec = .error fault) :
    ∃ cause, fault = .codec cause := by
  cases result with
  | ok data => cases refused
  | error cause =>
    cases refused
    exact ⟨cause, rfl⟩

theorem decoded_of_field {index : Nat} {decode : Decoder α} {value : Value} {data : α}
    (read : StructureForm.field index decode value = .ok data) : decode value = .ok data := by
  rw [StructureForm.field] at read
  cases inner : decode value with
  | ok own =>
    rw [inner] at read
    cases read
    rfl
  | error cause =>
    rw [inner] at read
    cases read

theorem conveys_record
    (understood : ((recordForm.ofStructure ⟨0x71, fields⟩).map record).mapError
      ProtocolFault.codec = .ok said) : Conveys (.struct 0x71 fields) said := by
  obtain ⟨row, parts, rfl⟩ := fields_of_understood understood
  match fields with
  | [] | _ :: _ :: _ => cases parts
  | [content] =>
    cases content with
    | list items =>
      cases parts
      exact .record row
    | _ => cases parts

theorem conveys_success
    (understood : ((successForm.ofStructure ⟨0x70, fields⟩).map (summary ∘ .success)).mapError
      ProtocolFault.codec = .ok said) : Conveys (.struct 0x70 fields) said := by
  obtain ⟨metadata, parts, rfl⟩ := fields_of_understood understood
  match fields with
  | [] | _ :: _ :: _ => cases parts
  | [content] => exact .success (decoded_of_field (Option.some.inj parts))

theorem conveys_failure
    (understood : ((failureForm.ofStructure ⟨0x7F, fields⟩).map (summary ∘ .failure)).mapError
      ProtocolFault.codec = .ok said) : Conveys (.struct 0x7F fields) said := by
  obtain ⟨metadata, parts, rfl⟩ := fields_of_understood understood
  match fields with
  | [] | _ :: _ :: _ => cases parts
  | [content] => exact .failure (decoded_of_field (Option.some.inj parts))

theorem conveys_ignored
    (understood : ((ignoredForm.ofStructure ⟨0x7E, fields⟩).map fun _ => summary .ignored).mapError
      ProtocolFault.codec = .ok said) : Conveys (.struct 0x7E fields) said := by
  obtain ⟨_, parts, rfl⟩ := fields_of_understood understood
  cases fields with
  | nil => exact .ignored
  | cons => cases parts

end Read

section Understood

variable {message : Value} {said : ServerMessage} {fault : ProtocolFault}

theorem conveys_of_ofValue (understood : ofValue message = .ok said) : Conveys message said := by
  cases message with
  | struct signature fields =>
    change ofStructure ⟨signature, fields⟩ = _ at understood
    unfold ofStructure at understood
    split at understood
    · next same =>
      obtain rfl : signature = 0x71 := same
      exact conveys_record understood
    split at understood
    · next same =>
      obtain rfl : signature = 0x70 := same
      exact conveys_success understood
    split at understood
    · next same =>
      obtain rfl : signature = 0x7F := same
      exact conveys_failure understood
    split at understood
    · next same =>
      obtain rfl : signature = 0x7E := same
      exact conveys_ignored understood
    · cases understood
  | _ => cases understood

/-- A value is understood exactly if it is a message. -/
theorem ofValue_eq_ok_iff : ofValue message = .ok said ↔ Conveys message said := by
  refine ⟨conveys_of_ofValue, fun conveys => ?_⟩
  cases conveys with
  | record | ignored => rfl
  | @success content metadata read =>
    change ((((SuccessMetadata.decoder content).mapError _).map _).mapError _) = _
    rw [read]
    rfl
  | @failure content metadata read =>
    change ((((FailureMetadata.decoder content).mapError _).map _).mapError _) = _
    rw [read]
    rfl

/-- A structure under a known signature is refused for its fields, all else as no message. -/
theorem ofValue_eq_error (refused : ofValue message = .error fault) :
    Known message ∧ (∃ cause, fault = .codec cause) ∨
      ¬Known message ∧ fault.kind = .notValidResponse := by
  cases message with
  | struct signature fields =>
    have known (among : signature ∈ signatures) : Known (.struct signature fields) :=
      ⟨⟨signature, fields⟩, rfl, among⟩
    change ofStructure ⟨signature, fields⟩ = _ at refused
    unfold ofStructure at refused
    split at refused
    · next same =>
      obtain rfl : signature = 0x71 := same
      exact .inl ⟨known (by decide), codec_of_refused refused⟩
    split at refused
    · next same =>
      obtain rfl : signature = 0x70 := same
      exact .inl ⟨known (by decide), codec_of_refused refused⟩
    split at refused
    · next same =>
      obtain rfl : signature = 0x7F := same
      exact .inl ⟨known (by decide), codec_of_refused refused⟩
    split at refused
    · next same =>
      obtain rfl : signature = 0x7E := same
      exact .inl ⟨known (by decide), codec_of_refused refused⟩
    · next record success failure ignored =>
      cases refused
      refine .inr ⟨?_, rfl⟩
      rintro ⟨tagged, same, among⟩
      cases same
      simp only [signatures, List.mem_cons, List.not_mem_nil, or_false] at among
      rcases among with other | other | other | other
      · exact success other
      · exact record other
      · exact ignored other
      · exact failure other
  | _ =>
    cases refused
    refine .inr ⟨?_, rfl⟩
    rintro ⟨tagged, same, -⟩
    cases same

end Understood

/-- The fields of a record, if a value is one. -/
def row? : Value → Option (List Value)
  | .struct signature [.list fields] => if signature = 0x71 then some fields else none
  | _ => none

theorem Conveys.known {message : Value} {said : ServerMessage} (conveys : Conveys message said) :
    Known message := by
  cases conveys <;> exact ⟨_, rfl, by simp [signatures]⟩

theorem row?_eq_some_iff {message : Value} {fields : List Value} :
    row? message = some fields ↔ Conveys message (.record fields) := by
  constructor
  · intro row
    unfold row? at row
    split at row
    · split at row
      · next same =>
        cases row
        exact same ▸ .record _
      · cases row
    · cases row
  · rintro ⟨⟩
    rfl

/-- That an answer ends with a value. -/
def EndsAnswer (message : Value) : Prop := ∃ content, Conveys message (.summary content)

end ServerMessage

open ServerMessage

namespace Gathered

/-- What a message gives, and what is held behind it: a record joins the others, a summary
takes them all, and what is refused leaves them. -/
inductive Taken (held : Gathered) (message : Value) :
    Except ProtocolFault (Option Response) → Gathered → Prop where
  | record {fields : List Value} (conveys : Conveys message (.record fields)) :
    Taken held message (.ok none) (held ++ [fields])
  | summary {content : Summary} (conveys : Conveys message (.summary content)) :
    Taken held message (.ok (some ⟨held, content⟩)) []
  /-- a message with too many fields, too few or other ones -/
  | malformed (known : Known message) (empty : ∀ said, ¬Conveys message said)
    (cause : CodecFault) : Taken held message (.error (.codec cause)) held
  /-- no structure, or one under another signature -/
  | foreign (unknown : ¬Known message) (fault : ProtocolFault)
    (kind : fault.kind = .notValidResponse) : Taken held message (.error fault) held

theorem push_taken (held : Gathered) (message : Value) :
    Taken held message (held.push message).1 (held.push message).2 := by
  rw [push]
  cases read : ofValue message with
  | error fault =>
    rcases ofValue_eq_error read with ⟨known, cause, rfl⟩ | ⟨unknown, kind⟩
    · refine .malformed known (fun said conveys => ?_) cause
      cases read.symm.trans (ofValue_eq_ok_iff.2 conveys)
    · exact .foreign unknown fault kind
  | ok said =>
    have conveys := ofValue_eq_ok_iff.1 read
    cases said with
    | record fields => exact .record conveys
    | summary content => exact .summary conveys

/-- The records that are held behind messages. -/
def held (messages : List Value) : Gathered :=
  ((pushAll [] messages).map Prod.snd).getLastD []

/-- The answers that messages complete. -/
def answers (messages : List Value) : List Response :=
  (pushAll [] messages).filterMap fun step => step.1.toOption.join

theorem pushAll_append (gathered : Gathered) (first second : List Value) :
    pushAll gathered (first ++ second) = pushAll gathered first ++
      pushAll (((pushAll gathered first).map Prod.snd).getLastD gathered) second := by
  induction first generalizing gathered with
  | nil => rfl
  | cons message rest ih =>
    rw [List.cons_append, pushAll, ih, pushAll, List.cons_append, List.map_cons,
      List.getLastD_cons]

theorem length_pushAll (gathered : Gathered) (messages : List Value) :
    (pushAll gathered messages).length = messages.length := by
  induction messages generalizing gathered with
  | nil => rfl
  | cons message rest ih => rw [pushAll, List.length_cons, ih, List.length_cons]

theorem held_concat (messages : List Value) (message : Value) :
    held (messages ++ [message]) = ((held messages).push message).2 := by
  rw [held, pushAll_append, List.map_append]
  exact List.getLastD_concat

theorem answers_concat (messages : List Value) (message : Value) :
    answers (messages ++ [message]) =
      answers messages ++ ((held messages).push message).1.toOption.join.toList := by
  rw [answers, pushAll_append, List.filterMap_append]
  refine congrArg (answers messages ++ ·) ?_
  change [push (held messages) message].filterMap (fun step => step.1.toOption.join) = _
  rw [List.filterMap_cons]
  cases ((held messages).push message).1.toOption.join <;> rfl

/-- Messages cut behind the last summary: the answers are those that were completed before,
and the records behind it are held. -/
structure Cut (messages front stretch : List Value) : Prop where
  parts : messages = front ++ stretch
  closed : ∀ last ∈ front.getLast?, EndsAnswer last
  pending : ∀ message ∈ stretch, ¬EndsAnswer message
  same : answers messages = answers front
  records : held messages = stretch.filterMap row?

section Run

variable {messages front stretch : List Value} {message : Value}

/-- A message that ends no answer belongs to those since the last summary. -/
theorem Cut.more (cut : Cut messages front stretch) (ends : ¬EndsAnswer message)
    (silent : ((held messages).push message).1.toOption.join = none)
    (kept : ((held messages).push message).2 = held messages ++ (row? message).toList) :
    Cut (messages ++ [message]) front (stretch ++ [message]) where
  parts := by rw [cut.parts, List.append_assoc]
  closed := cut.closed
  pending := List.forall_mem_append.2 ⟨cut.pending, List.forall_mem_singleton.2 ends⟩
  same := by rw [answers_concat, silent, Option.toList_none, List.append_nil, cut.same]
  records := by
    rw [held_concat, kept, cut.records, List.filterMap_append, List.filterMap_cons]
    cases row? message <;> rfl

theorem Cut.refused (cut : Cut messages front stretch)
    (empty : ∀ said, ¬Conveys message said) {fault : ProtocolFault}
    (given : (held messages).push message = (.error fault, held messages)) :
    Cut (messages ++ [message]) front (stretch ++ [message]) := by
  have none : row? message = none :=
    Option.eq_none_iff_forall_ne_some.2 fun fields row => empty _ (row?_eq_some_iff.1 row)
  refine cut.more (fun ⟨content, conveys⟩ => empty _ conveys) (by rw [given]; rfl) ?_
  rw [given, none, Option.toList_none, List.append_nil]

theorem exists_cut (messages : List Value) : ∃ front stretch, Cut messages front stretch := by
  induction messages using List.reverseRecOn with
  | nil => exact ⟨[], [], rfl, nofun, nofun, rfl, rfl⟩
  | append_singleton messages message ih =>
    obtain ⟨front, stretch, cut⟩ := ih
    have taken := push_taken (held messages) message
    generalize given : (held messages).push message = step at taken
    obtain ⟨outcome, left⟩ := step
    cases taken with
    | record conveys =>
      refine ⟨front, _, cut.more ?_ (by rw [given]; rfl) ?_⟩
      · rintro ⟨content, other⟩
        cases (ofValue_eq_ok_iff.2 conveys).symm.trans (ofValue_eq_ok_iff.2 other)
      · rw [given, row?_eq_some_iff.2 conveys]
        rfl
    | summary conveys =>
      refine ⟨messages ++ [message], [], (List.append_nil _).symm, ?_, nofun, rfl, ?_⟩
      · rw [List.getLast?_concat]
        rintro _ ⟨⟩
        exact ⟨_, conveys⟩
      · rw [held_concat, given]
        rfl
    | malformed known empty cause => exact ⟨front, _, cut.refused empty given⟩
    | foreign unknown fault kind =>
      exact ⟨front, _, cut.refused (fun said conveys => unknown conveys.known) given⟩

/-- An answer that a message completes has the records since the last summary. -/
theorem completed_of_push {response : Response}
    (given : ((held messages).push message).1.toOption.join = some response) :
    ∃ front stretch, messages = front ++ stretch ∧ answers messages = answers front ∧
      (∀ last ∈ front.getLast?, EndsAnswer last) ∧ (∀ other ∈ stretch, ¬EndsAnswer other) ∧
      Conveys message (.summary response.summary) ∧
      response.records = stretch.filterMap row? := by
  obtain ⟨front, stretch, cut⟩ := exists_cut messages
  have taken := push_taken (held messages) message
  generalize (held messages).push message = step at taken given
  obtain ⟨outcome, left⟩ := step
  cases taken with
  | record | malformed | foreign => cases given
  | summary conveys =>
    cases given
    exact ⟨front, stretch, cut.parts, cut.same, cut.closed, cut.pending, conveys, cut.records⟩

end Run

/-- Each message is taken as what it is. And each answer, be it the first or a later one, has the
records since the answer before it, in order, and the summary that completes it. -/
theorem answers_between_summaries (messages : List Value) :
    (∀ front message back, messages = front ++ message :: back →
      ∃ outcome left, (pushAll [] messages)[front.length]? = some (outcome, left) ∧
        Taken (held front) message outcome left) ∧
    ∀ count response, (answers messages)[count]? = some response →
      ∃ front stretch ending back, messages = front ++ stretch ++ ending :: back ∧
        (answers front).length = count ∧ (∀ last ∈ front.getLast?, EndsAnswer last) ∧
        (∀ message ∈ stretch, ¬EndsAnswer message) ∧
        Conveys ending (.summary response.summary) ∧
        response.records = stretch.filterMap row? := by
  constructor
  · rintro front message back rfl
    refine ⟨_, _, ?_, push_taken (held front) message⟩
    rw [pushAll_append, ← length_pushAll [] front, List.getElem?_append_right (Nat.le_refl _),
      Nat.sub_self]
    rfl
  · intro count response found
    induction messages using List.reverseRecOn with
    | nil => cases found
    | append_singleton messages message ih =>
      rw [answers_concat] at found
      by_cases early : count < (answers messages).length
      · rw [List.getElem?_append_left early] at found
        obtain ⟨front, stretch, ending, back, rfl, rest⟩ := ih found
        exact ⟨front, stretch, ending, back ++ [message], by simp, rest⟩
      · rw [List.getElem?_append_right (Nat.le_of_not_lt early)] at found
        have completed := List.mem_of_getElem? found
        rw [Option.mem_toList] at completed
        rw [completed] at found
        have last : count - (answers messages).length < 1 :=
          (List.getElem?_eq_some_iff.1 found).1
        obtain ⟨front, stretch, rfl, same, rest⟩ := completed_of_push completed
        exact ⟨front, stretch, message, [], rfl, by rw [← same]; omega, rest⟩

/-- The second of two answers, with a summary that cannot be read and an unknown structure
between its records. -/
theorem second_answer_amid_refused :
    let row (number : Int64) : Value := .struct 0x71 [.list [.integer number]]
    let broken : Value := .struct 0x70 [.integer 5]
    let messages : List Value := [row 1, .null, .struct 0x70 [.map []], row 2, broken,
      .struct 0x42 [], row 3, .struct 0x7E [.null], .struct 0x7E [], row 4]
    ∃ response, (answers messages)[1]? = some response ∧ response.records.length = 2 ∧
      ∃ front stretch ending back, messages = front ++ stretch ++ ending :: back ∧
        (answers front).length = 1 ∧ response.records = stretch.filterMap row? := by
  intro row broken messages
  obtain ⟨response, found, two⟩ : ∃ response, (answers messages)[1]? = some response ∧
      response.records.length = 2 := ⟨_, rfl, rfl⟩
  obtain ⟨front, stretch, ending, back, parts, count, -, -, -, records⟩ :=
    (answers_between_summaries messages).2 1 response found
  exact ⟨response, found, two, front, stretch, ending, back, parts, count, records⟩

end Gathered
end BoltClient
