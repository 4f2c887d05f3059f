import BoltClient.Message.Metadata
import BoltClient.Protocol.Fault

/-!
What a server sends: records, and summaries that end an answer. The records of
an answer are gathered until its summary arrives; a message that is refused
leaves those gathered so far as they were.
-/

namespace BoltClient

/-- The end of an answer. -/
inductive Summary where
  | success (metadata : SuccessMetadata)
  | failure (metadata : FailureMetadata)
  | ignored

namespace Summary

/-- Whether records are left behind this summary. -/
def streaming : Summary → Bool
  | success metadata => metadata.streaming
  | _ => false

def isSuccess : Summary → Bool
  | success _ => true
  | _ => false

def qid : Summary → Option Int64
  | success metadata => metadata.qid
  | _ => none

end Summary

/-- A whole answer: the records, each as its fields, and the summary. -/
structure Response where
  records : List (List Value)
  summary : Summary

namespace Response

/-- The records and what the summary says of them. An answer that is no success is a fault. -/
def result (response : Response) : Except ProtocolFault (List (List Value) × SuccessMetadata) :=
  match response.summary with
  | .success metadata => .ok (response.records, metadata)
  | .failure metadata => .error (.failed metadata.code metadata.message)
  | .ignored => .error .ignored

def metadata (response : Response) : Except ProtocolFault SuccessMetadata :=
  response.result.map Prod.snd

/-! The messages as structures. -/

def recordForm : StructureForm (List Value) where
  signature := 0x71
  arity := 1
  fields row := [.list row]
  ofFields?
    | [row] => some row.asList
    | _ => none

def successForm : StructureForm SuccessMetadata where
  signature := 0x70
  arity := 1
  fields metadata := [metadata.toValue]
  ofFields?
    | [metadata] => some (StructureForm.field 0 SuccessMetadata.decoder metadata)
    | _ => none

def failureForm : StructureForm FailureMetadata where
  signature := 0x7f
  arity := 1
  fields metadata := [metadata.toValue]
  ofFields?
    | [metadata] => some (StructureForm.field 0 FailureMetadata.decoder metadata)
    | _ => none

def ignoredForm : StructureForm Unit where
  signature := 0x7e
  arity := 0
  fields _ := []
  ofFields?
    | [] => some (.ok ())
    | _ => none

end Response

/-- One message of a server. -/
inductive ServerMessage where
  | record (fields : List Value)
  | summary (summary : Summary)

namespace ServerMessage

open Response

def ofStructure (tagged : Structure) : Except ProtocolFault ServerMessage :=
  if tagged.signature = recordForm.signature then
    ((recordForm.ofStructure tagged).map record).mapError .codec
  else if tagged.signature = successForm.signature then
    ((successForm.ofStructure tagged).map (summary ∘ .success)).mapError .codec
  else if tagged.signature = failureForm.signature then
    ((failureForm.ofStructure tagged).map (summary ∘ .failure)).mapError .codec
  else if tagged.signature = ignoredForm.signature then
    ((ignoredForm.ofStructure tagged).map fun _ => summary .ignored).mapError .codec
  else .error (.unknownResponse tagged.signature)

def ofValue (value : Value) : Except ProtocolFault ServerMessage :=
  match value.structure? with
  | some tagged => ofStructure tagged
  | none => .error (.notStructure value.kindName)

end ServerMessage

/-- The records that wait for their summary. -/
abbrev Gathered := List (List Value)

namespace Gathered

/-- Takes one message: a record is added, a summary completes the answer. -/
def push (gathered : Gathered) (message : Value) :
    Except ProtocolFault (Option Response) × Gathered :=
  match ServerMessage.ofValue message with
  | .error fault => (.error fault, gathered)
  | .ok (.record fields) => (.ok none, gathered ++ [fields])
  | .ok (.summary summary) => (.ok (some ⟨gathered, summary⟩), [])

/-- Takes messages one after the other; answers what each of them gave. -/
def pushAll (gathered : Gathered) :
    List Value → List (Except ProtocolFault (Option Response) × Gathered)
  | [] => []
  | message :: rest =>
    let step := gathered.push message
    step :: pushAll step.2 rest

end Gathered
end BoltClient
