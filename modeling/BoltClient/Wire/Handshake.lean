import BoltClient.Protocol.Fault
import BoltClient.Wire.Version

/-!
Version negotiation. The client sends a fixed preamble and up to four candidate
versions; the server answers with the version that it will speak, or with zero.
-/

namespace BoltClient.Handshake

/-- The bytes by which a server knows the protocol. -/
def preamble : Bytes := [0x60, 0x60, 0xb0, 0x17]

/-- The number of candidates that a request has room for. -/
def slots : Nat := 4

def defaultVersions : List Version := [.current, .zero, .zero, .zero]

def encodeVersion (version : Version) : Bytes := Bytes.ofNat 4 version.toNat

/-- The preamble and the candidates, filled up with the zero version. -/
def request (versions : List Version) : Except ProtocolFault Bytes :=
  if versions.isEmpty || slots < versions.length then
    .error (.candidateCount slots versions.length)
  else
    let filled := versions ++ List.replicate (slots - versions.length) .zero
    .ok (preamble ++ filled.flatMap encodeVersion)

/-- The version in the server's answer. Zero means that there is none in common. -/
def ofAnswer (answer : Bytes) : Except ProtocolFault Version :=
  let version := Version.ofNat (Bytes.toNat answer)
  if version.isZero then .error .noCommonVersion else .ok version

/-- The version that the server answers with at the front of its bytes, and the
bytes behind it; `none` while the answer is not complete. -/
def readAnswer? (input : Bytes) : Option (Except ProtocolFault (Version × Bytes)) :=
  (Bytes.split? 4 input).map fun (answer, rest) => (ofAnswer answer).map fun version => (version, rest)

/-- The negotiation with a peer that has answered all that it will; a peer that
is gone has no answer. The second part is what has been written. -/
def negotiate (versions : List Version) (reply? : Option Bytes) :
    Except ProtocolFault Version × Bytes :=
  match request versions, reply? with
  | .error fault, _ => (.error fault, [])
  | .ok _, none => (.error (.transport .brokenPipe), [])
  | .ok sent, some reply =>
    match readAnswer? reply with
    | none => (.error (.truncatedAnswer .earlyEnd), sent)
    | some answer => (answer.map Prod.fst, sent)

theorem length_encodeVersions (versions : List Version) :
    (versions.flatMap encodeVersion).length = 4 * versions.length := by
  induction versions with
  | nil => rfl
  | cons version rest ih =>
    rw [List.flatMap_cons, List.length_append, ih, encodeVersion, Bytes.length_ofNat,
      List.length_cons]
    omega

/-- A request is as long whatever the number of its candidates. -/
theorem length_of_request {versions : List Version} {bytes : Bytes}
    (written : request versions = .ok bytes) : bytes.length = 20 := by
  unfold request at written
  split at written
  · cases written
  · next fits =>
    rw [Bool.or_eq_true, decide_eq_true_eq, not_or, Nat.not_lt] at fits
    have few : versions.length ≤ 4 := fits.2
    cases written
    rw [List.length_append, length_encodeVersions, List.length_append, List.length_replicate]
    change 4 + 4 * (versions.length + (4 - versions.length)) = 20
    omega

end BoltClient.Handshake
