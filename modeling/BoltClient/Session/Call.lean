import BoltClient.Session.Basic

/-!
The calls that a session offers, as data. A transaction runs its calls in order
and stops at the first that fails; what they gave is reported whatever becomes of
the transaction.
-/

namespace BoltClient.Session

inductive Call where
  | request (request : Request)
  | prepare
  | execute (query : Query)
  | fetchAll (query : Query)
  | runQuery (query : Query) (read : Decoder Value)
  | state
  | transaction (options : TransactionOptions) (body : List Call) (abort : Option String)

/-- What a call gives. A call of a transaction that failed leaves no result. -/
inductive Call.Result where
  | prepared
  | output (output : Request.Output)
  | fetched (result : QueryResult)
  | rows (rows : List Value)
  | state (state : ServerState)
  | transaction (body : List (Option Result)) (result : Except Fault Nat)
  | failed (fault : Fault)

namespace Call

def Result.ofExcept {α : Type} (result : α → Result) : Except Fault α → Result
  | .ok value => result value
  | .error fault => .failed fault

/-- The end of a transaction body that has run to its end: the number of its calls,
unless it is to be aborted. -/
def bodyResult (count : Nat) : Option String → Except Fault Nat
  | none => .ok count
  | some text => .error (.settings (.reported text))

mutual

/-- What a call does. -/
def program (settings : SessionSettings) : Call → Session Result
  | request .goodbye => Result.ofExcept .output <$> goodbye.run
  | request other => Result.ofExcept .output <$> (perform other).run
  | prepare => Result.ofExcept (fun _ => .prepared) <$> (Session.prepare settings).run
  | execute query =>
    Result.ofExcept (fun metadata => .output (.metadata metadata)) <$>
      (Session.execute settings query).run
  | fetchAll query => Result.ofExcept .fetched <$> (Session.fetchAll settings query).run
  | runQuery query read => Result.ofExcept .rows <$> (Session.runQuery settings query read).run
  | state => Result.state <$> current
  | transaction options body abort => do
    let (report, result) ← reportTransaction settings options do
      let (results, fault?) ← inOrder settings body
      return (results, match fault? with
        | some fault => .error fault
        | none => bodyResult body.length abort)
    return .transaction (report.getD []) result
termination_by structural call => call

/-- The results of calls up to the first that fails, and its fault. -/
def inOrder (settings : SessionSettings) : List Call → Session (List (Option Result) × Option Fault)
  | [] => return ([], none)
  | call :: rest => do
    match ← program settings call with
    | .failed fault | .transaction _ (.error fault) => return ([none], some fault)
    | result => do
      let (results, fault?) ← inOrder settings rest
      return (some result :: results, fault?)
termination_by structural calls => calls

end

end Call
end BoltClient.Session
