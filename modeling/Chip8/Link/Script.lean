import Chip8.Link.Session

/-!
A link that follows a script: each request for a byte takes the next reply and each sending the next
result. Past the end of the script no byte comes and every sending succeeds. The link keeps what was
asked of it and what was noted.
-/

namespace Chip8

/-- A call on the link and how it went. -/
inductive LinkEvent where
  | sent (bytes : Bytes)
  | received (timeout : Int) (byte : UInt8)
  | failed (timeout : Int)
  | silent (timeout : Int)
  deriving DecidableEq, Repr

/-- A link that answers from a script. -/
structure ScriptedLink where
  replies : List (Except LinkError UInt8)
  results : List (Except LinkError Unit)
  trace : List LinkEvent
  log : Bytes

namespace ScriptedLink

def handle : Program.Handler Link ScriptedLink
  | .receive timeout, s =>
    match s.replies with
    | [] => (.ok (.error (.noResponse timeout)), { s with trace := s.trace ++ [.silent timeout] })
    | .ok b :: rest => (.ok (.ok b), { s with replies := rest, trace := s.trace ++ [.received timeout b] })
    | .error e :: rest => (.ok (.error e), { s with replies := rest, trace := s.trace ++ [.failed timeout] })
  | .send bytes, s =>
    match s.results with
    | [] => (.ok (.ok ()), { s with trace := s.trace ++ [.sent bytes] })
    | result :: rest => (.ok result, { s with results := rest, trace := s.trace ++ [.sent bytes] })
  | .note line, s => (.ok (), { s with log := s.log ++ line ++ text "\n" })
  | .pause _, s => (.ok (), s)

def cleared (s : ScriptedLink) : ScriptedLink := { s with trace := [], log := [] }

end ScriptedLink

end Chip8
