import CloudOrchestration.Json.Bytes
import CloudOrchestration.Schedule.World
/-!
# A scripted provider

A provider for trying the client out. For every method and path it has a
queue of replies. Each request takes the first of them, and the last one is
kept for all requests to come; a path without replies does not exist.
-/

namespace CloudOrchestration

/-- An answer and the time it takes. -/
structure ScriptedReply where
  delay : Nat := 0
  answer : Except Fault Response

/-- Queues of replies. -/
abbrev Script := List ((Method × String) × List ScriptedReply)

namespace Script

/-- Add replies at the end of the queue of a method and a path. -/
def add (method : Method) (path : String) (replies : List ScriptedReply) : Script → Script
  | [] => [((method, path), replies)]
  | (key, queue) :: rest =>
    if key = (method, path) then (key, queue ++ replies) :: rest
    else (key, queue) :: add method path replies rest

/-- What is left of a queue after its first reply has been taken. -/
def advance : List ScriptedReply → List ScriptedReply
  | _ :: next :: rest => next :: rest
  | queue => queue

/-- The answer for a path that does not exist. -/
def missing : Response where
  status := 404
  requestId := none
  body := (encode (Rejection.mk Rejection.missingCode "The resource was not found")).toBytes

/-- Answer a request from the queues. -/
def respond : Server Script Request (Except Fault Response)
  | [], _ => ⟨[], 0, .ok missing⟩
  | (key, queue) :: rest, q =>
    if key = (q.method, q.path) then
      match queue with
      | [] => ⟨(key, queue) :: rest, 0, .ok missing⟩
      | reply :: _ => ⟨(key, advance queue) :: rest, reply.delay, reply.answer⟩
    else
      let reply := respond rest q
      { reply with server := (key, queue) :: reply.server }

end Script

end CloudOrchestration
