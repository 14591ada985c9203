import BlogConsole.Client
import BlogConsole.Store

/-!
Services: what answers the calls of tasks. A service is a store in memory, an opened client with its
transport, or a script that was written beforehand.

The entries of a script answer the calls in the order in which they are made, whoever makes them. An
entry may stand behind a gate; then its answer comes when the gate is open.
-/

namespace BlogConsole

/-- An entry of a script: what it answers to the call that comes upon it, and the gate before the
answer. -/
structure ScriptEntry where
  gate : Option String
  reply : (c : Call) → c.Reply

/-- What answers the calls after the end of a script. -/
def ScriptEntry.exhausted : ScriptEntry := ⟨none, fun c => c.fail .outOfReplies⟩

/-- A service. A script has an entry for every call that will be made. -/
inductive Service
  | store (store : Store)
  | client (client : Client) (transport : Transport)
  | script (entries : Nat → ScriptEntry)

/-- What a call comes to: the service after it, the events it caused, and its answer, which may have
to wait at a gate. -/
structure Served (c : Call) where
  service : Service
  events : List Event
  gate : Option String
  reply : c.Reply

namespace Service

def ofEntries (entries : List ScriptEntry) : Service :=
  script fun n => entries.getD n .exhausted

def serve (service : Service) (task : Nat) (blog : Option String) (c : Call) : Served c :=
  match service with
  | store s =>
    let (s, events, reply) := s.answer blog c
    ⟨store s, events, none, reply⟩
  | client cl transport =>
    let (transport, events, reply) := cl.answer transport blog c
    ⟨client cl transport, events, none, reply⟩
  | script entries =>
    ⟨script fun n => entries (n + 1), [.called task blog c], (entries 0).gate,
      (entries 0).reply c⟩

end Service

end BlogConsole
